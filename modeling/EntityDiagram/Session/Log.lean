import EntityDiagram.Session.FileTree
import EntityDiagram.Text.Case

/-! # Logging

Messages have the name of a logger and a level. The logger `erd2sql` and those below it share one
level and one list of handlers; a message outside them is written bare if it is a warning at least.
-/

namespace EntityDiagram.Log

/-- How much a message matters. -/
abbrev Level := Int

namespace Level

/-- The levels that have names, each by the name that it is written with. -/
def standard : List (String × Level) :=
  [("NOTSET", 0), ("DEBUG", 10), ("INFO", 20), ("WARNING", 30), ("ERROR", 40), ("CRITICAL", 50)]

/-- Other names of levels. -/
def synonyms : List (String × Level) := [("WARN", 30), ("FATAL", 50)]

/-- Why a name gives no level. -/
inductive NameError where
  | unknown (name : String)
  /-- The name is that of the usual format of messages. -/
  | format
  /-- The name is that of the table of formats. -/
  | formatTable
  deriving Repr, DecidableEq

/-- What a name error says. -/
def NameError.message : NameError → String
  | unknown name => "module 'logging' has no attribute '" ++ name ++ "'"
  | format => "Unknown level: '%(levelname)s:%(name)s:%(message)s'"
  | formatTable =>
      "Level not an integer or a valid string: \x7b" ++
        "'%': (<class 'logging.PercentStyle'>, '%(levelname)s:%(name)s:%(message)s'), " ++
        "'\x7b': (<class 'logging.StrFormatStyle'>, " ++
        "'\x7blevelname\x7d:\x7bname\x7d:\x7bmessage\x7d'), " ++
        "'$': (<class 'logging.StringTemplateStyle'>, " ++
        "'$\x7blevelname\x7d:$\x7bname\x7d:$\x7bmessage\x7d')\x7d"

/-- The level of a name in capital letters. Two names are taken for something else. -/
def ofName (name : String) : Except NameError Level :=
  match (standard ++ synonyms).lookup name with
  | some level => .ok level
  | none =>
      if name = "BASIC_FORMAT" then .error .format
      else if name = "_STYLES" then .error .formatTable
      else .error (.unknown name)

/-- The name of a level, or its number. -/
def name (level : Level) : String :=
  match standard.find? fun entry => entry.2 == level with
  | some entry => entry.1
  | none => "Level " ++ toString level

/-- The level of details of the work. -/
def debug : Level := 10

/-- The level of results. -/
def info : Level := 20

/-- The level of warnings. -/
def warning : Level := 30

end Level

/-- Where messages go. -/
inductive Target where
  | standardError
  | file (location : Location)
  deriving Repr, DecidableEq

/-- A target with the least level that it takes. -/
structure Handler where
  target : Target
  level : Level
  deriving Repr, DecidableEq

/-- The state of logging. -/
structure Logging where
  level : Level := Level.info
  handlers : List Handler := [⟨.standardError, Level.info⟩]
  /-- Whether messages also go to handlers outside. -/
  propagates : Bool := false
  deriving Repr, DecidableEq

/-- The logger that all others are below. -/
def top : String := "erd2sql"

/-- The name of the logger for a name. -/
def loggerName (name : String) : String :=
  if top.toList.isPrefixOf name.toList then name else top ++ "." ++ name

/-- Whether a logger is `erd2sql` or below it. -/
def isBelowTop (logger : String) : Bool :=
  logger == top || (top ++ ".").toList.isPrefixOf logger.toList

/-- A message of a logger. -/
structure Message where
  logger : String
  level : Level
  text : String
  deriving Repr, DecidableEq

/-- The line that is written for a message. -/
def Message.line (message : Message) : String :=
  if isBelowTop message.logger then
    message.logger ++ " - " ++ message.level.name ++ " - " ++ message.text ++ "\n"
  else message.text ++ "\n"

namespace Logging

/-- The least level of messages that are written; without a level of its own, warnings. -/
def threshold (logging : Logging) : Level :=
  if logging.level = 0 then Level.warning else logging.level

/-- The targets that a message is written to, in order. -/
def targets (logging : Logging) (message : Message) : List Target :=
  if isBelowTop message.logger then
    if 0 < message.level ∧ logging.threshold ≤ message.level then
      (logging.handlers.filter fun handler => handler.level ≤ message.level).map (·.target)
    else []
  else if Level.warning ≤ message.level then [.standardError]
  else []

/-- Logging to standard error alone, at one level. -/
def reset (logging : Logging) (level : Level) : Logging :=
  { logging with level := level, handlers := [⟨.standardError, level⟩] }

/-- Logging to a file as well. -/
def addFile (logging : Logging) (location : Location) : Logging :=
  { logging with handlers := logging.handlers ++ [⟨.file location, logging.level⟩] }

end Logging

end EntityDiagram.Log
