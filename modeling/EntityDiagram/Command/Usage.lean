import EntityDiagram.Command.Basic
import EntityDiagram.Number.Literal
import EntityDiagram.Text.Quoted

/-! # Command lines

A command line is the name of a command, then arguments and options in any order. An option has its
value in the next word, or in the same word after an equals sign; a flag has none. After two dashes
all words are arguments. Of a repeated option the last value counts. The flag for help is known
everywhere.
-/

namespace EntityDiagram

/-- What is wrong with a command line. -/
inductive UsageFault where
  | missingCommand
  | unknownCommand (name : String)
  | unknownOption (name : String)
  | missingValue (option : String)
  /-- A flag with a value. -/
  | unexpectedValue (flag : String)
  | notInteger (option : String)
  | integerTooLong (option : String)
  /-- A path with a null character. -/
  | notPath (parameter : String)
  | missingArgument (name : String)
  | extraArguments (words : List String)
  deriving Repr, DecidableEq

/-- What a usage fault says. -/
def UsageFault.message : UsageFault → String
  | missingCommand => "Missing command."
  | unknownCommand name => "No such command " ++ Text.quoted name ++ "."
  | unknownOption name => "No such option: " ++ name
  | missingValue option => "Option '" ++ option ++ "' requires an argument."
  | unexpectedValue flag => "Option '" ++ flag ++ "' does not take a value."
  | notInteger option =>
      "Invalid value for '" ++ option ++
        "': Input should be a valid integer, unable to parse string as an integer"
  | integerTooLong option =>
      "Invalid value for '" ++ option ++
        "': Unable to parse input string as an integer, exceeded maximum size"
  | notPath parameter => "Invalid value for '" ++ parameter ++ "': Value error, embedded null byte"
  | missingArgument name => "Missing argument '" ++ name ++ "'."
  | extraArguments words =>
      "Got unexpected extra argument(s) (" ++ Text.showControls (" ".intercalate words) ++ ")"

namespace CommandLine

/-- What an option takes. -/
inductive OptionKind where
  | text
  | path
  | integer
  | flag
  deriving Repr, DecidableEq

/-- The options of a command. -/
abbrev Options := List (String × OptionKind)

/-- The flag for help. -/
def helpFlag : String := "--help"

/-- The words of a command line by their role, in order. -/
structure Scanned where
  values : List (String × String) := []
  flags : List String := []
  arguments : List String := []
  deriving Repr, DecidableEq

/-- Whether a word is an option: a dash and more. -/
def isOption (word : String) : Bool :=
  match word.toList with
  | '-' :: _ :: _ => true
  | _ => false

/-- An option and the value after an equals sign. -/
def splitOption (word : String) : String × Option String :=
  let cs := word.toList
  let name := String.ofList (cs.takeWhile (· != '='))
  match cs.dropWhile (· != '=') with
  | _ :: value => (name, some (String.ofList value))
  | [] => (name, none)

/-- Sorts words by their role, adding to those sorted before. -/
def scanFrom (options : Options) (scanned : Scanned) :
    List String → Except UsageFault Scanned
  | [] => .ok scanned
  | word :: rest =>
      if word = "--" then .ok { scanned with arguments := scanned.arguments ++ rest }
      else if isOption word then
        let (name, given) := splitOption word
        match options.lookup name, given with
        | none, _ => .error (.unknownOption name)
        | some .flag, some _ => .error (.unexpectedValue name)
        | some .flag, none =>
            scanFrom options { scanned with flags := scanned.flags ++ [name] } rest
        | some _, some value =>
            scanFrom options { scanned with values := scanned.values ++ [(name, value)] } rest
        | some _, none =>
            match rest with
            | [] => .error (.missingValue name)
            | value :: rest =>
                scanFrom options { scanned with values := scanned.values ++ [(name, value)] } rest
      else scanFrom options { scanned with arguments := scanned.arguments ++ [word] } rest

/-- Sorts words by their role. -/
def scan (options : Options) (words : List String) : Except UsageFault Scanned :=
  scanFrom ((helpFlag, .flag) :: options) {} words

/-- The options before the name of a command, which can only ask for help, and the words after
them. -/
def scanLeading : List String → Except UsageFault (Bool × List String)
  | [] => .ok (false, [])
  | word :: rest =>
      if word = "--" then .ok (false, rest)
      else if isOption word then
        let (name, given) := splitOption word
        if name != helpFlag then .error (.unknownOption name)
        else if given.isSome then .error (.unexpectedValue name)
        else (scanLeading rest).map fun (_, rest) => (true, rest)
      else .ok (false, word :: rest)

namespace Scanned

/-- The value of an option: the last one given. -/
def value? (scanned : Scanned) (option : String) : Option String :=
  scanned.values.reverse.lookup option

/-- The path that is the value of an option. -/
def path? (scanned : Scanned) (option : String) : Option Path :=
  (scanned.value? option).map .ofText

/-- The integer that is the value of an option. -/
def integer? (scanned : Scanned) (option : String) : Option Int :=
  (scanned.value? option).bind fun text => (Number.integer text).toOption

/-- Whether a flag is given. -/
def hasFlag (scanned : Scanned) (flag : String) : Bool := scanned.flags.contains flag

/-- What is wrong with a path. -/
def pathFault? (parameter text : String) : Option UsageFault :=
  if text.toList.contains '\x00' then some (.notPath parameter) else none

/-- What is wrong with an integer. -/
def integerFault? (option text : String) : Option UsageFault :=
  match Number.integer text with
  | .ok _ => none
  | .error .malformed => some (.notInteger option)
  | .error .tooLong => some (.integerTooLong option)

/-- What is wrong with the value of an option. -/
def valueFault? (scanned : Scanned) (option : String) : OptionKind → Option UsageFault
  | .integer => (scanned.value? option).bind (integerFault? option)
  | .path => (scanned.value? option).bind (pathFault? option)
  | .text => none
  | .flag => none

/-- What is wrong with the values of the options, in the order in which they are given. -/
def firstFault? (scanned : Scanned) (options : Options) : Option UsageFault :=
  scanned.values.findSome? fun (name, _) => (options.lookup name).bind (scanned.valueFault? name)

/-- The source of the diagram, with the path among the arguments. -/
def source (scanned : Scanned) (path : Option String) : Source where
  path := path.map .ofText
  url := scanned.value? "--url"

end Scanned

/-- How a command is called. -/
inductive Form where
  /-- With a diagram as the only argument, which may be left out. -/
  | plain (build : Scanned → Source → Command)
  /-- With a name before the diagram. -/
  | named (argument : String) (build : Scanned → String → Source → Command)

/-- The commands by name, with their options and the way to call them. -/
def commands : List (String × Options × Form) :=
  [("parse", [("--url", .text), ("--out", .path)],
      .plain fun scanned source => .parse source (scanned.path? "--out")),
   ("validate", [("--url", .text)], .plain fun _ source => .validate source),
   ("entities", [("--url", .text)], .plain fun _ source => .entities source),
   ("entity", [("--url", .text)], .named "name" fun _ name source => .entity name source),
   ("relationships", [("--url", .text), ("--entity", .text)],
      .plain fun scanned source => .relationships source (scanned.value? "--entity")),
   ("sql", [("--url", .text), ("--out", .path), ("--drop", .flag)],
      .plain fun scanned source => .sql source (scanned.path? "--out") (scanned.hasFlag "--drop")),
   ("queries",
      [("--url", .text), ("--limit", .integer), ("--offset", .integer), ("--order-by", .text),
        ("--desc", .flag)],
      .named "entity_name" fun scanned name source => .queries name source
        { limit := Json.ofInt? (scanned.integer? "--limit")
          offset := Json.ofInt? (scanned.integer? "--offset")
          orderBy := Json.ofText? (scanned.value? "--order-by")
          direction := .text (if scanned.hasFlag "--desc" then "DESC" else "ASC") })]

/-- The command for a diagram among the arguments, after which nothing may follow. -/
def withDiagram (scanned : Scanned) (build : Source → Command) :
    List String → Except UsageFault Command
  | [] => .ok (build (scanned.source none))
  | path :: extra =>
      match Scanned.pathFault? "diagram" path with
      | some fault => .error fault
      | none =>
          if extra.isEmpty then .ok (build (scanned.source (some path)))
          else .error (.extraArguments extra)

/-- The command of sorted words. -/
def assemble (scanned : Scanned) : Form → Except UsageFault Command
  | .plain build => withDiagram scanned (build scanned) scanned.arguments
  | .named argument build =>
      match scanned.arguments with
      | [] => .error (.missingArgument argument)
      | name :: rest => withDiagram scanned (build scanned name) rest

/-- What a command line asks for. -/
inductive Invocation where
  /-- How the program, or one command of it, is called. -/
  | help (topic : Option String)
  | command (asked : Command)

/-- What the words after the name of a command ask for. -/
def readCommand (name : String) (options : Options) (form : Form) (words : List String) :
    Except UsageFault Invocation :=
  match scan options words with
  | .error fault => .error fault
  | .ok scanned =>
      if scanned.hasFlag helpFlag then .ok (.help (some name))
      else
        match scanned.firstFault? options with
        | some fault => .error fault
        | none => (assemble scanned form).map .command

/-- What words ask for, the name of a command first. An unknown name may be an option out of its
place. -/
def readNamed : List String → Except UsageFault Invocation
  | [] => .error .missingCommand
  | name :: words =>
      match commands.lookup name with
      | some (options, form) => readCommand name options form words
      | none =>
          match scanLeading (name :: words) with
          | .error fault => .error fault
          | .ok (true, _) => .ok (.help none)
          | .ok (false, _) => .error (.unknownCommand name)

/-- What a command line asks for. -/
def read (words : List String) : Except UsageFault Invocation :=
  match scanLeading words with
  | .error fault => .error fault
  | .ok (true, _) => .ok (.help none)
  | .ok (false, rest) => readNamed rest

/-- How the program or a command is called: its name, and the commands or options there are. -/
def helpText : Option String → String
  | none => "\n".intercalate ("Commands:" :: commands.map fun entry => "  " ++ entry.1)
  | some name =>
      let options := (commands.lookup name).map (·.1)
      "\n".intercalate
        (("Options of " ++ name ++ ":") :: (options.getD []).map fun entry => "  " ++ entry.1)

end CommandLine

end EntityDiagram
