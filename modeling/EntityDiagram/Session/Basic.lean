import EntityDiagram.Session.EnvFile
import EntityDiagram.Session.FileTree
import EntityDiagram.Session.Log
import EntityDiagram.Session.Settings
import EntityDiagram.Text.Newline
import EntityDiagram.Text.Terminal

/-! # Sessions

A session holds all that outlives a command: files, the working directory, environment variables,
the pages of the web, loaded settings and the state of logging, with what has been written. An
action may fail; what it changed before it failed stays changed.
-/

namespace EntityDiagram

/-- What the web answers to a request. -/
inductive Reply where
  | page (status : Int) (reason text : String)
  | unreachable (reason : String)
  deriving Repr, DecidableEq

/-- A request to the web. -/
structure Request where
  url : String
  timeout : Numeral
  deriving Repr, DecidableEq

/-- The timeout of a request as it is written. -/
def Request.timeoutText (request : Request) : String :=
  match request.timeout with
  | .integer n => String.ofList (Number.integerText n)
  | .float x => x.text

/-- Why there is no diagram. -/
inductive SourceError where
  | fileNotFound (path : Path)
  | fetchFailed (url reason : String)
  | noSource
  deriving Repr, DecidableEq

/-- What a source error says. -/
def SourceError.message : SourceError → String
  | fileNotFound path => "Diagram file not found: " ++ path.text
  | fetchFailed url reason => "Failed to fetch diagram from " ++ url ++ ": " ++ reason
  | noSource =>
      "No diagram provided and no diagram source configured. " ++
        "Pass a diagram file or set MERMAID_DIAGRAM_PATH or MERMAID_DIAGRAM_URL."

/-- Why an action fails. -/
inductive Failure where
  | source (error : SourceError)
  | schemaNotFound (path : Path)
  | schemaUnreadable (path : Path) (error : SchemaFile.ReadError)
  | settings (faults : List SchemaFile.Fault)
  | level (error : Log.Level.NameError)
  | environment (error : Environment.VariableError)
  | file (error : FileError)
  /-- The bytes of a file are no text. -/
  | notText
  deriving Repr, DecidableEq

/-- What a failure says, unless its kind says it all. -/
def Failure.message? : Failure → Option String
  | source error => some error.message
  | schemaNotFound path => some ("Schema file not found: " ++ path.text)
  | schemaUnreadable path .empty => some ("Schema file is empty: " ++ path.text)
  | schemaUnreadable path .invalidJson => some ("Failed to load schema from " ++ path.text)
  | schemaUnreadable path (.invalidSchema _) => some ("Failed to load schema from " ++ path.text)
  | settings _ => none
  | level error => some error.message
  | environment .nullCharacter => some "embedded null byte"
  | environment .illegalName => some "illegal environment variable name"
  | environment .emptyName => none
  | file .nullCharacter => some "embedded null byte"
  | file _ => none
  | notText => none

/-- The state of a session. -/
structure Session where
  files : FileTree := {}
  /-- The directory that reported paths start from. -/
  root : Location := []
  /-- The working directory. -/
  here : Location := []
  environment : Environment := {}
  web : List (String × Reply) := []
  /-- The settings, once they are loaded. -/
  settings : Option Settings := none
  logging : Log.Logging := {}
  standardOutput : String := ""
  standardError : String := ""
  requests : List Request := []

/-- An action in a session. -/
def Run (α : Type) := Session → Except Failure α × Session

namespace Run

/-- The action that only gives a value. -/
def value {α : Type} (a : α) : Run α := fun session => (.ok a, session)

/-- The second action after the first, unless the first fails. -/
def andThen {α β : Type} (first : Run α) (second : α → Run β) : Run β := fun session =>
  match first session with
  | (.ok a, session) => second a session
  | (.error failure, session) => (.error failure, session)

instance : Monad Run where
  pure := value
  bind := andThen

@[simp] theorem pure_apply {α : Type} (a : α) (session : Session) :
    (pure a : Run α) session = (.ok a, session) := rfl

theorem bind_apply {α β : Type} (first : Run α) (second : α → Run β) (session : Session) :
    (first >>= second) session =
      match first session with
      | (.ok a, session) => second a session
      | (.error failure, session) => (.error failure, session) := rfl

/-- The action that fails. -/
def fail {α : Type} (failure : Failure) : Run α := fun session => (.error failure, session)

/-- The session as it is. -/
def get : Run Session := fun session => (.ok session, session)

/-- The action that changes the session. -/
def modify (f : Session → Session) : Run Unit := fun session => (.ok (), f session)

/-- The result of a file operation. -/
def ofFile {α : Type} : Except FileError α → Run α
  | .ok a => value a
  | .error error => fail (.file error)

/-- The outcome of an action that may fail for want of a source. -/
def attempt {α : Type} (action : Run α) : Run (Except SourceError α) := fun session =>
  match action session with
  | (.ok a, session) => (.ok (.ok a), session)
  | (.error (.source error), session) => (.ok (.error error), session)
  | (.error failure, session) => (.error failure, session)

end Run

namespace Session

/-- Prints a line on standard error. It is no terminal, so terminal sequences are dropped. -/
def printError (text : String) : Run Unit :=
  .modify fun session =>
    { session with standardError := session.standardError ++ Text.dropSequences text ++ "\n" }

/-- Prints a line on standard output. It is no terminal, so terminal sequences are dropped. -/
def printLine (text : String) : Run Unit :=
  .modify fun session =>
    { session with standardOutput := session.standardOutput ++ Text.dropSequences text ++ "\n" }

/-- Writes a line of a message to a target. -/
def deliver (line : String) (session : Session) : Log.Target → Session
  | .standardError => { session with standardError := session.standardError ++ line }
  | .file location => { session with files := session.files.append location line.toUTF8 }

/-- Logs a message. -/
def log (message : Log.Message) : Run Unit :=
  .modify fun session =>
    (session.logging.targets message).foldl (deliver message.line) session

/-- The text of bytes, with line feeds for line ends. -/
def textOf (content : ByteArray) : Run String :=
  match String.fromUTF8? content with
  | some text => pure (String.ofList (Text.unifyNewlines text.toList))
  | none => .fail .notText

/-- The text of a file. -/
def readText (path : Path) : Run String := do
  let session ← Run.get
  let content ← Run.ofFile (session.files.read session.here path)
  textOf content

/-- Whether a path leads to a file. -/
def isFile (path : Path) : Run Bool := do
  let session ← Run.get
  Run.ofFile (session.files.isFile session.here path)

/-- Makes a directory and those on the way to it. -/
def makeDirectories (path : Path) : Run Unit := fun session =>
  match session.files.makeDirectories session.here path with
  | (.ok (), files) => (.ok (), { session with files })
  | (.error error, files) => (.error (.file error), { session with files })

/-- Sets a variable. -/
def setVariable (name value : String) : Run Unit := fun session =>
  match Environment.admissible name value with
  | .error error => (.error (.environment error), session)
  | .ok () => (.ok (), { session with environment := session.environment.set name value })

/-- Writes bytes to a file. -/
def writeBytes (path : Path) (content : ByteArray) : Run Unit := do
  let session ← Run.get
  let files ← Run.ofFile (session.files.write session.here path content)
  Run.modify fun session => { session with files }

/-- Writes a file, making the directories on the way to it. -/
def writeFile (path : Path) (content : ByteArray) : Run Unit := do
  makeDirectories path.parent
  writeBytes path content

end Session

end EntityDiagram
