import EntityDiagram.Command.Execution

/-! # Runs of steps

A step acts on a session and gives an answer or a failure. What it writes and which requests it
makes are reported with the answer.
-/

namespace EntityDiagram

/-- A step of a session. -/
inductive Step where
  | setVariable (name : String) (value : Option String)
  | getVariable (name : String)
  | putFile (path : Path) (content : ByteArray)
  | getFile (path : Path)
  | changeDirectory (path : Path)
  | findEnvFile
  | getSettings
  | resetSettings
  | loadDiagram (path : Option Path) (url : Option String)
  | fetch (url : String) (timeout : Option Numeral)
  | saveSchema (schema : Schema) (path : Path)
  | loadSchema (path : Path)
  | setUpLogging (level : Option String) (file : Option Path)
  | log (logger : String) (level : Log.Level) (text : String)
  | command (words : List String)

/-- A file by its location below the root, with its text. -/
structure FileText where
  location : Location
  text : String
  deriving Repr, DecidableEq

/-- What a command line did. -/
structure CommandReport where
  outcome : Outcome
  standardOutput : String
  standardError : String
  /-- The files that are new or have changed. -/
  files : List FileText
  deriving Repr, DecidableEq

/-- The answer to a step. -/
inductive Answer where
  | nothing
  | text (value : Option String)
  | settings (value : Settings)
  | schema (value : Schema)
  | logging (value : Log.Logging)
  | command (report : CommandReport)
  deriving Repr, DecidableEq

/-- What a step did. -/
structure Report where
  answer : Except Failure Answer
  standardError : String
  requests : List Request

namespace Location

/-- A location as a path from another one. -/
def relativeTo : Location → Location → Location
  | part :: rest, other :: root =>
      if part = other then relativeTo rest root
      else (other :: root).map (fun _ => "..") ++ part :: rest
  | location, root => root.map (fun _ => "..") ++ location

end Location

namespace Session

/-- A session in which nothing has been written yet. -/
def fresh (session : Session) : Session :=
  { session with standardOutput := "", standardError := "", requests := [] }

/-- The text of a file as it is, if there is one. -/
def rawText (path : Path) : Run (Option String) := do
  let session ← Run.get
  if ← isFile path then do
    let content ← Run.ofFile (session.files.read session.here path)
    match String.fromUTF8? content with
    | some text => pure (some text)
    | none => Run.fail .notText
  else pure none

/-- Makes another directory the working directory. -/
def changeDirectory (path : Path) : Run Unit := do
  let session ← Run.get
  match ← Run.ofFile (session.files.find session.here path) with
  | (location, .directory) => Run.modify fun session => { session with here := location }
  | (_, .file _) => Run.fail (.file .notDirectory)

/-- The files below the root that are new or have changed between two sessions. -/
def changedFiles (before after : Session) : List FileText :=
  (before.files.changes after.files before.root).map fun (location, content) =>
    ⟨location, (String.fromUTF8? content).getD ""⟩

/-- Printed text as it is reported, with a line feed alone at the end of every line. -/
def printed (text : String) : String := String.ofList (Text.dropReturns text.toList)

/-- Executes a command line and reports what it did. -/
def runCommand (words : List String) : Run CommandReport := fun session =>
  let (outcome, after) := session.execute words
  (.ok {
    outcome
    standardOutput := printed after.standardOutput
    standardError := printed after.standardError
    files := session.changedFiles after }, after)

/-- Acts as a step says. -/
def act : Step → Run Answer
  | .setVariable name (some value) => do
      setVariable name value
      pure .nothing
  | .setVariable name none => do
      Run.modify fun session => { session with environment := session.environment.unset name }
      pure .nothing
  | .getVariable name => do
      let session ← Run.get
      pure (.text (session.environment.get? name))
  | .putFile path content => do
      writeFile path content
      pure .nothing
  | .getFile path => do
      let text ← rawText path
      pure (.text text)
  | .changeDirectory path => do
      changeDirectory path
      pure .nothing
  | .findEnvFile => do
      let session ← Run.get
      let location ← findEnvFile
      pure (.text (location.map fun location =>
        Path.text ⟨0, Location.relativeTo location session.root⟩))
  | .getSettings => do
      let settings ← getSettings
      pure (.settings settings)
  | .resetSettings => do
      resetSettings
      pure .nothing
  | .loadDiagram path url => do
      let text ← loadDiagram path url
      pure (.text (some text))
  | .fetch url timeout => do
      let text ← fetch url timeout
      pure (.text (some text))
  | .saveSchema schema path => do
      saveSchema schema path
      pure .nothing
  | .loadSchema path => do
      let schema ← loadSchema path
      pure (.schema schema)
  | .setUpLogging level file => do
      setUpLogging level file
      let session ← Run.get
      pure (.logging session.logging)
  | .log logger level text => do
      let name ← getLogger logger
      log ⟨name, level, text⟩
      pure (.text (some name))
  | .command words => do
      let report ← runCommand words
      pure (.command report)

/-- Takes a step and reports what it did. -/
def step (session : Session) (step : Step) : Report × Session :=
  let (answer, after) := act step session.fresh
  (⟨answer, after.standardError, after.requests⟩, after)

/-- Takes steps in order. -/
def run (session : Session) : List Step → List Report × Session
  | [] => ([], session)
  | step :: rest =>
      let (report, after) := session.step step
      let (reports, last) := after.run rest
      (report :: reports, last)

/-- The root of a new session: a directory far enough below the top. -/
def defaultRoot : Location := ["home", "user", "work", "area", "session"]

/-- A new session: files below the root, variables, a working directory below the root, and pages.
-/
def start (files : List (Path × ByteArray)) (given : List (String × String)) (here : Path)
    (web : List (String × Reply)) : Session :=
  let empty : Session :=
    { files := FileTree.makeWay {} [] defaultRoot
      root := defaultRoot
      here := defaultRoot
      environment := given.foldl (fun environment (name, value) => environment.set name value) {}
      web }
  let filled :=
    files.foldl (fun session (path, content) => (writeFile path content session).2) empty
  let ready := (makeDirectories here filled).2
  (changeDirectory here ready).2

end Session

end EntityDiagram
