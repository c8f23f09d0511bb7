import EntityDiagram.Session.Configuration

/-! # Sources of diagrams

The text of a diagram comes from the first source there is: a given file, a given address, the file
of the settings, the address of the settings.
-/

namespace EntityDiagram.Session

/-- The logger for sources. -/
def sourceLogger : String := "erd2sql.utils.diagram_io"

/-- The text of a diagram file. -/
def readDiagramFile (path : Path) : Run String := do
  if ← isFile path then readText path
  else Run.fail (.source (.fileNotFound path))

/-- What is wrong with a page by its status, if anything is. -/
def statusFault? (url : String) (status : Int) (reason : String) : Option String :=
  let fault := fun (side : String) =>
    toString status ++ " " ++ side ++ " Error: " ++ reason ++ " for url: " ++ url
  if 400 ≤ status ∧ status < 500 then some (fault "Client")
  else if 500 ≤ status ∧ status < 600 then some (fault "Server")
  else none

/-- What the web answers at an address. -/
def replyAt (session : Session) (url : String) : Reply :=
  (session.web.lookup url).getD (.unreachable "connection refused")

/-- Makes a request. -/
def request (url : String) (timeout : Numeral) : Run Reply := do
  Run.modify fun session => { session with requests := session.requests ++ [⟨url, timeout⟩] }
  let session ← Run.get
  pure (session.replyAt url)

/-- The timeout of a request: the one given, or else that of the settings. -/
def timeoutFor : Option Numeral → Run Numeral
  | some timeout => pure timeout
  | none => do
      let settings ← getSettings
      pure (.float settings.urlTimeout)

/-- Fetches the text of a diagram. -/
def fetch (url : String) (timeout : Option Numeral) : Run String := do
  let timeout ← timeoutFor timeout
  match ← request url timeout with
  | .unreachable reason => Run.fail (.source (.fetchFailed url reason))
  | .page status reason text =>
      match statusFault? url status reason with
      | some fault => Run.fail (.source (.fetchFailed url fault))
      | none => pure text

/-- The message that a configured file is read. -/
def configuredPathUsed (path : Path) : Log.Message :=
  ⟨sourceLogger, .debug, "Loading diagram from configured path " ++ path.text⟩

/-- The warning that a configured file is not there. -/
def configuredPathMissing (path : Path) : Log.Message :=
  ⟨sourceLogger, .warning, "Configured diagram path does not exist: " ++ path.text⟩

/-- The message that a configured address is used. -/
def configuredUrlUsed (url : String) : Log.Message :=
  ⟨sourceLogger, .debug, "Fetching diagram from configured URL " ++ url⟩

/-- The text at the configured address. -/
def loadConfiguredUrl (settings : Settings) : Run String :=
  match settings.diagramUrl with
  | none => Run.fail (.source .noSource)
  | some url =>
      if url.isEmpty then Run.fail (.source .noSource)
      else do
        log (configuredUrlUsed url)
        fetch url none

/-- The text of the diagram that the settings name. -/
def loadConfigured (settings : Settings) : Run String :=
  match settings.diagramPath with
  | none => loadConfiguredUrl settings
  | some path => do
      if ← isFile path then
        log (configuredPathUsed path)
        readText path
      else
        log (configuredPathMissing path)
        loadConfiguredUrl settings

/-- The text of a diagram from the first source there is; an empty address is none. -/
def loadDiagram (path : Option Path) (url : Option String) : Run String :=
  match path with
  | some path => readDiagramFile path
  | none =>
      if (url.getD "").isEmpty then do
        let settings ← getSettings
        loadConfigured settings
      else fetch (url.getD "") none

/-- Saves a schema, making the directories on the way to its file. -/
def saveSchema (schema : Schema) (path : Path) : Run Unit := writeFile path schema.fileText.toUTF8

/-- Loads a schema. -/
def loadSchema (path : Path) : Run Schema := do
  let session ← Run.get
  match ← Run.ofFile (session.files.probe session.here path) with
  | none => Run.fail (.schemaNotFound path)
  | some _ => do
      let text ← readText path
      match SchemaFile.read text with
      | .ok schema => pure schema
      | .error error => Run.fail (.schemaUnreadable path error)

end EntityDiagram.Session
