import EntityDiagram.Session.Basic

/-! # Loading settings and setting up logging

Settings are loaded once and kept until they are dropped. Before, the nearest environment file sets
the variables that are not set. Logging is set up from the settings, and from a level and a file
where they are given.
-/

namespace EntityDiagram.Session

/-- How many directories are searched for an environment file: the working directory and those above
it. -/
def envFileReach : Nat := 4

/-- A directory and those above it, at most `count` of them. -/
def upward : Nat → Location → List Location
  | 0, _ => []
  | _ + 1, [] => [[]]
  | count + 1, location => location :: upward count location.dropLast

/-- The nearest environment file, or a directory of that name. -/
def envFile? (session : Session) : Option Location :=
  ((upward envFileReach session.here).map (· ++ [".env"])).find? fun location =>
    (session.files.node? location).isSome

/-- The warning for a statement of an environment file that cannot be read. -/
def envFileWarning (line : Nat) : Log.Message where
  logger := "environment"
  level := .warning
  text := "python-dotenv could not parse statement starting at line " ++ toString line

/-- Logs several messages in order. -/
def logAll (messages : List Log.Message) : Run Unit :=
  match messages with
  | [] => pure ()
  | message :: rest => do
      log message
      logAll rest

/-- Sets the variables that are not set. -/
def setMissing (bindings : EnvFile.Bindings) : Run Unit := fun session =>
  match session.environment.setMissing bindings with
  | (.ok (), environment) => (.ok (), { session with environment })
  | (.error error, environment) => (.error (.environment error), { session with environment })

/-- Sets the variables of an environment file that are not set. -/
def loadEnvText (text : String) : Run Unit := do
  let statements := EnvFile.statements text
  logAll ((EnvFile.unreadableLines statements).map envFileWarning)
  let session ← Run.get
  setMissing (EnvFile.bindings session.environment statements)

/-- The values of the switch that turns environment files off, in small letters. -/
def offWords : List String := ["1", "true", "t", "yes", "y"]

/-- Whether environment files are turned off. The long s counts as an s. -/
def envFilesOff (environment : Environment) : Bool :=
  (environment.get? "PYTHON_DOTENV_DISABLED").any fun value =>
    offWords.contains ((Text.lower value).map fun c => if c = '\u017f' then 's' else c)

/-- Loads the nearest environment file and gives its location. -/
def findEnvFile : Run (Option Location) := do
  let session ← Run.get
  match session.envFile? with
  | none => pure none
  | some location =>
      match session.files.node? location with
      | some (.file content) => do
          if !envFilesOff session.environment then
            let text ← textOf content
            loadEnvText text
          pure (some location)
      | _ => pure (some location)

/-- The settings of the environment, after loading the nearest environment file. The directory of
the log file is made. -/
def readSettings : Run Settings := do
  let _ ← findEnvFile
  let session ← Run.get
  match Settings.ofEnvironment session.environment with
  | .error faults => Run.fail (.settings faults)
  | .ok settings =>
      match settings.logFile with
      | none => pure settings
      | some path => do
          makeDirectories path.parent
          pure settings

/-- The settings, which are read once. -/
def getSettings : Run Settings := do
  let session ← Run.get
  match session.settings with
  | some settings => pure settings
  | none => do
      let settings ← readSettings
      Run.modify fun session => { session with settings := some settings }
      pure settings

/-- Drops the settings, so that they are read again. -/
def resetSettings : Run Unit := .modify fun session => { session with settings := none }

/-- A location from which every name before two dots is taken away. -/
def absolute (here : Location) (path : Path) : Location :=
  path.parts.foldl
    (fun location part => if part = ".." then location.dropLast else location ++ [part])
    (FileTree.start here path)

/-- Opens a log file and gives its location. -/
def openLog (path : Path) : Run Location := do
  let session ← Run.get
  let target : Path := ⟨1, absolute session.here path⟩
  let (location, files) ← Run.ofFile (session.files.openAppend [] target)
  Run.modify fun session => { session with files }
  pure location

/-- The level to log at: the one given, or else that of the settings. -/
def levelName (settings : Settings) : Option String → String
  | some level => Text.upper (if level.isEmpty then settings.logLevel else level)
  | none => Text.upper settings.logLevel

/-- Changes the state of logging. -/
def changeLogging (f : Log.Logging → Log.Logging) : Run Unit :=
  .modify fun session => { session with logging := f session.logging }

/-- Sets up logging. An unknown level changes nothing; a file that cannot be opened leaves logging
to standard error. -/
def setUpLogging (level : Option String) (file : Option Path) : Run Unit := do
  let settings ← getSettings
  let name := levelName settings level
  match Log.Level.ofName name with
  | .error error => Run.fail (.level error)
  | .ok level =>
      changeLogging fun logging => logging.reset level
      match file.orElse fun _ => settings.logFile with
      | none => pure ()
      | some path => do
          let location ← openLog path
          changeLogging fun logging => logging.addFile location
      changeLogging fun logging => { logging with propagates := false }

/-- The logger for a name. Logging is set up first if it has no handlers. -/
def getLogger (name : String) : Run String := do
  let session ← Run.get
  if session.logging.handlers.isEmpty then do
    setUpLogging none none
    pure (Log.loggerName name)
  else pure (Log.loggerName name)

end EntityDiagram.Session
