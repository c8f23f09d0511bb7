import EntityDiagram.Session.Step

/-! # The command line

The program takes into a session what a command may look at: the environment files near the working
directory, the files named on the command line, and those that the settings name. It executes the
command there and then writes out what has changed. No page of the web can be reached.
-/

namespace EntityDiagram.Main

/-- The variables that settings come from. -/
def variableNames : List String :=
  ["MERMAID_DIAGRAM_PATH", "MERMAID_DIAGRAM_URL", "URL_TIMEOUT", "LOG_LEVEL", "LOG_FILE"]

/-- The variables that are set, in capital or in small letters. -/
def readEnvironment : IO Environment :=
  (variableNames ++ variableNames.map Text.lower).foldlM (fun environment name => do
    match ← IO.getEnv name with
    | some value => pure (environment.set name value)
    | none => pure environment) {}

/-- The text of a location. -/
def textAt (location : Location) : String := Path.text ⟨1, location⟩

/-- Takes a file into the session, if there is one at the location. -/
def takeFile (session : Session) (location : Location) : IO Session := do
  try
    let content ← IO.FS.readBinFile (textAt location)
    let files := session.files.makeWay [] location.dropLast
    pure { session with files := files.put location (.file content) }
  catch _ => pure session

/-- Takes files into the session. -/
def takeFiles (session : Session) (locations : List Location) : IO Session :=
  locations.foldlM takeFile session

/-- The files that the settings name. -/
def configuredFiles (session : Session) : List Path :=
  match (Session.getSettings session).1 with
  | .ok settings => settings.diagramPath.toList ++ settings.logFile.toList
  | .error _ => []

/-- The session that a command line is executed in. -/
def gather (words : List String) : IO Session := do
  let here := (Path.ofText (← IO.currentDir).toString).parts
  let environment ← readEnvironment
  let empty : Session := { files := FileTree.makeWay {} [] here, here, environment }
  let envFiles := (Session.upward Session.envFileReach here).map (· ++ [".env"])
  let named := words.map fun word => Session.absolute here (.ofText word)
  let session ← takeFiles empty (envFiles ++ named)
  takeFiles session ((configuredFiles session).map (Session.absolute here))

/-- Writes a file, making the directories on the way to it. -/
def writeOut (location : Location) (content : ByteArray) : IO Unit := do
  IO.FS.createDirAll (textAt location.dropLast)
  IO.FS.writeBinFile (textAt location) content

/-- What an outcome says on standard error. -/
def complaint : Outcome → String
  | .usage fault => fault.message ++ "\n"
  | .finished _ => ""
  | .broken failure => failure.message?.getD "The command broke off." ++ "\n"

end EntityDiagram.Main

open EntityDiagram EntityDiagram.Main in
/-- Executes a command line. -/
def main (words : List String) : IO UInt32 := do
  let session ← gather words
  let (outcome, after) := session.execute words
  for (location, content) in session.files.changes after.files [] do
    writeOut location content
  IO.print after.standardOutput
  IO.eprint (after.standardError ++ complaint outcome)
  pure outcome.exitCode.toUInt32
