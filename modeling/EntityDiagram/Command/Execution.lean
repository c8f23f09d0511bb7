import EntityDiagram.Command.Messages
import EntityDiagram.Command.Usage
import EntityDiagram.Schema.Summary
import EntityDiagram.Session.Source

/-! # Execution of commands

A command sets up logging, reads its diagram and gives an exit code. A command that refuses its
input says so on standard error and gives the code 1.
-/

namespace EntityDiagram

/-- The code that a command ends with. -/
abbrev ExitCode := Nat

namespace Command

/-- Ends a command with an error. -/
def refuse (message : String) : Run ExitCode := do
  Session.printError ("Error: " ++ message)
  pure 1

/-- Prints a value. -/
def printJson (value : Json) : Run ExitCode := do
  Session.printLine (value.render Json.ascii)
  pure 0

/-- Prints lines in order. -/
def printAll (print : String → Run Unit) : List String → Run Unit
  | [] => pure ()
  | line :: rest => do
      print line
      printAll print rest

/-- Continues with the text of the diagram. -/
def withDiagram (source : Source) (use : String → Run ExitCode) : Run ExitCode := do
  match ← Run.attempt (Session.loadDiagram source.path source.url) with
  | .error error => refuse error.message
  | .ok text => use text

/-- Reads a diagram. -/
def readDiagram (text : String) : Run Reading := do
  let reading := Reading.ofText text
  Session.logAll reading.messages
  pure reading

/-- Continues with the schema of the diagram, unless a line of it was rejected. -/
def withSchema (source : Source) (use : Schema → Run ExitCode) : Run ExitCode :=
  withDiagram source fun text => do
    let reading ← readDiagram text
    if reading.succeeded then use reading.schema
    else do
      printAll Session.printError reading.errors
      refuse (toString reading.errors.length ++ " parse error(s)")

/-- Prints the summary of a schema, or saves the schema. -/
def showSchema (out : Option Path) (schema : Schema) : Run ExitCode :=
  match out with
  | none => printJson schema.summary
  | some path => do
      Session.saveSchema schema path
      Session.printLine ("✓ Schema written to " ++ path.text)
      pure 0

/-- Reports the problems of a diagram. -/
def showProblems (text : String) : Run ExitCode := do
  let _ ← readDiagram text
  let verdict := Diagram.check text
  Session.log (Diagram.problemsMessage verdict.errors)
  if verdict.valid then do
    Session.printLine "Diagram is valid."
    pure 0
  else do
    Session.printLine ("Found " ++ toString verdict.errors.length ++ " issue(s):")
    printAll Session.printLine (verdict.errors.map ("  - " ++ ·))
    pure 1

/-- A list of values with their number. -/
def counted (name : String) (items : List Json) : Json :=
  .record [(name, .list items), ("total_count", .ofNat items.length)]

/-- Describes one entity. -/
def showEntity (name : String) (schema : Schema) : Run ExitCode :=
  match schema.details? name with
  | some details => printJson details
  | none => refuse (schema.notFound name)

/-- Prints a script, or saves it. -/
def showScript (out : Option Path) (drop : Bool) (schema : Schema) : Run ExitCode := do
  Session.logAll (Sql.messages schema)
  let script := if drop then Sql.dropScript schema else Sql.script schema
  match out with
  | none => do
      Session.printLine script
      pure 0
  | some path => do
      Session.writeFile path (script ++ "\n").toUTF8
      Session.printLine ("✓ SQL written to " ++ path.text)
      pure 0

/-- The table of an entity and a query on it. -/
def queryJson (table : Sql.Table) (query : Sql.Query) : Json :=
  .record
    [("config", .record
        [("table_name", .text table.name), ("columns", .ofTexts table.columns),
          ("primary_key", .text table.key)]),
     ("select_all", .record [("sql", .text query.text), ("params", .list query.params)])]

/-- Prints the table of an entity and the query that lists its rows. -/
def showQueries (name : String) (options : Sql.ListOptions) (schema : Schema) : Run ExitCode :=
  match schema.find? name with
  | none => refuse ("Entity \"" ++ name ++ "\" not found")
  | some found => do
      let table := Sql.Table.ofEntity found
      Session.logAll (table.messages options)
      match table.selectAll options with
      | .ok query => printJson (queryJson table query)
      | .error error => refuse error.message

/-- What a command does after logging is set up. -/
def work : Command → Run ExitCode
  | parse source out => withSchema source (showSchema out)
  | validate source => withDiagram source showProblems
  | entities source =>
      withSchema source fun schema => printJson (counted "entities" schema.outlines)
  | entity name source => withSchema source (showEntity name)
  | relationships source name =>
      withSchema source fun schema =>
        printJson (counted "relationships" ((schema.relationshipsOf name).map (·.summary)))
  | sql source out drop => withSchema source (showScript out drop)
  | queries name source options => withSchema source (showQueries name options)

/-- Executes a command. -/
def execute (command : Command) : Run ExitCode := do
  Session.setUpLogging none none
  command.work

end Command

/-- What becomes of a command line. -/
inductive Outcome where
  | usage (fault : UsageFault)
  | finished (code : ExitCode)
  /-- The command broke off. -/
  | broken (failure : Failure)
  deriving Repr, DecidableEq

/-- The code that a command line ends with. -/
def Outcome.exitCode : Outcome → ExitCode
  | usage _ => 2
  | finished code => code
  | broken _ => 1

/-- Shows how the program or a command is called. -/
def Command.showHelp (command : Option String) : Run ExitCode := do
  Session.printLine (CommandLine.helpText command)
  pure 0

/-- Does what a command line asks for. -/
def CommandLine.Invocation.execute : CommandLine.Invocation → Run ExitCode
  | .help topic => Command.showHelp topic
  | .command asked => asked.execute

/-- Executes a command line. -/
def Session.execute (session : Session) (words : List String) : Outcome × Session :=
  match CommandLine.read words with
  | .error fault => (.usage fault, session)
  | .ok invocation =>
      match invocation.execute session with
      | (.ok code, session) => (.finished code, session)
      | (.error failure, session) => (.broken failure, session)

end EntityDiagram
