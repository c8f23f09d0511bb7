import EntityDiagram.Proofs.Session.SchemaFile
import EntityDiagram.Session.Step

/-! # What actions are made of

All that a command does once logging is set up, and most of what a step does, is put together from a
few actions: looking at files, making directories, writing files, printing, logging, asking for the
settings and making requests. A property of actions that holds of these few and of actions one after
the other holds of every command.
-/

namespace EntityDiagram

open Session

/-- The actions put together from the few. An action that looks at the session before it goes on
only looks at the files and the working directory. -/
inductive Run.Routine : {α : Type} → Run α → Prop where
  | pure {α : Type} (a : α) : Routine (Pure.pure a : Run α)
  | fail {α : Type} (failure : Failure) : Routine (Run.fail failure : Run α)
  | look {α : Type} {use : Session → Run α}
      (huse : ∀ session other : Session, session.files = other.files → session.here = other.here →
        use session = use other)
      (h : ∀ session, Routine (use session)) : Routine (Run.get >>= use)
  | moveTo (location : Location) :
      Routine (Run.modify fun session => { session with here := location })
  | makeDirectories (path : Path) : Routine (makeDirectories path)
  | writeBytes (path : Path) (content : ByteArray) : Routine (writeBytes path content)
  | printLine (text : String) : Routine (printLine text)
  | printError (text : String) : Routine (printError text)
  | log (message : Log.Message) : Routine (log message)
  | getSettings : Routine getSettings
  | request (url : String) (timeout : Numeral) : Routine (request url timeout)
  | bind {α β : Type} {first : Run α} {second : α → Run β} (h : Routine first)
      (hsecond : ∀ a, Routine (second a)) : Routine (first >>= second)
  | attempt {α : Type} {action : Run α} (h : Routine action) : Routine (Run.attempt action)

namespace Session

/-! ## What the few change -/

theorem snd_textOf (content : ByteArray) (session : Session) :
    (textOf content session).2 = session := by
  unfold textOf
  cases String.fromUTF8? content <;> rfl

theorem makeDirectories_apply (path : Path) (session : Session) :
    makeDirectories path session =
      let made := session.files.makeDirectories session.here path
      (made.1.mapError .file, { session with files := made.2 }) := by
  unfold makeDirectories
  split <;> next hmade => rw [hmade]; rfl

theorem exists_snd_writeBytes (path : Path) (content : ByteArray) (session : Session) :
    ∃ files, (writeBytes path content session).2 = { session with files := files } := by
  cases hwrite : session.files.write session.here path content with
  | error error =>
      rw [writeBytes_of_error hwrite]
      exact ⟨session.files, rfl⟩
  | ok files =>
      rw [writeBytes_of_ok hwrite]
      exact ⟨files, rfl⟩

/-! ## Files -/

theorem routine_ofFile {α : Type} (result : Except FileError α) : (Run.ofFile result).Routine := by
  cases result with
  | ok a => exact .pure a
  | error error => exact .fail _

theorem routine_isFile (path : Path) : (isFile path).Routine :=
  .look (fun _ _ hfiles hhere => by simp only [hfiles, hhere]) fun _ => routine_ofFile _

theorem routine_textOf (content : ByteArray) : (textOf content).Routine := by
  unfold textOf
  split
  · exact .pure _
  · exact .fail _

theorem routine_readText (path : Path) : (readText path).Routine :=
  .look (fun _ _ hfiles hhere => by simp only [hfiles, hhere])
    fun _ => .bind (routine_ofFile _) routine_textOf

theorem routine_rawText (path : Path) : (rawText path).Routine := by
  refine .look (fun _ _ hfiles hhere => by simp only [hfiles, hhere]) fun _ => ?_
  refine .bind (routine_isFile path) fun found => ?_
  split
  · refine .bind (routine_ofFile _) fun content => ?_
    split
    · exact .pure _
    · exact .fail _
  · exact .pure _

theorem routine_changeDirectory (path : Path) : (changeDirectory path).Routine := by
  refine .look (fun _ _ hfiles hhere => by simp only [hfiles, hhere]) fun _ => ?_
  refine .bind (routine_ofFile _) fun found => ?_
  split
  · exact .moveTo _
  · exact .fail _

theorem routine_writeFile (path : Path) (content : ByteArray) : (writeFile path content).Routine :=
  .bind (.makeDirectories _) fun _ => .writeBytes _ _

theorem routine_saveSchema (schema : Schema) (path : Path) : (saveSchema schema path).Routine :=
  routine_writeFile path _

theorem routine_loadSchema (path : Path) : (loadSchema path).Routine := by
  refine .look (fun _ _ hfiles hhere => by simp only [hfiles, hhere]) fun _ => ?_
  refine .bind (routine_ofFile _) fun found => ?_
  split
  · exact .fail _
  · refine .bind (routine_readText path) fun text => ?_
    split
    · exact .pure _
    · exact .fail _

/-! ## Sources -/

theorem routine_logAll (messages : List Log.Message) : (logAll messages).Routine := by
  induction messages with
  | nil => exact .pure ()
  | cons message rest ih => exact .bind (.log message) fun _ => ih

theorem routine_readDiagramFile (path : Path) : (readDiagramFile path).Routine := by
  refine .bind (routine_isFile path) fun found => ?_
  split
  · exact routine_readText path
  · exact .fail _

theorem routine_fetch (url : String) (timeout : Option Numeral) : (fetch url timeout).Routine := by
  have htimeout : (timeoutFor timeout).Routine := by
    cases timeout with
    | some timeout => exact .pure timeout
    | none => exact .bind .getSettings fun _ => .pure _
  refine .bind htimeout fun timeout => .bind (.request url timeout) fun reply => ?_
  split
  · exact .fail _
  · split
    · exact .fail _
    · exact .pure _

theorem routine_loadConfiguredUrl (settings : Settings) : (loadConfiguredUrl settings).Routine := by
  unfold loadConfiguredUrl
  split
  · exact .fail _
  · split
    · exact .fail _
    · exact .bind (.log _) fun _ => routine_fetch _ none

theorem routine_loadConfigured (settings : Settings) : (loadConfigured settings).Routine := by
  unfold loadConfigured
  split
  · exact routine_loadConfiguredUrl settings
  · refine .bind (routine_isFile _) fun found => ?_
    split
    · exact .bind (.log _) fun _ => routine_readText _
    · exact .bind (.log _) fun _ => routine_loadConfiguredUrl settings

theorem routine_loadDiagram (path : Option Path) (url : Option String) :
    (loadDiagram path url).Routine := by
  unfold loadDiagram
  split
  · exact routine_readDiagramFile _
  · split
    · exact .bind .getSettings routine_loadConfigured
    · exact routine_fetch _ none

end Session

/-! ## Commands -/

namespace Command

theorem routine_refuse (message : String) : (refuse message).Routine :=
  .bind (.printError _) fun _ => .pure 1

theorem routine_printJson (value : Json) : (printJson value).Routine :=
  .bind (.printLine _) fun _ => .pure 0

theorem routine_printAll {print : String → Run Unit} (h : ∀ line, (print line).Routine)
    (lines : List String) : (printAll print lines).Routine := by
  induction lines with
  | nil => exact .pure ()
  | cons line rest ih => exact .bind (h line) fun _ => ih

theorem routine_withDiagram (source : Source) {use : String → Run ExitCode}
    (h : ∀ text, (use text).Routine) : (withDiagram source use).Routine := by
  refine .bind (.attempt (routine_loadDiagram _ _)) fun result => ?_
  split
  · exact routine_refuse _
  · exact h _

theorem routine_readDiagram (text : String) : (readDiagram text).Routine :=
  .bind (routine_logAll _) fun _ => .pure _

theorem routine_withSchema (source : Source) {use : Schema → Run ExitCode}
    (h : ∀ schema, (use schema).Routine) : (withSchema source use).Routine := by
  refine routine_withDiagram source fun text => .bind (routine_readDiagram text) fun reading => ?_
  split
  · exact h _
  · exact .bind (routine_printAll .printError _) fun _ => routine_refuse _

theorem routine_showSchema (out : Option Path) (schema : Schema) :
    (showSchema out schema).Routine := by
  cases out with
  | none => exact routine_printJson _
  | some path =>
      exact .bind (routine_saveSchema schema path) fun _ => .bind (.printLine _) fun _ => .pure 0

theorem routine_showProblems (text : String) : (showProblems text).Routine := by
  refine .bind (routine_readDiagram text) fun _ => .bind (.log _) fun _ => ?_
  split
  · exact .bind (.printLine _) fun _ => .pure 0
  · exact .bind (.printLine _) fun _ => .bind (routine_printAll .printLine _) fun _ => .pure 1

theorem routine_showEntity (name : String) (schema : Schema) :
    (showEntity name schema).Routine := by
  unfold showEntity
  split
  · exact routine_printJson _
  · exact routine_refuse _

theorem routine_showScript (out : Option Path) (drop : Bool) (schema : Schema) :
    (showScript out drop schema).Routine := by
  unfold showScript
  refine .bind (routine_logAll _) fun _ => ?_
  cases out with
  | none => exact .bind (.printLine _) fun _ => .pure 0
  | some path =>
      exact .bind (routine_writeFile path _) fun _ => .bind (.printLine _) fun _ => .pure 0

theorem routine_showQueries (name : String) (options : Sql.ListOptions) (schema : Schema) :
    (showQueries name options schema).Routine := by
  unfold showQueries
  split
  · exact routine_refuse _
  · refine .bind (routine_logAll _) fun _ => ?_
    split
    · exact routine_printJson _
    · exact routine_refuse _

/-- What a command does after logging is set up. -/
theorem routine_work (command : Command) : command.work.Routine := by
  unfold work
  split
  · exact routine_withSchema _ (routine_showSchema _)
  · exact routine_withDiagram _ routine_showProblems
  · exact routine_withSchema _ fun _ => routine_printJson _
  · exact routine_withSchema _ (routine_showEntity _)
  · exact routine_withSchema _ fun _ => routine_printJson _
  · exact routine_withSchema _ (routine_showScript _ _)
  · exact routine_withSchema _ (routine_showQueries _ _)

theorem routine_showHelp (topic : Option String) : (showHelp topic).Routine :=
  .bind (.printLine _) fun _ => .pure 0

end Command

theorem Session.execute_of_read_error {words : List String} {fault : UsageFault}
    (h : CommandLine.read words = .error fault) (session : Session) :
    session.execute words = (.usage fault, session) := by
  rw [execute, h]

theorem Session.execute_of_read_ok {words : List String} {invocation : CommandLine.Invocation}
    (h : CommandLine.read words = .ok invocation) (session : Session) :
    session.execute words =
      (match (invocation.execute session).1 with
        | .ok code => .finished code
        | .error failure => .broken failure, (invocation.execute session).2) := by
  rw [execute, h]
  dsimp only
  match invocation.execute session with
  | (.ok code, after) => rfl
  | (.error failure, after) => rfl

/-! ## Steps -/

/-- Whether a step is made of the few actions. The others set, show or load variables, drop the
settings, or may set up logging. -/
def Step.isRoutine : Step → Bool
  | .putFile _ _ | .getFile _ | .changeDirectory _ | .getSettings | .loadDiagram _ _ | .fetch _ _
  | .saveSchema _ _ | .loadSchema _ => true
  | .setVariable _ _ | .getVariable _ | .findEnvFile | .resetSettings | .setUpLogging _ _
  | .log _ _ _ | .command _ => false

theorem Session.routine_act {step : Step} (h : step.isRoutine = true) : (act step).Routine := by
  cases step with
  | putFile path content => exact .bind (routine_writeFile path content) fun _ => .pure _
  | getFile path => exact .bind (routine_rawText path) fun _ => .pure _
  | changeDirectory path => exact .bind (routine_changeDirectory path) fun _ => .pure _
  | getSettings => exact .bind .getSettings fun _ => .pure _
  | loadDiagram path url => exact .bind (routine_loadDiagram path url) fun _ => .pure _
  | fetch url timeout => exact .bind (routine_fetch url timeout) fun _ => .pure _
  | saveSchema schema path => exact .bind (routine_saveSchema schema path) fun _ => .pure _
  | loadSchema path => exact .bind (routine_loadSchema path) fun _ => .pure _
  | setVariable | getVariable | findEnvFile | resetSettings | setUpLogging | log | command =>
      cases h

/-- Setting a variable changes nothing but the environment, and there no other variable. -/
theorem Session.exists_snd_act_setVariable (name : String) (value : Option String)
    (session : Session) :
    ∃ environment,
      (act (.setVariable name value) session).2 = { session with environment := environment } ∧
      ∀ other ≠ name, environment.get? other = session.environment.get? other := by
  cases value with
  | none => exact ⟨_, rfl, fun other hother => Environment.get?_unset_of_ne _ hother⟩
  | some value =>
      cases hname : Environment.admissible name value with
      | error error =>
          have hrun : setVariable name value session = (.error (.environment error), session) := by
            rw [setVariable, hname]
          rw [act, Run.bind_of_error hrun]
          exact ⟨_, rfl, fun _ _ => rfl⟩
      | ok _ =>
          have hrun : setVariable name value session =
              (.ok (), { session with environment := session.environment.set name value }) := by
            rw [setVariable, hname]
          rw [act, Run.bind_of_ok hrun]
          exact ⟨_, rfl, fun other hother => Environment.get?_set_of_ne _ value hother⟩

end EntityDiagram
