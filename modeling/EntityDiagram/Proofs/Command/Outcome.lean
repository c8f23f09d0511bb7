import EntityDiagram.Command.Execution
import EntityDiagram.Proofs.Reading.Consistency
import EntityDiagram.Proofs.Session.Footprint
import EntityDiagram.Proofs.Session.Shape
import Mathlib.Data.List.Infix

/-! # Exit codes of commands

The exit code of a command that finds its diagram is decided by the diagram and by what the command
looks for in it. A command that refuses its diagram has printed nothing and changed no file but the
log file: it writes its answer only after all it can refuse has been looked at.
-/

namespace EntityDiagram

/-! ## Printed lines -/

namespace Text

/-- Lines as they are printed, one after the other. -/
def printed : List String → String
  | [] => ""
  | line :: rest => dropSequences line ++ "\n" ++ printed rest

theorem printed_append (lines more : List String) :
    printed (lines ++ more) = printed lines ++ printed more := by
  induction lines with
  | nil => simp [printed]
  | cons line rest ih => simp [printed, ih, String.append_assoc]

theorem sequenceLength?_of_ne {c : Char} (rest : List Char) (h : c ≠ '\x1b') :
    sequenceLength? (c :: rest) = none := by
  unfold sequenceLength?
  split
  · next heq =>
      cases heq
      exact absurd rfl h
  · rfl

theorem dropSequencesFrom_of_not_mem {cs : List Char} (h : '\x1b' ∉ cs) :
    dropSequencesFrom 0 cs = cs := by
  induction cs with
  | nil => rfl
  | cons c rest ih =>
      rw [List.mem_cons, not_or] at h
      rw [dropSequencesFrom, sequenceLength?_of_ne rest (Ne.symm h.1)]
      simp only [ih h.2]

theorem dropSequences_of_not_mem {s : String} (h : '\x1b' ∉ s.toList) : dropSequences s = s := by
  rw [dropSequences, dropSequencesFrom_of_not_mem h, String.ofList_toList]

end Text

namespace Reading

/-- What is printed about a reading with rejected lines: the messages, and how many there are. -/
def errorLines (reading : Reading) : List String :=
  reading.errors ++ ["Error: " ++ (toString reading.errors.length ++ " parse error(s)")]

theorem printed_errorLines (reading : Reading) :
    Text.printed reading.errorLines = Text.printed reading.errors ++
      "Error: " ++ toString reading.errors.length ++ " parse error(s)\n" := by
  have hplain : '\x1b' ∉
      ("Error: " ++ (toString reading.errors.length ++ " parse error(s)")).toList := by
    simp only [String.toList_append, List.mem_append, not_or]
    refine ⟨by decide +kernel, fun hmem => ?_, by decide +kernel⟩
    rw [Nat.toString_eq_repr, Nat.repr_eq_ofList_toDigits, String.toList_ofList] at hmem
    have hdigit := Nat.isDigit_of_mem_toDigits (by omega) (by omega) hmem
    exact absurd hdigit (by decide)
  rw [errorLines, Text.printed_append, Text.printed, Text.printed,
    Text.dropSequences_of_not_mem hplain]
  simp [String.append_assoc]

end Reading

namespace Session

/-- The session after lines were printed on standard error. -/
def afterErrors (session : Session) (lines : List String) : Session :=
  { session with standardError := session.standardError ++ Text.printed lines }

theorem printError_apply (line : String) (session : Session) :
    printError line session = (.ok (), session.afterErrors [line]) := by
  simp [printError, Run.modify, afterErrors, Text.printed, String.append_assoc]

theorem afterErrors_afterErrors (session : Session) (lines more : List String) :
    (session.afterErrors lines).afterErrors more = session.afterErrors (lines ++ more) := by
  simp [afterErrors, Text.printed_append, String.append_assoc]

theorem logAll_apply (messages : List Log.Message) (session : Session) :
    logAll messages session = (.ok (), (logAll messages session).2) := by
  induction messages generalizing session with
  | nil => rfl
  | cons message rest ih => exact ih (log message session).2

end Session

theorem Diagram.success_of_valid {text : String} (h : (check text).valid = true) :
    (Reading.ofText text).result.success = true := by
  have hproblems : problems text = [] := List.isEmpty_iff.mp h
  rw [problems_eq, List.append_eq_nil_iff] at hproblems
  rw [Reading.success_result_iff, Reading.result, hproblems.1]
  rfl

/-! ## Command lines -/

namespace CommandLine

theorem exists_source_of_withDiagram {scanned : Scanned} {build : Source → Command}
    {arguments : List String} {command : Command}
    (h : withDiagram scanned build arguments = .ok command) : ∃ source, command = build source := by
  unfold withDiagram at h
  split at h
  · cases h
    exact ⟨_, rfl⟩
  · split at h
    · cases h
    · split at h
      · cases h
        exact ⟨_, rfl⟩
      · cases h

theorem exists_source_of_assemble {scanned : Scanned} {form : Form} {command : Command}
    (h : assemble scanned form = .ok command) :
    match form with
    | .plain build => ∃ source, command = build scanned source
    | .named _ build => ∃ name source, command = build scanned name source := by
  cases form with
  | plain build => exact exists_source_of_withDiagram h
  | named argument build =>
      rw [assemble] at h
      split at h
      · cases h
      · exact ⟨_, exists_source_of_withDiagram h⟩

theorem exists_scanned_of_readCommand {name : String} {options : Options} {form : Form}
    {words : List String} {command : Command}
    (h : readCommand name options form words = .ok (.command command)) :
    ∃ scanned, assemble scanned form = .ok command := by
  unfold readCommand at h
  split at h
  · cases h
  · next scanned hscanned =>
      split at h
      · cases h
      · split at h
        · cases h
        · cases hassemble : assemble scanned form with
          | error fault => simp [hassemble, Except.map] at h
          | ok asked =>
              simp only [hassemble, Except.map, Except.ok.injEq, Invocation.command.injEq] at h
              exact ⟨scanned, h ▸ hassemble⟩

theorem exists_form_of_read {words : List String} {command : Command}
    (h : read words = .ok (.command command)) :
    ∃ entry ∈ commands, ∃ scanned, assemble scanned entry.2.2 = .ok command := by
  unfold read at h
  split at h
  · cases h
  · cases h
  · next rest hleading =>
      unfold readNamed at h
      split at h
      · cases h
      · next name words =>
          split at h
          · next options form hlookup =>
              obtain ⟨_, _, hcommands, _⟩ := List.lookup_eq_some_iff.mp hlookup
              have hmem : (name, options, form) ∈ commands := by
                rw [hcommands]
                exact List.mem_append_right _ List.mem_cons_self
              exact ⟨(name, options, form), hmem, exists_scanned_of_readCommand h⟩
          · split at h <;> cases h

theorem read_cons {name : String} {words : List String} {options : Options} {form : Form}
    {scanned : Scanned}
    (hleading : scanLeading (name :: words) = .ok (false, name :: words))
    (hname : commands.lookup name = some (options, form)) (hscan : scan options words = .ok scanned)
    (hhelp : scanned.hasFlag helpFlag = false) (hfault : scanned.firstFault? options = none) :
    read (name :: words) = (assemble scanned form).map .command := by
  simp only [read, hleading, readNamed, hname, readCommand, hscan, hhelp, hfault,
    Bool.false_eq_true, if_false]

/-- The options for a list of rows as a command line gives them: integers, and words. -/
theorem exists_options_of_read {words : List String} {name : String} {source : Source}
    {options : Sql.ListOptions} (h : read words = .ok (.command (.queries name source options))) :
    ∃ (scanned : Scanned) (column : Option String) (word : String),
      options = ⟨.ofInt? (scanned.integer? "--limit"), .ofInt? (scanned.integer? "--offset"),
        .ofText? column, .text word⟩ := by
  obtain ⟨entry, hentry, scanned, hassemble⟩ := exists_form_of_read h
  simp only [commands, List.mem_cons, List.not_mem_nil, or_false] at hentry
  rcases hentry with rfl | rfl | rfl | rfl | rfl | rfl | rfl <;>
    have hbuilt := exists_source_of_assemble hassemble <;>
    simp only [reduceCtorEq, exists_false] at hbuilt
  obtain ⟨_, _, hbuilt⟩ := hbuilt
  cases hbuilt
  exact ⟨scanned, _, _, rfl⟩

/-- The direction of the rows is a word on every command line. -/
theorem exists_direction_of_read {words : List String} {name : String} {source : Source}
    {options : Sql.ListOptions} (h : read words = .ok (.command (.queries name source options))) :
    ∃ word, options.direction = .text word := by
  obtain ⟨_, _, word, rfl⟩ := exists_options_of_read h
  exact ⟨word, rfl⟩

end CommandLine

/-! ## What a command does with a schema -/

theorem Sql.Table.exists_selectAll (table : Table) {options : ListOptions} {word : String}
    (h : options.direction = .text word) : ∃ query, table.selectAll options = .ok query := by
  have horder : ∃ tokens, table.orderTokens options = .ok tokens := by
    unfold orderTokens
    split
    · exact ⟨[], rfl⟩
    · rw [h]
      by_cases hgiven : (Json.text word).isGiven = true
      · simp only [descending, if_pos hgiven]
        cases Text.upper word == "DESC" <;> exact ⟨_, rfl⟩
      · simp only [descending, if_neg hgiven]
        exact ⟨_, rfl⟩
  obtain ⟨tokens, htokens⟩ := horder
  exact ⟨_, by rw [selectAll, htokens]⟩

namespace Command

theorem refuse_apply (message : String) (session : Session) :
    refuse message session = (.ok 1, session.afterErrors ["Error: " ++ message]) :=
  Run.bind_of_ok (Session.printError_apply _ session)

theorem printAll_printError (lines : List String) (session : Session) :
    printAll Session.printError lines session = (.ok (), session.afterErrors lines) := by
  induction lines generalizing session with
  | nil => simp [printAll, Session.afterErrors, Text.printed]
  | cons line rest ih =>
      rw [printAll, Run.bind_of_ok (Session.printError_apply line session), ih,
        Session.afterErrors_afterErrors]
      rfl

theorem exists_printAll_printLine (lines : List String) (session : Session) :
    ∃ after, printAll Session.printLine lines session = (.ok (), after) := by
  induction lines generalizing session with
  | nil => exact ⟨session, rfl⟩
  | cons line rest ih => exact ih (Session.printLine line session).2

theorem readDiagram_apply (text : String) (session : Session) :
    readDiagram text session =
      (.ok (Reading.ofText text), (Session.logAll (Reading.ofText text).messages session).2) :=
  Run.bind_of_ok (Session.logAll_apply _ session)

/-- The check ends well for a valid diagram only. -/
theorem exists_showProblems (text : String) (session : Session) :
    ∃ after, showProblems text session =
      (.ok (if (Diagram.check text).valid then 0 else 1), after) := by
  rw [showProblems, Run.bind_of_ok (readDiagram_apply text session)]
  generalize (Session.logAll (Reading.ofText text).messages session).2 = read
  have hlogged : Session.log (Diagram.problemsMessage (Diagram.check text).errors) read =
      (.ok (), _) := rfl
  rw [Run.bind_of_ok hlogged]
  by_cases hvalid : (Diagram.check text).valid = true
  · rw [if_pos hvalid, if_pos hvalid]
    exact ⟨_, Run.bind_of_ok rfl⟩
  · rw [if_neg hvalid, if_neg hvalid]
    obtain ⟨after, hafter⟩ := exists_printAll_printLine
      ((Diagram.check text).errors.map ("  - " ++ ·)) _
    exact ⟨after, (Run.bind_of_ok rfl).trans (Run.bind_of_ok hafter)⟩

/-- The action ends well if something is found; otherwise it says so on standard error and does
nothing else. -/
structure Answers (found : Prop) (action : Run ExitCode) (session : Session) : Prop where
  answer : found → ∃ after, action session = (.ok 0, after)
  refusal : ¬ found → ∃ message, action session = refuse message session

theorem Answers.of_ok {action : Run ExitCode} {session after : Session}
    (h : action session = (.ok 0, after)) : Answers True action session :=
  ⟨fun _ => ⟨after, h⟩, fun hnot => absurd trivial hnot⟩

theorem answers_printJson (value : Json) (session : Session) :
    Answers True (printJson value) session := .of_ok rfl

theorem answers_showSchema {out : Option Path} {session : Session}
    (hout : ∀ path ∈ out, session.CanWrite path) (schema : Schema) :
    Answers True (showSchema out schema) session := by
  cases out with
  | none => exact answers_printJson schema.summary session
  | some path =>
      obtain ⟨saved, _, hsaved, _⟩ := (hout path rfl).exists_find schema.fileText.toUTF8
      exact .of_ok (Run.bind_of_ok hsaved)

theorem answers_showScript {out : Option Path} {session : Session}
    (hout : ∀ path ∈ out, session.CanWrite path) (drop : Bool) (schema : Schema) :
    Answers True (showScript out drop schema) session := by
  have hlogged := Session.logAll_apply (Sql.messages schema) session
  cases out with
  | none => exact .of_ok (Run.bind_of_ok hlogged)
  | some path =>
      -- The messages may have gone to a file, which takes away no place to write at.
      have hwrite := (hout path rfl).of_samePlaces
        (Session.samePlaces_logAll (Sql.messages schema) session)
      obtain ⟨saved, _, hsaved, _⟩ := hwrite.exists_find
        ((if drop then Sql.dropScript schema else Sql.script schema) ++ "\n").toUTF8
      exact .of_ok ((Run.bind_of_ok hlogged).trans (Run.bind_of_ok hsaved))

theorem answers_showEntity (name : String) (schema : Schema) (session : Session) :
    Answers ((schema.find? name).isSome = true) (showEntity name schema) session := by
  unfold showEntity Schema.details?
  cases schema.find? name with
  | none => exact ⟨fun h => absurd h Bool.false_ne_true, fun _ => ⟨_, rfl⟩⟩
  | some entity => exact ⟨fun _ => ⟨_, rfl⟩, fun h => absurd rfl h⟩

theorem answers_showQueries {options : Sql.ListOptions} {word : String}
    (hdirection : options.direction = .text word) (name : String) (schema : Schema)
    (session : Session) :
    Answers ((schema.find? name).isSome = true) (showQueries name options schema) session := by
  unfold showQueries
  cases schema.find? name with
  | none => exact ⟨fun h => absurd h Bool.false_ne_true, fun _ => ⟨_, rfl⟩⟩
  | some entity =>
      obtain ⟨query, hquery⟩ := (Sql.Table.ofEntity entity).exists_selectAll hdirection
      have hlogged := Session.logAll_apply ((Sql.Table.ofEntity entity).messages options) session
      refine ⟨fun _ => ?_, fun h => absurd rfl h⟩
      simp only [hquery]
      exact ⟨_, Run.bind_of_ok hlogged⟩

/-- The path that a command writes its answer to, if it does not print it. -/
def out : Command → Option Path
  | parse _ out => out
  | sql _ out _ => out
  | validate _ | entities _ | entity _ _ | relationships _ _ | queries _ _ _ => none

/-- A schema has what the command looks for. -/
def Finds : Command → Schema → Prop
  | entity name _, schema => (schema.find? name).isSome = true
  | queries name _ _, schema => (schema.find? name).isSome = true
  | parse _ _, _ | validate _, _ | entities _, _ | relationships _ _, _ | sql _ _ _, _ => True

/-- Whether the command reports what is wrong with a diagram. -/
def isCheck : Command → Bool
  | validate _ => true
  | parse _ _ | entities _ | entity _ _ | relationships _ _ | sql _ _ _ | queries _ _ _ => false

/-- Every command but the check reads the schema and then answers or refuses. -/
theorem exists_use {words : List String} {command : Command}
    (hread : CommandLine.read words = .ok (.command command)) (hcheck : command.isCheck = false) :
    ∃ use, command.work = withSchema command.source use ∧
      ∀ schema session, (∀ path ∈ command.out, session.CanWrite path) →
        Answers (command.Finds schema) (use schema) session := by
  cases command with
  | parse source out =>
      exact ⟨showSchema out, rfl, fun schema session hout => answers_showSchema hout schema⟩
  | validate source => cases hcheck
  | entities source =>
      exact ⟨fun schema => printJson (counted "entities" schema.outlines), rfl,
        fun schema session _ => answers_printJson _ session⟩
  | entity name source =>
      exact ⟨showEntity name, rfl, fun schema session _ => answers_showEntity name schema session⟩
  | relationships source name =>
      exact ⟨fun schema => printJson
          (counted "relationships" ((schema.relationshipsOf name).map Relationship.summary)), rfl,
        fun schema session _ => answers_printJson _ session⟩
  | sql source out drop =>
      exact ⟨showScript out drop, rfl,
        fun schema session hout => answers_showScript hout drop schema⟩
  | queries name source options =>
      obtain ⟨word, hdirection⟩ := CommandLine.exists_direction_of_read hread
      exact ⟨showQueries name options, rfl,
        fun schema session _ => answers_showQueries hdirection name schema session⟩

/-! ## Whole commands -/

/-- The diagram is one that the command ends well with. -/
def Accepts (text : String) : Command → Prop
  | validate _ => (Diagram.check text).valid = true
  | entity name _ | queries name _ _ =>
      (Reading.ofText text).result.success = true ∧
        ((Reading.ofText text).result.schema.find? name).isSome = true
  | parse _ _ | entities _ | relationships _ _ | sql _ _ _ =>
      (Reading.ofText text).result.success = true

theorem accepts_iff_valid {command : Command} (hcheck : command.isCheck = true) (text : String) :
    command.Accepts text ↔ (Diagram.check text).valid = true := by
  cases command with
  | validate source => exact Iff.rfl
  | parse | entities | entity | relationships | sql | queries => cases hcheck

theorem accepts_iff {command : Command} (hcheck : command.isCheck = false) (text : String) :
    command.Accepts text ↔
      (Reading.ofText text).succeeded = true ∧ command.Finds (Reading.ofText text).schema := by
  cases command with
  | validate source => cases hcheck
  | entity name source => exact Iff.rfl
  | queries name source options => exact Iff.rfl
  | parse source out => exact (and_iff_left trivial).symm
  | entities source => exact (and_iff_left trivial).symm
  | relationships source name => exact (and_iff_left trivial).symm
  | sql source out drop => exact (and_iff_left trivial).symm

end Command

namespace Session

/-- The session once logging is set up for a command. -/
def ready (session : Session) : Session := (setUpLogging none none session).2

/-- The session once the command has loaded its diagram. -/
def loaded (session : Session) (source : Source) : Session :=
  (loadDiagram source.path source.url session.ready).2

/-- The session once the diagram has been read. -/
def afterReading (session : Session) (source : Source) (text : String) : Session :=
  (logAll (Reading.ofText text).messages (session.loaded source)).2

/-- The words ask for a command, for which logging can be set up, a diagram can be loaded and its
answer can be written. -/
structure Serves (session : Session) (words : List String) (command : Command) (text : String) :
    Prop where
  read : CommandLine.read words = .ok (.command command)
  logging : (setUpLogging none none session).1 = .ok ()
  source : (loadDiagram command.source.path command.source.url session.ready).1 = .ok text
  out : ∀ path ∈ command.out, (session.loaded command.source).CanWrite path

/-- The messages up to the end of the reading. -/
def IsReadingMessage (text : String) (message : Log.Message) : Prop :=
  IsLoadingMessage message ∨ message ∈ (Reading.ofText text).messages

namespace Serves

variable {session : Session} {words : List String} {command : Command} {text : String}

theorem execute_of_work (h : session.Serves words command text) {code : ExitCode} {after : Session}
    (hwork : command.work session.ready = (.ok code, after)) :
    session.execute words = (.finished code, after) := by
  have hready : setUpLogging none none session = (.ok (), session.ready) := Prod.ext h.logging rfl
  have hexecute : command.execute session = (.ok code, after) :=
    (Run.bind_of_ok hready).trans hwork
  simp only [Session.execute, h.read, CommandLine.Invocation.execute, hexecute]

theorem withDiagram_apply (h : session.Serves words command text) (use : String → Run ExitCode) :
    Command.withDiagram command.source use session.ready =
      use text (session.loaded command.source) := by
  have hload : loadDiagram command.source.path command.source.url session.ready =
      (.ok text, session.loaded command.source) := Prod.ext h.source rfl
  have hattempt : Run.attempt (loadDiagram command.source.path command.source.url) session.ready =
      (.ok (.ok text), session.loaded command.source) := by
    rw [Run.attempt, hload]
  exact Run.bind_of_ok hattempt

theorem withSchema_of_succeeded (h : session.Serves words command text)
    (hread : (Reading.ofText text).succeeded = true) (use : Schema → Run ExitCode) :
    Command.withSchema command.source use session.ready =
      use (Reading.ofText text).schema (session.afterReading command.source text) := by
  rw [Command.withSchema, h.withDiagram_apply, Run.bind_of_ok (Command.readDiagram_apply _ _),
    if_pos hread, afterReading]

theorem withSchema_of_rejected (h : session.Serves words command text)
    (hread : (Reading.ofText text).succeeded = false) (use : Schema → Run ExitCode) :
    Command.withSchema command.source use session.ready =
      (.ok 1, (session.afterReading command.source text).afterErrors
        (Reading.ofText text).errorLines) := by
  rw [Command.withSchema, h.withDiagram_apply, Run.bind_of_ok (Command.readDiagram_apply _ _),
    if_neg (by simp [hread]), Run.bind_of_ok (Command.printAll_printError _ _),
    Command.refuse_apply, afterErrors_afterErrors, afterReading, Reading.errorLines]

/-- Up to the end of the reading nothing was printed, and only the log file was written to. -/
theorem writesOnly_afterReading (h : session.Serves words command text) :
    (session.afterReading command.source text).logging.files.length ≤ 1 ∧
      session.WritesOnly (· ∈ (session.afterReading command.source text).logging.files)
        (IsReadingMessage text) (session.afterReading command.source text) := by
  have hset : setUpLogging none none session = (.ok (), session.ready) := Prod.ext h.logging rfl
  have hload := logs_loadDiagram command.source.path command.source.url
  have hlog : (logAll (Reading.ofText text).messages).Logs (IsReadingMessage text) :=
    logs_logAll fun _ hmessage => .inr hmessage
  have hloaded : (session.loaded command.source).logging = session.ready.logging :=
    (hload session.ready).1
  have hread : (session.afterReading command.source text).logging = session.ready.logging :=
    (hlog (session.loaded command.source)).1.trans hloaded
  have hwrites := hlog.writesOnly (session.loaded command.source)
  obtain ⟨hlength, hready⟩ := writesOnly_setUpLogging hset
  rw [hloaded] at hwrites
  rw [hread]
  have hfirst : session.WritesOnly (· ∈ session.ready.logging.files) (IsReadingMessage text)
      session.ready :=
    hready.mono (fun _ hplace => hplace) fun _ hmessage => .inl hmessage.isLoadingMessage
  have hsecond : session.ready.WritesOnly (· ∈ session.ready.logging.files)
      (IsReadingMessage text) (session.loaded command.source) :=
    (hload.writesOnly session.ready).mono (fun _ hplace => hplace) fun _ hmessage => .inl hmessage
  exact ⟨hlength, (hfirst.trans hsecond).trans hwrites⟩

theorem exists_work_of_isCheck (h : session.Serves words command text)
    (hcheck : command.isCheck = true) :
    ∃ after, command.work session.ready =
      (.ok (if (Diagram.check text).valid then 0 else 1), after) := by
  cases command with
  | validate source =>
      obtain ⟨after, hafter⟩ := Command.exists_showProblems text (session.loaded source)
      exact ⟨after, (h.withDiagram_apply Command.showProblems).trans hafter⟩
  | parse | entities | entity | relationships | sql | queries => cases hcheck

/-- What a command other than the check comes to. -/
theorem work_cases (h : session.Serves words command text) (hcheck : command.isCheck = false) :
    (command.Accepts text ∧ ∃ after, command.work session.ready = (.ok 0, after)) ∨
      (¬ command.Accepts text ∧ ∃ lines, command.work session.ready =
          (.ok 1, (session.afterReading command.source text).afterErrors lines) ∧
        ((Reading.ofText text).succeeded = false → lines = (Reading.ofText text).errorLines)) := by
  obtain ⟨use, hwork, hanswers⟩ := Command.exists_use h.read hcheck
  rw [hwork, Command.accepts_iff hcheck]
  by_cases hread : (Reading.ofText text).succeeded = true
  · have hout : ∀ path ∈ command.out, (session.afterReading command.source text).CanWrite path :=
      fun path hpath => (h.out path hpath).of_samePlaces (samePlaces_logAll _ _)
    have hanswer := hanswers (Reading.ofText text).schema _ hout
    rw [h.withSchema_of_succeeded hread]
    by_cases hfound : command.Finds (Reading.ofText text).schema
    · exact .inl ⟨⟨hread, hfound⟩, hanswer.answer hfound⟩
    · obtain ⟨message, hrefuse⟩ := hanswer.refusal hfound
      rw [hrefuse, Command.refuse_apply]
      exact .inr ⟨fun haccepts => hfound haccepts.2, _, rfl, fun hnot => by simp [hread] at hnot⟩
  · rw [h.withSchema_of_rejected (by simpa using hread)]
    exact .inr ⟨fun haccepts => hread haccepts.1, _, rfl, fun _ => rfl⟩

end Serves

/-- For a command that finds its diagram the exit code says whether the diagram is as the command
needs it. A command that ends with 1, the check apart, has printed nothing on standard output and
changed no file but the log file; if lines of the diagram were rejected, the messages about them
are on standard error after those of the log, each on a line of its own and, standard error being no
terminal, without its terminal sequences. -/
theorem exitCode_eq_zero_iff_accepts {session : Session} {words : List String} {command : Command}
    {text : String} (h : session.Serves words command text) :
    ∃ code after, session.execute words = (.finished code, after) ∧
      (code = 0 ∨ code = 1) ∧ (code = 0 ↔ command.Accepts text) ∧
      ((Diagram.check text).valid = true → (Reading.ofText text).result.success = true) ∧
      (code = 1 → command.isCheck = false →
        after.standardOutput = session.standardOutput ∧
        after.logging.files.length ≤ 1 ∧
        (∀ location ∉ after.logging.files,
          after.files.file? location = session.files.file? location) ∧
        ((Reading.ofText text).result.success = false →
          let errors := (Reading.ofText text).result.errors.getD []
          ∃ messages, (∀ message ∈ messages, IsReadingMessage text message) ∧
            after.standardError = session.standardError ++ Log.lines messages ++
              Text.printed errors ++
              "Error: " ++ toString errors.length ++ " parse error(s)\n" ∧
            ∀ error ∈ errors, '\x1b' ∉ error.toList → Text.dropSequences error = error)) := by
  have hvalid : (Diagram.check text).valid = true → (Reading.ofText text).result.success = true :=
    Diagram.success_of_valid
  cases hcheck : command.isCheck with
  | true =>
      obtain ⟨after, hwork⟩ := h.exists_work_of_isCheck hcheck
      refine ⟨_, after, h.execute_of_work hwork, ?_, ?_, hvalid, fun _ hnot => by cases hnot⟩
      · split <;> simp
      · rw [Command.accepts_iff_valid hcheck]
        split <;> simp [*]
  | false =>
      rcases h.work_cases hcheck with ⟨haccepts, after, hwork⟩ | ⟨hnot, lines, hwork, hlines⟩
      · refine ⟨0, after, h.execute_of_work hwork, .inl rfl, iff_of_true rfl haccepts, hvalid, ?_⟩
        intro hcode
        cases hcode
      · obtain ⟨hlength, hwrites⟩ := h.writesOnly_afterReading
        have hexecute := h.execute_of_work hwork
        generalize session.afterReading command.source text = read at hlength hwrites hexecute
        refine ⟨1, _, hexecute, .inr rfl, iff_of_false Nat.one_ne_zero hnot, hvalid, fun _ _ => ?_⟩
        refine ⟨hwrites.standardOutput, hlength, hwrites.files, fun hread => ?_⟩
        obtain ⟨messages, hmessages, herror⟩ := hwrites.standardError
        rw [Reading.getD_errors_result]
        refine ⟨messages, hmessages, ?_, fun error _ => Text.dropSequences_of_not_mem⟩
        rw [hlines hread, afterErrors, herror, Reading.printed_errorLines]
        simp only [String.append_assoc]

theorem exitCode_of_rejected_script :
    let text := "erDiagram\nA \x7b\n\x1b[31mx\nint id PK\n?\n\x7d"
    let session : Session :=
      { environment := ⟨[("LOG_LEVEL", "debug"), ("log_file", "logs/run.log")]⟩
        web := [("u", .page 200 "OK" text)] }
    let words := ["sql", "--url=u", "--drop", "--out", "made/schema.sql"]
    let command : Command := .sql ⟨none, some "u"⟩ (some ⟨0, ["made", "schema.sql"]⟩) true
    session.Serves words command text ∧
      ∃ after, session.execute words = (.finished 1, after) ∧ after.standardOutput = "" ∧
        (∀ location ∉ after.logging.files, after.files.file? location = none) ∧
        ∃ messages, (∀ message ∈ messages, IsReadingMessage text message) ∧
          after.standardError = Log.lines messages ++
            ("Line 3: Unable to parse attribute: \"x\"\n" ++
              "Line 5: Unable to parse attribute: \"?\"\n") ++ "Error: 2 parse error(s)\n" := by
  intro text session words command
  have hread : CommandLine.read words = .ok (.command command) := by
    have hleading : CommandLine.scanLeading words = .ok (false, words) := by decide +kernel
    have hscan : CommandLine.scan [("--url", .text), ("--out", .path), ("--drop", .flag)]
        words.tail = .ok ⟨[("--url", "u"), ("--out", "made/schema.sql")], ["--drop"], []⟩ := by
      decide +kernel
    have hpath : Path.ofText "made/schema.sql" = ⟨0, ["made", "schema.sql"]⟩ := by decide +kernel
    have hurl : [("--out", "made/schema.sql"), ("--url", "u")].lookup "--url" = some "u" := by
      decide +kernel
    rw [CommandLine.read_cons hleading rfl hscan (by decide +kernel) (by decide +kernel)]
    simp [CommandLine.assemble, CommandLine.withDiagram, CommandLine.Scanned.source,
      CommandLine.Scanned.path?, CommandLine.Scanned.value?, CommandLine.Scanned.hasFlag,
      Except.map, hpath, hurl, command]
  have hserves : session.Serves words command text := by
    refine ⟨hread, by decide +kernel, by decide +kernel, ?_⟩
    rintro path ⟨⟩
    exact ⟨.empty, by decide +kernel⟩
  have hresult : (Reading.ofText text).result.success = false ∧
      (Reading.ofText text).result.errors.getD [] =
        ["Line 3: Unable to parse attribute: \"\x1b[31mx\"",
          "Line 5: Unable to parse attribute: \"?\""] := by decide +kernel
  have hprinted : Text.printed ((Reading.ofText text).result.errors.getD []) =
      "Line 3: Unable to parse attribute: \"x\"\n" ++
        "Line 5: Unable to parse attribute: \"?\"\n" := by
    rw [hresult.2]
    decide +kernel
  obtain ⟨code, after, hexecute, hcode, haccepts, -, hrefused⟩ :=
    exitCode_eq_zero_iff_accepts hserves
  have hone : code = 1 := by
    refine hcode.resolve_left fun hzero => ?_
    have hsuccess : (Reading.ofText text).result.success = true := haccepts.mp hzero
    simp [hresult.1] at hsuccess
  subst hone
  obtain ⟨hout, -, hfiles, herrors⟩ := hrefused rfl rfl
  obtain ⟨messages, hmessages, herror, -⟩ := herrors hresult.1
  refine ⟨hserves, after, hexecute, hout, ?_, messages, hmessages, ?_⟩
  · intro location hlocation
    rw [hfiles location hlocation]
    cases location <;> rfl
  · have hcount : "Error: " ++ (toString 2 ++ " parse error(s)\n") =
        "Error: 2 parse error(s)\n" := by decide +kernel
    rw [herror, hprinted, hresult.2, String.append_assoc, String.append_assoc]
    exact congrArg₂ (· ++ ·) (by simp [session]) hcount

/-- A message that holds a terminal sequence is not on standard error as it is. -/
theorem rejected_line_printed_without_sequence :
    let text := "erDiagram\nA \x7b\n\x1b[31mx\n\x7d"
    let session : Session := { web := [("u", .page 200 "OK" text)] }
    let words := ["parse", "--url", "u"]
    let error := "Line 3: Unable to parse attribute: \"\x1b[31mx\""
    session.Serves words (.parse ⟨none, some "u"⟩ none) text ∧
      (Reading.ofText text).result.errors = some [error] ∧
      (session.execute words).1 = .finished 1 ∧
      ¬ error.toList <:+: (session.execute words).2.standardError.toList := by
  intro text session words error
  have hread : CommandLine.read words = .ok (.command (.parse ⟨none, some "u"⟩ none)) := by
    have hleading : CommandLine.scanLeading words = .ok (false, words) := by decide +kernel
    have hscan : CommandLine.scan [("--url", .text), ("--out", .path)] words.tail =
        .ok ⟨[("--url", "u")], [], []⟩ := by decide +kernel
    rw [CommandLine.read_cons hleading rfl hscan (by decide +kernel) (by decide +kernel)]
    rfl
  refine ⟨⟨hread, by decide +kernel, by decide +kernel, ?_⟩, by decide +kernel⟩
  rintro path ⟨⟩

end Session

end EntityDiagram
