import EntityDiagram.Proofs.Session.Footprint
import EntityDiagram.Proofs.Session.Routine

/-! # Where messages go in a run

Setting up logging takes several changes and may break off between them. After every run there is
all the same one handler for standard error, and at most one more, for the log file of the latest
call that changed the handlers. So a line goes to standard error and to that file, or to neither,
and a logger never has to set logging up.
-/

namespace EntityDiagram

namespace Log

/-- What logging is set up for: a level, and a log file if there is one. -/
structure SetUp where
  level : Level := Level.info
  file : Option Location := none
  deriving Repr, DecidableEq

namespace SetUp

/-- One handler for standard error and one more for the file, at the level of the logger. -/
def logging (setUp : SetUp) : Logging where
  level := setUp.level
  handlers := ⟨.standardError, setUp.level⟩ ::
    (setUp.file.map fun location => ⟨.file location, setUp.level⟩).toList
  propagates := false

end SetUp

end Log

/-! ## Files that stay -/

namespace FileTree

theorem isSome_file?_put_file {tree : FileTree} {other : Location}
    (h : (tree.file? other).isSome = true) (location : Location) (content : ByteArray) :
    ((tree.put location (.file content)).file? other).isSome = true := by
  by_cases hother : other = location
  · subst hother
    have hroot : other ≠ [] := by
      rintro rfl
      cases h
    simp [file?, node?_put_self tree _ hroot]
  · rwa [file?_put_of_ne tree _ hother]

theorem isSome_file?_append {tree : FileTree} {other : Location}
    (h : (tree.file? other).isSome = true) (location : Location) (content : ByteArray) :
    ((tree.append location content).file? other).isSome = true := by
  unfold append
  split
  · exact isSome_file?_put_file h location _
  · exact h

theorem isSome_file?_write {tree after : FileTree} {here other : Location} {path : Path}
    {content : ByteArray} (h : (tree.file? other).isSome = true)
    (hwrite : tree.write here path content = .ok after) : (after.file? other).isSome = true := by
  obtain ⟨location, hplace⟩ := exists_isFilePlace_of_write hwrite
  rw [write_of_isFilePlace hplace] at hwrite
  cases hwrite
  exact isSome_file?_put_file h location content

theorem isSome_file?_openAppend {tree opened : FileTree} {here location : Location} {path : Path}
    (h : tree.openAppend here path = .ok (location, opened)) :
    (opened.file? location).isSome = true := by
  unfold openAppend at h
  split at h
  · contradiction
  · contradiction
  · next place content hplace =>
      cases h
      have hnode := place_eq_ok (isFilePlace_of_place hplace (by simp))
      rw [hplace] at hnode
      have hfile : tree.node? location = some (.file content) := by simpa using hnode.symm
      simp [file?, hfile]
  · next place hplace =>
      cases h
      have hroot := (isFilePlace_of_place hplace (by simp)).ne_root
      simp [file?, node?_put_self tree _ hroot]

end FileTree

/-! ## Actions that leave logging as it is -/

/-- Logging is the same in both sessions, and files are still there. -/
structure Session.SameLogging (before after : Session) : Prop where
  logging : after.logging = before.logging
  files : ∀ location, (before.files.file? location).isSome = true →
    (after.files.file? location).isSome = true

namespace Session.SameLogging

theorem refl (session : Session) : session.SameLogging session := ⟨rfl, fun _ h => h⟩

theorem trans {before middle after : Session} (h : before.SameLogging middle)
    (hnext : middle.SameLogging after) : before.SameLogging after :=
  ⟨hnext.logging.trans h.logging,
    fun location hfile => hnext.files location (h.files location hfile)⟩

end Session.SameLogging

theorem Run.Logs.sameLogging {α : Type} {action : Run α} (h : action.Logs Session.IsEnvFileWarning)
    (session : Session) : session.SameLogging (action session).2 := by
  obtain ⟨hlogging, hwrites⟩ := h session
  refine ⟨hlogging, fun location hfile => ?_⟩
  rw [hwrites.files location]
  · exact hfile
  · rintro ⟨message, hmessage, hlocation⟩
    rw [Session.targets_of_isEnvFileWarning hmessage] at hlocation
    simp at hlocation

theorem Session.sameLogging_log (message : Log.Message) (session : Session) :
    session.SameLogging (log message session).2 := by
  refine log_of_deliver .refl .trans fun target _ before => ?_
  cases target with
  | standardError => exact ⟨rfl, fun _ h => h⟩
  | file location => exact ⟨rfl, fun _ h => FileTree.isSome_file?_append h location _⟩

theorem Run.Routine.sameLogging {α : Type} {action : Run α} (h : action.Routine)
    (session : Session) : session.SameLogging (action session).2 := by
  induction h generalizing session with
  | pure => exact .refl session
  | fail => exact .refl session
  | look _ _ ih => exact ih session session
  | moveTo => exact ⟨rfl, fun _ h => h⟩
  | makeDirectories path =>
      rw [Session.makeDirectories_apply]
      refine ⟨rfl, fun location hfile => ?_⟩
      have hsame := session.files.file?_ensureDirectories session.here path.slashes
        path.parts.reverse location
      change ((session.files.makeDirectories session.here path).2.file? location).isSome = true
      rwa [FileTree.makeDirectories, hsame]
  | writeBytes path content =>
      cases hwrite : session.files.write session.here path content with
      | error error =>
          rw [Session.writeBytes_of_error hwrite]
          exact .refl session
      | ok files =>
          rw [Session.writeBytes_of_ok hwrite]
          exact ⟨rfl, fun location hfile => FileTree.isSome_file?_write hfile hwrite⟩
  | printLine => exact ⟨rfl, fun _ h => h⟩
  | printError => exact ⟨rfl, fun _ h => h⟩
  | log message => exact Session.sameLogging_log message session
  | getSettings => exact Session.logs_getSettings.sameLogging session
  | request => exact ⟨rfl, fun _ h => h⟩
  | @bind _ _ first second _ _ ih ihsecond =>
      rcases snd_bind_cases first second session with hsame | ⟨a, hnext⟩
      · rw [hsame]
        exact ih session
      · rw [hnext]
        exact (ih session).trans (ihsecond a _)
  | attempt _ ih =>
      rw [snd_attempt]
      exact ih session

/-! ## Setting up -/

namespace Session

open Log (SetUp)

/-- The location of the file that a path opens as a log file. -/
def logFile? (session : Session) (path : Path) : Option Location :=
  match session.files.openAppend [] ⟨1, absolute session.here path⟩ with
  | .ok (location, _) => some location
  | .error _ => none

/-- What a call sets logging up for, unless the settings do not load or the level is unknown. A file
that cannot be opened is left out. -/
def setUp? (session : Session) (level : Option String) (file : Option Path) : Option SetUp :=
  match getSettings session with
  | (.error _, _) => none
  | (.ok settings, loaded) =>
      match Log.Level.ofName (levelName settings level) with
      | .error _ => none
      | .ok level => some ⟨level, (file.orElse fun _ => settings.logFile).bind loaded.logFile?⟩

/-- Messages go where they were set up to go, and the log file is there. -/
structure LogsTo (session : Session) (setUp : SetUp) : Prop where
  logging : session.logging = setUp.logging
  file : ∀ location, setUp.file = some location → (session.files.file? location).isSome = true

theorem LogsTo.of_sameLogging {session after : Session} {setUp : SetUp} (h : session.LogsTo setUp)
    (hsame : session.SameLogging after) : after.LogsTo setUp :=
  ⟨hsame.logging.trans h.logging,
    fun location hfile => hsame.files location (h.file location hfile)⟩

theorem LogsTo.handlers_ne_nil {session : Session} {setUp : SetUp} (h : session.LogsTo setUp) :
    session.logging.handlers ≠ [] := by
  rw [h.logging]
  exact List.cons_ne_nil _ _

/-- There are handlers, so that asking for a logger changes nothing. -/
theorem LogsTo.getLogger_eq {session : Session} {setUp : SetUp} (h : session.LogsTo setUp)
    (name : String) : getLogger name session = (.ok (Log.loggerName name), session) := by
  rw [getLogger, Run.get_bind, if_neg (mt List.isEmpty_iff.mp h.handlers_ne_nil)]
  rfl

theorem openLog_of_error {session : Session} {path : Path} {error : FileError}
    (h : session.files.openAppend [] ⟨1, absolute session.here path⟩ = .error error) :
    openLog path session = (.error (.file error), session) := by
  rw [openLog, Run.get_bind, h]
  rfl

theorem openLog_of_ok {session : Session} {path : Path} {location : Location} {files : FileTree}
    (h : session.files.openAppend [] ⟨1, absolute session.here path⟩ = .ok (location, files)) :
    openLog path session = (.ok location, { session with files }) := by
  rw [openLog, Run.get_bind, h]
  rfl

/-- A call that breaks off before it changes the level leaves logging as it was. Every other call
ends with logging set up, and if it breaks off then not because of the level. -/
theorem setUpLogging_cases (session : Session) (level : Option String) (file : Option Path)
    (h : session.logging.propagates = false) :
    (session.setUp? level file = none ∧
        session.SameLogging (setUpLogging level file session).2) ∨
      ∃ setUp, session.setUp? level file = some setUp ∧
        (setUpLogging level file session).2.LogsTo setUp ∧
        ∀ error, (setUpLogging level file session).1 ≠ .error (.level error) := by
  have hsame := logs_getSettings.sameLogging session
  unfold setUp?
  match hsettings : getSettings session with
  | (.error failure, loaded) =>
      rw [hsettings] at hsame
      rw [setUpLogging, Run.bind_of_error hsettings]
      exact .inl ⟨rfl, hsame⟩
  | (.ok settings, loaded) =>
      rw [hsettings] at hsame
      have hpropagates : loaded.logging.propagates = false := hsame.logging ▸ h
      rw [setUpLogging, Run.bind_of_ok hsettings]
      dsimp only
      cases Log.Level.ofName (levelName settings level) with
      | error error => exact .inl ⟨rfl, hsame⟩
      | ok level =>
          refine .inr ⟨_, rfl, ?_⟩
          cases file.orElse fun _ => settings.logFile with
          | none => exact ⟨⟨rfl, nofun⟩, nofun⟩
          | some path =>
              let reset : Session := { loaded with logging := loaded.logging.reset level }
              have hreset : changeLogging (fun logging => logging.reset level) loaded =
                  (.ok (), reset) := rfl
              dsimp only
              rw [Run.bind_of_ok hreset, Option.bind_some, logFile?]
              match hopen : loaded.files.openAppend [] ⟨1, absolute loaded.here path⟩ with
              | .error error =>
                  -- The logger is left as the set-up without a file leaves it.
                  have hfailed : openLog path reset = _ := openLog_of_error hopen
                  rw [Run.bind_of_error hfailed]
                  refine ⟨⟨?_, nofun⟩, nofun⟩
                  change loaded.logging.reset level = _
                  rw [Log.Logging.reset, hpropagates]
                  rfl
              | .ok (location, files) =>
                  have hopened : openLog path reset = _ := openLog_of_ok hopen
                  rw [Run.bind_of_ok hopened]
                  refine ⟨⟨rfl, ?_⟩, nofun⟩
                  rintro _ ⟨⟩
                  exact FileTree.isSome_file?_openAppend hopen

/-! ## Steps -/

theorem logsTo_setUpLogging {session : Session} {setUp : SetUp} (h : session.LogsTo setUp)
    (level : Option String) (file : Option Path) :
    (setUpLogging level file session).2.LogsTo ((session.setUp? level file).getD setUp) := by
  have hpropagates : session.logging.propagates = false := by rw [h.logging]; rfl
  rcases setUpLogging_cases session level file hpropagates with
    ⟨hnone, hsame⟩ | ⟨next, hsome, hlogs, -⟩
  · rw [hnone]
    exact h.of_sameLogging hsame
  · rw [hsome]
    exact hlogs

end Session

/-- The level and the file that a step sets up logging with, if it does. -/
def Step.loggingCall? : Step → Option (Option String × Option Path)
  | .setUpLogging level file => some (level, file)
  | .command words =>
      match CommandLine.read words with
      | .ok (.command _) => some (none, none)
      | _ => none
  | _ => none

namespace Session

open Log (SetUp)

/-- What a step sets logging up for, if it does. -/
def setUpBy? (session : Session) (step : Step) : Option SetUp :=
  step.loggingCall?.bind fun (level, file) => session.fresh.setUp? level file

theorem logsTo_bind {α β : Type} {first : Run α} {second : α → Run β} {session : Session}
    {setUp : SetUp} (h : (first session).2.LogsTo setUp)
    (hsecond : ∀ a (next : Session), next.SameLogging (second a next).2) :
    ((first >>= second) session).2.LogsTo setUp := by
  rcases Run.snd_bind_cases first second session with hsame | ⟨a, hnext⟩
  · rw [hsame]
    exact h
  · rw [hnext]
    exact h.of_sameLogging (hsecond a _)

theorem logsTo_runCommand {session : Session} {setUp : SetUp} (h : session.LogsTo setUp)
    (words : List String) :
    (runCommand words session).2.LogsTo
      (((Step.command words).loggingCall?.bind fun (level, file) =>
        session.setUp? level file).getD setUp) := by
  change (session.execute words).2.LogsTo _
  unfold Step.loggingCall?
  dsimp only
  cases hread : CommandLine.read words with
  | error fault =>
      rw [execute_of_read_error hread]
      exact h
  | ok invocation =>
      rw [execute_of_read_ok hread]
      cases invocation with
      | help topic => exact h.of_sameLogging ((Command.routine_showHelp topic).sameLogging session)
      | command asked =>
          exact logsTo_bind (logsTo_setUpLogging h none none) fun _ next =>
            asked.routine_work.sameLogging next

theorem logsTo_step {session : Session} {setUp : SetUp} (h : session.LogsTo setUp) (step : Step) :
    (session.step step).2.LogsTo ((session.setUpBy? step).getD setUp) := by
  have hfresh : session.fresh.LogsTo setUp := ⟨h.logging, h.file⟩
  change (act step session.fresh).2.LogsTo _
  cases step with
  | setUpLogging level file =>
      exact logsTo_bind (logsTo_setUpLogging hfresh level file) fun _ next => .refl next
  | command words => exact logsTo_bind (logsTo_runCommand hfresh words) fun _ next => .refl next
  | findEnvFile =>
      refine hfresh.of_sameLogging (Run.Logs.sameLogging ?_ session.fresh)
      exact Run.Logs.get.bind fun _ => logs_findEnvFile.bind fun _ => .pure _
  | setVariable name value =>
      obtain ⟨environment, hact, -⟩ := exists_snd_act_setVariable name value session.fresh
      rw [hact]
      exact ⟨h.logging, h.file⟩
  | getVariable | resetSettings => exact ⟨h.logging, h.file⟩
  | log logger level text =>
      rw [act, Run.bind_of_ok (hfresh.getLogger_eq logger)]
      exact hfresh.of_sameLogging (sameLogging_log _ session.fresh)
  | _ => exact hfresh.of_sameLogging ((routine_act rfl).sameLogging session.fresh)

/-- What the steps of a run set logging up for, in order. -/
def setUps (session : Session) : List Step → List SetUp
  | [] => []
  | step :: rest => (session.setUpBy? step).toList ++ (session.step step).2.setUps rest

theorem logsTo_run {session : Session} {setUp : SetUp} (h : session.LogsTo setUp)
    (steps : List Step) :
    (session.run steps).2.LogsTo ((session.setUps steps).getLast?.getD setUp) := by
  induction steps generalizing session setUp with
  | nil => exact h
  | cons step rest ih =>
      have hlatest : (session.setUps (step :: rest)).getLast?.getD setUp =
          ((session.step step).2.setUps rest).getLast?.getD
            ((session.setUpBy? step).getD setUp) := by
        rw [setUps, List.getLast?_append]
        cases ((session.step step).2.setUps rest).getLast? with
        | some last => rfl
        | none => cases session.setUpBy? step <;> rfl
      rw [hlatest]
      exact ih (logsTo_step h step)

/-- Asking for a logger would set up logging without handlers, but after no run are there none. -/
theorem getLogger_run {session : Session} (h : session.logging = {}) (steps : List Step)
    (name : String) :
    getLogger name (session.run steps).2 = (.ok (Log.loggerName name), (session.run steps).2) :=
  (logsTo_run (⟨h, nofun⟩ : session.LogsTo {}) steps).getLogger_eq name

end Session

end EntityDiagram
