import EntityDiagram.Proofs.Session.Routine

/-! # Settings stay as they were loaded

Settings that are loaded stay until they are dropped, and nothing that is done with them looks at
the environment again. Loading them sets variables that are not set, and never changes one.
-/

namespace EntityDiagram

/-! ## Loading -/

/-- Every variable that is set has the same value later. -/
def Environment.KeptBy (environment later : Environment) : Prop :=
  ∀ name value, environment.get? name = some value → later.get? name = some value

/-- Nothing but the environment, the files and standard error has changed, and no variable that was
set. -/
structure Session.Loads (before after : Session) : Prop where
  frame : ∃ error files environment,
    after = { before with standardError := error, files := files, environment := environment }
  kept : before.environment.KeptBy after.environment

theorem Session.Loads.refl (session : Session) : session.Loads session :=
  ⟨⟨_, _, _, rfl⟩, fun _ _ hvalue => hvalue⟩

theorem Session.Loads.trans {before middle after : Session} (h : before.Loads middle)
    (hnext : middle.Loads after) : before.Loads after := by
  obtain ⟨_, _, _, rfl⟩ := h.frame
  obtain ⟨error, files, environment, hafter⟩ := hnext.frame
  exact ⟨⟨error, files, environment, hafter⟩,
    fun name value hvalue => hnext.kept name value (h.kept name value hvalue)⟩

/-- The action does not change more than the loading of settings may. -/
def Run.Loads {α : Type} (action : Run α) : Prop :=
  ∀ session : Session, session.Loads (action session).2

namespace Run.Loads

variable {α β : Type}

theorem of_same {action : Run α} (h : ∀ session, (action session).2 = session) : action.Loads := by
  intro session
  rw [h]
  exact .refl session

theorem of_sameUpToLog {action : Run α}
    (h : ∀ session : Session, session.SameUpToLog (action session).2) : action.Loads := by
  intro session
  obtain ⟨error, files, hafter⟩ := h session
  rw [hafter]
  exact ⟨⟨error, files, _, rfl⟩, fun _ _ hvalue => hvalue⟩

theorem bind {first : Run α} {second : α → Run β} (h : first.Loads)
    (hsecond : ∀ a, (second a).Loads) : (first >>= second).Loads := by
  intro session
  rcases snd_bind_cases first second session with hsame | ⟨a, hnext⟩
  · rw [hsame]
    exact h session
  · rw [hnext]
    exact (h session).trans (hsecond a _)

end Run.Loads

namespace Session

theorem loads_logAll (messages : List Log.Message) : (logAll messages).Loads :=
  .of_sameUpToLog (sameUpToLog_logAll messages)

theorem loads_setMissing (bindings : EnvFile.Bindings) : (setMissing bindings).Loads := by
  intro session
  have hkept : session.environment.KeptBy (session.environment.setMissing bindings).2 := by
    intro name value hvalue
    rw [Environment.get?_setMissing_of_isSome _ _ (Option.isSome_of_eq_some hvalue), hvalue]
  unfold setMissing
  split <;> next hset =>
    rw [hset] at hkept
    exact ⟨⟨_, _, _, rfl⟩, hkept⟩

theorem loads_loadEnvText (text : String) : (loadEnvText text).Loads :=
  (loads_logAll _).bind fun _ => .bind (.of_same fun _ => rfl) fun _ => loads_setMissing _

theorem loads_findEnvFile : findEnvFile.Loads := by
  refine .bind (.of_same fun _ => rfl) fun session => ?_
  split
  · exact .of_same fun _ => rfl
  · split
    · split
      · refine .bind (.of_same (snd_textOf _)) fun text => ?_
        exact (loads_loadEnvText text).bind fun _ => .of_same fun _ => rfl
      · exact .of_same fun _ => rfl
    · exact .of_same fun _ => rfl

theorem loads_readSettings : readSettings.Loads := by
  refine loads_findEnvFile.bind fun _ => .bind (.of_same fun _ => rfl) fun session => ?_
  split
  · exact .of_same fun _ => rfl
  · split
    · exact .of_same fun _ => rfl
    · refine .bind (.of_sameUpToLog fun before => ?_) fun _ => .of_same fun _ => rfl
      rw [makeDirectories_apply]
      exact ⟨_, _, rfl⟩

theorem settings_readSettings (session : Session) :
    (readSettings session).2.settings = session.settings := by
  obtain ⟨error, files, environment, hread⟩ := (loads_readSettings session).frame
  rw [hread]

theorem getSettings_of_some {session : Session} {settings : Settings}
    (h : session.settings = some settings) : getSettings session = (.ok settings, session) := by
  rw [getSettings, Run.get_bind, h]
  rfl

theorem getSettings_of_none {session : Session} (h : session.settings = none) :
    getSettings session =
      match readSettings session with
      | (.ok settings, next) => (.ok settings, { next with settings := some settings })
      | (.error failure, next) => (.error failure, next) := by
  rw [getSettings, Run.get_bind, h]
  match hread : readSettings session with
  | (.ok settings, next) => exact Run.bind_of_ok hread
  | (.error failure, next) => exact Run.bind_of_error hread

/-- Settings that were asked for are kept, and a failure to load them leaves none. -/
theorem settings_getSettings (session : Session) :
    (getSettings session).2.settings =
      match (getSettings session).1 with
      | .ok settings => some settings
      | .error _ => none := by
  cases hsettings : session.settings with
  | some settings => rw [getSettings_of_some hsettings, hsettings]
  | none =>
      have hkept := settings_readSettings session
      rw [getSettings_of_none hsettings]
      match hread : readSettings session with
      | (.ok settings, next) => rfl
      | (.error failure, next) =>
          rw [hread, hsettings] at hkept
          exact hkept

/-- Asking for the settings loads them at most, and keeps them. -/
theorem exists_snd_getSettings (session : Session) :
    ∃ loaded settings, session.Loads loaded ∧
      (getSettings session).2 = { loaded with settings := settings } := by
  cases hsettings : session.settings with
  | some settings =>
      rw [getSettings_of_some hsettings]
      exact ⟨session, some settings, .refl session, by rw [← hsettings]⟩
  | none =>
      have hloads := loads_readSettings session
      rw [getSettings_of_none hsettings]
      match hread : readSettings session with
      | (.ok settings, next) | (.error failure, next) =>
          rw [hread] at hloads
          exact ⟨next, _, hloads, rfl⟩

theorem keptBy_getSettings (session : Session) :
    session.environment.KeptBy (getSettings session).2.environment := by
  obtain ⟨loaded, settings, hloads, hasked⟩ := exists_snd_getSettings session
  rw [hasked]
  exact hloads.kept

theorem web_getSettings (session : Session) : (getSettings session).2.web = session.web := by
  obtain ⟨loaded, settings, hloads, hasked⟩ := exists_snd_getSettings session
  obtain ⟨error, files, environment, rfl⟩ := hloads.frame
  rw [hasked]

end Session

/-! ## Actions that rely on the settings alone -/

/-- The session with another environment. -/
def Session.withEnvironment (session : Session) (environment : Environment) : Session :=
  { session with environment }

/-- The action changes no variable that is set. Once the settings are loaded it keeps them, and does
the same in every environment. -/
structure Run.Steady {α : Type} (action : Run α) : Prop where
  kept : ∀ session : Session, session.environment.KeptBy (action session).2.environment
  settings : ∀ (session : Session) settings, session.settings = some settings →
    (action session).2.settings = some settings
  environment : ∀ (session : Session) settings, session.settings = some settings → ∀ environment,
    action (session.withEnvironment environment) =
      ((action session).1, (action session).2.withEnvironment environment)

namespace Run.Steady

variable {α β : Type}

theorem of_frame {action : Run α}
    (hsettings : ∀ session, (action session).2.settings = session.settings)
    (hsame : ∀ (session : Session) environment, action (session.withEnvironment environment) =
      ((action session).1, (action session).2.withEnvironment environment)) :
    action.Steady where
  kept session name value hvalue := by
    have h : action session = (_, (action session).2.withEnvironment session.environment) :=
      hsame session session.environment
    rw [h]
    exact hvalue
  settings session settings h := (hsettings session).trans h
  environment session _ _ := hsame session

theorem pure (a : α) : (Pure.pure a : Run α).Steady := .of_frame (fun _ => rfl) fun _ _ => rfl

theorem fail (failure : Failure) : (Run.fail failure : Run α).Steady :=
  .of_frame (fun _ => rfl) fun _ _ => rfl

theorem getSettings : Session.getSettings.Steady where
  kept := Session.keptBy_getSettings
  settings session settings h := by rw [Session.getSettings_of_some h, h]
  environment session settings h environment := by
    have hother : (session.withEnvironment environment).settings = some settings := h
    rw [Session.getSettings_of_some h, Session.getSettings_of_some hother]

theorem look {use : Session → Run α}
    (huse : ∀ (session : Session) environment,
      use (session.withEnvironment environment) = use session)
    (h : ∀ session, (use session).Steady) : (Run.get >>= use).Steady where
  kept session := (h session).kept session
  settings session := (h session).settings session
  environment session settings hsettings environment := by
    change use (session.withEnvironment environment) (session.withEnvironment environment) = _
    rw [huse]
    exact (h session).environment session settings hsettings environment

theorem bind {first : Run α} {second : α → Run β} (h : first.Steady)
    (hsecond : ∀ a, (second a).Steady) : (first >>= second).Steady := by
  constructor
  · intro session name value hvalue
    have hfirst := h.kept session name value hvalue
    rcases snd_bind_cases first second session with hsame | ⟨a, hnext⟩
    · rw [hsame]
      exact hfirst
    · rw [hnext]
      exact (hsecond a).kept _ name value hfirst
  · intro session settings hsettings
    have hfirst := h.settings session settings hsettings
    rcases snd_bind_cases first second session with hsame | ⟨a, hnext⟩
    · rw [hsame]
      exact hfirst
    · rw [hnext]
      exact (hsecond a).settings _ settings hfirst
  · intro session settings hsettings environment
    have hfirst := h.settings session settings hsettings
    have hother := h.environment session settings hsettings environment
    match hrun : first session with
    | (.error failure, next) =>
        rw [hrun] at hother
        rw [bind_of_error hrun, bind_of_error hother]
    | (.ok a, next) =>
        rw [hrun] at hother hfirst
        rw [bind_of_ok hrun, bind_of_ok hother]
        exact (hsecond a).environment next settings hfirst environment

theorem attempt {action : Run α} (h : action.Steady) : (Run.attempt action).Steady := by
  constructor
  · intro session
    rw [snd_attempt]
    exact h.kept session
  · intro session
    rw [snd_attempt]
    exact h.settings session
  · intro session settings hsettings environment
    have hother := h.environment session settings hsettings environment
    unfold Run.attempt
    rw [hother]
    match action session with
    | (.ok a, next) => rfl
    | (.error failure, next) => cases failure <;> rfl

/-- Once the settings are loaded, the action leaves the environment as it is. -/
theorem environment_eq {action : Run α} (h : action.Steady) {session : Session}
    {settings : Settings} (hsettings : session.settings = some settings) :
    (action session).2.environment = session.environment := by
  have hsame : action session = (_, (action session).2.withEnvironment session.environment) :=
    h.environment session settings hsettings session.environment
  rw [hsame]
  rfl

end Run.Steady

/-- Messages go where they go in any environment. -/
theorem Session.log_withEnvironment (message : Log.Message) (session : Session)
    (environment : Environment) :
    (log message (session.withEnvironment environment)).2 =
      (log message session).2.withEnvironment environment := by
  refine List.foldl_hom (Session.withEnvironment · environment) fun before target => ?_
  cases target <;> rfl

theorem Run.Routine.steady {α : Type} {action : Run α} (h : action.Routine) : action.Steady := by
  induction h with
  | pure a => exact .pure a
  | fail failure => exact .fail failure
  | look huse _ ih => exact .look (fun _ _ => huse _ _ rfl rfl) ih
  | moveTo location => exact .of_frame (fun _ => rfl) fun _ _ => rfl
  | makeDirectories path =>
      refine .of_frame (fun session => ?_) fun session environment => ?_
      · rw [Session.makeDirectories_apply]
      · rw [Session.makeDirectories_apply, Session.makeDirectories_apply]
        rfl
  | writeBytes path content =>
      refine .of_frame (fun session => ?_) fun session environment => ?_
      · obtain ⟨files, hwritten⟩ := Session.exists_snd_writeBytes path content session
        rw [hwritten]
      · cases hwrite : session.files.write session.here path content with
        | error error =>
            have hother : (session.withEnvironment environment).files.write
                (session.withEnvironment environment).here path content = .error error := hwrite
            rw [Session.writeBytes_of_error hwrite, Session.writeBytes_of_error hother]
        | ok files =>
            have hother : (session.withEnvironment environment).files.write
                (session.withEnvironment environment).here path content = .ok files := hwrite
            rw [Session.writeBytes_of_ok hwrite, Session.writeBytes_of_ok hother]
            rfl
  | printLine text => exact .of_frame (fun _ => rfl) fun _ _ => rfl
  | printError text => exact .of_frame (fun _ => rfl) fun _ _ => rfl
  | log message =>
      refine .of_frame (fun session => ?_) fun session environment => ?_
      · obtain ⟨error, files, hlog⟩ := Session.sameUpToLog_log message session
        rw [hlog]
      · exact congrArg (Prod.mk _) (Session.log_withEnvironment message session environment)
  | getSettings => exact .getSettings
  | request url timeout => exact .of_frame (fun _ => rfl) fun _ _ => rfl
  | bind _ _ ih ihsecond => exact ih.bind ihsecond
  | attempt _ ih => exact ih.attempt

/-! ## Steps -/

/-- Whether a step leaves variables and settings alone. -/
def Step.isSteady : Step → Bool
  | .setVariable _ _ | .getVariable _ | .findEnvFile | .resetSettings => false
  | _ => true

namespace Session

theorem steady_changeLogging (f : Log.Logging → Log.Logging) : (changeLogging f).Steady :=
  .of_frame (fun _ => rfl) fun _ _ => rfl

theorem steady_openLog (path : Path) : (openLog path).Steady := by
  refine .look (fun _ _ => rfl) fun session => ?_
  refine .bind (routine_ofFile _).steady fun found => ?_
  exact .bind (.of_frame (fun _ => rfl) fun _ _ => rfl) fun _ => .pure _

theorem steady_setUpLogging (level : Option String) (file : Option Path) :
    (setUpLogging level file).Steady := by
  refine .bind .getSettings fun settings => ?_
  dsimp only
  cases Log.Level.ofName (levelName settings level) with
  | error error => exact .fail _
  | ok level =>
      refine .bind (steady_changeLogging _) fun _ => ?_
      cases file.orElse fun _ => settings.logFile with
      | none => exact steady_changeLogging _
      | some path =>
          refine .bind (steady_openLog path) fun location => ?_
          exact .bind (steady_changeLogging _) fun _ => steady_changeLogging _

theorem steady_getLogger (name : String) : (getLogger name).Steady := by
  refine .look (fun _ _ => rfl) fun session => ?_
  split
  · exact (steady_setUpLogging none none).bind fun _ => .pure _
  · exact .pure _

theorem steady_execute (invocation : CommandLine.Invocation) : invocation.execute.Steady := by
  cases invocation with
  | help topic => exact (Command.routine_showHelp topic).steady
  | command asked =>
      exact (steady_setUpLogging none none).bind fun _ => (Command.routine_work asked).steady

theorem steady_runCommand (words : List String) : (runCommand words).Steady := by
  cases hread : CommandLine.read words with
  | error fault =>
      refine .of_frame (fun session => ?_) fun session environment => ?_
      · rw [runCommand, execute_of_read_error hread]
      · rw [runCommand, runCommand, execute_of_read_error hread, execute_of_read_error hread]
        rfl
  | ok invocation =>
      have hsteady := steady_execute invocation
      have hafter : ∀ session : Session,
          (runCommand words session).2 = (invocation.execute session).2 := by
        intro session
        rw [runCommand, execute_of_read_ok hread]
      constructor
      · intro session
        rw [hafter]
        exact hsteady.kept session
      · intro session
        rw [hafter]
        exact hsteady.settings session
      · intro session settings hsettings environment
        rw [runCommand, runCommand, execute_of_read_ok hread, execute_of_read_ok hread,
          hsteady.environment session settings hsettings environment]
        rfl

theorem steady_act {step : Step} (h : step.isSteady = true) : (act step).Steady := by
  cases step with
  | setVariable | getVariable | findEnvFile | resetSettings => cases h
  | setUpLogging level file =>
      exact (steady_setUpLogging level file).bind fun _ => .of_frame (fun _ => rfl) fun _ _ => rfl
  | log logger level text =>
      refine (steady_getLogger logger).bind fun _ => ?_
      exact (Run.Routine.log _).steady.bind fun _ => .pure _
  | command words => exact (steady_runCommand words).bind fun _ => .pure _
  | putFile | getFile | changeDirectory | getSettings | loadDiagram | fetch | saveSchema
  | loadSchema => exact (routine_act rfl).steady

theorem loads_act_findEnvFile : (act .findEnvFile).Loads :=
  .bind (.of_same fun _ => rfl) fun _ => loads_findEnvFile.bind fun _ => .of_same fun _ => rfl

/-- A variable that is set keeps its value in every step that does not set that variable. -/
theorem get?_step {session : Session} {step : Step} {name value : String}
    (h : session.environment.get? name = some value) (hset : ∀ new, step ≠ .setVariable name new) :
    (session.step step).2.environment.get? name = some value := by
  change (act step session.fresh).2.environment.get? name = some value
  cases step with
  | setVariable other new =>
      obtain ⟨environment, hact, hothers⟩ := exists_snd_act_setVariable other new session.fresh
      have hne : name ≠ other := fun heq => hset new (by rw [heq])
      rw [hact]
      exact (hothers name hne).trans h
  | getVariable | resetSettings => exact h
  | findEnvFile => exact (loads_act_findEnvFile session.fresh).kept name value h
  | _ => exact (steady_act rfl).kept session.fresh name value h

/-- Loaded settings are kept in every step but the one that drops them. -/
theorem settings_step {session : Session} {settings : Settings} {step : Step}
    (h : session.settings = some settings) (hreset : step ≠ .resetSettings) :
    (session.step step).2.settings = some settings := by
  change (act step session.fresh).2.settings = some settings
  cases step with
  | setVariable name value =>
      obtain ⟨environment, hact, -⟩ := exists_snd_act_setVariable name value session.fresh
      rw [hact]
      exact h
  | getVariable => exact h
  | resetSettings => exact absurd rfl hreset
  | findEnvFile =>
      obtain ⟨error, files, environment, hfound⟩ := (loads_act_findEnvFile session.fresh).frame
      rw [hfound]
      exact h
  | _ => exact (steady_act rfl).settings session.fresh settings h

/-- Once the settings are loaded, a step that neither sets a variable nor loads an environment file
leaves the environment as it is, and unless it shows a variable does the same in every other. -/
theorem step_withEnvironment {session : Session} {settings : Settings} {step : Step}
    (h : session.settings = some settings) (hset : ∀ name value, step ≠ .setVariable name value)
    (hfind : step ≠ .findEnvFile) :
    (session.step step).2.environment = session.environment ∧
      ∀ environment, (∀ name, step ≠ .getVariable name) →
        (session.withEnvironment environment).step step =
          ((session.step step).1, (session.step step).2.withEnvironment environment) := by
  by_cases hsteady : step.isSteady = true
  · have hact := steady_act hsteady
    have hfresh : session.fresh.settings = some settings := h
    refine ⟨hact.environment_eq hfresh, fun environment _ => ?_⟩
    have hother : act step (session.withEnvironment environment).fresh = _ :=
      hact.environment session.fresh settings hfresh environment
    rw [Session.step, hother]
    rfl
  · cases step with
    | setVariable name value => exact absurd rfl (hset name value)
    | findEnvFile => exact absurd rfl hfind
    | getVariable name => exact ⟨rfl, fun _ hget => absurd rfl (hget name)⟩
    | resetSettings => exact ⟨rfl, fun _ _ => rfl⟩
    | _ => exact absurd rfl hsteady

/-! ## Runs -/

theorem get?_run {session : Session} {steps : List Step} {name value : String}
    (h : session.environment.get? name = some value)
    (hset : ∀ new, Step.setVariable name new ∉ steps) :
    (session.run steps).2.environment.get? name = some value := by
  induction steps generalizing session with
  | nil => exact h
  | cons step rest ih =>
      have hstep : ∀ new, step ≠ .setVariable name new :=
        fun new heq => hset new (List.mem_cons.mpr (.inl heq.symm))
      exact ih (get?_step h hstep) fun new hmem => hset new (List.mem_cons_of_mem _ hmem)

theorem settings_run {session : Session} {steps : List Step} {settings : Settings}
    (h : session.settings = some settings) (hreset : Step.resetSettings ∉ steps) :
    (session.run steps).2.settings = some settings := by
  induction steps generalizing session with
  | nil => exact h
  | cons step rest ih =>
      have hstep : step ≠ .resetSettings := fun heq => hreset (List.mem_cons.mpr (.inl heq.symm))
      exact ih (settings_step h hstep) fun hmem => hreset (List.mem_cons_of_mem _ hmem)

/-- In every run a variable that is set keeps its value until a step sets that variable. Settings
that cannot be loaded are not kept. From settings that were loaded on, until a step drops them, they
are what everyone gets who asks for them; every step that neither sets variables nor loads an
environment file leaves the environment as it is, and unless it shows a variable does the same
whatever the environment is. -/
theorem settings_stable_until_reset (session : Session) (steps : List Step) :
    (∀ name value, session.environment.get? name = some value →
      (∀ new, Step.setVariable name new ∉ steps) →
        (session.run steps).2.environment.get? name = some value) ∧
    (∀ failure, (getSettings session).1 = .error failure →
      (getSettings session).2.settings = none) ∧
    ∀ settings, (getSettings session).1 = .ok settings → Step.resetSettings ∉ steps →
      let later := ((getSettings session).2.run steps).2
      getSettings later = (.ok settings, later) ∧
      ∀ step, (∀ name value, step ≠ .setVariable name value) → step ≠ .findEnvFile →
        (later.step step).2.environment = later.environment ∧
        ∀ environment, (∀ name, step ≠ .getVariable name) →
          (later.withEnvironment environment).step step =
            ((later.step step).1, (later.step step).2.withEnvironment environment) := by
  refine ⟨fun name value => get?_run, fun failure hfailed => ?_, fun settings hloaded hreset => ?_⟩
  · rw [settings_getSettings, hfailed]
  · have hsettings : (getSettings session).2.settings = some settings := by
      rw [settings_getSettings, hloaded]
    have hlater := settings_run hsettings hreset
    exact ⟨getSettings_of_some hlater, fun step => step_withEnvironment hlater⟩

/-- Variables, an environment file and the working directory change, and the settings do not. -/
theorem settings_stable_in_changed_environment :
    let session : Session := { environment := ⟨[("LOG_LEVEL", "error")]⟩ }
    let steps : List Step :=
      [.setVariable "LOG_LEVEL" (some "debug"),
        .putFile ⟨0, ["below", ".env"]⟩ "LOG_LEVEL=info\nMERMAID_DIAGRAM_URL=u".toUTF8,
        .changeDirectory ⟨0, ["below"]⟩, .findEnvFile, .setUpLogging none none]
    let later := ((getSettings session).2.run steps).2
    (getSettings session).1 = .ok { logLevel := "error" } ∧
      later.here = ["below"] ∧
      Settings.ofEnvironment later.environment =
        .ok { logLevel := "debug", diagramUrl := some "u" } ∧
      getSettings later = (.ok { logLevel := "error" }, later) := by
  intro session steps later
  have hloaded : (getSettings session).1 = .ok { logLevel := "error" } := by decide +kernel
  have hreset : Step.resetSettings ∉ steps := by simp [steps]
  refine ⟨hloaded, by decide +kernel, by decide +kernel, ?_⟩
  exact ((settings_stable_until_reset session steps).2.2 _ hloaded hreset).1

end Session

end EntityDiagram
