import EntityDiagram.Proofs.Session.FileTree
import EntityDiagram.Proofs.Session.SchemaFile
import EntityDiagram.Session.Source

/-! # What setting up logging and loading a diagram leave alone

Settings and diagrams are loaded without a word on standard output. What comes to standard error is
lines of messages, and of all files only log files change: directories may be made, but only where
nothing was.
-/

namespace EntityDiagram

/-! ## Files -/

namespace FileTree

/-- The content of the file at a location, if a file is there. -/
def file? (tree : FileTree) (location : Location) : Option ByteArray :=
  match tree.node? location with
  | some (.file content) => some content
  | _ => none

theorem file?_put_of_ne (tree : FileTree) {location other : Location} (node : Node)
    (h : other ≠ location) : (tree.put location node).file? other = tree.file? other := by
  simp only [file?, node?_put_of_ne tree node h]

theorem file?_put_directory {tree : FileTree} {location : Location}
    (h : tree.node? location = none) (other : Location) :
    (tree.put location .directory).file? other = tree.file? other := by
  by_cases hother : other = location
  · subst hother
    have hroot : other ≠ [] := by
      rintro rfl
      cases h
    simp only [file?, node?_put_self tree _ hroot, h]
  · exact file?_put_of_ne tree _ hother

theorem file?_append_of_ne (tree : FileTree) {location other : Location} (content : ByteArray)
    (h : other ≠ location) : (tree.append location content).file? other = tree.file? other := by
  unfold append
  split
  · exact file?_put_of_ne tree _ h
  · rfl

theorem file?_makeDirectory {tree made : FileTree} {here : Location} {path : Path}
    (h : tree.makeDirectory here path = .ok made) (location : Location) :
    made.file? location = tree.file? location := by
  unfold makeDirectory at h
  split at h
  · contradiction
  · contradiction
  · next place hplace =>
      cases h
      have hvacant := place_eq_ok (isFilePlace_of_place hplace (by simp))
      rw [hplace] at hvacant
      have hnone : tree.node? place = none := by simpa using hvacant.symm
      exact file?_put_directory hnone location

theorem file?_ensureDirectory {tree made : FileTree} {here : Location} {path : Path}
    (h : tree.ensureDirectory here path = .ok made) (location : Location) :
    made.file? location = tree.file? location := by
  unfold ensureDirectory at h
  split at h
  · next hmade =>
      cases h
      exact file?_makeDirectory hmade location
  · contradiction
  · split at h
    · cases h
      rfl
    · contradiction

theorem file?_ensureDirectories (tree : FileTree) (here : Location) (slashes : Nat)
    (names : List String) (location : Location) :
    (tree.ensureDirectories here slashes names).2.file? location = tree.file? location := by
  induction names with
  | nil => rfl
  | cons name front ih =>
      rw [ensureDirectories]
      split
      · next hmade => exact file?_ensureDirectory hmade location
      · split
        · next hway =>
            rw [hway] at ih
            exact ih
        · next hway =>
            rw [hway] at ih
            split
            · next hmade => exact (file?_ensureDirectory hmade location).trans ih
            · exact ih
      · rfl

theorem file?_openAppend {tree opened : FileTree} {here location other : Location} {path : Path}
    (h : tree.openAppend here path = .ok (location, opened)) (hother : other ≠ location) :
    opened.file? other = tree.file? other := by
  unfold openAppend at h
  split at h
  · contradiction
  · contradiction
  · cases h
    rfl
  · cases h
    exact file?_put_of_ne tree _ hother

end FileTree

/-! ## Messages -/

namespace Log

/-- The lines of messages, one after the other. -/
def lines : List Message → String
  | [] => ""
  | message :: rest => message.line ++ lines rest

theorem lines_append (messages more : List Message) :
    lines (messages ++ more) = lines messages ++ lines more := by
  induction messages with
  | nil => simp [lines]
  | cons message rest ih => simp [lines, ih, String.append_assoc]

/-- The log files. -/
def Logging.files (logging : Logging) : List Location :=
  logging.handlers.filterMap fun handler =>
    match handler.target with
    | .standardError => none
    | .file location => some location

theorem Logging.mem_files_of_mem_targets {logging : Logging} {message : Message}
    {location : Location} (h : .file location ∈ logging.targets message) :
    location ∈ logging.files := by
  unfold targets at h
  split at h
  · split at h
    · obtain ⟨handler, hhandler, htarget⟩ := List.mem_map.mp h
      refine List.mem_filterMap.mpr ⟨handler, (List.mem_filter.mp hhandler).1, ?_⟩
      rw [htarget]
    · cases h
  · split at h <;> simp at h

end Log

namespace Session

/-! ## What one session leaves alone of another -/

/-- Nothing was printed, what came to standard error is lines of messages of some kind, and files
changed at some places only. -/
structure WritesOnly (places : Location → Prop) (kind : Log.Message → Prop)
    (before after : Session) : Prop where
  standardOutput : after.standardOutput = before.standardOutput
  standardError : ∃ messages, (∀ message ∈ messages, kind message) ∧
    after.standardError = before.standardError ++ Log.lines messages
  files : ∀ location, ¬ places location →
    after.files.file? location = before.files.file? location

namespace WritesOnly

variable {places more : Location → Prop} {kind wider : Log.Message → Prop}
  {before middle after : Session}

theorem of_eq (hout : after.standardOutput = before.standardOutput)
    (herr : after.standardError = before.standardError)
    (hfiles : ∀ location, after.files.file? location = before.files.file? location) :
    WritesOnly places kind before after :=
  ⟨hout, ⟨[], by simp, by simp [Log.lines, herr]⟩, fun location _ => hfiles location⟩

theorem trans (h : WritesOnly places kind before middle)
    (hnext : WritesOnly places kind middle after) : WritesOnly places kind before after := by
  obtain ⟨messages, hkind, herr⟩ := h.standardError
  obtain ⟨messages', hkind', herr'⟩ := hnext.standardError
  refine ⟨hnext.standardOutput.trans h.standardOutput, ⟨messages ++ messages', ?_, ?_⟩, ?_⟩
  · intro message hmessage
    exact (List.mem_append.mp hmessage).elim (hkind message) (hkind' message)
  · rw [herr', herr, Log.lines_append, String.append_assoc]
  · intro location hlocation
    exact (hnext.files location hlocation).trans (h.files location hlocation)

theorem mono (h : WritesOnly places kind before after)
    (hplaces : ∀ location, places location → more location)
    (hkind : ∀ message, kind message → wider message) : WritesOnly more wider before after := by
  obtain ⟨messages, hmessages, herr⟩ := h.standardError
  refine ⟨h.standardOutput, ⟨messages, fun message hmem => hkind message (hmessages message hmem),
    herr⟩, fun location hlocation => h.files location fun hplace => ?_⟩
  exact hlocation (hplaces location hplace)

end WritesOnly

theorem writesOnly_deliver (message : Log.Message) (session : Session) (target : Log.Target) :
    session.WritesOnly (fun location => .file location = target) (· = message)
      (deliver message.line session target) := by
  cases target with
  | standardError => exact ⟨rfl, ⟨[message], by simp, by simp [deliver, Log.lines]⟩, fun _ _ => rfl⟩
  | file place =>
      refine ⟨rfl, ⟨[], by simp, by simp [deliver, Log.lines]⟩, fun location hlocation => ?_⟩
      exact FileTree.file?_append_of_ne _ _ fun h => hlocation (congrArg Log.Target.file h)

theorem writesOnly_log (message : Log.Message) (session : Session) :
    session.WritesOnly (fun location => .file location ∈ session.logging.targets message)
      (· = message) (log message session).2 := by
  refine log_of_deliver (R := WritesOnly _ _) (fun _ => .of_eq rfl rfl fun _ => rfl) .trans
    fun target htarget before => (writesOnly_deliver message before target).mono ?_ fun _ h => h
  rintro location rfl
  exact htarget

end Session

/-! ## Actions that only log -/

namespace Run

variable {α β : Type} {kind wider : Log.Message → Prop} {action : Run α}

/-- The action writes nothing but messages of some kind, to where logging sends them. -/
def Logs (kind : Log.Message → Prop) (action : Run α) : Prop :=
  ∀ session, (action session).2.logging = session.logging ∧
    session.WritesOnly
      (fun location => ∃ message, kind message ∧ .file location ∈ session.logging.targets message)
      kind (action session).2

namespace Logs

theorem of_eq (hlogging : ∀ session, (action session).2.logging = session.logging)
    (hout : ∀ session, (action session).2.standardOutput = session.standardOutput)
    (herr : ∀ session, (action session).2.standardError = session.standardError)
    (hfiles : ∀ session location,
      (action session).2.files.file? location = session.files.file? location) :
    action.Logs kind :=
  fun session => ⟨hlogging session, .of_eq (hout session) (herr session) (hfiles session)⟩

theorem of_same (h : ∀ session, (action session).2 = session) : action.Logs kind :=
  of_eq (fun session => by rw [h]) (fun session => by rw [h]) (fun session => by rw [h])
    fun session location => by rw [h]

theorem pure (a : α) : (Pure.pure a : Run α).Logs kind := of_same fun _ => rfl

theorem fail (failure : Failure) : (Run.fail failure : Run α).Logs kind := of_same fun _ => rfl

theorem get : Run.get.Logs kind := of_same fun _ => rfl

theorem ofFile (result : Except FileError α) : (Run.ofFile result).Logs kind := by
  cases result with
  | ok a => exact pure a
  | error error => exact fail (.file error)

theorem bind {second : α → Run β} (h : action.Logs kind) (hsecond : ∀ a, (second a).Logs kind) :
    (action >>= second).Logs kind := by
  intro session
  obtain ⟨hlogging, hwrites⟩ := h session
  rw [bind_apply]
  match hfirst : action session with
  | (.error failure, next) =>
      rw [hfirst] at hlogging hwrites
      exact ⟨hlogging, hwrites⟩
  | (.ok a, next) =>
      rw [hfirst] at hlogging hwrites
      obtain ⟨hlogging', hwrites'⟩ := hsecond a next
      rw [hlogging] at hwrites'
      exact ⟨hlogging'.trans hlogging, hwrites.trans hwrites'⟩

theorem mono (h : action.Logs kind) (hkind : ∀ message, kind message → wider message) :
    action.Logs wider := by
  intro session
  refine ⟨(h session).1, (h session).2.mono ?_ hkind⟩
  rintro location ⟨message, hmessage, hlocation⟩
  exact ⟨message, hkind message hmessage, hlocation⟩

/-- An action that only logs changes log files at most. -/
theorem writesOnly (h : action.Logs kind) (session : Session) :
    session.WritesOnly (· ∈ session.logging.files) kind (action session).2 := by
  refine (h session).2.mono ?_ fun _ hmessage => hmessage
  rintro location ⟨message, _, hlocation⟩
  exact Log.Logging.mem_files_of_mem_targets hlocation

end Logs

end Run

namespace Session

variable {kind : Log.Message → Prop}

theorem logs_log {message : Log.Message} (h : kind message) : (log message).Logs kind := by
  intro session
  obtain ⟨error, files, hlog⟩ := sameUpToLog_log message session
  refine ⟨by rw [hlog], (writesOnly_log message session).mono ?_ ?_⟩
  · intro location hlocation
    exact ⟨message, h, hlocation⟩
  · rintro _ rfl
    exact h

theorem logs_logAll {messages : List Log.Message} (h : ∀ message ∈ messages, kind message) :
    (logAll messages).Logs kind := by
  induction messages with
  | nil => exact .pure ()
  | cons message rest ih =>
      rw [List.forall_mem_cons] at h
      exact (logs_log h.1).bind fun _ => ih h.2

/-! ## Settings -/

/-- The message warns of a statement of an environment file. -/
def IsEnvFileWarning (message : Log.Message) : Prop := ∃ line, message = envFileWarning line

theorem targets_of_isEnvFileWarning {message : Log.Message} (h : IsEnvFileWarning message)
    (logging : Log.Logging) : logging.targets message = [.standardError] := by
  obtain ⟨line, rfl⟩ := h
  have hbelow : Log.isBelowTop "environment" = false := by decide
  simp [Log.Logging.targets, envFileWarning, hbelow]

theorem logs_textOf (content : ByteArray) : (textOf content).Logs kind := by
  unfold textOf
  split
  · exact .pure _
  · exact .fail _

theorem logs_readText (path : Path) : (readText path).Logs kind :=
  Run.Logs.get.bind fun _ => (Run.Logs.ofFile _).bind logs_textOf

theorem logs_isFile (path : Path) : (isFile path).Logs kind :=
  Run.Logs.get.bind fun _ => .ofFile _

theorem logs_makeDirectories (path : Path) : (makeDirectories path).Logs kind := by
  intro session
  have hfiles := session.files.file?_ensureDirectories session.here path.slashes path.parts.reverse
  unfold makeDirectories
  split <;> next hmade =>
    rw [FileTree.makeDirectories] at hmade
    rw [hmade] at hfiles
    exact ⟨rfl, .of_eq rfl rfl hfiles⟩

theorem logs_setMissing (bindings : EnvFile.Bindings) : (setMissing bindings).Logs kind := by
  intro session
  unfold setMissing
  split <;> exact ⟨rfl, .of_eq rfl rfl fun _ => rfl⟩

theorem logs_loadEnvText (text : String) : (loadEnvText text).Logs IsEnvFileWarning := by
  refine (logs_logAll ?_).bind fun _ => Run.Logs.get.bind fun _ => logs_setMissing _
  rw [List.forall_mem_map]
  exact fun line _ => ⟨line, rfl⟩

theorem logs_findEnvFile : findEnvFile.Logs IsEnvFileWarning := by
  refine Run.Logs.get.bind fun session => ?_
  split
  · exact .pure _
  · split
    · split
      · exact (logs_textOf _).bind fun text => (logs_loadEnvText text).bind fun _ => .pure _
      · exact .pure _
    · exact .pure _

theorem logs_readSettings : readSettings.Logs IsEnvFileWarning := by
  refine logs_findEnvFile.bind fun _ => Run.Logs.get.bind fun session => ?_
  split
  · exact .fail _
  · split
    · exact .pure _
    · exact (logs_makeDirectories _).bind fun _ => .pure _

theorem logs_getSettings : getSettings.Logs IsEnvFileWarning := by
  refine Run.Logs.get.bind fun session => ?_
  split
  · exact .pure _
  · refine logs_readSettings.bind fun settings => ?_
    refine Run.Logs.bind ?_ fun _ => .pure settings
    exact .of_eq (fun _ => rfl) (fun _ => rfl) (fun _ => rfl) fun _ _ => rfl

/-! ## Logging -/

theorem writesOnly_openLog {session opened : Session} {path : Path} {location : Location}
    (h : openLog path session = (.ok location, opened)) :
    opened.logging = session.logging ∧ session.WritesOnly (· = location) kind opened := by
  obtain ⟨_, _, hget, h⟩ := Run.exists_of_bind_eq_ok h
  cases hget
  obtain ⟨⟨place, files⟩, next, hopen, h⟩ := Run.exists_of_bind_eq_ok h
  match hfile : session.files.openAppend [] ⟨1, absolute session.here path⟩ with
  | .error error =>
      rw [hfile] at hopen
      cases hopen
  | .ok (place, files) =>
      rw [hfile] at hopen
      cases hopen
      cases h
      refine ⟨rfl, rfl, ⟨[], by simp, by simp [Log.lines]⟩, fun other hother => ?_⟩
      exact FileTree.file?_openAppend hfile hother

/-- Setting up logging changes no file but the log file, of which there is one at most. -/
theorem writesOnly_setUpLogging {session ready : Session} {level : Option String}
    {file : Option Path} (h : setUpLogging level file session = (.ok (), ready)) :
    ready.logging.files.length ≤ 1 ∧
      session.WritesOnly (· ∈ ready.logging.files) IsEnvFileWarning ready := by
  obtain ⟨settings, loaded, hsettings, h⟩ := Run.exists_of_bind_eq_ok h
  have hloaded : session.WritesOnly (· ∈ ready.logging.files) IsEnvFileWarning loaded := by
    have hwrites := (logs_getSettings session).2
    rw [hsettings] at hwrites
    refine hwrites.mono ?_ fun _ hmessage => hmessage
    rintro location ⟨message, hmessage, hlocation⟩
    rw [targets_of_isEnvFileWarning hmessage] at hlocation
    simp at hlocation
  dsimp only at h
  cases hlevel : Log.Level.ofName (levelName settings level) with
  | error error =>
      rw [hlevel] at h
      cases h
  | ok level =>
      rw [hlevel] at h
      obtain ⟨_, reset, hreset, h⟩ := Run.exists_of_bind_eq_ok h
      have hhandlers : reset.logging.handlers = [⟨.standardError, level⟩] := by
        cases hreset
        rfl
      have hquiet : session.WritesOnly (· ∈ ready.logging.files) IsEnvFileWarning reset := by
        cases hreset
        exact hloaded.trans (.of_eq rfl rfl fun _ => rfl)
      cases hpath : file.orElse fun _ => settings.logFile with
      | none =>
          rw [hpath] at h
          cases h
          refine ⟨?_, hquiet.trans (.of_eq rfl rfl fun _ => rfl)⟩
          simp [Log.Logging.files, hhandlers]
      | some path =>
          rw [hpath] at h
          obtain ⟨location, opened, hopened, h⟩ := Run.exists_of_bind_eq_ok h
          obtain ⟨hlogging, hopen⟩ := writesOnly_openLog hopened
          have hfiles : ready.logging.files = [location] := by
            cases h
            simp [Log.Logging.files, Log.Logging.addFile, hlogging, hhandlers]
          have hadded : opened.WritesOnly (· ∈ ready.logging.files) IsEnvFileWarning ready := by
            cases h
            exact .of_eq rfl rfl fun _ => rfl
          refine ⟨by simp [hfiles], (hquiet.trans (hopen.mono ?_ fun _ h => h)).trans hadded⟩
          rintro _ rfl
          simp [hfiles]

/-! ## Diagrams -/

/-- The messages that are logged while a diagram is loaded. -/
inductive IsLoadingMessage : Log.Message → Prop where
  | envFile (line : Nat) : IsLoadingMessage (envFileWarning line)
  | pathUsed (path : Path) : IsLoadingMessage (configuredPathUsed path)
  | pathMissing (path : Path) : IsLoadingMessage (configuredPathMissing path)
  | urlUsed (url : String) : IsLoadingMessage (configuredUrlUsed url)

theorem IsEnvFileWarning.isLoadingMessage {message : Log.Message} (h : IsEnvFileWarning message) :
    IsLoadingMessage message := by
  obtain ⟨line, rfl⟩ := h
  exact .envFile line

theorem logs_getSettings_loading : getSettings.Logs IsLoadingMessage :=
  logs_getSettings.mono fun _ h => h.isLoadingMessage

theorem logs_readDiagramFile (path : Path) : (readDiagramFile path).Logs kind := by
  refine (logs_isFile path).bind fun found => ?_
  split
  · exact logs_readText path
  · exact .fail _

theorem logs_request (url : String) (timeout : Numeral) : (request url timeout).Logs kind := by
  refine Run.Logs.bind ?_ fun _ => Run.Logs.get.bind fun _ => .pure _
  exact .of_eq (fun _ => rfl) (fun _ => rfl) (fun _ => rfl) fun _ _ => rfl

theorem logs_fetch (url : String) (timeout : Option Numeral) :
    (fetch url timeout).Logs IsLoadingMessage := by
  have htimeout : (timeoutFor timeout).Logs IsLoadingMessage := by
    cases timeout with
    | some timeout => exact .pure timeout
    | none => exact logs_getSettings_loading.bind fun _ => .pure _
  refine htimeout.bind fun timeout => (logs_request url timeout).bind fun reply => ?_
  split
  · exact .fail _
  · split
    · exact .fail _
    · exact .pure _

theorem logs_loadConfiguredUrl (settings : Settings) :
    (loadConfiguredUrl settings).Logs IsLoadingMessage := by
  unfold loadConfiguredUrl
  split
  · exact .fail _
  · split
    · exact .fail _
    · exact (logs_log (.urlUsed _)).bind fun _ => logs_fetch _ none

theorem logs_loadConfigured (settings : Settings) :
    (loadConfigured settings).Logs IsLoadingMessage := by
  unfold loadConfigured
  split
  · exact logs_loadConfiguredUrl settings
  · refine (logs_isFile _).bind fun found => ?_
    split
    · exact (logs_log (.pathUsed _)).bind fun _ => logs_readText _
    · exact (logs_log (.pathMissing _)).bind fun _ => logs_loadConfiguredUrl settings

theorem logs_loadDiagram (path : Option Path) (url : Option String) :
    (loadDiagram path url).Logs IsLoadingMessage := by
  unfold loadDiagram
  split
  · exact logs_readDiagramFile _
  · split
    · exact logs_getSettings_loading.bind logs_loadConfigured
    · exact logs_fetch _ none

end Session

end EntityDiagram
