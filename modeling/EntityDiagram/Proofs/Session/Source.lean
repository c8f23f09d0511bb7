import EntityDiagram.Proofs.Session.Shape
import EntityDiagram.Proofs.Session.Snapshot

/-! # The sources of a diagram

A given file comes before a given address, and both before the file and the address of the settings.
`origin` computes the first source there is, and `Chooses` says which one is to be taken and what is
logged before. They agree, and loading a diagram takes that source, unless the name of a configured
file is too long: looking for that file fails.
-/

namespace EntityDiagram

/-- Where the text of a diagram comes from. -/
inductive Origin where
  | file (path : Path)
  | page (url : String)
  | nowhere
  deriving Repr, DecidableEq

/-- The requests that a source takes: one for a page, with the timeout of the settings. -/
def Origin.requests (settings : Settings) : Origin → List Request
  | page url => [⟨url, .float settings.urlTimeout⟩]
  | file _ | nowhere => []

namespace FileTree

/-- A path leads to a file, or to none, or has a name that is too long. -/
theorem isFile_cases (tree : FileTree) (here : Location) (path : Path) :
    (∃ location content, tree.find here path = .ok (location, .file content) ∧
        tree.isFile here path = .ok true) ∨
      (tree.find here path = .error .nameTooLong ∧
        tree.isFile here path = .error .nameTooLong) ∨
      ((∀ location content, tree.find here path ≠ .ok (location, .file content)) ∧
        tree.find here path ≠ .error .nameTooLong ∧ tree.isFile here path = .ok false) := by
  unfold FileTree.isFile probe
  match tree.find here path with
  | .ok (location, .file content) => exact .inl ⟨location, content, rfl, rfl⟩
  | .ok (location, .directory) => exact .inr (.inr ⟨nofun, nofun, rfl⟩)
  | .error .nameTooLong => exact .inr (.inl ⟨rfl, rfl⟩)
  | .error .notFound | .error .notDirectory | .error .isDirectory | .error .alreadyExists
  | .error .nullCharacter => exact .inr (.inr ⟨nofun, nofun, rfl⟩)

end FileTree

namespace Session

/-! ## Sources in order -/

/-- The address of the settings, if there is one. -/
def configuredPage (settings : Settings) : Option Origin :=
  (settings.diagramUrl.filter (· ≠ "")).map Origin.page

theorem configuredPage_of_url {settings : Settings} {url : String}
    (h : settings.diagramUrl = some url) (hne : url ≠ "") :
    configuredPage settings = some (.page url) := by
  simp [configuredPage, h, hne]

theorem configuredPage_of_no_url {settings : Settings} (h : settings.diagramUrl.getD "" = "") :
    configuredPage settings = none := by
  refine Option.map_eq_none_iff.mpr (Option.filter_eq_none_iff.mpr fun url hurl => ?_)
  simpa [hurl] using h

/-- The first source there is: a given file, a given address, the file of the settings unless it is
not there, and the address of the settings. An empty address is none. -/
def origin (session : Session) (settings : Settings) (path : Option Path) (url : Option String) :
    Origin :=
  let isThere := fun path => decide (session.files.isFile session.here path ≠ .ok false)
  (path.map Origin.file <|> (url.filter (· ≠ "")).map Origin.page <|>
    (settings.diagramPath.filter isThere).map Origin.file <|> configuredPage settings).getD .nowhere

theorem origin_of_url (session : Session) (settings : Settings) {url : Option String}
    (h : url.getD "" ≠ "") : session.origin settings none url = .page (url.getD "") := by
  cases url with
  | none => exact absurd rfl h
  | some url =>
      have hurl : url ≠ "" := h
      have hfilter : (some url).filter (· ≠ "") = some url :=
        Option.filter_eq_some_iff.mpr ⟨rfl, decide_eq_true hurl⟩
      rw [origin, hfilter]
      rfl

theorem origin_of_no_url (session : Session) (settings : Settings) {url : Option String}
    (h : url.getD "" = "") :
    session.origin settings none url = session.origin settings none none := by
  have hfilter : url.filter (· ≠ "") = none := by
    refine Option.filter_eq_none_iff.mpr fun found hfound => ?_
    subst hfound
    simpa using h
  rw [origin, hfilter]
  rfl

theorem origin_of_isFile {session : Session} {settings : Settings} {path : Path}
    (hpath : settings.diagramPath = some path)
    (h : session.files.isFile session.here path ≠ .ok false) :
    session.origin settings none none = .file path := by
  have hfilter : (some path).filter (fun path =>
      decide (session.files.isFile session.here path ≠ .ok false)) = some path :=
    Option.filter_eq_some_iff.mpr ⟨rfl, decide_eq_true h⟩
  rw [origin, hpath, hfilter]
  rfl

theorem origin_of_missing {session : Session} {settings : Settings}
    (h : ∀ path, settings.diagramPath = some path →
      session.files.isFile session.here path = .ok false) :
    session.origin settings none none = (configuredPage settings).getD .nowhere := by
  have hfilter : settings.diagramPath.filter (fun path =>
      decide (session.files.isFile session.here path ≠ .ok false)) = none :=
    Option.filter_eq_none_iff.mpr fun path hpath => by simpa using h path hpath
  rw [origin, hfilter]
  rfl

/-- What is read from a source. -/
def textFrom (session : Session) : Origin → Except Failure String
  | .file path =>
      match session.files.isFile session.here path with
      | .error error => .error (.file error)
      | .ok false => .error (.source (.fileNotFound path))
      | .ok true => (readText path session).1
  | .page url =>
      match session.replyAt url with
      | .unreachable reason => .error (.source (.fetchFailed url reason))
      | .page status reason text =>
          match statusFault? url status reason with
          | some fault => .error (.source (.fetchFailed url fault))
          | none => .ok text
  | .nowhere => .error (.source .noSource)

theorem isFile_apply (path : Path) (session : Session) :
    isFile path session =
      (match session.files.isFile session.here path with
        | .ok found => .ok found
        | .error error => .error (.file error), session) := by
  rw [isFile, Run.get_bind]
  cases session.files.isFile session.here path <;> rfl

theorem snd_readText (path : Path) (session : Session) : (readText path session).2 = session := by
  rw [readText, Run.get_bind]
  cases session.files.read session.here path with
  | error error => rfl
  | ok content => exact snd_textOf content session

theorem readText_of_isFile {session : Session} {path : Path}
    (h : session.files.isFile session.here path = .ok true) :
    readText path session = (session.textFrom (.file path), session) := by
  rw [textFrom, h]
  exact Prod.ext rfl (snd_readText path session)

theorem readDiagramFile_apply (path : Path) (session : Session) :
    readDiagramFile path session = (session.textFrom (.file path), session) := by
  have hisFile := isFile_apply path session
  match hfound : session.files.isFile session.here path with
  | .error error =>
      rw [hfound] at hisFile
      rw [readDiagramFile, Run.bind_of_error hisFile, textFrom, hfound]
  | .ok false =>
      rw [hfound] at hisFile
      rw [readDiagramFile, Run.bind_of_ok hisFile, textFrom, hfound]
      rfl
  | .ok true =>
      rw [hfound] at hisFile
      rw [readDiagramFile, Run.bind_of_ok hisFile]
      exact readText_of_isFile hfound

/-! ## Messages and requests -/

/-- The session after messages were issued and requests were made. -/
def issuing (session : Session) (messages : List Log.Message) (requests : List Request) : Session :=
  { (logAll messages session).2 with requests := session.requests ++ requests }

theorem issuing_nil (session : Session) (messages : List Log.Message) :
    session.issuing messages [] = (logAll messages session).2 := by
  obtain ⟨error, files, hlog⟩ := sameUpToLog_logAll messages session
  rw [issuing, hlog, List.append_nil]

theorem log_apply (message : Log.Message) (session : Session) :
    log message session = (.ok (), session.issuing [message] []) := by
  rw [issuing_nil]
  rfl

theorem issuing_issuing (session : Session) (messages more : List Log.Message)
    (requests : List Request) :
    (session.issuing messages []).issuing more requests =
      session.issuing (messages ++ more) requests := by
  obtain ⟨error, files, hlog⟩ := sameUpToLog_logAll messages session
  rw [issuing_nil, issuing, issuing, snd_logAll_append, hlog]

theorem settings_issuing (session : Session) (messages : List Log.Message)
    (requests : List Request) :
    (session.issuing messages requests).settings = session.settings := by
  obtain ⟨error, files, hlog⟩ := sameUpToLog_logAll messages session
  rw [issuing, hlog]

theorem samePlaces_issuing (session : Session) (messages : List Log.Message)
    (requests : List Request) : session.SamePlaces (session.issuing messages requests) :=
  ⟨(samePlaces_logAll messages session).here, (samePlaces_logAll messages session).files⟩

/-! ## Loading -/

theorem isFile_of_samePlaces {session later : Session} (h : session.SamePlaces later)
    (path : Path) :
    later.files.isFile later.here path = session.files.isFile session.here path := by
  rw [h.here, h.files.isFile]

/-- A request is made, and the page that it is for is read. -/
theorem fetch_of_getSettings {session loaded : Session} {settings : Settings}
    (h : getSettings session = (.ok settings, loaded)) (url : String) :
    let after := loaded.issuing [] (Origin.requests settings (.page url))
    fetch url none session = (after.textFrom (.page url), after) := by
  intro after
  have htimeout : timeoutFor none session = (.ok (.float settings.urlTimeout), loaded) := by
    rw [timeoutFor, Run.bind_of_ok h]
    rfl
  have hrequest : request url (.float settings.urlTimeout) loaded =
      (.ok (after.replyAt url), after) := rfl
  rw [fetch, Run.bind_of_ok htimeout, Run.bind_of_ok hrequest, textFrom]
  cases after.replyAt url with
  | unreachable reason => rfl
  | page status reason text =>
      dsimp only
      cases statusFault? url status reason <;> rfl

theorem loadDiagram_of_url (session : Session) {url : Option String} (hurl : url.getD "" ≠ "") :
    loadDiagram none url session = fetch (url.getD "") none session := by
  rw [loadDiagram, if_neg (mt String.isEmpty_iff.mp hurl)]

theorem loadConfiguredUrl_of_url {session : Session} {settings : Settings} {url : String}
    (h : session.settings = some settings) (hurl : settings.diagramUrl = some url)
    (hne : url ≠ "") :
    let after := session.issuing [configuredUrlUsed url] (Origin.requests settings (.page url))
    loadConfiguredUrl settings session = (after.textFrom (.page url), after) := by
  have hlogged : (session.issuing [configuredUrlUsed url] []).settings = some settings :=
    (settings_issuing session _ _).trans h
  have hfetch := fetch_of_getSettings (getSettings_of_some hlogged) url
  rw [issuing_issuing] at hfetch
  rw [loadConfiguredUrl, hurl]
  dsimp only
  rw [if_neg (mt String.isEmpty_iff.mp hne), Run.bind_of_ok (log_apply _ session)]
  exact hfetch

theorem loadConfiguredUrl_of_no_url {settings : Settings} (h : settings.diagramUrl.getD "" = "")
    (session : Session) :
    loadConfiguredUrl settings session = (session.textFrom .nowhere, session) := by
  unfold loadConfiguredUrl
  cases hurl : settings.diagramUrl with
  | none => rfl
  | some url =>
      obtain rfl : url = "" := by simpa [hurl] using h
      rfl

theorem loadConfigured_of_isFile {session : Session} {settings : Settings} {path : Path}
    (hpath : settings.diagramPath = some path)
    (hfile : session.files.isFile session.here path = .ok true) :
    let after := session.issuing [configuredPathUsed path] []
    loadConfigured settings session = (after.textFrom (.file path), after) := by
  intro after
  have hisFile := isFile_apply path session
  have hafter : after.files.isFile after.here path = .ok true :=
    (isFile_of_samePlaces (samePlaces_issuing session _ _) path).trans hfile
  rw [hfile] at hisFile
  rw [loadConfigured, hpath]
  refine (Run.bind_of_ok hisFile).trans ?_
  rw [if_pos rfl, Run.bind_of_ok (log_apply _ session), readText_of_isFile hafter]

theorem loadConfigured_of_error {session : Session} {settings : Settings} {path : Path}
    {error : FileError} (hpath : settings.diagramPath = some path)
    (hfile : session.files.isFile session.here path = .error error) :
    loadConfigured settings session = (.error (.file error), session) := by
  have hisFile := isFile_apply path session
  rw [hfile] at hisFile
  rw [loadConfigured, hpath]
  exact Run.bind_of_error hisFile

/-- A configured file that is not there is warned of, and gives way to the configured address. -/
theorem loadConfigured_of_missing {session : Session} {settings : Settings}
    (h : ∀ path, settings.diagramPath = some path →
      session.files.isFile session.here path = .ok false) :
    loadConfigured settings session = loadConfiguredUrl settings
      (session.issuing (settings.diagramPath.toList.map configuredPathMissing) []) := by
  unfold loadConfigured
  cases hpath : settings.diagramPath with
  | none => rw [issuing_nil]; rfl
  | some path =>
      have hisFile := isFile_apply path session
      rw [h path hpath] at hisFile
      refine (Run.bind_of_ok hisFile).trans ?_
      rw [if_neg Bool.false_ne_true, Run.bind_of_ok (log_apply _ session)]
      rfl

/-! ## The choice -/

/-- A path leads to a file. -/
def HasFile (session : Session) (path : Path) : Prop :=
  ∃ location content, session.files.find session.here path = .ok (location, .file content)

/-- The source that is to be taken for a given path and address, if there are any, with the messages
that are issued before. An empty address is none. -/
inductive Chooses (session : Session) (settings : Settings) :
    Option Path → Option String → Origin → List Log.Message → Prop where
  | givenFile (path : Path) (url : Option String) :
      Chooses session settings (some path) url (.file path) []
  | givenAddress {url : String} (hurl : url ≠ "") :
      Chooses session settings none (some url) (.page url) []
  | configuredFile {url : Option String} {path : Path} (hurl : url.getD "" = "")
      (hpath : settings.diagramPath = some path) (hfile : session.HasFile path) :
      Chooses session settings none url (.file path) [configuredPathUsed path]
  | configuredAddress {url : Option String} {address : String} (hurl : url.getD "" = "")
      (hpath : ∀ path, settings.diagramPath = some path → ¬ session.HasFile path)
      (haddress : settings.diagramUrl = some address) (hne : address ≠ "") :
      Chooses session settings none url (.page address)
        (settings.diagramPath.toList.map configuredPathMissing ++ [configuredUrlUsed address])
  | nowhere {url : Option String} (hurl : url.getD "" = "")
      (hpath : ∀ path, settings.diagramPath = some path → ¬ session.HasFile path)
      (haddress : settings.diagramUrl.getD "" = "") :
      Chooses session settings none url .nowhere
        (settings.diagramPath.toList.map configuredPathMissing)

/-- Loading ends with what the source holds, after the messages and the requests for it, and changes
nothing else. -/
def Takes (session : Session) (settings : Settings) (path : Option Path) (url : Option String)
    (origin : Origin) (messages : List Log.Message) : Prop :=
  let after := session.issuing messages (origin.requests settings)
  loadDiagram path url session = (after.textFrom origin, after)

/-- The file of the settings is looked for, and has a name that is too long. -/
structure IsBlocked (session : Session) (settings : Settings) (path : Option Path)
    (url : Option String) : Prop where
  path : path = none
  url : url.getD "" = ""
  name : ∃ file, settings.diagramPath = some file ∧
    session.files.find session.here file = .error .nameTooLong

variable {session : Session} {settings : Settings} {path : Option Path} {url : Option String}
  {origin : Origin} {messages : List Log.Message}

theorem isFile_of_hasFile {file : Path} (h : session.HasFile file) :
    session.files.isFile session.here file = .ok true := by
  obtain ⟨location, content, hfind⟩ := h
  rw [FileTree.isFile, FileTree.probe, hfind]

theorem isFile_of_nameTooLong {file : Path}
    (h : session.files.find session.here file = .error .nameTooLong) :
    session.files.isFile session.here file = .error .nameTooLong := by
  rw [FileTree.isFile, FileTree.probe, h]

theorem isFile_of_not_hasFile {file : Path} (h : ¬ session.HasFile file)
    (hname : session.files.find session.here file ≠ .error .nameTooLong) :
    session.files.isFile session.here file = .ok false := by
  rcases session.files.isFile_cases session.here file with
    ⟨location, content, hfind, -⟩ | ⟨hfind, -⟩ | ⟨-, -, hfile⟩
  · exact absurd ⟨location, content, hfind⟩ h
  · exact absurd hfind hname
  · exact hfile

theorem loadDiagram_of_no_url {loaded : Session} (h : getSettings session = (.ok settings, loaded))
    (hurl : url.getD "" = "") :
    loadDiagram none url session = loadConfigured settings loaded := by
  rw [loadDiagram, if_pos (String.isEmpty_iff.mpr hurl), Run.bind_of_ok h]

theorem exists_chooses (session : Session) (settings : Settings) (path : Option Path)
    (url : Option String) :
    ∃ origin messages, session.Chooses settings path url origin messages := by
  cases path with
  | some path => exact ⟨_, _, .givenFile path url⟩
  | none =>
      by_cases hurl : url.getD "" = ""
      · by_cases hfile : ∃ path, settings.diagramPath = some path ∧ session.HasFile path
        · obtain ⟨path, hpath, hfile⟩ := hfile
          exact ⟨_, _, .configuredFile hurl hpath hfile⟩
        · have hmissing : ∀ path, settings.diagramPath = some path → ¬ session.HasFile path :=
            fun path hpath hthere => hfile ⟨path, hpath, hthere⟩
          match haddress : settings.diagramUrl with
          | none => exact ⟨_, _, .nowhere hurl hmissing (by rw [haddress]; rfl)⟩
          | some address =>
              by_cases hne : address = ""
              · exact ⟨_, _, .nowhere hurl hmissing (by rw [haddress]; exact hne)⟩
              · exact ⟨_, _, .configuredAddress hurl hmissing haddress hne⟩
      · match url with
        | none => exact absurd rfl hurl
        | some url => exact ⟨_, _, .givenAddress hurl⟩

theorem isFile_of_not_isBlocked (h : ¬ session.IsBlocked settings none url)
    (hurl : url.getD "" = "")
    (hnone : ∀ file, settings.diagramPath = some file → ¬ session.HasFile file) (file : Path)
    (hfile : settings.diagramPath = some file) :
    session.files.isFile session.here file = .ok false :=
  isFile_of_not_hasFile (hnone file hfile) fun hlong => h ⟨rfl, hurl, file, hfile, hlong⟩

/-- What is chosen is taken, unless looking for the file of the settings fails. -/
theorem Chooses.takes (h : session.Chooses settings path url origin messages)
    (hsettings : session.settings = some settings)
    (hblocked : ¬ session.IsBlocked settings path url) :
    session.Takes settings path url origin messages := by
  unfold Takes
  cases h with
  | givenFile path =>
      have hsame : session.issuing [] (Origin.requests settings (.file path)) = session :=
        issuing_nil session []
      rw [hsame]
      exact readDiagramFile_apply path session
  | @givenAddress url hurl =>
      have hload : loadDiagram none (some url) session = fetch url none session :=
        loadDiagram_of_url session hurl
      rw [hload]
      exact fetch_of_getSettings (getSettings_of_some hsettings) url
  | configuredFile hurl hpath hfile =>
      rw [loadDiagram_of_no_url (getSettings_of_some hsettings) hurl]
      exact loadConfigured_of_isFile hpath (isFile_of_hasFile hfile)
  | configuredAddress hurl hpath haddress hne =>
      rw [loadDiagram_of_no_url (getSettings_of_some hsettings) hurl,
        loadConfigured_of_missing (isFile_of_not_isBlocked hblocked hurl hpath), ← issuing_issuing]
      exact loadConfiguredUrl_of_url ((settings_issuing session _ _).trans hsettings) haddress hne
  | nowhere hurl hpath haddress =>
      rw [loadDiagram_of_no_url (getSettings_of_some hsettings) hurl,
        loadConfigured_of_missing (isFile_of_not_isBlocked hblocked hurl hpath)]
      exact loadConfiguredUrl_of_no_url haddress _

theorem IsBlocked.loadDiagram_eq (h : session.IsBlocked settings path url)
    (hsettings : session.settings = some settings) :
    loadDiagram path url session = (.error (.file .nameTooLong), session) := by
  obtain ⟨rfl, hurl, file, hfile, hlong⟩ := h
  rw [loadDiagram_of_no_url (getSettings_of_some hsettings) hurl]
  exact loadConfigured_of_error hfile (isFile_of_nameTooLong hlong)

/-! ## The first source -/

theorem origin_of_samePlaces {later : Session} (h : session.SamePlaces later) :
    later.origin settings path url = session.origin settings path url := by
  simp only [Session.origin, isFile_of_samePlaces h]

theorem IsBlocked.origin_eq {file : Path} (h : session.IsBlocked settings path url)
    (hfile : settings.diagramPath = some file) :
    session.origin settings path url = .file file := by
  obtain ⟨rfl, hurl, other, hother, hlong⟩ := h
  obtain rfl : other = file := Option.some.inj (hother.symm.trans hfile)
  rw [origin_of_no_url session settings hurl]
  exact origin_of_isFile hfile (by simp [isFile_of_nameTooLong hlong])

theorem Chooses.origin_eq (h : session.Chooses settings path url origin messages)
    (hblocked : ¬ session.IsBlocked settings path url) :
    session.origin settings path url = origin := by
  cases h with
  | givenFile => rfl
  | @givenAddress url hurl => exact @origin_of_url session settings (some url) hurl
  | configuredFile hurl hpath hfile =>
      rw [origin_of_no_url session settings hurl]
      exact origin_of_isFile hpath (by simp [isFile_of_hasFile hfile])
  | configuredAddress hurl hpath haddress hne =>
      rw [origin_of_no_url session settings hurl,
        origin_of_missing (isFile_of_not_isBlocked hblocked hurl hpath),
        configuredPage_of_url haddress hne]
      rfl
  | nowhere hurl hpath haddress =>
      rw [origin_of_no_url session settings hurl,
        origin_of_missing (isFile_of_not_isBlocked hblocked hurl hpath),
        configuredPage_of_no_url haddress]
      rfl

/-- The source that is to be taken is the first one there is. -/
theorem exists_chooses_iff_origin_eq (hblocked : ¬ session.IsBlocked settings path url) :
    (∃ messages, session.Chooses settings path url origin messages) ↔
      session.origin settings path url = origin := by
  constructor
  · rintro ⟨messages, h⟩
    exact h.origin_eq hblocked
  · rintro rfl
    obtain ⟨origin, messages, h⟩ := exists_chooses session settings path url
    rw [h.origin_eq hblocked]
    exact ⟨messages, h⟩

/-- Without a given file the settings are loaded before anything else is done. -/
theorem loadDiagram_none_of_getSettings {loaded : Session}
    (h : getSettings session = (.ok settings, loaded)) (hsettings : loaded.settings = some settings)
    (url : Option String) : loadDiagram none url session = loadDiagram none url loaded := by
  have hagain := getSettings_of_some hsettings
  by_cases hurl : url.getD "" = ""
  · rw [loadDiagram_of_no_url h hurl, loadDiagram_of_no_url hagain hurl]
  · rw [loadDiagram_of_url session hurl, loadDiagram_of_url loaded hurl, fetch_of_getSettings h,
      fetch_of_getSettings hagain]

/-- Loading a diagram gives what is read from the first source there is, as the session then is:
directories that loading the settings made may be on the way to it, and a line may have been logged
to the file that is read. -/
theorem loadDiagram_eq_textFrom_origin (h : (getSettings session).1 = .ok settings)
    (path : Option Path) (url : Option String) :
    let after := (loadDiagram path url session).2
    (loadDiagram path url session).1 = after.textFrom (after.origin settings path url) := by
  suffices hload : ∃ after, loadDiagram path url session =
      (after.textFrom (after.origin settings path url), after) by
    obtain ⟨after, hload⟩ := hload
    rw [hload]
  cases path with
  | some path => exact ⟨session, readDiagramFile_apply path session⟩
  | none =>
      let loaded := (getSettings session).2
      have hloaded : getSettings session = (.ok settings, loaded) := Prod.ext h rfl
      have hsettings : loaded.settings = some settings := by
        rw [settings_getSettings, h]
      rw [loadDiagram_none_of_getSettings hloaded hsettings]
      by_cases hblocked : loaded.IsBlocked settings none url
      · obtain ⟨file, hfile, hlong⟩ := hblocked.name
        refine ⟨loaded, (hblocked.loadDiagram_eq hsettings).trans ?_⟩
        rw [hblocked.origin_eq hfile, textFrom, isFile_of_nameTooLong hlong]
      · obtain ⟨messages, hchooses⟩ := (exists_chooses_iff_origin_eq hblocked).mpr rfl
        let after := loaded.issuing messages
          (Origin.requests settings (loaded.origin settings none url))
        have horigin : after.origin settings none url = loaded.origin settings none url :=
          origin_of_samePlaces (samePlaces_issuing loaded _ _)
        refine ⟨after, ?_⟩
        rw [horigin]
        exact hchooses.takes hsettings hblocked

end Session

end EntityDiagram
