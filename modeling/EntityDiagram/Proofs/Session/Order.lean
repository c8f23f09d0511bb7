import EntityDiagram.Proofs.Session.Origin

/-! # The order of sources

One source is taken, with one request if it is a page and none if it is not; a configured file that
is not there is warned of. Only a configured file whose name is too long breaks the order of the
sources: looking for it fails before anything else is tried.
-/

namespace EntityDiagram.Session

variable {session : Session} {settings : Settings} {path : Option Path} {url : Option String}
  {origin : Origin} {messages : List Log.Message}

/-! ## Files -/

theorem HasFile.of_samePlaces {later : Session} {file : Path} (h : session.HasFile file)
    (hplaces : session.SamePlaces later) : later.HasFile file := by
  have hfile := (isFile_of_samePlaces hplaces file).trans (isFile_of_hasFile h)
  rcases later.files.isFile_cases later.here file with
    ⟨location, content, hfind, -⟩ | ⟨-, hother⟩ | ⟨-, -, hother⟩
  · exact ⟨location, content, hfind⟩
  · cases hfile.symm.trans hother
  · cases hfile.symm.trans hother

/-- A file that is there has a text, or bytes that are none. -/
theorem textFrom_of_hasFile {file : Path} (h : session.HasFile file) :
    (∃ text, session.textFrom (.file file) = .ok text ∧ session.Holds (.file file) text) ∨
      session.textFrom (.file file) = .error .notText := by
  obtain ⟨location, content, hfind⟩ := h
  rw [textFrom_of_find_file hfind, textOf]
  cases hraw : String.fromUTF8? content with
  | none => exact .inr rfl
  | some raw => exact .inl ⟨_, rfl, location, content, raw, hfind, hraw, rfl⟩

/-! ## Messages -/

/-- The warning of a missing file is among the messages exactly if the file of the settings is
looked for and is not there. -/
theorem Chooses.warning_iff (h : session.Chooses settings path url origin messages) :
    (∃ file, configuredPathMissing file ∈ messages) ↔
      path = none ∧ url.getD "" = "" ∧
        ∃ file, settings.diagramPath = some file ∧ ¬ session.HasFile file := by
  -- The other messages are on another level.
  have hlevel : Log.Level.warning ≠ Log.Level.debug := by decide
  have hused : ∀ file other, configuredPathMissing file ≠ configuredPathUsed other :=
    fun file other heq => hlevel (congrArg Log.Message.level heq)
  have hasked : ∀ file address, configuredPathMissing file ≠ configuredUrlUsed address :=
    fun file address heq => hlevel (congrArg Log.Message.level heq)
  cases h with
  | givenFile => simp
  | givenAddress hurl => simp [hurl]
  | configuredFile hurl hpath hfile => simp [hpath, hfile, hused]
  | configuredAddress hurl hpath =>
      cases hset : settings.diagramPath with
      | none => simp [hasked]
      | some file =>
          refine iff_of_true ⟨file, by simp⟩ ⟨rfl, hurl, file, rfl, hpath file hset⟩
  | nowhere hurl hpath =>
      cases hset : settings.diagramPath with
      | none => simp
      | some file =>
          refine iff_of_true ⟨file, by simp⟩ ⟨rfl, hurl, file, rfl, hpath file hset⟩

/-! ## Names that are too long -/

theorem IsBlocked.not_hasFile {file : Path} (h : session.IsBlocked settings path url)
    (hfile : settings.diagramPath = some file) : ¬ session.HasFile file := by
  rintro ⟨location, content, hfind⟩
  obtain ⟨other, hother, hlong⟩ := h.name
  obtain rfl : other = file := Option.some.inj (hother.symm.trans hfile)
  cases hfind.symm.trans hlong

theorem textFrom_page_ne_file (session : Session) (url : String) (error : FileError) :
    session.textFrom (.page url) ≠ .error (.file error) := by
  intro h
  rw [textFrom] at h
  cases hreply : session.replyAt url with
  | unreachable reason =>
      rw [hreply] at h
      cases h
  | page status reason text =>
      cases hfault : statusFault? url status reason with
      | none =>
          simp only [hreply, hfault] at h
          cases h
      | some fault =>
          simp only [hreply, hfault] at h
          cases h

theorem Chooses.not_takes (h : session.Chooses settings path url origin messages)
    (hsettings : session.settings = some settings)
    (hblocked : session.IsBlocked settings path url) :
    ¬ session.Takes settings path url origin messages := by
  intro htakes
  have hresult := congrArg Prod.fst ((hblocked.loadDiagram_eq hsettings).symm.trans htakes)
  cases h with
  | givenFile => cases hblocked.path
  | givenAddress hurl => exact hurl hblocked.url
  | configuredFile _ hpath hfile => exact hblocked.not_hasFile hpath hfile
  | configuredAddress => exact textFrom_page_ne_file _ _ _ hresult.symm
  | nowhere => cases hresult

/-- Under settings that are loaded there is a source to take for every path and address, and loading
takes it, with the messages and the request that go with it, exactly unless the file of the settings
is looked for and has a name that is too long; then it fails at once, without a message or a
request. A file of the settings that is there is read, and no other source is tried if its bytes are
no text. -/
theorem loadDiagram_takes_iff_not_blocked {session : Session} {settings : Settings}
    (h : session.settings = some settings) (path : Option Path) (url : Option String) :
    (∃ origin messages, session.Chooses settings path url origin messages) ∧
      (session.IsBlocked settings path url →
        loadDiagram path url session = (.error (.file .nameTooLong), session)) ∧
      ∀ origin messages, session.Chooses settings path url origin messages →
        (session.Takes settings path url origin messages ↔
          ¬ session.IsBlocked settings path url) ∧
        ((∃ file, configuredPathMissing file ∈ messages) ↔
          path = none ∧ url.getD "" = "" ∧
            ∃ file, settings.diagramPath = some file ∧ ¬ session.HasFile file) ∧
        ∀ file, path = none → origin = .file file →
          let result := (loadDiagram path url session).1
          let after := (loadDiagram path url session).2
          (∃ text, result = .ok text ∧ after.Holds (.file file) text) ∨
            result = .error .notText := by
  refine ⟨exists_chooses session settings path url, fun hblocked => hblocked.loadDiagram_eq h,
    fun origin messages hchooses => ⟨⟨fun htakes hblocked => ?_, hchooses.takes h⟩,
      hchooses.warning_iff, fun file hnone horigin => ?_⟩⟩
  · exact hchooses.not_takes h hblocked htakes
  · subst hnone horigin
    cases hchooses with
    | configuredFile hurl hpath hfile =>
        have hload := (Chooses.configuredFile hurl hpath hfile).takes h fun hblocked =>
          hblocked.not_hasFile hpath hfile
        rw [hload]
        exact textFrom_of_hasFile (hfile.of_samePlaces (samePlaces_issuing session _ _))

/-- A directory at the configured path is no file: it is warned of, and the configured address is
asked, once and with the timeout of the settings. -/
theorem loadDiagram_takes_configured_address :
    let settings : Settings :=
      { diagramPath := some (.ofText "")
        diagramUrl := some "u"
        urlTimeout := .ofDecimal false 5 0 }
    let session : Session :=
      { settings := some settings, web := [("u", .page 200 "OK" "erDiagram\nA")] }
    let messages := [configuredPathMissing ⟨0, []⟩, configuredUrlUsed "u"]
    session.settings = some settings ∧
      session.Takes settings none (some "") (.page "u") messages ∧
      (loadDiagram none (some "") session).1 = .ok "erDiagram\nA" ∧
      (loadDiagram none (some "") session).2.requests = [⟨"u", .float (.ofDecimal false 5 0)⟩] := by
  intro settings session messages
  have hpath : settings.diagramPath = some ⟨0, []⟩ := by decide +kernel
  have hdirectory : session.files.find session.here ⟨0, []⟩ = .ok ([], .directory) := by
    have hadmissible : FileTree.admissible ⟨0, []⟩ = .ok () := by decide +kernel
    rw [FileTree.find, hadmissible]
    rfl
  have hchooses : session.Chooses settings none (some "") (.page "u") messages := by
    refine .configuredAddress rfl (fun path hother => ?_) rfl (by decide)
    obtain rfl := Option.some.inj (hpath.symm.trans hother)
    rintro ⟨location, content, hfind⟩
    cases hdirectory.symm.trans hfind
  have hopen : ¬ session.IsBlocked settings none (some "") := by
    rintro ⟨-, -, file, hfile, hlong⟩
    obtain rfl := Option.some.inj (hpath.symm.trans hfile)
    cases hdirectory.symm.trans hlong
  have hsettings : session.settings = some settings := rfl
  obtain ⟨-, -, hall⟩ := loadDiagram_takes_iff_not_blocked hsettings none (some "")
  have htakes := (hall _ _ hchooses).1.mpr hopen
  refine ⟨rfl, htakes, ?_⟩
  rw [htakes]
  exact ⟨by decide +kernel, by decide +kernel⟩

/-- A configured file whose name is too long is neither warned of nor passed over for the configured
address. -/
theorem loadDiagram_stopped_by_long_name :
    let file : Path := ⟨0, [String.ofList (List.replicate 256 'a')]⟩
    let settings : Settings := { diagramPath := some file, diagramUrl := some "u" }
    let session : Session :=
      { settings := some settings, web := [("u", .page 200 "OK" "erDiagram\nA")] }
    let messages := [configuredPathMissing file, configuredUrlUsed "u"]
    session.Chooses settings none none (.page "u") messages ∧
      loadDiagram none none session = (.error (.file .nameTooLong), session) ∧
      ¬ session.Takes settings none none (.page "u") messages := by
  intro file settings session messages
  have hlong : session.files.find session.here file = .error .nameTooLong := by
    have htext : ∀ name : String, Path.text ⟨0, [name]⟩ = name := by simp [Path.text]
    have hadmissible : FileTree.admissible file = .ok () := by
      rw [FileTree.admissible, htext, String.toList_ofList]
      decide +kernel
    have hfollow : session.files.follow (FileTree.start session.here file) file.parts =
        .error .nameTooLong := by decide +kernel
    rw [FileTree.find, hadmissible]
    dsimp only
    rw [hfollow]
  have hblocked : session.IsBlocked settings none none := ⟨rfl, rfl, file, rfl, hlong⟩
  have hchooses : session.Chooses settings none none (.page "u") messages := by
    refine .configuredAddress rfl (fun path hpath => ?_) rfl (by decide)
    exact hblocked.not_hasFile hpath
  exact ⟨hchooses, hblocked.loadDiagram_eq rfl, hchooses.not_takes rfl hblocked⟩

end EntityDiagram.Session
