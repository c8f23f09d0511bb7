import EntityDiagram.Proofs.Session.Source

/-! # Where the text of a diagram comes from

Loading a diagram takes the first source there is, and gives its text or says that there is none. A
file whose bytes are no text, a file whose name is too long, and a page whose status neither stands
for success nor for an error are the only sources where it does neither. From a file and from a page
with the same text comes the same, but for the line ends.
-/

namespace EntityDiagram.Session

/-! ## What is promised -/

/-- The text that a source holds: that of a file whose bytes are text, with line feeds for line
ends, or that of a page whose status stands for success. -/
def Holds (session : Session) : Origin → String → Prop
  | .file path, text => ∃ location content raw,
      session.files.find session.here path = .ok (location, .file content) ∧
        String.fromUTF8? content = some raw ∧
        text = String.ofList (Text.unifyNewlines raw.toList)
  | .page url, text => ∃ status reason,
      session.replyAt url = .page status reason text ∧ 200 ≤ status ∧ status < 300
  | .nowhere, _ => False

/-- A result keeps the promise if it is the text that the source holds, or if the source holds none
and the result says that there is no diagram. -/
def Keeps (session : Session) (origin : Origin) : Except Failure String → Prop
  | .ok text => session.Holds origin text
  | .error failure => (∀ text, ¬ session.Holds origin text) ∧ ∃ error, failure = .source error

/-- What comes from the sources that the promise does not reckon with. -/
inductive Escapes (session : Session) : Origin → Except Failure String → Prop where
  | notText {path : Path} {location : Location} {content : ByteArray}
      (hfile : session.files.find session.here path = .ok (location, .file content))
      (htext : String.fromUTF8? content = none) : Escapes session (.file path) (.error .notText)
  | nameTooLong {path : Path} (hpath : session.files.find session.here path = .error .nameTooLong) :
      Escapes session (.file path) (.error (.file .nameTooLong))
  | page {url reason text : String} {status : Int}
      (hpage : session.replyAt url = .page status reason text)
      (hstatus : status < 200 ∨ 300 ≤ status ∧ status < 400 ∨ 600 ≤ status) :
      Escapes session (.page url) (.ok text)

variable {session : Session} {origin : Origin} {result : Except Failure String}

theorem statusFault?_eq_none_iff (url reason : String) (status : Int) :
    statusFault? url status reason = none ↔ status < 400 ∨ 600 ≤ status := by
  unfold statusFault?
  split
  · simp only [reduceCtorEq, false_iff]
    omega
  · split
    · simp only [reduceCtorEq, false_iff]
      omega
    · simp only [true_iff]
      omega

theorem textFrom_of_find_file {path : Path} {location : Location} {content : ByteArray}
    (h : session.files.find session.here path = .ok (location, .file content)) :
    session.textFrom (.file path) = (textOf content session).1 := by
  have hisFile : session.files.isFile session.here path = .ok true := by
    rw [FileTree.isFile, FileTree.probe, h]
  have hread : Run.ofFile (session.files.read session.here path) session =
      (.ok content, session) := by
    rw [FileTree.read, h]
    rfl
  rw [textFrom, hisFile, readText, Run.get_bind, Run.bind_of_ok hread]

theorem Escapes.textFrom_eq (h : session.Escapes origin result) :
    session.textFrom origin = result := by
  cases h with
  | notText hfile htext => rw [textFrom_of_find_file hfile, textOf, htext]; rfl
  | nameTooLong hpath => rw [textFrom, FileTree.isFile, FileTree.probe, hpath]
  | page hpage hstatus =>
      rw [textFrom, hpage]
      dsimp only
      rw [(statusFault?_eq_none_iff _ _ _).mpr (by omega)]

theorem Escapes.not_keeps (h : session.Escapes origin result) : ¬ session.Keeps origin result := by
  cases h with
  | notText => rintro ⟨-, error, ⟨⟩⟩
  | nameTooLong => rintro ⟨-, error, ⟨⟩⟩
  | page hpage hstatus =>
      rintro ⟨status, reason, hother, hlow, hhigh⟩
      obtain ⟨rfl, -, -⟩ := Reply.page.inj (hpage.symm.trans hother)
      omega

theorem keeps_textFrom (h : ∀ escaped, ¬ session.Escapes origin escaped) :
    session.Keeps origin (session.textFrom origin) := by
  cases origin with
  | nowhere => exact ⟨fun _ => id, _, rfl⟩
  | file path =>
      rcases session.files.isFile_cases session.here path with
        ⟨location, content, hfind, -⟩ | ⟨hfind, -⟩ | ⟨hfile, -, hfound⟩
      · rw [textFrom_of_find_file hfind, textOf]
        cases htext : String.fromUTF8? content with
        | none => exact absurd (.notText hfind htext) (h _)
        | some raw => exact ⟨location, content, raw, hfind, htext, rfl⟩
      · exact absurd (.nameTooLong hfind) (h _)
      · rw [textFrom, hfound]
        refine ⟨?_, _, rfl⟩
        rintro text ⟨location, content, raw, hfind, -⟩
        exact hfile location content hfind
  | page url =>
      cases hreply : session.replyAt url with
      | unreachable reason =>
          rw [textFrom, hreply]
          refine ⟨?_, _, rfl⟩
          rintro text ⟨status, other, hpage, -⟩
          cases hreply.symm.trans hpage
      | page status reason text =>
          rw [textFrom, hreply]
          dsimp only
          cases hfault : statusFault? url status reason with
          | none =>
              rw [statusFault?_eq_none_iff] at hfault
              refine ⟨status, reason, hreply, ?_⟩
              by_contra hstatus
              exact h _ (.page hreply (by omega))
          | some fault =>
              have hstatus : ¬ (status < 400 ∨ 600 ≤ status) := by
                rw [← statusFault?_eq_none_iff url reason, hfault]
                exact Option.some_ne_none fault
              refine ⟨?_, _, rfl⟩
              rintro other ⟨status', reason', hpage, -, hhigh⟩
              obtain ⟨rfl, -, -⟩ := Reply.page.inj (hreply.symm.trans hpage)
              omega

/-- Under settings that load, loading a diagram gives the text that the first source there is holds,
or says that there is no diagram if that source holds none, unless it is one of the sources that
escape; from these comes something else. -/
theorem loadDiagram_keeps_iff {session : Session} {settings : Settings}
    (h : (getSettings session).1 = .ok settings) (path : Option Path) (url : Option String) :
    let result := (loadDiagram path url session).1
    let after := (loadDiagram path url session).2
    let origin := after.origin settings path url
    (after.Keeps origin result ↔ ∀ escaped, ¬ after.Escapes origin escaped) ∧
      ∀ escaped, after.Escapes origin escaped → result = escaped := by
  intro result after origin
  have hresult : result = after.textFrom origin := loadDiagram_eq_textFrom_origin h path url
  refine ⟨⟨fun hkeeps escaped hescapes => ?_, fun hnone => ?_⟩, fun escaped hescapes => ?_⟩
  · rw [hresult, hescapes.textFrom_eq] at hkeeps
    exact hescapes.not_keeps hkeeps
  · rw [hresult]
    exact keeps_textFrom hnone
  · rw [hresult, hescapes.textFrom_eq]

/-- The promise is kept where a configured file that is not there gives way to the configured
address. -/
theorem loadDiagram_keeps_of_configured_page :
    let settings : Settings := { diagramPath := some ⟨0, ["a"]⟩, diagramUrl := some "u" }
    let session : Session :=
      { environment := ⟨[("MERMAID_DIAGRAM_PATH", "a"), ("MERMAID_DIAGRAM_URL", "u")]⟩
        web := [("u", .page 201 "Created" "erDiagram\nA")] }
    (getSettings session).1 = .ok settings ∧
      (loadDiagram none none session).2.Keeps (.page "u") (loadDiagram none none session).1 := by
  intro settings session
  have hloads : (getSettings session).1 = .ok settings := by decide +kernel
  have horigin : (loadDiagram none none session).2.origin settings none none = .page "u" := by
    decide +kernel
  have hreply : (loadDiagram none none session).2.replyAt "u" =
      .page 201 "Created" "erDiagram\nA" := by decide +kernel
  have hkeeps := (loadDiagram_keeps_iff hloads none none).1
  rw [horigin] at hkeeps
  refine ⟨hloads, hkeeps.mpr ?_⟩
  rintro escaped (_ | _ | ⟨hpage, hstatus⟩)
  obtain ⟨rfl, -, -⟩ := Reply.page.inj (hreply.symm.trans hpage)
  omega

/-- Bytes that are no text end the loading with another failure, and the body of a page that is
neither a success nor an error is taken for a diagram. -/
theorem loadDiagram_escapes :
    let session : Session :=
      { files := ⟨[(["b"], .file ⟨#[0x61, 0xff]⟩)]⟩
        web := [("u", .page 304 "Not Modified" "erDiagram\nA")] }
    let path : Path := ⟨0, ["b"]⟩
    (getSettings session).1 = .ok {} ∧
      (loadDiagram (some path) none session).1 = .error .notText ∧
      ¬ session.Keeps (.file path) (loadDiagram (some path) none session).1 ∧
      (loadDiagram none (some "u") session).1 = .ok "erDiagram\nA" ∧
      ¬ session.Keeps (.page "u") (loadDiagram none (some "u") session).1 := by
  intro session path
  have hfile : (loadDiagram (some path) none session).1 = .error .notText := by decide +kernel
  have hpage : (loadDiagram none (some "u") session).1 = .ok "erDiagram\nA" := by decide +kernel
  have hreply : session.replyAt "u" = .page 304 "Not Modified" "erDiagram\nA" := by decide +kernel
  refine ⟨by decide +kernel, hfile, ?_, hpage, ?_⟩
  · rw [hfile]
    rintro ⟨-, error, ⟨⟩⟩
  · rw [hpage]
    exact Escapes.not_keeps (.page hreply (by omega))

/-! ## Copies of a text -/

/-- The bytes of a text are in a file, and the text is on a page that is answered without a fault.
-/
structure HasCopies (session : Session) (text : String) (path : Path) (url : String) : Prop where
  settings : ∃ settings, (getSettings session).1 = .ok settings
  file : ∃ location, session.files.find session.here path = .ok (location, .file text.toUTF8)
  address : url ≠ ""
  page : ∃ status reason, session.replyAt url = .page status reason text ∧
    statusFault? url status reason = none

namespace HasCopies

variable {session : Session} {text : String} {path : Path} {url : String}

theorem loadDiagram_path (h : session.HasCopies text path url) :
    (loadDiagram (some path) none session).1 =
      .ok (String.ofList (Text.unifyNewlines text.toList)) := by
  obtain ⟨location, hfile⟩ := h.file
  rw [loadDiagram, readDiagramFile_apply, textFrom_of_find_file hfile, textOf_toUTF8]

theorem loadDiagram_url (h : session.HasCopies text path url) :
    (loadDiagram none (some url) session).1 = .ok text := by
  obtain ⟨settings, hsettings⟩ := h.settings
  obtain ⟨status, reason, hreply, hfault⟩ := h.page
  have hloaded : getSettings session = (.ok settings, (getSettings session).2) :=
    Prod.ext hsettings rfl
  have hload : loadDiagram none (some url) session = fetch url none session :=
    loadDiagram_of_url session h.address
  have hweb : ∀ requests, ((getSettings session).2.issuing [] requests).replyAt url =
      .page status reason text := by
    intro requests
    have hsame : ((getSettings session).2.issuing [] requests).web = session.web :=
      web_getSettings session
    rw [replyAt, hsame]
    exact hreply
  rw [hload, fetch_of_getSettings hloaded, textFrom, hweb]
  dsimp only
  rw [hfault]

end HasCopies

end EntityDiagram.Session
