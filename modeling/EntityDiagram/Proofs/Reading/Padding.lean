import EntityDiagram.Proofs.Reading.Insertion
import EntityDiagram.Proofs.Session.Origin
import Mathlib.Logic.Relation

/-! # Blanks at the ends of lines

Lines are read without the blanks around them, so a text means the same however its lines are
indented and whatever blanks end them. A carriage return before a line feed is such a blank. Since
it is all that is lost when a file is read, a diagram means the same from a file and from a page.
-/

namespace EntityDiagram

namespace Reading

/-! ## Padding -/

/-- Blanks without a line feed. -/
def IsPadding (cs : List Char) : Prop := ∀ c ∈ cs, Text.isBlank c = true ∧ c ≠ '\n'

/-- The second text is the first with blanks added at the start and the end of a line. -/
inductive PadsLine : String → String → Prop where
  | intro {front rest : List (List Char)} {before line after : List Char}
      (hlines : ∀ other ∈ front ++ line :: rest, '\n' ∉ other) (hbefore : IsPadding before)
      (hafter : IsPadding after) :
      PadsLine (textOf (front ++ line :: rest))
        (textOf (front ++ (before ++ line ++ after) :: rest))

theorem trimmedLines_textOf {lines : List (List Char)} (hlines : ∀ line ∈ lines, '\n' ∉ line)
    (hne : lines ≠ []) : trimmedLines (textOf lines) = lines.map Text.trim := by
  rw [trimmedLines, textOf, String.toList_ofList, List.splitOn_intercalate '\n' hlines hne]

theorem numberedFrom_congr {lines others : List (List Char)}
    (h : lines.map Text.trim = others.map Text.trim) (start : Nat) :
    numberedFrom start lines = numberedFrom start others := by
  induction lines generalizing others start with
  | nil =>
      obtain rfl : others = [] := by simpa using h.symm
      rfl
  | cons line lines ih =>
      cases others with
      | nil => simp at h
      | cons other others =>
          obtain ⟨hline, hlines⟩ := List.cons_eq_cons.mp h
          rw [numberedFrom, numberedFrom, hline, ih hlines]

/-- Reading sees the trimmed lines of a text and nothing else. -/
theorem ofText_congr {text other : String} (h : trimmedLines text = trimmedLines other) :
    ofText text = ofText other := by
  rw [ofText, ofText, linesOf_eq_numberedFrom, linesOf_eq_numberedFrom, numberedFrom_congr h]

theorem trim_padded_line {before line after : List Char} (hbefore : IsPadding before)
    (hafter : IsPadding after) : Text.trim (before ++ line ++ after) = Text.trim line := by
  rw [Text.trim_append_blanks fun c hc => (hafter c hc).1,
    Text.trim_blanks_append fun c hc => (hbefore c hc).1]

theorem PadsLine.trimmedLines_eq {text other : String} (h : PadsLine text other) :
    trimmedLines text = trimmedLines other := by
  obtain @⟨front, rest, before, line, after, hlines, hbefore, hafter⟩ := h
  have hpadded : ∀ other ∈ front ++ (before ++ line ++ after) :: rest, '\n' ∉ other := by
    simp only [List.forall_mem_append, List.forall_mem_cons] at hlines ⊢
    refine ⟨hlines.1, fun hmem => ?_, hlines.2.2⟩
    rcases List.mem_append.mp hmem with hmem | hmem
    · rcases List.mem_append.mp hmem with hmem | hmem
      · exact (hbefore _ hmem).2 rfl
      · exact hlines.2.1 hmem
    · exact (hafter _ hmem).2 rfl
  rw [trimmedLines_textOf hlines (by simp), trimmedLines_textOf hpadded (by simp)]
  simp only [List.map_append, List.map_cons, trim_padded_line hbefore hafter]

/-- Adding and removing blanks at the ends of lines, any number of times, changes nothing. -/
theorem ofText_of_eqvGen {text other : String} (h : Relation.EqvGen PadsLine text other) :
    ofText text = ofText other := by
  refine ofText_congr ?_
  induction h with
  | rel _ _ hpads => exact hpads.trimmedLines_eq
  | refl _ => rfl
  | symm _ _ _ ih => exact ih.symm
  | trans _ _ _ _ _ ih ih' => exact ih.trans ih'

/-! ## Line ends -/

/-- Every carriage return has a line feed after it. -/
def ReturnsEndLines (cs : List Char) : Prop :=
  ∀ i < cs.length, cs[i]? = some '\r' → cs[i + 1]? = some '\n'

theorem ReturnsEndLines.tail {c : Char} {cs : List Char} (h : ReturnsEndLines (c :: cs)) :
    ReturnsEndLines cs := by
  intro i hi hreturn
  have hnext := h (i + 1) (Nat.succ_lt_succ hi) (by rwa [List.getElem?_cons_succ])
  rwa [List.getElem?_cons_succ] at hnext

theorem ReturnsEndLines.exists_tail {cs : List Char} (h : ReturnsEndLines ('\r' :: cs)) :
    ∃ rest, cs = '\n' :: rest := by
  have hnext := h 0 (Nat.succ_pos _) rfl
  rw [List.getElem?_cons_succ, ← List.head?_eq_getElem?] at hnext
  exact List.head?_eq_some_iff.mp hnext

/-- A line before and after line ends are made line feeds. -/
def SameLine (unified line : List Char) : Prop := line = unified ∨ line = unified ++ ['\r']

theorem SameLine.cons {unified line : List Char} (h : SameLine unified line) (c : Char) :
    SameLine (c :: unified) (c :: line) := by
  rcases h with rfl | rfl
  · exact .inl rfl
  · exact .inr rfl

theorem SameLine.trim_eq {unified line : List Char} (h : SameLine unified line) :
    Text.trim unified = Text.trim line := by
  rcases h with rfl | rfl
  · rfl
  · exact (Text.trim_append_blanks (List.forall_mem_singleton.mpr (by decide))).symm

/-- The lines are the same but for the carriage returns at their ends. -/
theorem splitOn_unifyNewlines {cs : List Char} (h : ReturnsEndLines cs) :
    List.Forall₂ SameLine ((Text.unifyNewlines cs).splitOn '\n') (cs.splitOn '\n') := by
  fun_induction Text.unifyNewlines cs with
  | case1 => exact .cons (.inl rfl) .nil
  | case2 rest ih =>
      have hreturn : ('\r' :: '\n' :: rest).splitOn '\n' = ['\r'] :: rest.splitOn '\n' :=
        List.splitOn_append_cons_self ['\r'] rest
      rw [Text.splitOn_cons_self, hreturn]
      exact .cons (.inr rfl) (ih h.tail.tail)
  | case3 c rest hnext ih =>
      have hc : c ≠ '\r' := by
        rintro rfl
        obtain ⟨more, hmore⟩ := h.exists_tail
        exact hnext more rfl hmore
      rw [if_neg hc]
      by_cases hfeed : c = '\n'
      · subst hfeed
        rw [Text.splitOn_cons_self, Text.splitOn_cons_self]
        exact .cons (.inl rfl) (ih h.tail)
      · rw [Text.splitOn_cons_of_ne hfeed, Text.splitOn_cons_of_ne hfeed]
        have hrest := ih h.tail
        generalize (Text.unifyNewlines rest).splitOn '\n' = unified at hrest ⊢
        generalize rest.splitOn '\n' = lines at hrest ⊢
        cases hrest with
        | nil => exact .nil
        | cons hline hlines => exact .cons (hline.cons c) hlines

theorem ofText_unifyNewlines {text : String} (h : ReturnsEndLines text.toList) :
    ofText (String.ofList (Text.unifyNewlines text.toList)) = ofText text := by
  refine ofText_congr ?_
  rw [trimmedLines, trimmedLines, String.toList_ofList, ← List.forall₂_eq_eq_eq,
    List.forall₂_map_left_iff, List.forall₂_map_right_iff]
  exact (splitOn_unifyNewlines h).imp fun _ _ => SameLine.trim_eq

/-! ## Files and pages -/

/-- Blanks at the ends of lines can be added and removed without changing the result of a text. So a
text whose carriage returns belong to line ends has the same result from a file, where line ends are
made line feeds, and from a page, where they are not. -/
theorem result_independent_of_padding (text : String) :
    (∀ other, Relation.EqvGen PadsLine text other →
        (ofText other).result = (ofText text).result) ∧
      (ReturnsEndLines text.toList →
        ∀ (session : Session) (path : Path) (url : String), session.HasCopies text path url →
          ∃ read, (Session.loadDiagram (some path) none session).1 = .ok read ∧
            (Session.loadDiagram none (some url) session).1 = .ok text ∧
            (ofText read).result = (ofText text).result) := by
  refine ⟨fun other h => by rw [ofText_of_eqvGen h], fun hreturns session path url h => ?_⟩
  exact ⟨_, h.loadDiagram_path, h.loadDiagram_url, by rw [ofText_unifyNewlines hreturns]⟩

theorem result_independent_of_padding_with_returns :
    let line := "id int".toList
    let front := ["erDiagram\r".toList, "A \x7b\r".toList]
    let rest := ["?\r".toList, "\x7d".toList]
    let text := textOf (front ++ (line ++ ['\r']) :: rest)
    let other := textOf (front ++ ("\t\u3000".toList ++ line ++ [' ']) :: rest)
    let path : Path := ⟨0, ["d"]⟩
    let session : Session :=
      { files := ⟨[(["d"], .file text.toUTF8)]⟩, web := [("u", .page 200 "OK" text)] }
    Relation.EqvGen PadsLine text other ∧ ReturnsEndLines text.toList ∧
      session.HasCopies text path "u" ∧ (ofText other).result = (ofText text).result ∧
      ∃ read, (Session.loadDiagram (some path) none session).1 = .ok read ∧
        (Session.loadDiagram none (some "u") session).1 = .ok text ∧
        (ofText read).result = (ofText text).result := by
  intro line front rest text other path session
  have hpads : Relation.EqvGen PadsLine text other := by
    have hlines : ∀ other ∈ front ++ line :: rest, '\n' ∉ other := by decide
    have hnone : IsPadding [] := List.forall_mem_nil _
    have hreturn : IsPadding ['\r'] := List.forall_mem_singleton.mpr (by decide)
    have htab : IsPadding "\t\u3000".toList :=
      List.forall_mem_cons.mpr ⟨by decide, List.forall_mem_singleton.mpr (by decide)⟩
    have hspace : IsPadding [' '] := List.forall_mem_singleton.mpr (by decide)
    have hold := PadsLine.intro hlines hnone hreturn
    have hnew := PadsLine.intro hlines htab hspace
    rw [List.nil_append] at hold
    exact .trans _ _ _ (.symm _ _ (.rel _ _ hold)) (.rel _ _ hnew)
  have hreturns : ReturnsEndLines text.toList := by
    unfold ReturnsEndLines
    decide +kernel
  have hcopies : session.HasCopies text path "u" := by
    refine ⟨⟨{}, by decide +kernel⟩, ⟨["d"], ?_⟩, by decide, 200, "OK", rfl, by decide⟩
    have hadmissible : FileTree.admissible path = .ok () := by decide +kernel
    have hfollow : session.files.follow (FileTree.start session.here path) path.parts =
        .ok ["d"] := by decide +kernel
    rw [FileTree.find, hadmissible]
    dsimp only
    rw [hfollow]
    rfl
  obtain ⟨hresult, hloads⟩ := result_independent_of_padding text
  exact ⟨hpads, hreturns, hcopies, hresult other hpads, hloads hreturns session path "u" hcopies⟩

end Reading

end EntityDiagram
