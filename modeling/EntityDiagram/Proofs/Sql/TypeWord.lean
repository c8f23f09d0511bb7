import EntityDiagram.Proofs.Sql.Quoting
import EntityDiagram.Proofs.Text.Small
import Mathlib.Data.List.Induction
import Mathlib.Logic.IsEmpty.Defs

/-! # Type words with array marks

The column type of a type word is found from its end: as long as an array mark ends the word, the
mark is kept for the column type and the search goes on with the text before it, put in small
letters and trimmed anew. Each round takes an opening bracket away, so the search ends even where
small letters make the text longer. It ends at a base without a mark, whose type is looked up.
-/

namespace EntityDiagram.Sql

def arrayMark : List Char := ['[', ']']

/-! ## Bases -/

theorem isWord_known :
    ∀ entry ∈ ColumnType.known, entry.1.toList ≠ [] ∧ entry.1.toList.all Text.isWord = true := by
  decide +kernel

theorem isWord_of_ofWord? {word : List Char} {type : ColumnType}
    (h : ColumnType.ofWord? word = some type) : word ≠ [] ∧ ∀ c ∈ word, Text.isWord c = true := by
  have hknown := isWord_known _ (mem_known_of_ofWord? h)
  rwa [String.toList_ofList, List.all_eq_true] at hknown

theorem takeWhile_text_known : ∀ entry ∈ ColumnType.known,
    entry.2.text.toList.takeWhile (· != '(') = entry.2.name.toList := by
  decide

/-- A known word with arguments, which are not empty and stand on one line. -/
structure AppliedWord (cs : List Char) where
  word : List Char
  type : ColumnType
  arguments : List Char
  known : ColumnType.ofWord? word = some type
  nonempty : arguments ≠ []
  oneLine : '\n' ∉ arguments
  spelled : cs = word ++ '(' :: arguments ++ [')']

/-- The arguments that are given replace those that the column type has otherwise. -/
theorem baseType_of_applied {cs : List Char} (applied : AppliedWord cs) :
    baseType cs = String.ofList (applied.type.text.toList.takeWhile (· != '(')) ++
      "(" ++ String.ofList applied.arguments ++ ")" := by
  have hsplit : splitArguments? cs = some (applied.word, applied.arguments) :=
    splitArguments?_eq_some_iff.mpr
      ⟨isWord_of_ofWord? applied.known, ⟨applied.nonempty, applied.oneLine⟩, applied.spelled⟩
  have hname := takeWhile_text_known _ (mem_known_of_ofWord? applied.known)
  simp only [baseType, hsplit, applied.known, ColumnType.textWith]
  rw [hname, String.ofList_toList]

theorem baseType_of_not_applied {cs : List Char} (h : IsEmpty (AppliedWord cs)) :
    baseType cs = (ColumnType.ofWord? cs).elim "TEXT" ColumnType.text := by
  unfold baseType
  cases hsplit : splitArguments? cs with
  | none => cases ColumnType.ofWord? cs <;> rfl
  | some pair =>
      obtain ⟨word, arguments⟩ := pair
      obtain ⟨-, ⟨hne, hline⟩, hcs⟩ := splitArguments?_eq_some_iff.mp hsplit
      -- The word is not known, and neither is the text, which has a parenthesis.
      have hword : ColumnType.ofWord? word = none :=
        Option.eq_none_iff_forall_ne_some.mpr fun type htype =>
          h.false ⟨word, type, arguments, htype, hne, hline, hcs⟩
      have htext : ColumnType.ofWord? cs = none := by
        refine Option.eq_none_iff_forall_ne_some.mpr fun type htype => ?_
        have hparenthesis : Text.isWord '(' = true := by
          apply (isWord_of_ofWord? htype).2
          simp [hcs]
        exact absurd hparenthesis (by decide)
      simp only [hword, htext]
      rfl

/-! ## Peeling array marks off -/

/-- The text that is left of a text without its array marks, and the number of these. -/
def peeled (cs : List Char) : List Char × Nat :=
  ((peelArrays (Text.trim cs).reverse).1.reverse, (peelArrays (Text.trim cs).reverse).2)

theorem columnType_eq_peeled (typeName : String) :
    columnType typeName = baseType (peeled (Text.lower typeName).toList).1 ++
      String.join (List.replicate (peeled (Text.lower typeName).toList).2 "[]") := rfl

theorem peeled_congr {cs ds : List Char} (h : Text.trim cs = Text.trim ds) :
    peeled cs = peeled ds := by
  rw [peeled, peeled, h]

theorem trim_append_mark (cs : List Char) :
    Text.trim (cs ++ arrayMark) = cs.dropWhile Text.isBlank ++ arrayMark := by
  have hmark : arrayMark.dropWhile Text.isBlank = arrayMark := by decide
  have hlast : Text.dropEnd Text.isBlank arrayMark = arrayMark := by decide
  have hbracket : ']' ∈ arrayMark := by decide
  rw [Text.trim, Text.stripWhile, List.dropWhile_append]
  split
  · next hempty => rw [List.isEmpty_iff.mp hempty, hmark, hlast, List.nil_append]
  · rw [Text.dropEnd_append_of_mem hbracket (by decide), hlast]

theorem peelArrays_append_mark (cs : List Char) :
    peelArrays (cs ++ arrayMark).reverse =
      ((peelArrays (Text.dropEnd Text.isBlank cs).reverse).1,
        (peelArrays (Text.dropEnd Text.isBlank cs).reverse).2 + 1) := by
  have hreverse : (cs ++ arrayMark).reverse = ']' :: '[' :: cs.reverse := by
    simp [arrayMark]
  rw [hreverse, peelArrays, Text.dropEnd, List.reverse_reverse]

theorem peeled_append_mark (cs : List Char) :
    peeled (cs ++ arrayMark) = ((peeled cs).1, (peeled cs).2 + 1) := by
  rw [peeled, trim_append_mark, peelArrays_append_mark]
  rfl

theorem peeled_append_blanks (cs : List Char) {after : List Char}
    (h : ∀ c ∈ after, Text.isBlank c = true) : peeled (cs ++ after) = peeled cs :=
  peeled_congr (Text.trim_append_blanks h)

theorem peeled_blanks_append {before : List Char} (h : ∀ c ∈ before, Text.isBlank c = true)
    (cs : List Char) : peeled (before ++ cs) = peeled cs := by
  apply peeled_congr
  simp only [Text.trim, Text.stripWhile, List.dropWhile_append_of_pos h]

theorem peelArrays_of_bare {cs : List Char} (h : ¬ arrayMark <:+ cs) :
    peelArrays cs.reverse = (cs.reverse, 0) := by
  generalize hbackwards : cs.reverse = backwards
  fun_cases peelArrays backwards with
  | case1 rest base count hpeel =>
      have hcs : cs = rest.reverse ++ arrayMark := by
        rw [← List.reverse_inj, hbackwards]
        simp [arrayMark]
      exact absurd ⟨rest.reverse, hcs.symm⟩ h
  | case2 => rfl

theorem peeled_of_bare {cs : List Char} (htrim : Text.trim cs = cs) (h : ¬ arrayMark <:+ cs) :
    peeled cs = (cs, 0) := by
  rw [peeled, htrim, peelArrays_of_bare h, List.reverse_reverse]

/-! ## Type words as they are written -/

/-- A base with array marks after it, and blanks before each mark and around the whole. The base
neither starts nor ends with a blank, and no array mark ends it. -/
structure MarkedWord where
  before : Text.Blanks
  base : List Char
  gaps : List Text.Blanks
  after : Text.Blanks
  trimmed : Text.trim base = base
  bare : ¬ arrayMark <:+ base

def marksText (gaps : List Text.Blanks) : List Char := gaps.flatMap (·.1 ++ arrayMark)

def MarkedWord.text (marked : MarkedWord) : List Char :=
  marked.before.1 ++ marked.base ++ marksText marked.gaps ++ marked.after.1

theorem isPlain_of_mem_mark {c : Char} (h : c ∈ arrayMark) : Text.IsPlain c := by
  rcases List.mem_cons.mp h with rfl | h
  · exact ⟨by decide, by decide, by decide⟩
  · rw [List.mem_singleton.mp h]
    exact ⟨by decide, by decide, by decide⟩

theorem isPlain_of_mem_marksText {gaps : List Text.Blanks} {c : Char} (h : c ∈ marksText gaps) :
    Text.IsPlain c := by
  obtain ⟨gap, -, hc⟩ := List.mem_flatMap.mp h
  rcases List.mem_append.mp hc with hc | hc
  · exact Text.isPlain_of_isBlank (gap.2 c hc)
  · exact isPlain_of_mem_mark hc

theorem lowerFrom_text (marked : MarkedWord) :
    Text.lowerFrom false marked.text =
      marked.before.1 ++ Text.lowerFrom false marked.base ++ marksText marked.gaps ++
        marked.after.1 := by
  have hbefore : ∀ c ∈ marked.before.1, Text.IsPlain c :=
    fun c hc => Text.isPlain_of_isBlank (marked.before.2 c hc)
  have hafter : ∀ c ∈ marked.after.1, Text.IsPlain c :=
    fun c hc => Text.isPlain_of_isBlank (marked.after.2 c hc)
  have hmarks : ∀ c ∈ marksText marked.gaps, Text.IsPlain c :=
    fun c hc => isPlain_of_mem_marksText hc
  rw [MarkedWord.text, Text.lowerFrom_append_plains hafter, Text.lowerFrom_append_plains hmarks,
    Text.lowerFrom_plains_append hbefore]

theorem trim_lowerFrom {cs : List Char} (h : Text.trim cs = cs) :
    Text.trim (Text.lowerFrom false cs) = Text.lowerFrom false cs := by
  apply Text.trim_eq_self
  · apply Text.head?_lowerFrom_not_blank
    rw [← h]
    exact Text.head?_trim_not_blank cs
  · apply Text.getLast?_lowerFrom_not_blank
    rw [← h]
    exact Text.getLast?_trim_not_blank cs

/-- The last bracket of a text in small letters is a bracket of the text. -/
theorem exists_append_of_lowerFrom {cs front : List Char} {c : Char} (hc : c ∈ arrayMark)
    (h : Text.lowerFrom false cs = front ++ [c]) :
    ∃ rest, cs = rest ++ [c] ∧ Text.lowerFrom false rest = front := by
  have hlast : c ∈ (Text.lowerFrom false cs).getLast? := by simp [h]
  have hascii : c.toNat < 0x61 := by
    rcases List.mem_cons.mp hc with rfl | hc
    · decide
    · rw [List.mem_singleton.mp hc]
      decide
  obtain ⟨rest, rfl⟩ :=
    List.getLast?_eq_some_iff.mp (Text.getLast?_of_getLast?_lowerFrom hascii hlast)
  refine ⟨rest, rfl, ?_⟩
  rw [Text.lowerFrom_append_plains (List.forall_mem_singleton.mpr (isPlain_of_mem_mark hc))] at h
  exact List.append_cancel_right h

theorem mark_suffix_of_lowerFrom {cs : List Char} (h : arrayMark <:+ Text.lowerFrom false cs) :
    arrayMark <:+ cs := by
  obtain ⟨front, hfront⟩ := h
  have hclose : Text.lowerFrom false cs = (front ++ ['[']) ++ [']'] := by
    rw [← hfront]
    simp [arrayMark]
  obtain ⟨inner, rfl, hinner⟩ := exists_append_of_lowerFrom (by decide) hclose
  obtain ⟨rest, rfl, -⟩ := exists_append_of_lowerFrom (by decide) hinner
  exact ⟨rest, by simp [arrayMark]⟩

theorem append_marksText_concat (cs : List Char) (gaps : List Text.Blanks) (gap : Text.Blanks) :
    cs ++ marksText (gaps ++ [gap]) = cs ++ marksText gaps ++ gap.1 ++ arrayMark := by
  simp [marksText]

/-- Each mark is counted, whatever blanks stand before it. -/
theorem peeled_append_marks (cs : List Char) (gaps : List Text.Blanks) :
    peeled (cs ++ marksText gaps) = ((peeled cs).1, (peeled cs).2 + gaps.length) := by
  induction gaps using List.reverseRecOn with
  | nil => simp [marksText]
  | append_singleton gaps gap ih =>
      rw [append_marksText_concat, peeled_append_mark, peeled_append_blanks _ gap.2, ih,
        List.length_append, List.length_singleton, Nat.add_assoc]

theorem peeled_lower_text {typeName : String} {marked : MarkedWord}
    (h : typeName.toList = marked.text) :
    peeled (Text.lower typeName).toList =
      (Text.lowerFrom false marked.base, marked.gaps.length) := by
  have hbare : ¬ arrayMark <:+ Text.lowerFrom false marked.base :=
    fun hmark => marked.bare (mark_suffix_of_lowerFrom hmark)
  rw [Text.lower, String.toList_ofList, h, lowerFrom_text, peeled_append_blanks _ marked.after.2,
    peeled_append_marks, peeled_blanks_append marked.before.2,
    peeled_of_bare (trim_lowerFrom marked.trimmed) hbare, Nat.zero_add]

/-- A trimmed word is cut into a base and array marks from its end. -/
theorem exists_marks {word : List Char} (hword : Text.trim word = word) :
    ∃ base gaps, word = base ++ marksText gaps ∧ Text.trim base = base ∧ ¬ arrayMark <:+ base := by
  induction hlength : word.length using Nat.strong_induction_on generalizing word with
  | _ length ih =>
      by_cases hmark : arrayMark <:+ word
      · obtain ⟨rest, rfl⟩ := hmark
        have hrest : rest.dropWhile Text.isBlank = rest :=
          List.append_cancel_right ((trim_append_mark rest).symm.trans hword)
        have htrim : Text.trim rest = Text.dropEnd Text.isBlank rest := by
          rw [Text.trim, Text.stripWhile, hrest]
        obtain ⟨gap, hgap, hsplit⟩ := Text.exists_dropEnd Text.isBlank rest
        rw [← htrim] at hsplit
        have hshorter : (Text.trim rest).length < length := by
          have hrestLength := congrArg List.length hsplit
          simp only [List.length_append, arrayMark, List.length_cons] at hrestLength hlength
          omega
        obtain ⟨base, gaps, hmarks, hbase, hbare⟩ := ih _ hshorter (Text.trim_trim rest) rfl
        refine ⟨base, gaps ++ [⟨gap, hgap⟩], ?_, hbase, hbare⟩
        rw [append_marksText_concat, ← hmarks, ← hsplit]
      · exact ⟨word, [], by simp [marksText], hword, hmark⟩

theorem exists_marked (typeName : String) :
    ∃ marked : MarkedWord, typeName.toList = marked.text := by
  obtain ⟨before, after, hbefore, hafter, htext⟩ := Text.exists_trim typeName.toList
  obtain ⟨base, gaps, hword, hbase, hbare⟩ := exists_marks (Text.trim_trim typeName.toList)
  refine ⟨⟨⟨before, hbefore⟩, base, gaps, ⟨after, hafter⟩, hbase, hbare⟩, ?_⟩
  rw [htext, hword]
  simp [MarkedWord.text]

/-! ## One more mark -/

theorem join_replicate_succ (count : Nat) :
    String.join (List.replicate (count + 1) "[]") =
      String.join (List.replicate count "[]") ++ "[]" := by
  rw [List.replicate_succ']
  simp

/-- A text with one more mark than another has a column type with one more mark. -/
theorem columnType_of_peeled {typeName element : String}
    (h : peeled (Text.lower typeName).toList =
      ((peeled (Text.lower element).toList).1, (peeled (Text.lower element).toList).2 + 1)) :
    columnType typeName = columnType element ++ "[]" := by
  rw [columnType_eq_peeled, h, join_replicate_succ, ← String.append_assoc]
  rfl

/-- Letter case, blanks, arguments and marks that are there already do not matter: one more mark at
the end of a type word is one more mark at the end of its column type. -/
theorem columnType_append_mark (typeName : String) :
    columnType (typeName ++ "[]") = columnType typeName ++ "[]" := by
  have hlower : (Text.lower (typeName ++ "[]")).toList =
      (Text.lower typeName).toList ++ arrayMark := by
    simp only [Text.lower, String.toList_ofList, String.toList_append]
    exact Text.lowerFrom_append_plains (fun c hc => isPlain_of_mem_mark hc) false _
  apply columnType_of_peeled
  rw [hlower, peeled_append_mark]

/-! ## Rounds of the search -/

/-- What a round of the search leaves for the next one: the text before the array mark that ends a
type word. -/
def elementWord? (typeName : String) : Option String :=
  let word := Text.trim (Text.lower typeName).toList
  if arrayMark.isSuffixOf word then some (String.ofList (word.take (word.length - 2))) else none

/-- The search for the column type of a type word, round by round. -/
inductive MapsTo : String → Nat → String → Prop
  | base {typeName : String} (hend : elementWord? typeName = none) :
      MapsTo typeName 0 (baseType (Text.trim (Text.lower typeName).toList))
  | array {typeName element type : String} {rounds : Nat}
      (hround : elementWord? typeName = some element) (helement : MapsTo element rounds type) :
      MapsTo typeName (rounds + 1) (type ++ "[]")

section

variable {typeName element : String}

theorem trim_lower_of_elementWord? (h : elementWord? typeName = some element) :
    Text.trim (Text.lower typeName).toList = element.toList ++ arrayMark := by
  simp only [elementWord?, List.isSuffixOf_iff_suffix, Option.ite_none_right_eq_some,
    Option.some.injEq] at h
  obtain ⟨⟨rest, hrest⟩, rfl⟩ := h
  rw [← hrest]
  simp [arrayMark]

theorem lower_element (h : elementWord? typeName = some element) :
    Text.lower element = element := by
  refine Text.lower_eq_self_iff.mpr fun c hc => ?_
  have hword : c ∈ Text.trim (Text.lower typeName).toList := by
    rw [trim_lower_of_elementWord? h]
    exact List.mem_append_left _ hc
  exact Text.isSmall_of_mem_lower (Text.mem_of_mem_trim hword)

theorem peeled_of_elementWord?_eq_some (h : elementWord? typeName = some element) :
    peeled (Text.lower typeName).toList =
      ((peeled (Text.lower element).toList).1, (peeled (Text.lower element).toList).2 + 1) := by
  calc
    peeled (Text.lower typeName).toList = peeled (Text.trim (Text.lower typeName).toList) :=
      (peeled_congr (Text.trim_trim _)).symm
    _ = ((peeled element.toList).1, (peeled element.toList).2 + 1) := by
      rw [trim_lower_of_elementWord? h, peeled_append_mark]
    _ = _ := by rw [lower_element h]

theorem peeled_of_elementWord?_eq_none (h : elementWord? typeName = none) :
    peeled (Text.lower typeName).toList = (Text.trim (Text.lower typeName).toList, 0) := by
  have hbare : ¬ arrayMark <:+ Text.trim (Text.lower typeName).toList := by
    simpa [elementWord?] using h
  rw [← peeled_of_bare (Text.trim_trim _) hbare]
  exact (peeled_congr (Text.trim_trim _)).symm

/-- Each round takes an opening bracket away. -/
theorem count_bracket_element_lt (h : elementWord? typeName = some element) :
    element.toList.count '[' < typeName.toList.count '[' := by
  obtain ⟨before, after, -, -, htext⟩ := Text.exists_trim (Text.lower typeName).toList
  rw [trim_lower_of_elementWord? h] at htext
  have hle : (Text.lower typeName).toList.count '[' ≤ typeName.toList.count '[' :=
    Text.count_lower_le (by decide) typeName
  have hmark : arrayMark.count '[' = 1 := by decide
  rw [htext, List.count_append, List.count_append, List.count_append, hmark] at hle
  omega

end

theorem mapsTo_columnType (typeName : String) :
    MapsTo typeName (peeled (Text.lower typeName).toList).2 (columnType typeName) := by
  induction hcount : typeName.toList.count '[' using Nat.strong_induction_on
    generalizing typeName with
  | _ count ih =>
      cases hround : elementWord? typeName with
      | none =>
          rw [columnType_eq_peeled, peeled_of_elementWord?_eq_none hround]
          simpa using MapsTo.base hround
      | some element =>
          have hpeeled := peeled_of_elementWord?_eq_some hround
          have hlt := count_bracket_element_lt hround
          rw [columnType_of_peeled hpeeled, hpeeled]
          exact .array hround (ih _ (hcount ▸ hlt) element rfl)

theorem MapsTo.unique {typeName type other : String} {rounds more : Nat}
    (h : MapsTo typeName rounds type) (hother : MapsTo typeName more other) :
    rounds = more ∧ type = other := by
  induction h generalizing more other with
  | base hend =>
      cases hother with
      | base _ => exact ⟨rfl, rfl⟩
      | array hround _ => exact absurd (hend.symm.trans hround) (by simp)
  | array hround _ ih =>
      cases hother with
      | base hend => exact absurd (hend.symm.trans hround) (by simp)
      | array hround' helement =>
          obtain rfl := Option.some.inj (hround.symm.trans hround')
          obtain ⟨rfl, rfl⟩ := ih helement
          exact ⟨rfl, rfl⟩

/-- The search for a column type ends for every text, as each round leaves fewer opening brackets,
and has a round for each array mark that the text has after its base. It finds the type of the base,
with the arguments that the base has, and as many array marks. -/
theorem columnType_eq_base_with_marks (typeName : String) :
    (∀ element, elementWord? typeName = some element →
      element.toList.count '[' < typeName.toList.count '[') ∧
    (∃ marked : MarkedWord, typeName.toList = marked.text) ∧
    ∀ marked : MarkedWord, typeName.toList = marked.text →
      let base := (Text.lower (String.ofList marked.base)).toList
      let marks := String.join (List.replicate marked.gaps.length "[]")
      (∀ rounds type, MapsTo typeName rounds type ↔
        rounds = marked.gaps.length ∧ type = columnType typeName) ∧
      (∀ applied : AppliedWord base,
        columnType typeName = String.ofList (applied.type.text.toList.takeWhile (· != '(')) ++
          "(" ++ String.ofList applied.arguments ++ ")" ++ marks) ∧
      (IsEmpty (AppliedWord base) →
        columnType typeName =
          (ColumnType.ofWord? base).elim "TEXT" ColumnType.text ++ marks) := by
  refine ⟨fun element => count_bracket_element_lt, exists_marked typeName, ?_⟩
  intro marked htext base marks
  have hpeeled : peeled (Text.lower typeName).toList = (base, marked.gaps.length) := by
    rw [peeled_lower_text htext]
    simp [base, Text.lower]
  have hmaps : MapsTo typeName marked.gaps.length (columnType typeName) := by
    simpa only [hpeeled] using mapsTo_columnType typeName
  have htype : columnType typeName = baseType base ++ marks := by
    rw [columnType_eq_peeled, hpeeled]
  refine ⟨fun rounds type => ⟨fun h => h.unique hmaps, ?_⟩, fun applied => ?_, fun hplain => ?_⟩
  · rintro ⟨rfl, rfl⟩
    exact hmaps
  · rw [htype, baseType_of_applied applied]
  · rw [htype, baseType_of_not_applied hplain]

/-- A round may leave a text that is longer than the one it started from. -/
example : (elementWord? "İİİ[]").map String.length = some 6 := by
  decide +kernel

end EntityDiagram.Sql
