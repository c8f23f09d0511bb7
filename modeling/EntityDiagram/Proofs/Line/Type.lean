import EntityDiagram.Diagram.Line.Attribute
import EntityDiagram.Proofs.Line.Name
import EntityDiagram.Proofs.Text.Classes
import Mathlib.Data.Set.List

/-! # The grammar of types

A type is a word, arguments in parentheses, and the mark of an array. The grammar is stated twice:
as a predicate on texts, and as the parts that a type is written from. The reader of types agrees
with it, and a type is written from only one set of parts.
-/

namespace EntityDiagram.Line

/-! ## The grammar of types -/

/-- A word with blanks around it. -/
def IsPaddedWord (cs : List Char) : Prop :=
  ∃ before word after, (∀ c ∈ before, Text.isBlank c = true) ∧
    (word ≠ [] ∧ ∀ c ∈ word, Text.isWord c = true) ∧ (∀ c ∈ after, Text.isBlank c = true) ∧
    cs = before ++ word ++ after

/-- Words in parentheses, separated by commas, or nothing at all. -/
inductive IsArguments : List Char → Prop where
  | absent : IsArguments []
  | words {pieces : List (List Char)} (hne : pieces ≠ [])
      (hwords : ∀ piece ∈ pieces, IsPaddedWord piece) :
      IsArguments ('(' :: [','].intercalate pieces ++ [')'])

/-- Two square brackets, or nothing at all. -/
inductive IsArrayMark : List Char → Prop where
  | absent : IsArrayMark []
  | present : IsArrayMark ['[', ']']

/-- A word that starts with a letter, its arguments, and the mark of an array. -/
inductive IsTypeName : List Char → Prop where
  | intro {letter : Char} {word arguments mark : List Char} (hletter : letter.isAlpha = true)
      (hword : ∀ c ∈ word, isNameChar c = true) (harguments : IsArguments arguments)
      (hmark : IsArrayMark mark) : IsTypeName (letter :: word ++ arguments ++ mark)

/-! ## Arguments -/

theorem isPaddedWord_iff {cs : List Char} :
    IsPaddedWord cs ↔ Text.trim cs ≠ [] ∧ ∀ c ∈ Text.trim cs, Text.isWord c = true := by
  constructor
  · rintro ⟨before, word, after, hbefore, ⟨hne, hword⟩, hafter, rfl⟩
    have htrim : Text.trim (before ++ word ++ after) = word := by
      apply Text.trim_padded hbefore hafter
      · intro c hc
        exact Text.isBlank_of_isWord (hword c (List.mem_of_mem_head? hc))
      · intro c hc
        exact Text.isBlank_of_isWord (hword c (List.mem_of_mem_getLast? hc))
    rw [htrim]
    exact ⟨hne, hword⟩
  · intro h
    obtain ⟨before, after, hbefore, hafter, hcs⟩ := Text.exists_trim cs
    exact ⟨before, Text.trim cs, after, hbefore, h, hafter, hcs⟩

theorem IsPaddedWord.forall_mem {cs : List Char} (h : IsPaddedWord cs) :
    ∀ c ∈ cs, Text.isBlank c = true ∨ Text.isWord c = true := by
  obtain ⟨before, word, after, hbefore, ⟨-, hword⟩, hafter, rfl⟩ := h
  intro c hc
  rcases List.mem_append.mp hc with hc | hc
  · rcases List.mem_append.mp hc with hc | hc
    · exact .inl (hbefore c hc)
    · exact .inr (hword c hc)
  · exact .inl (hafter c hc)

theorem IsPaddedWord.not_mem {cs : List Char} (h : IsPaddedWord cs) {c : Char}
    (hblank : Text.isBlank c = false) (hword : Text.isWord c = false) : c ∉ cs := by
  intro hc
  rcases h.forall_mem c hc with hc | hc
  · rw [hblank] at hc
    contradiction
  · rw [hword] at hc
    contradiction

theorem isArgumentList_iff {cs : List Char} :
    isArgumentList cs = true ↔
      ∃ pieces, pieces ≠ [] ∧ (∀ piece ∈ pieces, IsPaddedWord piece) ∧
        cs = [','].intercalate pieces := by
  have hpieces : isArgumentList cs = true ↔ ∀ piece ∈ cs.splitOn ',', IsPaddedWord piece := by
    simp [isArgumentList, isPaddedWord_iff]
  rw [hpieces]
  constructor
  · intro h
    exact ⟨cs.splitOn ',', List.splitOn_ne_nil ',' cs, h, (List.intercalate_splitOn ',').symm⟩
  · rintro ⟨pieces, hne, hwords, rfl⟩
    have hcomma : ∀ piece ∈ pieces, ',' ∉ piece := fun piece hpiece =>
      (hwords piece hpiece).not_mem (by decide) (by decide)
    rwa [List.splitOn_intercalate ',' hcomma hne]

theorem mem_intercalate {c mark : Char} {pieces : List (List Char)}
    (h : c ∈ [mark].intercalate pieces) : c = mark ∨ ∃ piece ∈ pieces, c ∈ piece := by
  induction pieces with
  | nil => simp at h
  | cons piece pieces ih =>
      cases pieces with
      | nil =>
          rw [List.intercalate_singleton] at h
          exact .inr ⟨piece, List.mem_cons_self, h⟩
      | cons next pieces =>
          rw [List.intercalate_cons_cons, List.mem_append, List.mem_append] at h
          rcases h with (h | h) | h
          · exact .inr ⟨piece, List.mem_cons_self, h⟩
          · exact .inl (List.mem_singleton.mp h)
          · rcases ih h with h | ⟨found, hfound, hc⟩
            · exact .inl h
            · exact .inr ⟨found, List.mem_cons_of_mem piece hfound, hc⟩

theorem IsArguments.forall_mem {arguments : List Char} (h : IsArguments arguments) :
    ∀ c ∈ arguments, c ∈ ['(', ',', ')'] ∨ Text.isBlank c = true ∨ Text.isWord c = true := by
  cases h with
  | absent => simp
  | words hne hwords =>
      intro c hc
      simp only [List.cons_append, List.mem_cons, List.mem_append, List.not_mem_nil,
        or_false] at hc ⊢
      rcases hc with rfl | hc | rfl
      · simp
      · rcases mem_intercalate hc with rfl | ⟨piece, hpiece, hc⟩
        · simp
        · exact .inr ((hwords piece hpiece).forall_mem c hc)
      · simp

/-- Arguments are read whole when no other parenthesis follows them. -/
theorem arguments?_append {arguments rest : List Char} (h : IsArguments arguments)
    (hrest : ∀ c ∈ rest.head?, c ≠ '(') :
    arguments? (arguments ++ rest) = some (arguments, rest) := by
  cases h with
  | absent =>
      unfold arguments?
      split
      · next more heq => exact absurd rfl (hrest '(' (by simp_all))
      · rfl
  | @words pieces hne hwords =>
      have hclose : ')' ∉ [','].intercalate pieces := by
        intro hc
        rcases mem_intercalate hc with heq | ⟨piece, hpiece, hc⟩
        · exact absurd heq (by decide)
        · exact (hwords piece hpiece).not_mem (by decide) (by decide) hc
      have hlist : isArgumentList ([','].intercalate pieces) = true :=
        isArgumentList_iff.mpr ⟨pieces, hne, hwords, rfl⟩
      simp [arguments?, upTo?_append hclose, hlist]

theorem isArguments_of_arguments? {cs arguments rest : List Char}
    (h : arguments? cs = some (arguments, rest)) :
    IsArguments arguments ∧ cs = arguments ++ rest := by
  unfold arguments? at h
  split at h
  · next more =>
      split at h
      · next inner left hread =>
          split at h
          · next hlist =>
              cases h
              obtain ⟨-, rfl⟩ := upTo?_eq_some_iff.mp hread
              obtain ⟨pieces, hne, hwords, rfl⟩ := isArgumentList_iff.mp hlist
              exact ⟨.words hne hwords, by simp⟩
          · contradiction
      · contradiction
  · cases h
    exact ⟨.absent, rfl⟩

/-! ## Types -/

theorem arrayMark_append {mark rest : List Char} (h : IsArrayMark mark)
    (hrest : ∀ c ∈ rest.head?, c ≠ '[') : arrayMark (mark ++ rest) = (mark, rest) := by
  cases h with
  | absent =>
      unfold arrayMark
      split
      · next more heq => exact absurd rfl (hrest '[' (by simp_all))
      · rfl
  | present => rfl

theorem isArrayMark_arrayMark (cs : List Char) :
    IsArrayMark (arrayMark cs).1 ∧ cs = (arrayMark cs).1 ++ (arrayMark cs).2 := by
  unfold arrayMark
  split
  · exact ⟨.present, rfl⟩
  · exact ⟨.absent, rfl⟩

theorem head?_arguments_append {arguments mark rest : List Char}
    (harguments : IsArguments arguments) (hmark : IsArrayMark mark)
    (hrest : ∀ c ∈ rest.head?, Text.isBlank c = true) :
    ∀ c ∈ (arguments ++ mark ++ rest).head?, isNameChar c = false := by
  cases harguments with
  | words => simp; decide
  | absent =>
      cases hmark with
      | present => simp; decide
      | absent =>
          intro c hc
          exact isNameChar_of_isBlank (hrest c hc)

/-- A type is read whole when a blank or nothing follows it. -/
theorem typeName?_append {typeName rest : List Char} (h : IsTypeName typeName)
    (hrest : ∀ c ∈ rest.head?, Text.isBlank c = true) :
    typeName? (typeName ++ rest) = some (typeName, rest) := by
  have hne : ∀ mark : Char, Text.isBlank mark = false → ∀ c ∈ rest.head?, c ≠ mark := by
    rintro mark hmark c hc rfl
    rw [hrest c hc] at hmark
    contradiction
  obtain @⟨letter, word, arguments, mark, hletter, hword, harguments, hmark⟩ := h
  have hstop := head?_arguments_append harguments hmark hrest
  have hread : arguments? (arguments ++ (mark ++ rest)) = some (arguments, mark ++ rest) := by
    apply arguments?_append harguments
    cases hmark with
    | present => simp
    | absent => exact hne '(' (by decide)
  have harray := arrayMark_append hmark (hne '[' (by decide))
  simp only [List.append_assoc] at hstop
  simp only [List.cons_append, List.append_assoc, typeName?, hletter, if_true,
    Text.takeWhile_append_stop hword hstop, Text.dropWhile_append_stop hword hstop, hread, harray]

/-- What is read as a type is one. -/
theorem isTypeName_of_typeName? {cs typeName rest : List Char}
    (h : typeName? cs = some (typeName, rest)) : IsTypeName typeName ∧ cs = typeName ++ rest := by
  cases cs with
  | nil => simp [typeName?] at h
  | cons letter cs =>
      simp only [typeName?] at h
      split at h
      · next hletter =>
          cases hread : arguments? (cs.dropWhile isNameChar) with
          | none => simp [hread] at h
          | some pair =>
              obtain ⟨arguments, left⟩ := pair
              obtain ⟨harguments, hleft⟩ := isArguments_of_arguments? hread
              obtain ⟨hmark, hrest⟩ := isArrayMark_arrayMark left
              simp only [hread, Option.some.injEq, Prod.mk.injEq] at h
              obtain ⟨rfl, rfl⟩ := h
              refine ⟨.intro hletter (fun c hc => List.mem_takeWhile_imp hc) harguments hmark, ?_⟩
              rw [List.append_assoc, List.append_assoc, ← hrest, ← hleft, List.cons_append,
                List.takeWhile_append_dropWhile]
      · contradiction

theorem IsTypeName.forall_mem {typeName : List Char} (h : IsTypeName typeName) :
    ∀ c ∈ typeName, isNameChar c = true ∨ c ∈ ['(', ',', ')', '[', ']'] ∨
      Text.isBlank c = true ∨ Text.isWord c = true := by
  obtain @⟨letter, word, arguments, mark, hletter, hword, harguments, hmark⟩ := h
  intro c hc
  simp only [List.cons_append, List.append_assoc, List.mem_cons, List.mem_append] at hc
  rcases hc with rfl | hc | hc | hc
  · have hstart : isNameStart c = true := by simp [isNameStart, hletter]
    exact .inl (isNameChar_of_isNameStart hstart)
  · exact .inl (hword c hc)
  · have hclass := harguments.forall_mem c hc
    grind
  · cases hmark with
    | absent => simp at hc
    | present =>
        grind

theorem IsTypeName.head {typeName : List Char} (h : IsTypeName typeName) :
    ∃ letter more, typeName = letter :: more ∧ isNameChar letter = true := by
  obtain @⟨letter, word, arguments, mark, hletter, -, -, -⟩ := h
  have hstart : isNameStart letter = true := by simp [isNameStart, hletter]
  exact ⟨letter, word ++ arguments ++ mark, by simp, isNameChar_of_isNameStart hstart⟩

/-! ## The parts of a type -/

@[ext] structure PaddedWord where
  before : Text.Blanks
  word : List Char
  after : Text.Blanks
  ne_nil : word ≠ []
  forall_isWord : ∀ c ∈ word, Text.isWord c = true

def PaddedWord.text (padded : PaddedWord) : List Char :=
  padded.before.1 ++ padded.word ++ padded.after.1

theorem isPaddedWord_iff_exists {cs : List Char} :
    IsPaddedWord cs ↔ ∃ padded : PaddedWord, padded.text = cs := by
  constructor
  · rintro ⟨before, word, after, hbefore, ⟨hne, hword⟩, hafter, rfl⟩
    exact ⟨⟨⟨before, hbefore⟩, word, ⟨after, hafter⟩, hne, hword⟩, rfl⟩
  · rintro ⟨padded, rfl⟩
    exact ⟨padded.before.1, padded.word, padded.after.1, padded.before.2,
      ⟨padded.ne_nil, padded.forall_isWord⟩, padded.after.2, rfl⟩

theorem PaddedWord.text_injective : Function.Injective text := by
  have hblank : ∀ padded : PaddedWord, ∀ c ∈ (padded.word ++ padded.after.1).head?,
      Text.isBlank c = false := by
    intro padded c hc
    obtain ⟨first, more, hword⟩ := List.exists_cons_of_ne_nil padded.ne_nil
    have hfirst : first ∈ padded.word := by simp [hword]
    obtain rfl : first = c := by simpa [hword] using hc
    exact Text.isBlank_of_isWord (padded.forall_isWord first hfirst)
  have hword : ∀ padded : PaddedWord, ∀ c ∈ padded.after.1.head?, Text.isWord c = false := by
    intro padded c hc
    exact Text.isWord_of_isBlank (padded.after.2 c (List.mem_of_mem_head? hc))
  intro padded other h
  simp only [text, List.append_assoc] at h
  obtain ⟨hbefore, h⟩ := Text.append_inj_of_stop padded.before.2 other.before.2 (hblank padded)
    (hblank other) h
  obtain ⟨hpadded, hafter⟩ := Text.append_inj_of_stop padded.forall_isWord other.forall_isWord
    (hword padded) (hword other) h
  exact PaddedWord.ext (Subtype.ext hbefore) hpadded (Subtype.ext hafter)

/-- A type in its parts. Without arguments it has no parentheses. -/
@[ext] structure WrittenType where
  letter : Char
  word : List Char
  arguments : List PaddedWord
  isArray : Bool
  isAlpha_letter : letter.isAlpha = true
  forall_isNameChar : ∀ c ∈ word, isNameChar c = true

namespace WrittenType

def argumentsText : List PaddedWord → List Char
  | [] => []
  | arguments => '(' :: [','].intercalate (arguments.map PaddedWord.text) ++ [')']

def markText (isArray : Bool) : List Char := if isArray then ['[', ']'] else []

def text (written : WrittenType) : List Char :=
  written.letter :: written.word ++ argumentsText written.arguments ++ markText written.isArray

theorem isArguments_argumentsText (arguments : List PaddedWord) :
    IsArguments (argumentsText arguments) := by
  cases arguments with
  | nil => exact .absent
  | cons padded arguments =>
      refine .words (by simp) ?_
      rw [List.forall_mem_map]
      exact fun padded _ => isPaddedWord_iff_exists.mpr ⟨padded, rfl⟩

theorem isArrayMark_markText (isArray : Bool) : IsArrayMark (markText isArray) := by
  cases isArray
  · exact .absent
  · exact .present

theorem isTypeName_text (written : WrittenType) : IsTypeName written.text :=
  .intro written.isAlpha_letter written.forall_isNameChar (isArguments_argumentsText _)
    (isArrayMark_markText _)

theorem argumentsText_injective : Function.Injective argumentsText := by
  have hcomma : ∀ arguments : List PaddedWord,
      ∀ piece ∈ arguments.map PaddedWord.text, ',' ∉ piece := by
    intro arguments piece hpiece
    obtain ⟨padded, -, rfl⟩ := List.mem_map.mp hpiece
    exact (isPaddedWord_iff_exists.mpr ⟨padded, rfl⟩).not_mem (by decide) (by decide)
  intro arguments others h
  cases arguments with
  | nil =>
      cases others with
      | nil => rfl
      | cons other others => simp [argumentsText] at h
  | cons padded arguments =>
      cases others with
      | nil => simp [argumentsText] at h
      | cons other others =>
          simp only [argumentsText, List.cons_append, List.cons.injEq, true_and] at h
          have hpieces := congrArg (List.splitOn ',') (List.append_cancel_right h)
          rw [List.splitOn_intercalate ',' (hcomma _) (by simp),
            List.splitOn_intercalate ',' (hcomma _) (by simp)] at hpieces
          exact (List.map_inj_right fun _ _ heq => PaddedWord.text_injective heq).mp hpieces

theorem markText_injective : Function.Injective markText := by
  intro isArray other
  cases isArray <;> cases other <;> simp [markText]

theorem text_injective : Function.Injective text := by
  have hstop : ∀ written : WrittenType,
      ∀ c ∈ (argumentsText written.arguments ++ markText written.isArray).head?,
        isNameChar c = false := by
    intro written
    simpa using @head?_arguments_append _ _ [] (isArguments_argumentsText written.arguments)
      (isArrayMark_markText written.isArray) (by simp)
  have hread : ∀ written : WrittenType,
      arguments? (argumentsText written.arguments ++ markText written.isArray) =
        some (argumentsText written.arguments, markText written.isArray) := by
    intro written
    apply arguments?_append (isArguments_argumentsText written.arguments)
    cases written.isArray <;> simp [markText]
  intro written other h
  simp only [text, List.cons_append, List.append_assoc, List.cons.injEq] at h
  obtain ⟨hletter, h⟩ := h
  obtain ⟨hword, h⟩ := Text.append_inj_of_stop written.forall_isNameChar other.forall_isNameChar
    (hstop written) (hstop other) h
  have hparts := congrArg arguments? h
  rw [hread, hread, Option.some.injEq, Prod.mk.injEq] at hparts
  exact WrittenType.ext hletter hword (argumentsText_injective hparts.1)
    (markText_injective hparts.2)

end WrittenType

theorem IsTypeName.exists_written {typeName : List Char} (h : IsTypeName typeName) :
    ∃ written : WrittenType, written.text = typeName := by
  obtain @⟨letter, word, arguments, mark, hletter, hword, harguments, hmark⟩ := h
  have hexists : ∃ words, WrittenType.argumentsText words = arguments := by
    cases harguments with
    | absent => exact ⟨[], rfl⟩
    | @words pieces hne hwords =>
        have hpieces : pieces ∈ Set.range (List.map PaddedWord.text) := by
          rw [Set.range_list_map]
          exact fun piece hpiece => isPaddedWord_iff_exists.mp (hwords piece hpiece)
        obtain ⟨words, rfl⟩ := hpieces
        cases words with
        | nil => exact absurd rfl hne
        | cons padded words => exact ⟨padded :: words, rfl⟩
  have hmarked : ∃ isArray, WrittenType.markText isArray = mark := by
    cases hmark with
    | absent => exact ⟨false, rfl⟩
    | present => exact ⟨true, rfl⟩
  obtain ⟨words, rfl⟩ := hexists
  obtain ⟨isArray, rfl⟩ := hmarked
  exact ⟨⟨letter, word, words, isArray, hletter, hword⟩, rfl⟩

end EntityDiagram.Line
