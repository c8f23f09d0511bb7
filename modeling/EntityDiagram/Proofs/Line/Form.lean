import EntityDiagram.Diagram.Line
import EntityDiagram.Proofs.Line.Attribute
import EntityDiagram.Proofs.Line.Relationship

/-! # Ordinary lines and attribute lines

An ordinary line is one that is neither empty nor a header, a direction or a closing brace: inside
a block it is offered to the attribute reader, and outside it opens a block, links or mentions
entities, or means nothing. A line that declares an attribute is ordinary, with one exception: a
bare `direction` with the name of a layout is a direction first.
-/

namespace EntityDiagram.Line

/-! ## Ordinary lines -/

def IsOrdinary (cs : List Char) : Prop :=
  (cs.all Text.isBlank || isRemark cs) = false ∧ isHeader cs = false ∧ isDirection cs = false ∧
    isClosing cs = false

instance : DecidablePred IsOrdinary := fun _ => inferInstanceAs (Decidable (_ ∧ _))

theorem classify_of_isOrdinary {cs : List Char} (h : IsOrdinary cs) :
    classify cs =
      match opening? cs with
      | some heading => .opening heading
      | none =>
          match relationship? cs with
          | some relationship => .relationship relationship
          | none =>
              match mention? cs with
              | some heading => .mention heading
              | none => .unknown := by
  obtain ⟨hempty, hheader, hdirection, hclosing⟩ := h
  unfold classify
  rw [hempty, hheader, hdirection, hclosing]
  rfl

theorem classify_ne_closing_of_isOrdinary {cs : List Char} (h : IsOrdinary cs) :
    classify cs ≠ .closing := by
  rw [classify_of_isOrdinary h]
  split
  · simp
  split
  · simp
  split <;> simp

theorem classify_of_not_isOrdinary {cs : List Char} (h : ¬ IsOrdinary cs) :
    (classify cs = .empty ∨ classify cs = .direction) ∨ classify cs = .header ∨
      classify cs = .closing := by
  unfold classify
  split
  · exact .inl (.inl rfl)
  split
  · exact .inr (.inl rfl)
  split
  · exact .inl (.inr rfl)
  split
  · exact .inr (.inr rfl)
  next hempty hheader hdirection hclosing =>
    exact absurd ⟨Bool.eq_false_iff.mpr hempty, Bool.eq_false_iff.mpr hheader,
      Bool.eq_false_iff.mpr hdirection, Bool.eq_false_iff.mpr hclosing⟩ h

/-- Whether what a form carries is what its own reader gives. -/
def Form.IsRead (cs : List Char) : Form → Prop
  | .opening heading => opening? cs = some heading
  | .relationship linked => relationship? cs = some linked
  | .mention heading => mention? cs = some heading
  | _ => True

theorem isRead_classify (cs : List Char) : (classify cs).IsRead cs := by
  unfold classify
  split
  · trivial
  split
  · trivial
  split
  · trivial
  split
  · trivial
  split
  · next hread => exact hread
  split
  · next hread => exact hread
  split
  · next hread => exact hread
  · trivial

/-! ## Words -/

theorem exists_letter_of_sameWord {word cs : List Char} (h : sameWord word cs = true) {c : Char}
    (hc : c ∈ cs) : ∃ letter ∈ word, sameLetter letter c = true := by
  induction word generalizing cs with
  | nil => cases cs <;> simp_all [sameWord]
  | cons letter word ih =>
      cases cs with
      | nil => simp at hc
      | cons first cs =>
          simp only [sameWord, Bool.and_eq_true] at h
          rcases List.mem_cons.mp hc with rfl | hc
          · exact ⟨letter, List.mem_cons_self, h.1⟩
          · obtain ⟨found, hfound, hsame⟩ := ih h.2 hc
            exact ⟨found, List.mem_cons_of_mem letter hfound, hsame⟩

theorem not_mem_of_sameWord {word cs : List Char} (h : sameWord word cs = true) {c : Char}
    (hc : word.any (sameLetter · c) = false) : c ∉ cs := by
  intro hmem
  obtain ⟨letter, hletter, hsame⟩ := exists_letter_of_sameWord h hmem
  exact List.any_eq_false.mp hc letter hletter hsame

/-- Apart from the two letters that count as an i, only the two cases of a letter are the same
letter. -/
theorem map_toLower_of_sameWord_of_not_mem {word cs : List Char} (h : sameWord word cs = true)
    (hdotted : 'İ' ∉ cs) (hdotless : 'ı' ∉ cs) : cs.map Char.toLower = word := by
  induction word generalizing cs with
  | nil => cases cs <;> simp_all [sameWord]
  | cons letter word ih =>
      cases cs with
      | nil => simp [sameWord] at h
      | cons c cs =>
          simp only [sameWord, Bool.and_eq_true] at h
          rw [List.mem_cons, not_or] at hdotted hdotless
          have hletter : c.toLower = letter := by
            simpa [sameLetter, Ne.symm hdotted.1, Ne.symm hdotless.1] using h.1
          rw [List.map_cons, hletter, ih h.2 hdotted.2 hdotless.2]

/-- Among the characters of bare names, only the two cases of a letter are the same letter. -/
theorem map_toLower_of_sameWord {word cs : List Char} (h : sameWord word cs = true)
    (hname : ∀ c ∈ cs, isNameChar c = true) : cs.map Char.toLower = word :=
  map_toLower_of_sameWord_of_not_mem h (fun hmem => absurd (hname _ hmem) (by decide))
    fun hmem => absurd (hname _ hmem) (by decide)

theorem head?_of_sameWord {letter : Char} {word cs : List Char}
    (h : sameWord (letter :: word) cs = true) :
    ∃ c, cs.head? = some c ∧ sameLetter letter c = true := by
  cases cs with
  | nil => simp [sameWord] at h
  | cons c cs =>
      rw [sameWord, Bool.and_eq_true] at h
      exact ⟨c, rfl, h.1⟩

/-! ## Letters of words -/

theorem isAlpha_of_isAlpha_toLower {c : Char} (h : c.toLower.isAlpha = true) :
    c.isAlpha = true := by
  by_cases hupper : c.isUpper = true
  · exact Bool.or_eq_true_iff.mpr (.inl hupper)
  · have hsame : c.toLower = c := by
      unfold Char.toLower
      unfold Char.isUpper at hupper
      grind
    rwa [hsame] at h

theorem isNameStart_of_sameLetter {letter c : Char} (hletter : letter.isAlpha = true)
    (h : sameLetter letter c = true) (hdotted : letter ≠ 'i') : isNameStart c = true := by
  have hc : c.toLower = letter := by simpa [sameLetter, hdotted] using h
  simp [isNameStart, isAlpha_of_isAlpha_toLower (hc ▸ hletter)]

theorem isBlank_of_sameLetter {letter c : Char} (hletter : letter.isAlpha = true)
    (h : sameLetter letter c = true) : Text.isBlank c = false := by
  simp only [sameLetter, Bool.or_eq_true, Bool.and_eq_true, decide_eq_true_eq] at h
  rcases h with h | ⟨-, rfl | rfl⟩
  · have hstart : isNameStart c = true := by
      simp [isNameStart, isAlpha_of_isAlpha_toLower (h ▸ hletter)]
    exact isBlank_of_isNameChar (isNameChar_of_isNameStart hstart)
  · decide
  · decide

theorem isBlank_of_sameWord {word cs : List Char} (hword : ∀ letter ∈ word, letter.isAlpha = true)
    (h : sameWord word cs = true) : ∀ c ∈ cs, Text.isBlank c = false := by
  intro c hc
  obtain ⟨letter, hletter, hsame⟩ := exists_letter_of_sameWord h hc
  exact isBlank_of_sameLetter (hword letter hletter) hsame

theorem isBlank_of_isHeader {cs : List Char} (h : isHeader cs = true) :
    ∀ c ∈ Text.trim cs, Text.isBlank c = false :=
  isBlank_of_sameWord (List.all_eq_true.mp (by decide)) h

/-- The letters of directions. -/
def directionLetters : List Char := directionWord ++ directions.flatten

theorem isBlank_or_mem_of_isDirection {cs : List Char} (h : isDirection cs = true) :
    ∀ c ∈ Text.trim cs, Text.isBlank c = true ∨
      ∃ letter ∈ directionLetters, sameLetter letter c = true := by
  simp only [isDirection, Bool.and_eq_true, List.any_eq_true] at h
  obtain ⟨⟨hword, -⟩, layout, hlayout, hrest⟩ := h
  intro c hc
  rw [← List.take_append_drop directionWord.length (Text.trim cs)] at hc
  rcases List.mem_append.mp hc with hc | hc
  · obtain ⟨letter, hletter, hsame⟩ := exists_letter_of_sameWord hword hc
    exact .inr ⟨letter, List.mem_append_left _ hletter, hsame⟩
  · rw [← List.takeWhile_append_dropWhile (p := Text.isBlank)
      (l := (Text.trim cs).drop directionWord.length)] at hc
    rcases List.mem_append.mp hc with hc | hc
    · exact .inl (List.mem_takeWhile_imp hc)
    · obtain ⟨letter, hletter, hsame⟩ := exists_letter_of_sameWord hrest hc
      exact .inr ⟨letter, List.mem_append_right _ (List.mem_flatten_of_mem hlayout hletter), hsame⟩

/-- A character that is neither blank nor a letter of directions is in none of them. -/
theorem isDirection_of_mem {cs : List Char} {c : Char} (hc : c ∈ Text.trim cs)
    (hblank : Text.isBlank c = false) (hletter : directionLetters.any (sameLetter · c) = false) :
    isDirection cs = false := by
  cases h : isDirection cs with
  | false => rfl
  | true =>
      rcases isBlank_or_mem_of_isDirection h c hc with hc | ⟨letter, hmem, hsame⟩
      · rw [hc] at hblank
        contradiction
      · exact absurd hsame (List.any_eq_false.mp hletter letter hmem)

/-! ## Lines by their first character -/

theorem head?_trim {cs : List Char} {c : Char} (hhead : cs.head? = some c)
    (hc : Text.isBlank c = false) : (Text.trim cs).head? = some c := by
  have hdrop : cs.dropWhile Text.isBlank = cs := Text.dropWhile_of_head (by simp [hhead, hc])
  obtain ⟨after, hafter, hcs⟩ := Text.exists_dropEnd Text.isBlank cs
  rw [Text.trim, Text.stripWhile, hdrop]
  cases hcut : Text.dropEnd Text.isBlank cs with
  | nil =>
      rw [hcut, List.nil_append] at hcs
      have hblank := hafter c (by rw [← hcs]; exact List.mem_of_head? hhead)
      rw [hc] at hblank
      contradiction
  | cons first rest =>
      rw [hcs, hcut] at hhead
      simpa using hhead

theorem head?_trim_eq (cs : List Char) : (Text.trim cs).head? = (skipBlanks cs).head? := by
  rw [← trim_skipBlanks]
  cases hskip : skipBlanks cs with
  | nil => rfl
  | cons c more =>
      have hlead : (skipBlanks cs).head? = some c := by rw [hskip, List.head?_cons]
      exact head?_trim rfl (Text.head?_dropWhile cs c hlead)

theorem isClosing_of_head {cs : List Char} {c : Char} (hhead : cs.head? = some c)
    (hblank : Text.isBlank c = false) (hc : c ≠ '}') : isClosing cs = false := by
  have htrim := head?_trim hhead hblank
  rw [isClosing, beq_eq_false_iff_ne]
  intro heq
  rw [heq, List.head?_cons, Option.some.injEq] at htrim
  exact hc htrim.symm

/-- A line that starts with a character other than a percent sign is neither blank nor a remark. -/
theorem not_empty_of_lead {cs : List Char} {c : Char} (hlead : (skipBlanks cs).head? = some c)
    (hc : c ≠ '%') : (cs.all Text.isBlank || isRemark cs) = false := by
  have hblank : cs.all Text.isBlank = false := by
    rw [List.all_eq_false]
    refine ⟨c, (skipBlanks_suffix cs).subset (List.mem_of_head? hlead), ?_⟩
    rw [Text.head?_dropWhile cs c hlead]
    decide
  have hremark : isRemark cs = false := by
    unfold isRemark
    cases hskip : skipBlanks cs with
    | nil => rfl
    | cons first rest =>
        rw [hskip, List.head?_cons, Option.some.injEq] at hlead
        subst hlead
        simp [List.isPrefixOf, hc.symm]
  rw [hblank, hremark]
  rfl

theorem not_empty_of_head {cs : List Char} {c : Char} (hhead : cs.head? = some c)
    (hblank : Text.isBlank c = false) (hc : c ≠ '%') :
    (cs.all Text.isBlank || isRemark cs) = false := by
  have hskip : skipBlanks cs = cs := skipBlanks_of_head (by simp [hhead, hblank])
  exact not_empty_of_lead (hskip.symm ▸ hhead) hc

/-! ## Headers and layouts -/

theorem isHeader_trim (cs : List Char) : isHeader (Text.trim cs) = isHeader cs := by
  rw [isHeader, isHeader, Text.trim_trim]

theorem isDirection_trim (cs : List Char) : isDirection (Text.trim cs) = isDirection cs := by
  rw [isDirection, isDirection, Text.trim_trim]

/-- Trimming takes nothing off the marks of a remark. -/
theorem isRemark_trim {cs : List Char} (h : isRemark cs = true) :
    isRemark (Text.trim cs) = true := by
  obtain ⟨more, hmore⟩ := List.isPrefixOf_iff_prefix.mp h
  obtain ⟨after, hafter, hcs⟩ := Text.exists_dropEnd Text.isBlank (cs.dropWhile Text.isBlank)
  have hmark : Text.isBlank '%' ≠ true := by decide
  have hskip : skipBlanks (Text.trim cs) = Text.trim cs :=
    skipBlanks_of_head (Text.head?_trim_not_blank cs)
  have hwhole : Text.trim cs ++ after = ['%', '%'] ++ more := hcs.symm.trans hmore.symm
  rw [isRemark, hskip, List.isPrefixOf_iff_prefix]
  rcases List.append_eq_append_iff.mp hwhole with ⟨rest, hrest, hends⟩ | ⟨rest, hrest, -⟩
  · -- A mark that was cut off would be a blank.
    cases rest with
    | nil => exact ⟨[], by rw [hrest]; simp⟩
    | cons c rest =>
        have hc : c ∈ ['%', '%'] := hrest ▸ List.mem_append_right _ List.mem_cons_self
        have hblank := hafter c (hends ▸ List.mem_cons_self)
        have heq : c = '%' := by simpa using hc
        exact absurd (heq ▸ hblank) hmark
  · exact ⟨rest, hrest.symm⟩

theorem isHeader_of_isDirection {cs : List Char} (h : isDirection cs = true) :
    isHeader cs = false := by
  simp only [isDirection, Bool.and_eq_true] at h
  obtain ⟨c, hhead, hletter⟩ := head?_of_sameWord h.1.1
  cases hheader : isHeader cs with
  | false => rfl
  | true =>
      obtain ⟨d, hfirst, hother⟩ := head?_of_sameWord hheader
      have heq : c = d := by
        rw [List.head?_take, if_neg (by decide), hfirst] at hhead
        exact (Option.some.inj hhead).symm
      subst heq
      have hd : c.toLower = 'd' := by simpa [sameLetter] using hletter
      have he : c.toLower = 'e' := by simpa [sameLetter] using hother
      rw [hd] at he
      contradiction

theorem not_empty_of_isHeader {cs : List Char} (h : isHeader cs = true) :
    (cs.all Text.isBlank || isRemark cs) = false := by
  obtain ⟨c, hhead, hletter⟩ := head?_of_sameWord h
  have hc : c ≠ '%' := by
    rintro rfl
    contradiction
  rw [head?_trim_eq] at hhead
  exact not_empty_of_lead hhead hc

theorem classify_eq_header_iff {cs : List Char} : classify cs = .header ↔ isHeader cs = true := by
  constructor
  · intro h
    by_contra hheader
    unfold classify at h
    rw [if_neg hheader] at h
    split_ifs at h
    split at h
    · cases h
    split at h
    · cases h
    split at h
    · cases h
    · cases h
  · intro h
    have hempty : ¬ (cs.all Text.isBlank || isRemark cs) = true := by
      rw [not_empty_of_isHeader h]
      decide
    rw [classify, if_neg hempty, if_pos h]

theorem classify_of_isDirection {cs : List Char} (h : isDirection cs = true) :
    classify cs = .direction := by
  have hletters := h
  simp only [isDirection, Bool.and_eq_true] at hletters
  obtain ⟨c, hhead, hletter⟩ := head?_of_sameWord hletters.1.1
  have hc : c ≠ '%' := by
    rintro rfl
    contradiction
  rw [List.head?_take, if_neg (by decide), head?_trim_eq] at hhead
  unfold classify
  rw [not_empty_of_lead hhead hc, isHeader_of_isDirection h, h]
  rfl

/-! ## Attribute lines -/

theorem getLast?_bareName {name : List Char} (h : IsBareName name) :
    ∃ c, name.getLast? = some c ∧ isNameChar c = true := by
  have hchars := h.forall_isNameChar
  obtain ⟨first, more, rfl, -, -⟩ := h
  cases hlast : (first :: more).getLast? with
  | none => simp at hlast
  | some c => exact ⟨c, rfl, hchars c (List.mem_of_getLast? hlast)⟩

theorem getLast?_keyList (key : Key) (keys : List Key) :
    (keyList (key :: keys)).getLast? = some 'K' := by
  induction keys generalizing key with
  | nil => cases key <;> decide
  | cons next keys ih =>
      have hnext := ih next
      rw [keyList_cons_cons, List.getLast?_append, List.getLast?_cons, List.getLast?_cons, hnext]
      rfl

/-- An attribute line ends with its name, its keys or its comment, and so with no blank. -/
theorem trim_attributeLine {attr : Attribute} (h : IsWritable attr) :
    Text.trim (attributeLine attr) = attributeLine attr := by
  apply Text.trim_eq_self
  · obtain ⟨letter, more, heq, hletter⟩ := h.typeName.head
    simpa [attributeLine, heq] using isBlank_of_isNameChar hletter
  · have hquote : Text.isBlank '"' = false := by decide
    have hkey : Text.isBlank 'K' = false := by decide
    cases hcomment : attr.comment with
    | some comment => simp [attributeLine, hcomment, commentPart, List.getLast?_cons, hquote]
    | none =>
        cases hkeys : attr.keys with
        | cons key keys =>
            simp [attributeLine, hcomment, hkeys, commentPart, keysPart, List.getLast?_cons,
              getLast?_keyList, hkey]
        | nil =>
            obtain ⟨c, hlast, hc⟩ := getLast?_bareName h.name
            simp [attributeLine, hcomment, hkeys, commentPart, keysPart, List.getLast?_cons, hlast,
              isBlank_of_isNameChar hc]

/-- The attribute whose line reads as a layout: a bare `direction` with a layout for its name, in
any letter case. -/
def IsLayout (attr : Attribute) : Prop :=
  attr.keys = [] ∧ attr.comment = none ∧ attr.typeName.toList.map Char.toLower = directionWord ∧
    attr.name.toList.map Char.toLower ∈ directions

/-- Where the letters compared with a word stop before the mark and a blank follows them, they are
the whole word before the mark. -/
theorem length_eq_of_take_drop {word rest : List Char} {mark : Char} {size : Nat}
    (hword : ∀ c ∈ word, isNameChar c = true) (hletters : mark ∉ (word ++ mark :: rest).take size)
    (hblank : ((word ++ mark :: rest).drop size).head?.any Text.isBlank = true) :
    word.length = size := by
  rcases Nat.lt_trichotomy word.length size with hlt | heq | hgt
  · refine absurd (List.mem_take_iff_getElem.mpr ⟨word.length, ?_, by simp⟩) hletters
    simp only [List.length_append, List.length_cons]
    omega
  · exact heq
  · have hchar := hword _ (List.getElem_mem hgt)
    rw [List.drop_append_of_le_length (Nat.le_of_lt hgt), List.drop_eq_getElem_cons hgt,
      List.cons_append, List.head?_cons, Option.any_some, isBlank_of_isNameChar hchar] at hblank
    contradiction

theorem isOrdinary_of_attribute? {line : List Char} {attr : Attribute}
    (h : attribute? (Text.trim line) = some attr) (hdirection : isDirection line = false) :
    IsOrdinary (Text.trim line) := by
  obtain ⟨typeName, blank, rest, -, -, -, -, hparts, htype, hblank, -, -, -⟩ :=
    exists_parts_of_attribute? h
  rw [skipBlanks_of_head (Text.head?_trim_not_blank line)] at hparts
  obtain ⟨letter, more, rfl, hletter⟩ := htype.head
  have hhead : (Text.trim line).head? = some letter := by simp [hparts]
  have hletterBlank := isBlank_of_isNameChar hletter
  have hne : ∀ c, isNameChar c = false → letter ≠ c := by
    rintro c hc rfl
    rw [hletter] at hc
    contradiction
  have hheader : isHeader (Text.trim line) = false := by
    -- A header holds no blank, and one stands after the type.
    cases hheader : isHeader (Text.trim line) with
    | false => rfl
    | true =>
        have hmem : blank ∈ Text.trim (Text.trim line) := by
          rw [Text.trim_trim, hparts]
          simp
        rw [isBlank_of_isHeader hheader blank hmem] at hblank
        contradiction
  exact ⟨not_empty_of_head hhead hletterBlank (hne '%' (by decide)), hheader,
    (isDirection_trim line).trans hdirection,
    isClosing_of_head hhead hletterBlank (hne '}' (by decide))⟩

theorem isBareName_of_mem_directions {layout cs : List Char} (hlayout : layout ∈ directions)
    (h : sameWord layout cs = true) : IsBareName cs := by
  have hletters : ∀ layout ∈ directions, layout ≠ [] ∧
      layout.all (fun letter => letter.isAlpha && letter != 'i') = true := by decide
  obtain ⟨hne, hall⟩ := hletters layout hlayout
  have halpha : ∀ letter ∈ layout, letter.isAlpha = true ∧ letter ≠ 'i' := by
    simpa using hall
  have hstart : ∀ c ∈ cs, isNameStart c = true := by
    intro c hc
    obtain ⟨letter, hletter, hsame⟩ := exists_letter_of_sameWord h hc
    exact isNameStart_of_sameLetter (halpha letter hletter).1 hsame (halpha letter hletter).2
  cases cs with
  | nil => cases layout <;> simp_all [sameWord]
  | cons first more =>
      obtain ⟨hfirst, hmore⟩ := List.forall_mem_cons.mp hstart
      exact ⟨first, more, rfl, hfirst, fun c hc => isNameChar_of_isNameStart (hmore c hc)⟩

/-- Only a bare `direction` with the name of a layout is both an attribute and a direction. -/
theorem isLayout_of_attribute? {line : List Char} {attr : Attribute}
    (h : attribute? (Text.trim line) = some attr) (hdirection : isDirection line = true) :
    IsLayout attr := by
  obtain ⟨typeName, blank, rest, name, more, keys, comment, hparts, htype, hblank, hname, hmore,
    rfl⟩ := exists_parts_of_attribute? h
  rw [skipBlanks_of_head (Text.head?_trim_not_blank line)] at hparts
  have habsent : ∀ c, Text.isBlank c = false → directionLetters.any (sameLetter · c) = false →
      c ∉ typeName ++ blank :: rest := by
    intro c hc hletter hmem
    rw [isDirection_of_mem (hparts ▸ hmem) hc hletter] at hdirection
    contradiction
  -- The type is one word: its arguments and its mark would hold other characters.
  have hword : ∀ c ∈ typeName, isNameChar c = true := by
    obtain @⟨letter, word, arguments, mark, hletter, hword, harguments, hmark⟩ := htype
    cases harguments with
    | words => exact absurd (by simp) (habsent '(' (by decide) (by decide))
    | absent =>
        cases hmark with
        | present => exact absurd (by simp) (habsent '[' (by decide) (by decide))
        | absent =>
            have hstart : isNameStart letter = true := by simp [isNameStart, hletter]
            simpa using ⟨isNameChar_of_isNameStart hstart, hword⟩
  simp only [isDirection, Bool.and_eq_true, List.any_eq_true] at hdirection
  obtain ⟨⟨hsame, hnext⟩, layout, hlayout, hlast⟩ := hdirection
  rw [hparts] at hsame hnext hlast
  have hletters : blank ∉ (typeName ++ blank :: rest).take directionWord.length := by
    intro hmem
    have halpha : ∀ letter ∈ directionWord, letter.isAlpha = true :=
      List.all_eq_true.mp (by decide)
    rw [isBlank_of_sameWord halpha hsame blank hmem] at hblank
    contradiction
  have hlength := length_eq_of_take_drop hword hletters hnext
  rw [← hlength, List.take_left] at hsame
  rw [← hlength, List.drop_left] at hlast
  -- The rest is the name, and nothing follows it.
  have hbare := isBareName_of_mem_directions hlayout hlast
  have hstar : star (skipBlanks (blank :: rest)) = (false, skipBlanks (blank :: rest)) := by
    obtain ⟨first, _, hfirst, hstart, -⟩ := hbare
    have hne : first ≠ '*' := by
      rintro rfl
      contradiction
    rw [hfirst]
    unfold star
    grind
  have hwhole := bareName?_eq_some_iff.mpr ⟨hbare, (List.append_nil _).symm, by simp⟩
  rw [hstar] at hname ⊢
  rw [hwhole, Option.some.injEq, Prod.mk.injEq] at hname
  obtain ⟨rfl, rfl⟩ := hname
  cases hmore
  refine ⟨rfl, rfl, ?_, ?_⟩
  · rw [String.toList_ofList]
    exact map_toLower_of_sameWord hsame hword
  · rw [String.toList_ofList, map_toLower_of_sameWord hlast hbare.forall_isNameChar]
    exact hlayout

/-- Of the attribute lines that are written, only a bare `direction` with a layout is not
ordinary. -/
theorem isOrdinary_attributeLine {attr : Attribute} (h : IsWritable attr)
    (hlayout : ¬ IsLayout attr) : IsOrdinary (attributeLine attr) := by
  have htrim := trim_attributeLine h
  have hread : attribute? (Text.trim (attributeLine attr)) = some attr := by
    rw [htrim, attribute?_attributeLine h]
  have hdirection : isDirection (attributeLine attr) = false := by
    cases hdirection : isDirection (attributeLine attr) with
    | false => rfl
    | true => exact absurd (isLayout_of_attribute? hread hdirection) hlayout
  have hordinary := isOrdinary_of_attribute? hread hdirection
  rwa [htrim] at hordinary

end EntityDiagram.Line
