import EntityDiagram.Diagram.Line.Name
import EntityDiagram.Proofs.Text.Classes
import EntityDiagram.Proofs.Text.Span

/-! # Names in a diagram line: what the readers take

Each reader is pinned down by an equation on what it took and what it left. A name that was read is
never empty and holds no quote, however it was written. A name is written bare, between quotes or
between escaped quotes, and is read back from each of them.
-/

namespace EntityDiagram.Line

/-! ## Blanks -/

theorem skipBlanks_of_head {cs : List Char} (h : ∀ c ∈ cs.head?, Text.isBlank c = false) :
    skipBlanks cs = cs := Text.dropWhile_of_head h

theorem skipBlanks_suffix (cs : List Char) : skipBlanks cs <:+ cs := List.dropWhile_suffix _

theorem skipBlanks_skipBlanks (cs : List Char) : skipBlanks (skipBlanks cs) = skipBlanks cs :=
  skipBlanks_of_head (Text.head?_dropWhile cs)

theorem trim_skipBlanks (cs : List Char) : Text.trim (skipBlanks cs) = Text.trim cs :=
  congrArg (Text.dropEnd Text.isBlank) (skipBlanks_skipBlanks cs)

theorem skipBlanks_append {blanks : List Char} (h : ∀ c ∈ blanks, Text.isBlank c = true)
    (cs : List Char) : skipBlanks (blanks ++ cs) = skipBlanks cs :=
  List.dropWhile_append_of_pos h

@[simp] theorem skipBlanks_space (cs : List Char) : skipBlanks (' ' :: cs) = skipBlanks cs :=
  List.dropWhile_cons_of_pos (by decide)

theorem skipBlanks_cons {c : Char} (h : Text.isBlank c = false) (cs : List Char) :
    skipBlanks (c :: cs) = c :: cs := skipBlanks_of_head (by simpa using h)

/-! ## Text up to a mark -/

theorem upTo?_append {mark : Char} {inner : List Char} (h : mark ∉ inner) (rest : List Char) :
    upTo? mark (inner ++ mark :: rest) = some (inner, rest) := by
  have hall : ∀ c ∈ inner, (c != mark) = true := by
    intro c hc
    simpa using ne_of_mem_of_not_mem hc h
  have hstop : ∀ c ∈ (mark :: rest).head?, (c != mark) = false := by simp
  simp only [upTo?, Text.dropWhile_append_stop hall hstop, Text.takeWhile_append_stop hall hstop]

/-- What is read up to a mark is the text before its first occurrence. -/
theorem upTo?_eq_some_iff {mark : Char} {cs inner rest : List Char} :
    upTo? mark cs = some (inner, rest) ↔ mark ∉ inner ∧ cs = inner ++ mark :: rest := by
  constructor
  · intro h
    unfold upTo? at h
    split at h
    · contradiction
    · next c tail htail =>
        simp only [Option.some.injEq, Prod.mk.injEq] at h
        obtain ⟨rfl, rfl⟩ := h
        have hc : (c != mark) = false := Text.head?_dropWhile cs c (by rw [htail]; rfl)
        have hmark : c = mark := by simpa using hc
        constructor
        · intro hmem
          have hne := List.mem_takeWhile_imp hmem
          simp at hne
        · rw [← hmark, ← htail, hmark, List.takeWhile_append_dropWhile]
  · rintro ⟨hmark, rfl⟩
    exact upTo?_append hmark rest

/-! ## Bare names -/

/-- A letter or underscore, and then letters, digits, underscores and hyphens. -/
def IsBareName (name : List Char) : Prop :=
  ∃ first more, name = first :: more ∧ isNameStart first = true ∧
    ∀ c ∈ more, isNameChar c = true

theorem isNameChar_of_isNameStart {c : Char} (h : isNameStart c = true) : isNameChar c = true := by
  unfold isNameStart at h
  unfold isNameChar Char.isAlphanum
  grind

theorem IsBareName.forall_isNameChar {name : List Char} (h : IsBareName name) :
    ∀ c ∈ name, isNameChar c = true := by
  obtain ⟨first, more, rfl, hfirst, hmore⟩ := h
  intro c hc
  rcases List.mem_cons.mp hc with rfl | hc
  · exact isNameChar_of_isNameStart hfirst
  · exact hmore c hc

/-- A bare name is read as long as it goes on. -/
theorem bareName?_eq_some_iff {cs name rest : List Char} :
    bareName? cs = some (name, rest) ↔
      IsBareName name ∧ cs = name ++ rest ∧ ∀ c ∈ rest.head?, isNameChar c = false := by
  constructor
  · intro h
    cases cs with
    | nil => simp [bareName?] at h
    | cons first cs =>
        simp only [bareName?] at h
        split at h
        · next hfirst =>
            simp only [Option.some.injEq, Prod.mk.injEq] at h
            obtain ⟨rfl, rfl⟩ := h
            refine ⟨⟨first, _, rfl, hfirst, fun c hc => List.mem_takeWhile_imp hc⟩, ?_, ?_⟩
            · rw [List.cons_append, List.takeWhile_append_dropWhile]
            · exact Text.head?_dropWhile cs
        · contradiction
  · rintro ⟨⟨first, more, rfl, hfirst, hmore⟩, rfl, hstop⟩
    simp only [List.cons_append, bareName?, hfirst, if_true,
      Text.takeWhile_append_stop hmore hstop, Text.dropWhile_append_stop hmore hstop]

/-! ## Names between quotes -/

/-- What may stand as a name: it is not empty and holds no quote. -/
def IsName (name : List Char) : Prop := name ≠ [] ∧ '"' ∉ name

theorem quotedName?_eq_some_iff {cs name rest : List Char} :
    quotedName? cs = some (name, rest) ↔ IsName name ∧ cs = name ++ '"' :: rest := by
  constructor
  · intro h
    unfold quotedName? at h
    cases hread : upTo? '"' cs with
    | none => simp [hread] at h
    | some pair =>
        obtain ⟨inner, left⟩ := pair
        obtain ⟨hquote, hcs⟩ := upTo?_eq_some_iff.mp hread
        simp only [hread] at h
        split at h
        · contradiction
        · next hempty =>
            cases h
            exact ⟨⟨by simpa using hempty, hquote⟩, hcs⟩
  · rintro ⟨⟨hname, hquote⟩, rfl⟩
    have hempty : name.isEmpty = false := by simpa using hname
    simp [quotedName?, upTo?_append hquote, hempty]

/-- A name between quotes is read whatever it holds. -/
theorem name?_quoted {name : List Char} (hname : name ≠ []) (hquote : '"' ∉ name)
    (rest : List Char) : name? ('"' :: name ++ '"' :: rest) = some (name, rest) :=
  quotedName?_eq_some_iff.mpr ⟨⟨hname, hquote⟩, rfl⟩

theorem isName_dropLast {cs : List Char} (hquote : '"' ∉ cs) (hlong : 2 ≤ cs.length) :
    IsName cs.dropLast := by
  have hlength : cs.dropLast.length = cs.length - 1 := List.length_dropLast
  refine ⟨fun hnil => ?_, fun hmem => hquote (List.dropLast_subset cs hmem)⟩
  rw [hnil, List.length_nil] at hlength
  omega

theorem escapedName?_eq_some_iff {cs name rest : List Char} :
    escapedName? cs = some (name, rest) ↔ IsName name ∧ cs = name ++ '\\' :: '"' :: rest := by
  constructor
  · intro h
    unfold escapedName? at h
    cases hread : upTo? '"' cs with
    | none => simp [hread] at h
    | some pair =>
        obtain ⟨inner, left⟩ := pair
        obtain ⟨hquote, rfl⟩ := upTo?_eq_some_iff.mp hread
        simp only [hread] at h
        split at h
        · next hlong =>
            cases h
            obtain ⟨name, rfl⟩ := List.getLast?_eq_some_iff.mp hlong.1
            have hname := isName_dropLast hquote hlong.2
            rw [List.dropLast_concat] at hname ⊢
            exact ⟨hname, (List.append_cons name '\\' _).symm⟩
        · contradiction
  · rintro ⟨⟨hname, hquote⟩, rfl⟩
    have hinner : '"' ∉ name ++ ['\\'] := by simp [hquote]
    have hlength : 2 ≤ (name ++ ['\\']).length := by
      have hpos := List.length_pos_iff.mpr hname
      simp only [List.length_append, List.length_singleton]
      omega
    have hread := upTo?_append hinner rest
    rw [List.append_cons]
    simp only [escapedName?, hread]
    rw [if_pos ⟨List.getLast?_concat, hlength⟩, List.dropLast_concat]

theorem name?_escaped {name : List Char} (h : IsName name) (rest : List Char) :
    name? ('\\' :: '"' :: name ++ '\\' :: '"' :: rest) = some (name, rest) :=
  escapedName?_eq_some_iff.mpr ⟨h, rfl⟩

theorem name?_bareName {name rest : List Char} (hname : IsBareName name)
    (hrest : ∀ c ∈ rest.head?, isNameChar c = false) :
    name? (name ++ rest) = some (name, rest) := by
  have hread := bareName?_eq_some_iff.mpr ⟨hname, rfl, hrest⟩
  obtain ⟨first, more, rfl, hfirst, -⟩ := hname
  unfold name?
  split
  · next heq =>
      obtain ⟨rfl, -⟩ := List.cons.inj heq
      contradiction
  · next heq =>
      obtain ⟨rfl, -⟩ := List.cons.inj heq
      contradiction
  · exact hread

theorem IsBareName.isName {name : List Char} (h : IsBareName name) : IsName name := by
  have hchars := h.forall_isNameChar
  obtain ⟨first, more, rfl, -, -⟩ := h
  refine ⟨by simp, fun hmem => ?_⟩
  have hquote : isNameChar '"' = true := hchars '"' hmem
  exact absurd hquote (by decide)

/-- However a name is written, it is not empty and holds no quote. -/
theorem isName_of_name? {cs name rest : List Char} (h : name? cs = some (name, rest)) :
    IsName name := by
  unfold name? at h
  split at h
  · exact (quotedName?_eq_some_iff.mp h).1
  · exact (escapedName?_eq_some_iff.mp h).1
  · exact (bareName?_eq_some_iff.mp h).1.isName

/-- A name starts with a quote, a backslash, a letter or an underscore. -/
theorem head?_of_name? {cs name rest : List Char} (h : name? cs = some (name, rest)) :
    ∃ c, cs.head? = some c ∧ (c = '"' ∨ c = '\\' ∨ isNameStart c = true) := by
  unfold name? at h
  split at h
  · exact ⟨'"', rfl, .inl rfl⟩
  · exact ⟨'\\', rfl, .inr (.inl rfl)⟩
  · obtain ⟨⟨first, more, rfl, hfirst, -⟩, rfl, -⟩ := bareName?_eq_some_iff.mp h
    exact ⟨first, rfl, .inr (.inr hfirst)⟩

theorem bareName?_of_name? {cs name rest : List Char} (h : name? cs = some (name, rest))
    (hquote : '"' ∉ cs) : bareName? cs = some (name, rest) := by
  unfold name? at h
  split at h
  · simp at hquote
  · simp at hquote
  · exact h

theorem suffix_of_name? {cs name rest : List Char} (h : name? cs = some (name, rest)) :
    rest <:+ cs := by
  unfold name? at h
  split at h
  · obtain ⟨-, rfl⟩ := quotedName?_eq_some_iff.mp h
    exact ⟨'"' :: name ++ ['"'], by simp⟩
  · obtain ⟨-, rfl⟩ := escapedName?_eq_some_iff.mp h
    exact ⟨'\\' :: '"' :: name ++ ['\\', '"'], by simp⟩
  · obtain ⟨-, rfl, -⟩ := bareName?_eq_some_iff.mp h
    exact List.suffix_append name rest

/-! ## Headings -/

/-- Text between quotes. -/
def quoted (s : String) : List Char := '"' :: s.toList ++ ['"']

@[simp] theorem getLast?_quoted (s : String) : (quoted s).getLast? = some '"' :=
  List.getLast?_concat

theorem trim_quoted (s : String) : Text.trim (quoted s) = quoted s := by
  apply Text.trim_eq_self
  · rintro c ⟨⟩
    decide
  · rw [getLast?_quoted]
    rintro c ⟨⟩
    decide

theorem between?_append (mark inner : List Char) :
    Name.between? mark (mark ++ inner ++ mark) = some inner := by
  have hlength : 2 * mark.length ≤ (mark ++ inner ++ mark).length := by
    simp only [List.length_append]
    omega
  have hprefix : mark <+: mark ++ inner ++ mark := by
    rw [List.append_assoc]
    exact List.prefix_append mark _
  have hsuffix : mark <:+ mark ++ inner ++ mark := List.suffix_append _ mark
  have hinner : (mark ++ inner ++ mark).length - 2 * mark.length = inner.length := by
    simp only [List.length_append]
    omega
  rw [Name.between?, if_pos ⟨hlength, List.isPrefixOf_iff_prefix.mpr hprefix,
    List.isSuffixOf_iff_suffix.mpr hsuffix⟩, hinner, List.append_assoc, List.drop_left,
    List.take_left]

theorem between?_of_ne {mark c : Char} (h : c ≠ mark) (marks more : List Char) :
    Name.between? (mark :: marks) (c :: more) = none := by
  simp [Name.between?, h.symm]

/-- Text between quotes is unquoted to what is between them, quotes and backslashes included. -/
theorem unquoteChars_quoted (s : String) : Name.unquoteChars (quoted s) = s.toList := by
  have hescaped : Name.between? ['\\', '"'] (quoted s) = none := between?_of_ne (by decide) _ _
  have hplain : Name.between? ['"'] (quoted s) = some s.toList := between?_append ['"'] s.toList
  simp [Name.unquoteChars, hescaped, hplain]

theorem displayName?_quoted {shown : String} (h : ']' ∉ shown.toList) (rest : List Char) :
    displayName? ('[' :: quoted shown ++ ']' :: rest) = some (some shown, rest) := by
  have hmark : ']' ∉ quoted shown := by simpa [quoted] using h
  have hempty : (quoted shown).isEmpty = false := rfl
  simp only [List.cons_append, displayName?, upTo?_append hmark, hempty, trim_quoted,
    unquoteChars_quoted, String.ofList_toList]
  simp

theorem displayName?_of_ne {c : Char} (h : c ≠ '[') (rest : List Char) :
    displayName? (c :: rest) = some (none, c :: rest) := by
  unfold displayName?
  split
  · next heq => exact absurd (List.cons.inj heq).1 h
  · rfl

/-- A name to show starts with a bracket; without one nothing is read. -/
theorem displayName?_cases {cs rest : List Char} {shown : Option String}
    (h : displayName? cs = some (shown, rest)) :
    rest = cs ∨ cs.head? = some '[' ∧ rest <:+ cs := by
  unfold displayName? at h
  split at h
  · next more =>
      split at h
      · next inner left hread =>
          split at h
          · contradiction
          · cases h
            obtain ⟨-, rfl⟩ := upTo?_eq_some_iff.mp hread
            exact .inr ⟨rfl, '[' :: inner ++ [']'], by simp⟩
      · contradiction
  · cases h
    exact .inl rfl

/-- The parts that a heading was read from. -/
theorem exists_parts_of_heading? {cs rest : List Char} {heading : Heading}
    (h : heading? cs = some (heading, rest)) :
    ∃ name more shown after, name? (skipBlanks cs) = some (name, more) ∧
      displayName? (skipBlanks more) = some (shown, after) ∧
      heading = ⟨String.ofList name, shown⟩ ∧ rest = skipBlanks after := by
  unfold heading? at h
  cases hname : name? (skipBlanks cs) with
  | none => simp [hname] at h
  | some pair =>
      obtain ⟨name, more⟩ := pair
      cases hshown : displayName? (skipBlanks more) with
      | none => simp [hname, hshown] at h
      | some pair =>
          obtain ⟨shown, after⟩ := pair
          simp only [hname, hshown, Option.some.injEq, Prod.mk.injEq] at h
          exact ⟨name, more, shown, after, rfl, hshown, h.1.symm, h.2.symm⟩

theorem suffix_of_heading? {cs rest : List Char} {heading : Heading}
    (h : heading? cs = some (heading, rest)) : rest <:+ cs := by
  obtain ⟨name, more, shown, after, hname, hshown, -, rfl⟩ := exists_parts_of_heading? h
  have hmore : skipBlanks more <:+ cs :=
    ((skipBlanks_suffix more).trans (suffix_of_name? hname)).trans (skipBlanks_suffix cs)
  have hafter : after <:+ cs := by
    rcases displayName?_cases hshown with rfl | ⟨-, hsuffix⟩
    · exact hmore
    · exact hsuffix.trans hmore
  exact (skipBlanks_suffix after).trans hafter

theorem exists_heading?_of_opening? {cs : List Char} {heading : Heading}
    (h : opening? cs = some heading) : ∃ rest, heading? cs = some (heading, '{' :: rest) := by
  unfold opening? at h
  split at h
  · next rest hread =>
      split at h
      · cases h
        exact ⟨rest, hread⟩
      · contradiction
  · contradiction

theorem heading?_of_mention? {cs : List Char} {heading : Heading} (h : mention? cs = some heading) :
    heading? cs = some (heading, []) := by
  unfold mention? at h
  split at h
  · next hread =>
      cases h
      exact hread
  · contradiction

/-- The name to show, as it is written after a name. -/
def displayPart : Option String → List Char
  | none => []
  | some shown => ' ' :: '[' :: quoted shown ++ [']']

/-- A line that opens a block. -/
def openingLine (name : String) (displayName : Option String) : List Char :=
  quoted name ++ displayPart displayName ++ [' ', '{']

/-- What was written as a heading is read as it was. -/
theorem heading?_openingLine {name : String} {displayName : Option String}
    (hname : IsName name.toList) (hshown : ∀ shown ∈ displayName, ']' ∉ shown.toList) :
    heading? (openingLine name displayName) = some (⟨name, displayName⟩, ['{']) := by
  have hstart : ∀ rest, skipBlanks (quoted name ++ rest) = quoted name ++ rest := fun rest =>
    skipBlanks_cons (by decide) _
  have hread : ∀ rest, name? (quoted name ++ rest) = some (name.toList, rest) := by
    intro rest
    have h := name?_quoted hname.1 hname.2 rest
    simpa [quoted] using h
  have hbrace : skipBlanks ['{'] = ['{'] := by decide
  cases displayName with
  | none =>
      have hnone := displayName?_of_ne (c := '{') (by decide) []
      simp only [heading?, openingLine, displayPart, List.append_assoc, hstart, hread,
        List.nil_append, skipBlanks_space, hbrace, hnone, String.ofList_toList]
  | some shown =>
      have hbracket : ∀ rest, skipBlanks ('[' :: rest) = '[' :: rest := fun rest =>
        skipBlanks_cons (by decide) rest
      have hsome := displayName?_quoted (hshown shown rfl) [' ', '{']
      simp only [List.cons_append] at hsome
      simp only [heading?, openingLine, displayPart, List.append_assoc, hstart, hread,
        List.cons_append, List.nil_append, skipBlanks_space, hbracket, hbrace, hsome,
        String.ofList_toList]

/-- A line that was written to open a block opens it. -/
theorem opening?_openingLine {name : String} {displayName : Option String}
    (hname : IsName name.toList) (hshown : ∀ shown ∈ displayName, ']' ∉ shown.toList) :
    opening? (openingLine name displayName) = some ⟨name, displayName⟩ := by
  simp [opening?, heading?_openingLine hname hshown]

/-! ## Spelled names -/

/-- A name as it is written: bare, between quotes, or between escaped quotes. -/
inductive WrittenName where
  | bare (name : List Char) (h : IsBareName name)
  | quoted (name : List Char) (h : IsName name)
  | escaped (name : List Char) (h : IsName name)

namespace WrittenName

/-- The name that is written. -/
def name : WrittenName → List Char
  | bare name _ => name
  | quoted name _ => name
  | escaped name _ => name

def text : WrittenName → List Char
  | bare name _ => name
  | quoted name _ => '"' :: name ++ ['"']
  | escaped name _ => '\\' :: '"' :: name ++ ['\\', '"']

theorem unquoteChars_text (written : WrittenName) :
    Name.unquoteChars written.text = written.name := by
  cases written with
  | bare name h =>
      obtain ⟨first, more, rfl, hfirst, -⟩ := h
      have hne : ∀ mark, isNameStart mark = false → first ≠ mark := by
        rintro mark hmark rfl
        rw [hfirst] at hmark
        contradiction
      have hescaped := between?_of_ne (hne '\\' (by decide)) ['"'] more
      have hplain := between?_of_ne (hne '"' (by decide)) [] more
      simp [Name.unquoteChars, text, WrittenName.name, hescaped, hplain]
  | quoted name h =>
      have hplain := unquoteChars_quoted (String.ofList name)
      rwa [Line.quoted, String.toList_ofList] at hplain
  | escaped name h =>
      have hescaped : Name.between? ['\\', '"'] (escaped name h).text = some name :=
        between?_append ['\\', '"'] name
      simp [Name.unquoteChars, hescaped, WrittenName.name]

theorem exists_lead (written : WrittenName) :
    ∃ c more, written.text = c :: more ∧ Text.isBlank c = false := by
  cases written with
  | bare name h =>
      obtain ⟨first, more, rfl, hfirst, -⟩ := h
      exact ⟨first, more, rfl, isBlank_of_isNameChar (isNameChar_of_isNameStart hfirst)⟩
  | quoted name h => exact ⟨'"', _, rfl, by decide⟩
  | escaped name h => exact ⟨'\\', _, rfl, by decide⟩

theorem skipBlanks_text (written : WrittenName) (rest : List Char) :
    skipBlanks (written.text ++ rest) = written.text ++ rest := by
  obtain ⟨c, more, htext, hblank⟩ := written.exists_lead
  rw [htext]
  exact skipBlanks_cons hblank _

/-- A name is read whole if a bare one cannot go on. -/
theorem name?_text (written : WrittenName) {rest : List Char}
    (hrest : ∀ name h, written = bare name h → ∀ c ∈ rest.head?, isNameChar c = false) :
    name? (written.text ++ rest) = some (written.name, rest) := by
  cases written with
  | bare name h => exact name?_bareName h (hrest name h rfl)
  | quoted name h => simpa [text, WrittenName.name] using name?_quoted h.1 h.2 rest
  | escaped name h => simpa [text, WrittenName.name] using name?_escaped h rest

end WrittenName

end EntityDiagram.Line
