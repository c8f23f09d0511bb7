import EntityDiagram.Proofs.Json.Integer

/-! # The characters of a written value

Whatever a value holds, it is written with line feeds, printable ASCII characters and the characters
of its texts that the style keeps as they are.
-/

namespace EntityDiagram

/-! ## Numbers -/

namespace Json

theorem ascii_of_isDigit {c : Char} (h : c.isDigit = true) : ascii c = true := by
  rcases Number.digit_cases h with
    rfl | rfl | rfl | rfl | rfl | rfl | rfl | rfl | rfl | rfl <;> rfl

theorem ascii_of_mem_digitsOf (n : Nat) : ∀ c ∈ Number.digitsOf n, ascii c = true :=
  fun c hc => ascii_of_isDigit (Number.isDigit_of_mem_digitsOf c hc)

theorem ascii_of_mem_zeros (count : Nat) : ∀ c ∈ List.replicate count '0', ascii c = true :=
  fun _ hc => List.eq_of_mem_replicate hc ▸ rfl

theorem ascii_of_mem_positional {digits : List Char} (h : ∀ c ∈ digits, ascii c = true)
    (power : Int) : ∀ c ∈ Number.Binary64.positional digits power, ascii c = true := by
  unfold Number.Binary64.positional
  split
  · have hpoint : ∀ c ∈ ['.', '0'], ascii c = true := by simp [ascii]
    simp only [List.forall_mem_append]
    exact ⟨⟨h, ascii_of_mem_zeros _⟩, hpoint⟩
  · dsimp only
    split
    · simp only [List.forall_mem_append, List.forall_mem_cons]
      exact ⟨fun c hc => h c (List.mem_of_mem_take hc), rfl,
        fun c hc => h c (List.mem_of_mem_drop hc)⟩
    · simp only [List.forall_mem_append, List.forall_mem_cons]
      exact ⟨rfl, rfl, ascii_of_mem_zeros _, h⟩

theorem ascii_of_mem_scientific {digits : List Char} (h : ∀ c ∈ digits, ascii c = true)
    (exponent : Int) : ∀ c ∈ Number.Binary64.scientific digits exponent, ascii c = true := by
  have hfraction : ∀ c ∈ if 1 < digits.length then '.' :: digits.drop 1 else [],
      ascii c = true := by
    split
    · exact List.forall_mem_cons.mpr ⟨rfl, fun c hc => h c (List.mem_of_mem_drop hc)⟩
    · simp
  have hmark : ∀ c ∈ ['e', if exponent < 0 then '-' else '+'], ascii c = true := by
    split <;> simp [ascii]
  simp only [Number.Binary64.scientific, List.forall_mem_append]
  exact ⟨⟨⟨fun c hc => h c (List.mem_of_mem_take hc), hfraction⟩, hmark⟩, ascii_of_mem_zeros _,
    ascii_of_mem_digitsOf _⟩

theorem ascii_of_mem_magnitudeText (significand : Nat) (exponent : Int) :
    ∀ c ∈ Number.Binary64.magnitudeText significand exponent, ascii c = true := by
  unfold Number.Binary64.magnitudeText
  split
  · simp [ascii]
  · dsimp only
    split
    · exact ascii_of_mem_positional (ascii_of_mem_digitsOf _) _
    · exact ascii_of_mem_scientific (ascii_of_mem_digitsOf _) _

theorem ascii_of_mem_numeralChars (n : Numeral) : ∀ c ∈ numeralChars n, ascii c = true := by
  have hsign : ∀ negative : Bool, ∀ c ∈ if negative then ['-'] else [], ascii c = true := by
    intro negative
    cases negative <;> simp [ascii]
  cases n with
  | integer n =>
      rw [numeralChars, Number.integerText]
      split
      · exact List.forall_mem_cons.mpr ⟨rfl, ascii_of_mem_digitsOf _⟩
      · exact ascii_of_mem_digitsOf _
  | float x =>
      cases x with
      | finite negative significand exponent =>
          change ∀ c ∈ (String.ofList _).toList, ascii c = true
          rw [String.toList_ofList]
          exact List.forall_mem_append.mpr
            ⟨hsign negative, ascii_of_mem_magnitudeText significand exponent⟩
      | infinite negative =>
          rw [numeralChars]
          exact List.forall_mem_append.mpr ⟨hsign negative, by simp [ascii]⟩
      | notANumber =>
          rw [numeralChars]
          simp [ascii]

theorem fits_integer {n : Int} (h : n.natAbs < Nat.pow 10 Number.maxDigits) (depth : Nat) :
    Fits depth (number (.integer n)) :=
  .number (readsBack_integer h) fun c hc => isSound_ascii c (ascii_of_mem_numeralChars _ c hc)

/-! ## Values -/

/-- A line feed, a printable ASCII character, or a character that the style keeps. -/
def Style.Writes (style : Style) (c : Char) : Prop := c = '\n' ∨ ascii c = true ∨ style c = true

section Writes

variable (style : Style)

theorem writes_of_ascii (c : Char) (h : ascii c = true) : style.Writes c := .inr (.inl h)

theorem writes_of_mem_lineStart (indent : Nat) : ∀ c ∈ lineStart indent, style.Writes c := by
  refine List.forall_mem_cons.mpr ⟨.inl rfl, fun c hc => ?_⟩
  rw [List.eq_of_mem_replicate hc]
  exact writes_of_ascii style _ rfl

theorem writes_of_mem_textChars (s : String) : ∀ c ∈ textChars style s, style.Writes c := by
  have hquote : style.Writes '"' := writes_of_ascii style _ rfl
  refine List.forall_mem_append.mpr ⟨List.forall_mem_cons.mpr ⟨hquote, fun c hc => ?_⟩,
    List.forall_mem_singleton.mpr hquote⟩
  obtain ⟨d, -, hmem⟩ := List.mem_flatMap.mp hc
  exact .inr (ascii_or_kept_of_mem_escape style d c hmem)

-- The induction is that of the printer, over a value, its further items and its further fields.
mutual

theorem writes_of_mem_chars (indent : Nat) :
    (value : Json) → ∀ c ∈ chars style indent value, style.Writes c
  | null => by
      rw [chars]
      simp [Style.Writes, ascii]
  | bool true => by
      rw [chars]
      simp [Style.Writes, ascii]
  | bool false => by
      rw [chars]
      simp [Style.Writes, ascii]
  | number n => by
      rw [chars]
      exact fun c hc => writes_of_ascii style c (ascii_of_mem_numeralChars n c hc)
  | text s => by
      rw [chars]
      exact writes_of_mem_textChars style s
  | list [] => by
      rw [chars]
      simp [Style.Writes, ascii]
  | list (item :: items) => by
      have hitem := writes_of_mem_chars (indent + 2) item
      have hitems := writes_of_mem_itemsChars (indent + 2) items
      have hplain := writes_of_ascii style
      have hstart := writes_of_mem_lineStart style
      rw [chars]
      simp only [List.forall_mem_append, List.forall_mem_cons, and_assoc]
      exact ⟨hplain _ rfl, hstart _, hitem, hitems, hstart _, hplain _ rfl, by simp⟩
  | record [] => by
      rw [chars]
      simp [Style.Writes, ascii]
  | record ((name, value) :: fields) => by
      have hvalue := writes_of_mem_chars (indent + 2) value
      have hfields := writes_of_mem_fieldsChars (indent + 2) fields
      have hname := writes_of_mem_textChars style name
      have hplain := writes_of_ascii style
      have hstart := writes_of_mem_lineStart style
      rw [chars]
      simp only [List.forall_mem_append, List.forall_mem_cons, and_assoc]
      exact ⟨hplain _ rfl, hstart _, hname, hplain _ rfl, hplain _ rfl, by simp, hvalue, hfields,
        hstart _, hplain _ rfl, by simp⟩

theorem writes_of_mem_itemsChars (indent : Nat) :
    (items : List Json) → ∀ c ∈ itemsChars style indent items, style.Writes c
  | [] => by
      rw [itemsChars]
      simp
  | item :: items => by
      have hitem := writes_of_mem_chars indent item
      have hitems := writes_of_mem_itemsChars indent items
      have hplain := writes_of_ascii style
      have hstart := writes_of_mem_lineStart style
      rw [itemsChars]
      simp only [List.forall_mem_append, List.forall_mem_cons, and_assoc]
      exact ⟨hplain _ rfl, hstart _, hitem, hitems⟩

theorem writes_of_mem_fieldsChars (indent : Nat) :
    (fields : List (String × Json)) → ∀ c ∈ fieldsChars style indent fields, style.Writes c
  | [] => by
      rw [fieldsChars]
      simp
  | (name, value) :: fields => by
      have hvalue := writes_of_mem_chars indent value
      have hfields := writes_of_mem_fieldsChars indent fields
      have hname := writes_of_mem_textChars style name
      have hplain := writes_of_ascii style
      have hstart := writes_of_mem_lineStart style
      rw [fieldsChars]
      simp only [List.forall_mem_append, List.forall_mem_cons, and_assoc]
      exact ⟨hplain _ rfl, hstart _, hname, hplain _ rfl, hplain _ rfl, by simp, hvalue, hfields⟩

end

end Writes

/-- A line feed, or a character that is no control character. -/
def IsWritten (c : Char) : Prop := c = '\n' ∨ 0x20 ≤ c.toNat

/-- The only control character in a written value is the line feed. -/
theorem isWritten_of_mem_chars {style : Style} (hstyle : style.IsSound) (value : Json)
    (indent : Nat) : ∀ c ∈ chars style indent value, IsWritten c := by
  intro c hc
  rcases writes_of_mem_chars style indent value c hc with hfeed | hascii | hkept
  · exact .inl hfeed
  · exact .inr (isSound_ascii c hascii)
  · exact .inr (hstyle c hkept)

theorem ascii_of_mem_render (value : Json) :
    ∀ c ∈ (value.render ascii).toList, c = '\n' ∨ ascii c = true := by
  intro c hc
  rw [render, String.toList_ofList] at hc
  simpa [Style.Writes] using writes_of_mem_chars ascii 0 value c hc

end Json

end EntityDiagram
