import EntityDiagram.Json.Printer
import EntityDiagram.Json.Reader

/-! # Texts and their escapes

A character of a text is written by a letter that stands for it, as it is, or by its code point, in
two halves if it is large. The reader takes each of these back, so texts may hold anything.
-/

namespace EntityDiagram.Json

/-! ## Escapes -/

theorem hexValue?_hexDigit : ∀ n < 16, hexValue? (hexDigit n) = some n := by decide

theorem unit?_hexDigit {n : Nat} (h : n < 0x10000) :
    unit? (hexDigit (n / 0x1000 % 16)) (hexDigit (n / 0x100 % 16)) (hexDigit (n / 0x10 % 16))
      (hexDigit (n % 16)) = some n := by
  have hdigit : ∀ m, hexValue? (hexDigit (m % 16)) = some (m % 16) :=
    fun m => hexValue?_hexDigit (m % 16) (Nat.mod_lt m (by decide))
  simp only [unit?, hdigit, Option.some.injEq]
  omega

theorem textFrom?_escapeUnit_char {n : Nat} {pending : Option Nat} {c : Char} (h : n < 0x10000)
    (hstep : unitStep? pending n = some (.char c)) (rest : List Char) :
    textFrom? pending (escapeUnit n ++ rest) =
      (textFrom? none rest).map fun (cs, rest) => (c :: cs, rest) := by
  simp only [escapeUnit, List.cons_append, List.nil_append]
  rw [textFrom?, unit?_hexDigit h, Option.bind_some, hstep]

theorem textFrom?_escapeUnit_pending {n high : Nat} {pending : Option Nat} (h : n < 0x10000)
    (hstep : unitStep? pending n = some (.pending high)) (rest : List Char) :
    textFrom? pending (escapeUnit n ++ rest) = textFrom? (some high) rest := by
  simp only [escapeUnit, List.cons_append, List.nil_append]
  rw [textFrom?, unit?_hexDigit h, Option.bind_some, hstep]

theorem toNat_lt_or_lt (c : Char) : c.toNat < 0xD800 ∨ 0xDFFF < c.toNat ∧ c.toNat < 0x110000 :=
  c.valid

theorem textFrom?_escapeCode (c : Char) (rest : List Char) :
    textFrom? none (escapeCode c ++ rest) =
      (textFrom? none rest).map fun (cs, rest) => (c :: cs, rest) := by
  have hvalid := toNat_lt_or_lt c
  simp only [escapeCode]
  by_cases hsmall : c.toNat < 0x10000
  · rw [if_pos hsmall]
    refine textFrom?_escapeUnit_char hsmall ?_ rest
    have hhigh : isHighUnit c.toNat = false := by
      simp only [isHighUnit, Bool.and_eq_false_iff, decide_eq_false_iff_not]
      omega
    have hlow : isLowUnit c.toNat = false := by
      simp only [isLowUnit, Bool.and_eq_false_iff, decide_eq_false_iff_not]
      omega
    simp [unitStep?, hhigh, hlow]
  · rw [if_neg hsmall, List.append_assoc]
    -- The two units are the halves of a surrogate pair, which adds up to the code point again.
    have hhigh : isHighUnit (0xD800 + (c.toNat - 0x10000) / 0x400) = true := by
      simp only [isHighUnit, Bool.and_eq_true, decide_eq_true_eq]
      omega
    have hlow : isLowUnit (0xDC00 + (c.toNat - 0x10000) % 0x400) = true := by
      simp only [isLowUnit, Bool.and_eq_true, decide_eq_true_eq]
      omega
    have hpair : pairChar (0xD800 + (c.toNat - 0x10000) / 0x400)
        (0xDC00 + (c.toNat - 0x10000) % 0x400) = c := by
      have hsum : 0x10000 + 0x400 * (0xD800 + (c.toNat - 0x10000) / 0x400 - 0xD800) +
          (0xDC00 + (c.toNat - 0x10000) % 0x400 - 0xDC00) = c.toNat := by omega
      rw [pairChar, hsum, Char.ofNat_toNat]
    have hfirst : unitStep? none (0xD800 + (c.toNat - 0x10000) / 0x400) =
        some (.pending (0xD800 + (c.toNat - 0x10000) / 0x400)) := by
      simp [unitStep?, hhigh]
    have hsecond : unitStep? (some (0xD800 + (c.toNat - 0x10000) / 0x400))
        (0xDC00 + (c.toNat - 0x10000) % 0x400) = some (.char c) := by
      simp [unitStep?, hlow, hpair]
    rw [textFrom?_escapeUnit_pending (by omega) hfirst,
      textFrom?_escapeUnit_char (by omega) hsecond]

/-- A style that leaves no control character as it is. -/
def Style.IsSound (style : Style) : Prop := ∀ c, style c = true → 0x20 ≤ c.toNat

theorem isSound_unicode : Style.IsSound unicode := by
  intro c h
  simpa [unicode] using h

theorem isSound_ascii : Style.IsSound ascii := by
  intro c h
  exact of_decide_eq_true (Bool.and_eq_true_iff.mp h).1

/-- A character is written by a letter that stands for it, as it is, or by its code point. -/
theorem escape_cases (style : Style) (c : Char) :
    (∃ letter, escape style c = ['\\', letter] ∧ unescape? letter = some c ∧ letter ≠ 'u' ∧
        ascii letter = true) ∨
      (escape style c = [c] ∧ style c = true ∧ c ≠ '"' ∧ c ≠ '\\') ∨
      escape style c = escapeCode c := by
  unfold escape
  split
  · next h => exact .inl ⟨'"', rfl, by rw [h]; rfl, by decide, by decide⟩
  split
  · next h => exact .inl ⟨'\\', rfl, by rw [h]; rfl, by decide, by decide⟩
  split
  · next h => exact .inl ⟨'n', rfl, by rw [h]; rfl, by decide, by decide⟩
  split
  · next h => exact .inl ⟨'r', rfl, by rw [h]; rfl, by decide, by decide⟩
  split
  · next h => exact .inl ⟨'t', rfl, by rw [h]; rfl, by decide, by decide⟩
  split
  · next h => exact .inl ⟨'b', rfl, by rw [h]; rfl, by decide, by decide⟩
  split
  · next h => exact .inl ⟨'f', rfl, by rw [h]; rfl, by decide, by decide⟩
  split
  · next hquote hbackslash _ _ _ _ _ hplain => exact .inr (.inl ⟨rfl, hplain, hquote, hbackslash⟩)
  · exact .inr (.inr rfl)

theorem textFrom?_letter {letter c : Char} (h : unescape? letter = some c) (hletter : letter ≠ 'u')
    (rest : List Char) :
    textFrom? none ('\\' :: letter :: rest) =
      (textFrom? none rest).map fun (cs, rest) => (c :: cs, rest) := by
  simp [textFrom?, hletter, h]

theorem textFrom?_plain {c : Char} (hquote : c ≠ '"') (hbackslash : c ≠ '\\')
    (hcontrol : 0x20 ≤ c.toNat) (rest : List Char) :
    textFrom? none (c :: rest) = (textFrom? none rest).map fun (cs, rest) => (c :: cs, rest) := by
  have hread : ¬ c.toNat < 0x20 := by omega
  simp [textFrom?, hbackslash, hread]

theorem textFrom?_escape {style : Style} (hstyle : style.IsSound) (c : Char) (rest : List Char) :
    textFrom? none (escape style c ++ rest) =
      (textFrom? none rest).map fun (cs, rest) => (c :: cs, rest) := by
  rcases escape_cases style c with
    ⟨letter, hescape, hread, hletter, -⟩ | ⟨hescape, hplain, hne⟩ | hescape
  · rw [hescape]
    exact textFrom?_letter hread hletter rest
  · rw [hescape]
    exact textFrom?_plain hne.1 hne.2 (hstyle c hplain) rest
  · rw [hescape]
    exact textFrom?_escapeCode c rest

theorem textBody?_escaped {style : Style} (hstyle : style.IsSound) (cs rest : List Char) :
    textBody? (cs.flatMap (escape style) ++ '"' :: rest) = some (cs, rest) := by
  unfold textBody?
  induction cs with
  | nil => simp [textFrom?]
  | cons c cs ih => rw [List.flatMap_cons, List.append_assoc, textFrom?_escape hstyle, ih]; rfl

theorem ascii_of_mem_escapeUnit {n : Nat} : ∀ c ∈ escapeUnit n, ascii c = true := by
  have hdigit : ∀ m, ascii (hexDigit (m % 16)) = true := by
    have hall : ∀ m < 16, ascii (hexDigit m) = true := by decide
    exact fun m => hall (m % 16) (Nat.mod_lt m (by decide))
  simp only [escapeUnit, List.forall_mem_cons, hdigit, true_and]
  exact ⟨by decide, by decide, by simp⟩

/-- A text is written with printable ASCII characters and those that the style keeps. -/
theorem ascii_or_kept_of_mem_escape (style : Style) (c : Char) :
    ∀ d ∈ escape style c, ascii d = true ∨ style d = true := by
  have hcode : ∀ d ∈ escapeCode c, ascii d = true := by
    simp only [escapeCode]
    split
    · exact ascii_of_mem_escapeUnit
    · exact List.forall_mem_append.mpr ⟨ascii_of_mem_escapeUnit, ascii_of_mem_escapeUnit⟩
  rcases escape_cases style c with ⟨letter, hescape, -, -, hletter⟩ | ⟨hescape, hplain, -⟩ | hescape
  · rw [hescape]
    exact List.forall_mem_cons.mpr
      ⟨.inl (by decide), fun d hd => .inl (List.mem_singleton.mp hd ▸ hletter)⟩
  · rw [hescape]
    exact fun d hd => .inr (List.mem_singleton.mp hd ▸ hplain)
  · rw [hescape]
    exact fun d hd => .inl (hcode d hd)

end EntityDiagram.Json
