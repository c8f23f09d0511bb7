import EntityDiagram.Number.Literal
import EntityDiagram.Proofs.Json.RoundTrip
import Mathlib.Data.List.Induction

/-! # Integers are read back

The digits of a number have its value, and start with a zero only if they are a zero alone. So the
reader takes back every integer that has no more digits than it allows. An integer that was given as
text is one of these.
-/

namespace EntityDiagram

/-! ## Digits -/

namespace Number

theorem valueOf_digitsOf (n : Nat) : valueOf (digitsOf n) = n := Nat.ofDigitChars_ten_toDigits

theorem isDigit_of_mem_digitsOf {n : Nat} : ∀ c ∈ digitsOf n, c.isDigit = true :=
  fun _ hc => Nat.isDigit_of_mem_toDigits (by omega) (by omega) hc

theorem length_digitsOf_le_iff {n k : Nat} (hk : 0 < k) :
    (digitsOf n).length ≤ k ↔ n < Nat.pow 10 k := Nat.length_toDigits_le_iff (by omega) hk

theorem toNat_of_isDigit {c : Char} (h : c.isDigit = true) : 48 ≤ c.toNat ∧ c.toNat ≤ 57 := by
  have hrange := Bool.and_eq_true_iff.mp h
  exact ⟨UInt32.le_iff_toNat_le.mp (of_decide_eq_true hrange.1),
    UInt32.le_iff_toNat_le.mp (of_decide_eq_true hrange.2)⟩

theorem digit_cases {c : Char} (h : c.isDigit = true) :
    c = '0' ∨ c = '1' ∨ c = '2' ∨ c = '3' ∨ c = '4' ∨ c = '5' ∨ c = '6' ∨ c = '7' ∨ c = '8' ∨
      c = '9' := by
  have hall : ∀ n < 58, 48 ≤ n →
      Char.ofNat n ∈ ['0', '1', '2', '3', '4', '5', '6', '7', '8', '9'] := by decide
  obtain ⟨hleast, hmost⟩ := toNat_of_isDigit h
  simpa [Char.ofNat_toNat] using hall c.toNat (by omega) hleast

theorem valueOf_lt {digits : List Char} (h : ∀ c ∈ digits, c.isDigit = true) :
    valueOf digits < Nat.pow 10 digits.length := by
  induction digits using List.reverseRecOn with
  | nil => exact Nat.one_pos
  | append_singleton digits c ih =>
      obtain ⟨hdigits, hlast⟩ := List.forall_mem_append.mp h
      have hvalue : valueOf (digits ++ [c]) = 10 * valueOf digits + digitValue c := by
        simp [valueOf]
      have hc : digitValue c ≤ 9 := by
        have hrange := toNat_of_isDigit (hlast c List.mem_cons_self)
        change c.toNat - 48 ≤ 9
        omega
      have hbefore := ih hdigits
      rw [hvalue, List.length_append, List.length_singleton]
      change 10 * valueOf digits + digitValue c < Nat.pow 10 digits.length * 10
      omega

theorem valueOf_lt_of_length_le {digits : List Char} {k : Nat}
    (h : ∀ c ∈ digits, c.isDigit = true) (hlength : digits.length ≤ k) :
    valueOf digits < Nat.pow 10 k :=
  Nat.lt_of_lt_of_le (valueOf_lt h) (Nat.pow_le_pow_right (by omega) hlength)

theorem eq_nil_of_digitsOf_eq_zero_cons {n : Nat} {digits : List Char}
    (h : digitsOf n = '0' :: digits) : digits = [] := by
  by_contra hne
  have hvalue : n = valueOf digits := by
    rw [← valueOf_digitsOf n, h]
    rfl
  have hdigits : ∀ c ∈ digits, c.isDigit = true := fun c hc =>
    isDigit_of_mem_digitsOf (n := n) c (h ▸ List.mem_cons_of_mem _ hc)
  -- Without the zero there are fewer digits for the same number.
  have hfewer := (length_digitsOf_le_iff (List.length_pos_iff.mpr hne)).mpr
    (hvalue ▸ valueOf_lt hdigits)
  rw [h, List.length_cons] at hfewer
  omega

theorem natAbs_lt_of_plainInteger {cs : List Char} {n : Int} (h : plainInteger cs = .ok n) :
    n.natAbs < Nat.pow 10 maxDigits := by
  unfold plainInteger at h
  split at h
  next negative body hsign =>
    dsimp only at h
    split at h
    · cases h
    · split at h
      · cases h
      · next hlength =>
          split at h
          · cases h
            have hvalue := valueOf_lt_of_length_le (fun c hc => List.mem_takeWhile_imp hc)
              (Nat.le_of_not_lt hlength)
            split <;> omega
          · cases h

theorem natAbs_lt_of_integer {s : String} {n : Int} (h : integer s = .ok n) :
    n.natAbs < Nat.pow 10 maxDigits := by
  unfold integer at h
  split at h
  · next m hplain =>
      cases h
      exact natAbs_lt_of_plainInteger hplain
  · cases h
  · split at h
    · next m hplain =>
        cases h
        obtain ⟨digits, -, hdigits⟩ := Option.map_eq_some_iff.mp hplain
        exact natAbs_lt_of_plainInteger hdigits
    · cases h

end Number

/-! ## Reading -/

namespace Json

theorem IsBoundary.head {rest : List Char} (h : IsBoundary rest) :
    ∀ c ∈ rest.head?, c.isDigit = false ∧ (c = '.' || c = 'e' || c = 'E') = false := by
  intro c hc
  have hlayout := h c hc
  simp only [isLayout, Bool.or_eq_true, decide_eq_true_eq, or_assoc] at hlayout
  rcases hlayout with rfl | rfl | rfl | rfl | rfl <;> decide

theorem wholeDigits?_digitsOf (n : Nat) {rest : List Char}
    (hrest : ∀ c ∈ rest.head?, c.isDigit = false) :
    wholeDigits? (Number.digitsOf n ++ rest) = some (Number.digitsOf n, rest) := by
  have hdigits := Number.isDigit_of_mem_digitsOf (n := n)
  cases hcase : Number.digitsOf n with
  | nil => exact absurd hcase Nat.toDigits_ne_nil
  | cons c digits =>
      rw [hcase] at hdigits
      obtain ⟨hc, hmore⟩ := List.forall_mem_cons.mp hdigits
      rw [List.cons_append, wholeDigits?]
      by_cases hzero : c = '0'
      · rw [hzero] at hcase
        have hnone : rest.head?.any Char.isDigit = false := by
          rw [Option.any_eq_false]
          exact fun c hc => by simp [hrest c hc]
        simp [hzero, Number.eq_nil_of_digitsOf_eq_zero_cons hcase, hnone]
      · rw [if_neg hzero, if_pos hc, Text.takeWhile_append_stop hmore hrest,
          Text.dropWhile_append_stop hmore hrest]

theorem unsigned?_digitsOf {n : Nat} (h : n < Nat.pow 10 Number.maxDigits) (negative : Bool)
    {rest : List Char} (hrest : IsBoundary rest) :
    unsigned? negative (Number.digitsOf n ++ rest) =
      some (.integer (if negative then -(n : Int) else n), rest) := by
  have hwhole := wholeDigits?_digitsOf n fun c hc => (hrest.head c hc).1
  have hlength : (Number.digitsOf n).length ≤ Number.maxDigits :=
    (Number.length_digitsOf_le_iff (by decide)).mpr h
  have hnone : (rest.head?.any fun c => c = '.' || c = 'e' || c = 'E') = false := by
    rw [Option.any_eq_false]
    exact fun c hc => by simp [(hrest.head c hc).2]
  simp only [unsigned?, hwhole, Nat.not_lt.mpr hlength, if_false, hnone, Number.valueOf_digitsOf,
    Bool.not_false, if_true]

theorem value?_digit {c : Char} (h : c.isDigit = true) (depth : Nat) (cs : List Char) :
    value? depth (c :: cs) =
      (unsigned? false (c :: cs)).map fun (n, rest) => (number n, rest) := by
  rcases Number.digit_cases h with rfl | rfl | rfl | rfl | rfl | rfl | rfl | rfl | rfl | rfl <;>
    cases depth <;> rfl

theorem value?_minus {c : Char} (h : c.isDigit = true) (depth : Nat) (cs : List Char) :
    value? depth ('-' :: c :: cs) =
      (unsigned? true (c :: cs)).map fun (n, rest) => (number n, rest) := by
  rcases Number.digit_cases h with rfl | rfl | rfl | rfl | rfl | rfl | rfl | rfl | rfl | rfl <;>
    cases depth <;> rfl

theorem exists_digitsOf_eq_cons (n : Nat) :
    ∃ c digits, Number.digitsOf n = c :: digits ∧ c.isDigit = true := by
  obtain ⟨c, digits, hdigits⟩ := List.exists_cons_of_ne_nil (Nat.toDigits_ne_nil (n := n) (b := 10))
  exact ⟨c, digits, hdigits, Number.isDigit_of_mem_digitsOf c (hdigits ▸ List.mem_cons_self)⟩

theorem readsBack_integer {n : Int} (h : n.natAbs < Nat.pow 10 Number.maxDigits) (depth : Nat) :
    ReadsBack (value? depth) (numeralChars (.integer n)) (number (.integer n)) := by
  obtain ⟨c, digits, hdigits, hc⟩ := exists_digitsOf_eq_cons n.natAbs
  rw [numeralChars, Number.integerText]
  split
  · next hnegative =>
      have hn : -(n.natAbs : Int) = n := by omega
      refine ⟨⟨'-', _, rfl, by decide⟩, fun rest hrest => ?_⟩
      have hread := unsigned?_digitsOf h true hrest
      rw [hdigits] at hread ⊢
      rw [List.cons_append, List.cons_append, value?_minus hc, ← List.cons_append, hread]
      simp only [if_true, hn, Option.map_some]
  · next hnegative =>
      have hn : (n.natAbs : Int) = n := by omega
      have hlayout : isLayout c = false := by
        rcases Number.digit_cases hc with
          rfl | rfl | rfl | rfl | rfl | rfl | rfl | rfl | rfl | rfl <;> rfl
      refine ⟨⟨c, digits, hdigits, hlayout⟩, fun rest hrest => ?_⟩
      have hread := unsigned?_digitsOf h false hrest
      rw [hdigits] at hread ⊢
      rw [List.cons_append, value?_digit hc, ← List.cons_append, hread]
      simp only [Bool.false_eq_true, if_false, hn, Option.map_some]

end Json

end EntityDiagram
