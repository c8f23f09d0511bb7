import EntityDiagram.Proofs.Sql.Token
import EntityDiagram.Proofs.Text.Span
import Mathlib.Data.List.Basic

/-! # Scanning SQL text

Reads the text of a query from left to right, as a database does: a quote opens a name that goes on
to the next quote, a dollar sign opens a placeholder, and letters make up words. What is between
quotes is never looked into, so a name may hold what looks like a placeholder. Scanning the text of
tokens gives the lexemes of each token in turn.
-/

namespace EntityDiagram.Sql

/-! ## Lexemes -/

inductive Lexeme where
  | word (text : String)
  /-- A name, without the quotes around it. -/
  | name (text : String)
  /-- A placeholder, without its dollar sign. -/
  | slot (digits : String)
  | mark (c : Char)
  deriving Repr, DecidableEq

def isWordChar (c : Char) : Bool := c.isAlphanum || c == '_'

/-- The lexemes of a text. A name without a closing quote goes on to the end. -/
def lexemes : List Char → List Lexeme
  | [] => []
  | c :: cs =>
      if c = '"' then
        .name (String.ofList (cs.takeWhile (· != '"'))) ::
          lexemes ((cs.dropWhile (· != '"')).drop 1)
      else if c = '$' then
        .slot (String.ofList (cs.takeWhile (·.isDigit))) :: lexemes (cs.dropWhile (·.isDigit))
      else if isWordChar c then
        .word (String.ofList (c :: cs.takeWhile isWordChar)) :: lexemes (cs.dropWhile isWordChar)
      else if c.isWhitespace then lexemes cs
      else .mark c :: lexemes cs
termination_by cs => cs.length
decreasing_by
  all_goals
    have hquote := (cs.dropWhile_sublist (· != '"')).length_le
    have hdigit := (cs.dropWhile_sublist (·.isDigit)).length_le
    have hword := (cs.dropWhile_sublist isWordChar).length_le
    simp only [List.length_drop, List.length_cons]
    omega

def Lexeme.slot? : Lexeme → Option String
  | .slot digits => some digits
  | _ => none

/-- The placeholders of a text, in order. -/
def placeholders (cs : List Char) : List String := (lexemes cs).filterMap Lexeme.slot?

/-! ## Scanning one token -/

/-- A text that cannot go on with a word. -/
def StartsApart (cs : List Char) : Prop := ∀ c ∈ cs.head?, isWordChar c = false

instance : DecidablePred StartsApart
  | [] => isTrue (by simp [StartsApart])
  | c :: cs => decidable_of_iff (isWordChar c = false) (by simp [StartsApart])

theorem span_append {p : Char → Bool} (cs : List Char) {rest : List Char}
    (h : ∀ c ∈ rest.head?, p c = false) :
    (cs ++ rest).takeWhile p = cs.takeWhile p ∧
      (cs ++ rest).dropWhile p = cs.dropWhile p ++ rest := by
  have hall : ∀ c ∈ cs.takeWhile p, p c = true := fun c hc => List.mem_takeWhile_imp hc
  have hstop : ∀ c ∈ (cs.dropWhile p ++ rest).head?, p c = false := by
    cases hdrop : cs.dropWhile p with
    | nil => simpa using h
    | cons d ds =>
        have hd := Text.head?_dropWhile cs d (by rw [hdrop]; rfl)
        simpa using hd
  have hcut : cs ++ rest = cs.takeWhile p ++ (cs.dropWhile p ++ rest) := by
    rw [← List.append_assoc, List.takeWhile_append_dropWhile]
  rw [hcut]
  exact ⟨Text.takeWhile_append_stop hall hstop, Text.dropWhile_append_stop hall hstop⟩

theorem lexemes_append {cs rest : List Char} (hquote : '"' ∉ cs) (hdollar : '$' ∉ cs)
    (hrest : StartsApart rest) : lexemes (cs ++ rest) = lexemes cs ++ lexemes rest := by
  fun_induction lexemes cs with
  | case1 => rfl
  | case2 cs => exact absurd List.mem_cons_self hquote
  | case3 cs => exact absurd List.mem_cons_self hdollar
  | case4 c cs hc hc' hword ih =>
      obtain ⟨htake, hdrop⟩ := span_append cs hrest
      have hsub : ∀ d ∈ cs.dropWhile isWordChar, d ∈ c :: cs := fun d hd =>
        List.mem_cons_of_mem c ((cs.dropWhile_sublist isWordChar).subset hd)
      rw [List.cons_append, lexemes, if_neg hc, if_neg hc', if_pos hword, htake, hdrop,
        ih (fun hmem => hquote (hsub _ hmem)) (fun hmem => hdollar (hsub _ hmem)),
        List.cons_append]
  | case5 c cs hc hc' hword hblank ih =>
      rw [List.cons_append, lexemes, if_neg hc, if_neg hc', if_neg hword, if_pos hblank,
        ih (fun hmem => hquote (List.mem_cons_of_mem c hmem))
          (fun hmem => hdollar (List.mem_cons_of_mem c hmem))]
  | case6 c cs hc hc' hword hblank ih =>
      rw [List.cons_append, lexemes, if_neg hc, if_neg hc', if_neg hword, if_neg hblank,
        ih (fun hmem => hquote (List.mem_cons_of_mem c hmem))
          (fun hmem => hdollar (List.mem_cons_of_mem c hmem)), List.cons_append]

theorem lexemes_name {name : List Char} (hquote : '"' ∉ name) (rest : List Char) :
    lexemes ('"' :: name ++ '"' :: rest) = .name (String.ofList name) :: lexemes rest := by
  have hall : ∀ c ∈ name, (c != '"') = true := by
    intro c hc
    rw [bne_iff_ne]
    rintro rfl
    exact hquote hc
  have hstop : ∀ c ∈ ('"' :: rest).head?, (c != '"') = false := by simp
  rw [List.cons_append, lexemes, if_pos rfl, Text.takeWhile_append_stop hall hstop,
    Text.dropWhile_append_stop hall hstop]
  rfl

theorem lexemes_slot (number : Nat) {rest : List Char} (hrest : StartsApart rest) :
    lexemes ('$' :: (toString number).toList ++ rest) =
      .slot (toString number) :: lexemes rest := by
  have hall : ∀ c ∈ (toString number).toList, c.isDigit = true := by
    intro c hc
    rw [Nat.toString_eq_repr, Nat.repr_eq_ofList_toDigits, String.toList_ofList] at hc
    exact Nat.isDigit_of_mem_toDigits (by omega) (by omega) hc
  have hstop : ∀ c ∈ rest.head?, c.isDigit = false := by
    intro c hc
    have hword := hrest c hc
    simp only [isWordChar, Char.isAlphanum, Bool.or_eq_false_iff] at hword
    exact hword.1.2
  rw [List.cons_append, lexemes, if_neg (by decide), if_pos rfl,
    Text.takeWhile_append_stop hall hstop, Text.dropWhile_append_stop hall hstop,
    String.ofList_toList]

/-- Text without dollar signs has no placeholders. -/
theorem placeholders_eq_nil {cs : List Char} (h : '$' ∉ cs) : placeholders cs = [] := by
  unfold placeholders
  fun_induction lexemes cs with
  | case1 => rfl
  | case2 cs ih =>
      refine ih fun hmem => h (List.mem_cons_of_mem _ ?_)
      exact (cs.dropWhile_sublist _).subset (List.mem_of_mem_drop hmem)
  | case3 cs => exact absurd List.mem_cons_self h
  | case4 c cs _ _ _ ih =>
      exact ih fun hmem => h (List.mem_cons_of_mem c ((cs.dropWhile_sublist _).subset hmem))
  | case5 c cs _ _ _ _ ih => exact ih fun hmem => h (List.mem_cons_of_mem c hmem)
  | case6 c cs _ _ _ _ ih => exact ih fun hmem => h (List.mem_cons_of_mem c hmem)

/-! ## Scanning tokens -/

namespace Token

def lexemes : Token → List Lexeme
  | .plain text => Sql.lexemes text.toList
  | .name text => [.name text]
  | .slot number => [.slot (toString number)]

/-- A token that a scan reads apart from what is before it and after it. -/
def IsApart : Token → Prop
  | .plain text => '"' ∉ text.toList ∧ '$' ∉ text.toList ∧ text ≠ "" ∧ StartsApart text.toList
  | .name text => '"' ∉ text.toList
  | .slot _ => True

def slot? : Token → Option Nat
  | .slot number => some number
  | _ => none

instance : DecidablePred IsApart
  | .plain text => inferInstanceAs (Decidable (_ ∧ _ ∧ text ≠ "" ∧ StartsApart text.toList))
  | .name text => inferInstanceAs (Decidable ('"' ∉ text.toList))
  | .slot _ => inferInstanceAs (Decidable True)

@[simp] theorem isApart_name {text : String} : (name text).IsApart ↔ '"' ∉ text.toList := Iff.rfl

@[simp] theorem isApart_slot (number : Nat) : (slot number).IsApart := trivial

theorem IsApart.startsApart {token : Token} (h : token.IsApart) (rest : List Char) :
    StartsApart (token.render.toList ++ rest) := by
  cases token with
  | plain text =>
      obtain ⟨-, -, hne, hstart⟩ := h
      rw [render]
      cases hcs : text.toList with
      | nil => exact absurd (String.toList_eq_nil_iff.mp hcs) hne
      | cons c cs =>
          rw [hcs] at hstart
          exact hstart
  | name text => simp [render, StartsApart, isWordChar]
  | slot number => simp [render, StartsApart, isWordChar]

end Token

/-- The numbers of the placeholders among tokens, in order. -/
def slots (tokens : List Token) : List Nat := tokens.filterMap Token.slot?

@[simp] theorem slots_nil : slots [] = [] := rfl

@[simp] theorem slots_plain (text : String) (tokens : List Token) :
    slots (.plain text :: tokens) = slots tokens := rfl

@[simp] theorem slots_name (text : String) (tokens : List Token) :
    slots (.name text :: tokens) = slots tokens := rfl

@[simp] theorem slots_slot (number : Nat) (tokens : List Token) :
    slots (.slot number :: tokens) = number :: slots tokens := rfl

@[simp] theorem slots_append (tokens more : List Token) :
    slots (tokens ++ more) = slots tokens ++ slots more :=
  List.filterMap_append

theorem startsApart_render {tokens : List Token} (h : ∀ token ∈ tokens, token.IsApart) :
    StartsApart (render tokens).toList := by
  cases tokens with
  | nil => simp [render, StartsApart]
  | cons token tokens =>
      rw [toList_render_cons]
      exact (h token List.mem_cons_self).startsApart _

theorem lexemes_render {tokens : List Token} (h : ∀ token ∈ tokens, token.IsApart) :
    lexemes (render tokens).toList = tokens.flatMap Token.lexemes := by
  induction tokens with
  | nil => simp [render, lexemes]
  | cons token tokens ih =>
      obtain ⟨htoken, htokens⟩ := List.forall_mem_cons.mp h
      have hrest := startsApart_render htokens
      rw [toList_render_cons, List.flatMap_cons, ← ih htokens]
      cases token with
      | plain text => exact lexemes_append htoken.1 htoken.2.1 hrest
      | name text =>
          have hname := lexemes_name htoken (render tokens).toList
          rw [String.ofList_toList] at hname
          simpa [Token.render, Token.lexemes] using hname
      | slot number =>
          have hslot := lexemes_slot number hrest
          simpa [Token.render, Token.lexemes] using hslot

theorem filterMap_slot?_lexemes {token : Token}
    (h : ∀ text, token = .plain text → '$' ∉ text.toList) :
    token.lexemes.filterMap Lexeme.slot? = (token.slot?.map toString).toList := by
  cases token with
  | plain text => exact placeholders_eq_nil (h text rfl)
  | name text => rfl
  | slot number => rfl

/-- Tokens whose text a scan cuts where they meet. The first words of a statement need nothing
before them. -/
def AreApart : List Token → Prop
  | .plain text :: tokens =>
      ('"' ∉ text.toList ∧ '$' ∉ text.toList) ∧ ∀ token ∈ tokens, token.IsApart
  | _ => False

theorem AreApart.lexemes {tokens : List Token} (h : AreApart tokens) :
    lexemes (render tokens).toList = tokens.flatMap Token.lexemes := by
  obtain _ | ⟨text | _ | _, tokens⟩ := tokens
  case cons.plain =>
    obtain ⟨⟨hquote, hdollar⟩, htokens⟩ := h
    rw [toList_render_cons, List.flatMap_cons, ← lexemes_render htokens]
    exact lexemes_append hquote hdollar (startsApart_render htokens)
  all_goals exact h.elim

theorem AreApart.dollar {tokens : List Token} (h : AreApart tokens) :
    ∀ token ∈ tokens, ∀ text, token = .plain text → '$' ∉ text.toList := by
  obtain _ | ⟨text | _ | _, tokens⟩ := tokens
  case cons.plain =>
    rw [List.forall_mem_cons]
    constructor
    · rintro _ ⟨rfl⟩
      exact h.1.2
    · rintro _ hmem other rfl
      exact (h.2 _ hmem).2.1
  all_goals exact h.elim

theorem AreApart.placeholders {tokens : List Token} (h : AreApart tokens) :
    placeholders (render tokens).toList = (slots tokens).map toString := by
  rw [Sql.placeholders, h.lexemes, slots, List.filterMap_flatMap, List.map_filterMap,
    List.filterMap_eq_flatMap_toList]
  exact List.flatMap_congr fun token hmem => filterMap_slot?_lexemes (h.dollar token hmem)

/-! ## Separated tokens -/

theorem flatMap_separatedBy {α : Type} (f : Token → List α) (separator : String)
    (parts : List (List Token)) :
    (separatedBy separator parts).flatMap f =
      (f (.plain separator)).intercalate (parts.map (·.flatMap f)) := by
  unfold separatedBy
  induction parts with
  | nil => rfl
  | cons part parts ih =>
      cases parts with
      | nil => simp
      | cons next parts =>
          rw [List.intercalate_cons_cons, List.flatMap_append, List.flatMap_append, ih,
            List.map_cons, List.map_cons, List.map_cons, List.intercalate_cons_cons]
          simp

theorem slots_separatedBy (separator : String) (parts : List (List Token)) :
    slots (separatedBy separator parts) = parts.flatMap slots :=
  filterMap_separatedBy rfl parts

/-- Items written with one placeholder each have the numbers from one on. -/
theorem slots_mapIdx {α : Type} (items : List α) (write : Nat → α → List Token)
    (h : ∀ index item, slots (write index item) = [index + 1]) :
    (items.mapIdx write).flatMap slots = List.range' 1 items.length := by
  have hflat : (items.mapIdx write).flatMap slots = items.mapIdx fun index _ => index + 1 := by
    rw [List.mapIdx_eq_zipIdx_map, List.mapIdx_eq_zipIdx_map, List.flatMap_map]
    simp only [h, ← List.map_eq_flatMap]
  rw [hflat]
  apply List.ext_getElem
  · simp
  · intro index _ _
    simp [Nat.add_comm]

end EntityDiagram.Sql
