import EntityDiagram.Proofs.Sql.Lexeme
import EntityDiagram.Proofs.Sql.Quoting

/-! # Lists in parentheses

The items of a list in parentheses are cut at its commas, which are those outside of any further
parentheses. A scan that counts the open parentheses finds them as long as each item closes what it
opens. The text of a column type does so: it is a word or two, arguments in one pair of parentheses
at most, and marks of an array.
-/

namespace EntityDiagram.Sql

/-! ## Cutting a list -/

/-- Whether a lexeme opens, closes or divides a list. -/
def Lexeme.divides : Lexeme → Bool
  | .mark c => c == '(' || c == ')' || c == ','
  | _ => false

/-- The number of open parentheses after a lexeme. -/
def depthAfter (depth : Nat) : Lexeme → Nat
  | .mark '(' => depth + 1
  | .mark ')' => depth - 1
  | _ => depth

/-- Puts lexemes in front of the first item of a list. -/
def extend (front : List Lexeme) (list : List (List Lexeme) × List Lexeme) :
    List (List Lexeme) × List Lexeme :=
  (list.1.modifyHead (front ++ ·), list.2)

/-- The items of a list up to its closing parenthesis, and what follows it. Further parentheses are
open to the given depth. -/
def listItems? : Nat → List Lexeme → Option (List (List Lexeme) × List Lexeme)
  | _, [] => none
  | depth, l :: ls =>
      if depth = 0 ∧ l = .mark ')' then some ([[]], ls)
      else if depth = 0 ∧ l = .mark ',' then
        (listItems? 0 ls).map fun list => ([] :: list.1, list.2)
      else (listItems? (depthAfter depth l) ls).map (extend [l])

/-- Lexemes that close what they open, and divide nothing outside of it. -/
inductive IsNested : List Lexeme → Prop
  | nil : IsNested []
  | cons {l : Lexeme} {ls : List Lexeme} (hl : l.divides = false) (hls : IsNested ls) :
      IsNested (l :: ls)
  | group {inner ls : List Lexeme} (hopen : .mark '(' ∉ inner) (hclose : .mark ')' ∉ inner)
      (hls : IsNested ls) : IsNested (.mark '(' :: inner ++ .mark ')' :: ls)

theorem IsNested.of_forall {ls : List Lexeme} (h : ∀ l ∈ ls, l.divides = false) : IsNested ls := by
  induction ls with
  | nil => exact .nil
  | cons l ls ih =>
      obtain ⟨hl, hls⟩ := List.forall_mem_cons.mp h
      exact .cons hl (ih hls)

theorem IsNested.append {ls more : List Lexeme} (h : IsNested ls) (hmore : IsNested more) :
    IsNested (ls ++ more) := by
  induction h with
  | nil => exact hmore
  | cons hl _ ih => exact .cons hl ih
  | group hopen hclose _ ih =>
      rw [List.append_assoc]
      exact .group hopen hclose ih

theorem extend_extend (front more : List Lexeme) (list : List (List Lexeme) × List Lexeme) :
    extend front (extend more list) = extend (front ++ more) list := by
  simp [extend, List.modifyHead_modifyHead, Function.comp_def]

theorem map_extend_map_extend (front more : List Lexeme)
    (found : Option (List (List Lexeme) × List Lexeme)) :
    (found.map (extend more)).map (extend front) = found.map (extend (front ++ more)) := by
  cases found with
  | none => rfl
  | some list => simp [extend_extend]

theorem map_extend_nil (found : Option (List (List Lexeme) × List Lexeme)) :
    found.map (extend []) = found := by
  cases found with
  | none => rfl
  | some list =>
      obtain ⟨items, rest⟩ := list
      cases items <;> rfl

theorem listItems?_inside {inner : List Lexeme} (hopen : .mark '(' ∉ inner)
    (hclose : .mark ')' ∉ inner) (rest : List Lexeme) :
    listItems? 1 (inner ++ rest) = (listItems? 1 rest).map (extend inner) := by
  induction inner with
  | nil => exact (map_extend_nil _).symm
  | cons l inner ih =>
      rw [List.mem_cons, not_or] at hopen hclose
      have hdepth : depthAfter 1 l = 1 := by
        unfold depthAfter
        split
        · exact absurd rfl hopen.1
        · exact absurd rfl hclose.1
        · rfl
      rw [List.cons_append, listItems?, if_neg (by simp), if_neg (by simp), hdepth,
        ih hopen.2 hclose.2, map_extend_map_extend]
      rfl

/-- Lexemes that close what they open neither end nor divide the list around them. -/
theorem listItems?_append {ls : List Lexeme} (h : IsNested ls) (rest : List Lexeme) :
    listItems? 0 (ls ++ rest) = (listItems? 0 rest).map (extend ls) := by
  induction h with
  | nil => exact (map_extend_nil _).symm
  | @cons l ls hl hls ih =>
      have hclose : l ≠ .mark ')' := by
        rintro rfl
        simp [Lexeme.divides] at hl
      have hcomma : l ≠ .mark ',' := by
        rintro rfl
        simp [Lexeme.divides] at hl
      have hdepth : depthAfter 0 l = 0 := by
        unfold depthAfter
        split
        · simp [Lexeme.divides] at hl
        · rfl
        · rfl
      rw [List.cons_append, listItems?, if_neg (by simp [hclose]), if_neg (by simp [hcomma]),
        hdepth, ih, map_extend_map_extend]
      rfl
  | @group inner ls hopen hclose hls ih =>
      have hinner : listItems? 1 (inner ++ .mark ')' :: (ls ++ rest)) =
          (listItems? 0 rest).map (extend (inner ++ .mark ')' :: ls)) := by
        rw [listItems?_inside hopen hclose, listItems?, if_neg (by simp), if_neg (by simp),
          depthAfter, ih, map_extend_map_extend, map_extend_map_extend, List.append_assoc,
          List.singleton_append]
      rw [List.cons_append, List.cons_append, List.append_assoc, List.cons_append, listItems?,
        if_neg (by simp), if_neg (by simp), depthAfter, hinner, map_extend_map_extend]
      rfl

theorem listItems?_intercalate {items : List (List Lexeme)} (hne : items ≠ [])
    (h : ∀ item ∈ items, IsNested item) (rest : List Lexeme) :
    listItems? 0 ([.mark ','].intercalate items ++ .mark ')' :: rest) = some (items, rest) := by
  have hend : listItems? 0 (.mark ')' :: rest) = some ([[]], rest) := rfl
  induction items with
  | nil => exact absurd rfl hne
  | cons item items ih =>
      obtain ⟨hitem, hitems⟩ := List.forall_mem_cons.mp h
      cases items with
      | nil =>
          rw [List.intercalate_singleton, listItems?_append hitem, hend]
          simp [extend]
      | cons next items =>
          rw [List.intercalate_cons_cons, List.append_assoc, List.append_assoc,
            listItems?_append hitem, List.singleton_append, listItems?, if_neg (by simp),
            if_pos (by simp), ih (by simp) hitems]
          simp [extend]

/-! ## Scanning a column type -/

theorem mem_of_mark_mem_lexemes {c : Char} {cs : List Char} (h : .mark c ∈ lexemes cs) :
    c ∈ cs := by
  fun_induction lexemes cs with
  | case1 => contradiction
  | case2 cs ih =>
      have hrest := ih ((List.mem_cons.mp h).resolve_left (by simp))
      exact List.mem_cons_of_mem _ ((cs.dropWhile_sublist _).subset (List.mem_of_mem_drop hrest))
  | case3 cs _ ih =>
      have hrest := ih ((List.mem_cons.mp h).resolve_left (by simp))
      exact List.mem_cons_of_mem _ ((cs.dropWhile_sublist _).subset hrest)
  | case4 first cs _ _ _ ih =>
      have hrest := ih ((List.mem_cons.mp h).resolve_left (by simp))
      exact List.mem_cons_of_mem _ ((cs.dropWhile_sublist _).subset hrest)
  | case5 first cs _ _ _ _ ih => exact List.mem_cons_of_mem _ (ih h)
  | case6 first cs _ _ _ _ ih =>
      rcases List.mem_cons.mp h with heq | hrest
      · rw [Lexeme.mark.injEq] at heq
        exact heq ▸ List.mem_cons_self
      · exact List.mem_cons_of_mem _ (ih hrest)

/-- Text without parentheses and commas divides nothing. -/
theorem divides_of_mem_lexemes {cs : List Char} (hopen : '(' ∉ cs) (hclose : ')' ∉ cs)
    (hcomma : ',' ∉ cs) : ∀ l ∈ lexemes cs, l.divides = false := by
  intro l hl
  cases l with
  | mark c =>
      have hc := mem_of_mark_mem_lexemes hl
      have hne : ∀ {d : Char}, d ∉ cs → c ≠ d := by
        rintro _ hd rfl
        exact hd hc
      simp [Lexeme.divides, hne hopen, hne hclose, hne hcomma]
  | word | name | slot => rfl

/-- Words that start with a letter, a digit or an underscore, and blanks between them. -/
def isTypeWord (cs : List Char) : Bool :=
  cs.head?.any isWordChar && cs.all fun c => isWordChar c || c == ' '

/-- Text in one pair of parentheses that a scan passes over, or nothing at all. -/
inductive IsParenthesized : List Char → Prop
  | absent : IsParenthesized []
  | present {inner : List Char} (hopen : '(' ∉ inner) (hclose : ')' ∉ inner) (hquote : '"' ∉ inner)
      (hdollar : '$' ∉ inner) : IsParenthesized ('(' :: inner ++ [')'])

/-- The text of a column type. -/
inductive IsTypeText : List Char → Prop
  | intro {word arguments : List Char} (hword : isTypeWord word = true)
      (harguments : IsParenthesized arguments) (count : Nat) :
      IsTypeText (word ++ arguments ++ (List.replicate count ['[', ']']).flatten)

theorem not_mem_of_isTypeWord {word : List Char} (h : isTypeWord word = true) {c : Char}
    (hword : isWordChar c = false) (hblank : c ≠ ' ') : c ∉ word := by
  intro hc
  rw [isTypeWord, Bool.and_eq_true, List.all_eq_true] at h
  simpa [hword, hblank] using h.2 c hc

theorem lexemes_of_isTypeWord {word : List Char} (h : isTypeWord word = true) :
    ∃ first rest, lexemes word = .word first :: rest ∧ ∀ l ∈ rest, l.divides = false := by
  have hdivides := divides_of_mem_lexemes (not_mem_of_isTypeWord h (c := '(') rfl (by decide))
    (not_mem_of_isTypeWord h (c := ')') rfl (by decide))
    (not_mem_of_isTypeWord h (c := ',') rfl (by decide))
  cases word with
  | nil => contradiction
  | cons c cs =>
      have hc : isWordChar c = true := by
        rw [isTypeWord, Bool.and_eq_true] at h
        exact h.1
      have hquote : c ≠ '"' := by
        rintro rfl
        contradiction
      have hdollar : c ≠ '$' := by
        rintro rfl
        contradiction
      rw [lexemes, if_neg hquote, if_neg hdollar, if_pos hc] at hdivides ⊢
      exact ⟨_, _, rfl, (List.forall_mem_cons.mp hdivides).2⟩

theorem not_mem_marks {c : Char} (hopen : c ≠ '[') (hclose : c ≠ ']') (count : Nat) :
    c ∉ (List.replicate count ['[', ']']).flatten := by
  simp [hopen, hclose]

theorem startsApart_marks (count : Nat) :
    StartsApart (List.replicate count ['[', ']']).flatten := by
  cases count with
  | zero => decide
  | succ count =>
      rw [List.replicate_succ]
      simp [StartsApart, isWordChar]

theorem IsParenthesized.startsApart {arguments rest : List Char} (h : IsParenthesized arguments)
    (hrest : StartsApart rest) : StartsApart (arguments ++ rest) := by
  cases h with
  | absent => exact hrest
  | present => simp [StartsApart, isWordChar]

theorem IsParenthesized.isNested_lexemes {arguments rest : List Char}
    (h : IsParenthesized arguments) (hrest : IsNested (lexemes rest)) :
    IsNested (lexemes (arguments ++ rest)) := by
  cases h with
  | absent => exact hrest
  | @present inner hopen hclose hquote hdollar =>
      have hend : lexemes (')' :: rest) = .mark ')' :: lexemes rest := by
        simp [lexemes, isWordChar]
      have hgroup : lexemes ('(' :: inner ++ [')'] ++ rest) =
          .mark '(' :: lexemes inner ++ .mark ')' :: lexemes rest := by
        have hinner := @lexemes_append inner (')' :: rest) hquote hdollar
          (by simp [StartsApart, isWordChar])
        rw [List.append_assoc, List.singleton_append, List.cons_append, List.cons_append, ← hend,
          ← hinner]
        simp [lexemes, isWordChar]
      rw [hgroup]
      exact .group (fun hmem => hopen (mem_of_mark_mem_lexemes hmem))
        (fun hmem => hclose (mem_of_mark_mem_lexemes hmem)) hrest

namespace IsTypeText

/-- A scan finds a word first in a column type, and then what closes all that it opens. -/
theorem lexemes {cs : List Char} (h : IsTypeText cs) :
    ∃ first rest, lexemes cs = .word first :: rest ∧ IsNested rest := by
  obtain @⟨word, arguments, hword, harguments, count⟩ := h
  obtain ⟨first, rest, hfirst, hrest⟩ := lexemes_of_isTypeWord hword
  have hmarks : IsNested (Sql.lexemes (List.replicate count ['[', ']']).flatten) :=
    .of_forall (divides_of_mem_lexemes (not_mem_marks (by decide) (by decide) count)
      (not_mem_marks (by decide) (by decide) count) (not_mem_marks (by decide) (by decide) count))
  refine ⟨first, _, ?_,
    (IsNested.of_forall hrest).append (harguments.isNested_lexemes hmarks)⟩
  rw [List.append_assoc, lexemes_append (not_mem_of_isTypeWord hword rfl (by decide))
    (not_mem_of_isTypeWord hword rfl (by decide))
    (harguments.startsApart (startsApart_marks count)), hfirst, List.cons_append]

theorem not_mem {cs : List Char} (h : IsTypeText cs) : '"' ∉ cs ∧ '$' ∉ cs := by
  obtain @⟨word, arguments, hword, harguments, count⟩ := h
  have hinner : '"' ∉ arguments ∧ '$' ∉ arguments := by
    cases harguments with
    | absent => simp
    | present hopen hclose hquote hdollar => simp [hquote, hdollar]
  constructor
  · exact List.not_mem_append (List.not_mem_append (not_mem_of_isTypeWord hword rfl (by decide))
      hinner.1) (not_mem_marks (by decide) (by decide) count)
  · exact List.not_mem_append (List.not_mem_append (not_mem_of_isTypeWord hword rfl (by decide))
      hinner.2) (not_mem_marks (by decide) (by decide) count)

end IsTypeText

/-! ## Column types of a diagram -/

/-- Text with one pair of parentheses at most, and without quotes and dollar signs. -/
def IsSparse (cs : List Char) : Prop :=
  ∀ c ∈ ['(', ')', '"', '$'], cs.count c ≤ ['(', ')'].count c

theorem IsSparse.of_count_le {cs more : List Char} (h : IsSparse more)
    (hle : ∀ c : Char, c.toNat < 0x61 → cs.count c ≤ more.count c) : IsSparse cs := by
  intro c hc
  refine (hle c ?_).trans (h c hc)
  simp only [List.mem_cons, List.not_mem_nil, or_false] at hc
  rcases hc with rfl | rfl | rfl | rfl <;> decide

theorem count_le_of_isTypeName {typeName : List Char} (h : Line.IsTypeName typeName) {c : Char}
    (hname : Line.isNameChar c = false) (hblank : Text.isBlank c = false)
    (hword : Text.isWord c = false) (hmarks : c ∉ [',', '[', ']']) :
    typeName.count c ≤ ['(', ')'].count c := by
  obtain @⟨letter, word, arguments, mark, hletter, hrest, harguments, hmark⟩ := h
  have hfirst : c ∉ letter :: word := by
    have hstart : Line.isNameStart letter = true := by simp [Line.isNameStart, hletter]
    have hall : ∀ d ∈ letter :: word, Line.isNameChar d = true :=
      List.forall_mem_cons.mpr ⟨Line.isNameChar_of_isNameStart hstart, hrest⟩
    intro hc
    rw [hall c hc] at hname
    contradiction
  have hlast : c ∉ mark := by
    cases hmark <;> simp_all
  have hmiddle : arguments.count c ≤ ['(', ')'].count c := by
    cases harguments with
    | absent => simp
    | @words pieces hne hwords =>
        have hinner : c ∉ [','].intercalate pieces := by
          intro hc
          rcases Line.mem_intercalate hc with rfl | ⟨piece, hpiece, hc⟩
          · simp at hmarks
          · exact (hwords piece hpiece).not_mem hblank hword hc
        simp [List.count_cons, List.count_eq_zero.mpr hinner, Nat.add_comm]
  rw [List.count_append, List.count_append, List.count_eq_zero.mpr hfirst,
    List.count_eq_zero.mpr hlast, Nat.zero_add, Nat.add_zero]
  exact hmiddle

theorem isSparse_of_isTypeName {typeName : List Char} (h : Line.IsTypeName typeName) :
    IsSparse typeName := by
  intro c hc
  simp only [List.mem_cons, List.not_mem_nil, or_false] at hc
  rcases hc with rfl | rfl | rfl | rfl <;>
    exact count_le_of_isTypeName h (by decide) (by decide) (by decide) (by decide)

instance : DecidablePred IsParenthesized := fun cs =>
  let inner := cs.tail.dropLast
  decidable_of_iff (cs = [] ∨ cs = '(' :: inner ++ [')'] ∧
      ('(' ∉ inner ∧ ')' ∉ inner ∧ '"' ∉ inner ∧ '$' ∉ inner)) (by
    constructor
    · rintro (rfl | ⟨hcs, hopen, hclose, hquote, hdollar⟩)
      · exact .absent
      · rw [hcs]
        exact .present hopen hclose hquote hdollar
    · rintro (_ | ⟨hopen, hclose, hquote, hdollar⟩)
      · exact .inl rfl
      · right
        simp_all [inner])

theorem isTypeWord_known : ∀ entry ∈ ColumnType.known,
    isTypeWord entry.2.name.toList = true ∧ IsParenthesized entry.2.arguments.toList := by
  decide

theorem isTypeWord_ofWord? {word : List Char} {type : ColumnType}
    (h : ColumnType.ofWord? word = some type) :
    isTypeWord type.name.toList = true ∧ IsParenthesized type.arguments.toList :=
  isTypeWord_known (String.ofList word, type) (mem_known_of_ofWord? h)

theorem exists_parts_of_baseType {cs : List Char} (h : IsSparse cs) :
    ∃ word arguments, isTypeWord word = true ∧ IsParenthesized arguments ∧
      (baseType cs).toList = word ++ arguments := by
  have htext : isTypeWord "TEXT".toList = true := by decide
  unfold baseType
  cases hsplit : splitArguments? cs with
  | some pair =>
      obtain ⟨word, arguments⟩ := pair
      cases htype : ColumnType.ofWord? word with
      | none => exact ⟨_, [], htext, .absent, by simp [htype]⟩
      | some type =>
          -- The one pair of parentheses is the one around the arguments.
          have hinner : ∀ c ∈ ['(', ')', '"', '$'], c ∉ arguments := by
            intro c hc
            have hcount := h c hc
            rw [(splitArguments?_eq_some_iff.mp hsplit).2.2] at hcount
            rw [← List.count_eq_zero]
            simp only [List.count_append, List.count_cons, List.count_nil] at hcount
            omega
          refine ⟨type.name.toList, '(' :: arguments ++ [')'], (isTypeWord_ofWord? htype).1,
            .present (hinner _ (by simp)) (hinner _ (by simp)) (hinner _ (by simp))
              (hinner _ (by simp)), ?_⟩
          simp [htype, ColumnType.textWith]
  | none =>
      cases htype : ColumnType.ofWord? cs with
      | none => exact ⟨_, [], htext, .absent, by simp⟩
      | some type =>
          obtain ⟨hname, harguments⟩ := isTypeWord_ofWord? htype
          exact ⟨_, _, hname, harguments, by simp [ColumnType.text]⟩

theorem peelArrays_suffix (cs : List Char) : (peelArrays cs).1 <:+ cs := by
  fun_induction peelArrays cs with
  | case1 rest base count hpeel ih =>
      rw [hpeel] at ih
      refine (ih.trans (List.dropWhile_suffix _)).trans ?_
      exact (List.suffix_cons '[' rest).trans (List.suffix_cons ']' _)
  | case2 cs _ => exact List.suffix_rfl

theorem isTypeText_columnType {typeName : String} (h : Line.IsTypeName typeName.toList) :
    IsTypeText (columnType typeName).toList := by
  let peeled := peelArrays (Text.trim (Text.lower typeName).toList).reverse
  have hsparse : IsSparse peeled.1.reverse := by
    refine (isSparse_of_isTypeName h).of_count_le fun c hc => ?_
    obtain ⟨before, after, -, -, htrim⟩ := Text.exists_trim (Text.lower typeName).toList
    have hpart : peeled.1.reverse.Sublist (Text.lower typeName).toList := by
      have hpeeled := (peelArrays_suffix (Text.trim (Text.lower typeName).toList).reverse).sublist
      refine (List.reverse_sublist.mpr hpeeled).trans ?_
      rw [List.reverse_reverse]
      conv_rhs => rw [htrim]
      exact (List.sublist_append_right _ _).trans (List.sublist_append_left _ _)
    exact (hpart.count_le c).trans (Text.count_lower_le hc typeName)
  obtain ⟨word, arguments, hword, harguments, hbase⟩ := exists_parts_of_baseType hsparse
  have hmarks : (String.join (List.replicate peeled.2 "[]")).toList =
      (List.replicate peeled.2 ['[', ']']).flatten := by
    rw [String.toList_join, List.flatMap_replicate]
    rfl
  have htext : (columnType typeName).toList =
      word ++ arguments ++ (List.replicate peeled.2 ['[', ']']).flatten := by
    rw [columnType, String.toList_append, hbase, hmarks]
  rw [htext]
  exact .intro hword harguments peeled.2

end EntityDiagram.Sql
