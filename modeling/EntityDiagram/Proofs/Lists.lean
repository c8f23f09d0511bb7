import Mathlib.Data.List.Find
import Mathlib.Data.List.Forall2
import Mathlib.Data.List.Infix

/-! # Lists

Facts about lists of any kind that the theory of texts, tables and schemas shares: the first item of
a kind, items that are read or kept one by one, and lists that are joined.
-/

namespace EntityDiagram

variable {α β γ : Type}

/-! ## First items -/

/-- The item is the first one in the list that satisfies `p`. -/
def IsFirst (p : α → Prop) (items : List α) (item : α) : Prop :=
  ∃ before after, items = before ++ item :: after ∧ p item ∧ ∀ other ∈ before, ¬ p other

theorem isFirst_iff_find? {p : α → Prop} {test : α → Bool}
    (htest : ∀ item, test item = true ↔ p item) {items : List α} {item : α} :
    IsFirst p items item ↔ items.find? test = some item := by
  rw [List.find?_eq_some_iff_append]
  simp only [IsFirst, ← htest, Bool.not_eq_true, Bool.not_eq_true']
  constructor
  · rintro ⟨before, after, hitems, hitem, hbefore⟩
    exact ⟨hitem, before, after, hitems, hbefore⟩
  · rintro ⟨hitem, before, after, hitems, hbefore⟩
    exact ⟨before, after, hitems, hitem, hbefore⟩

theorem IsFirst.unique {p : α → Prop} {items : List α} {item other : α}
    (h : IsFirst p items item) (hother : IsFirst p items other) : item = other := by
  classical
  rw [isFirst_iff_find? fun item => decide_eq_true_iff] at h hother
  exact Option.some.inj (h.symm.trans hother)

/-! ## Item by item -/

theorem mapM_eq_some_of_forall₂ {read? : α → Option β} {items : List α} {values : List β}
    (h : List.Forall₂ (fun item value => read? item = some value) items values) :
    items.mapM read? = some values := by
  induction h with
  | nil => rfl
  | cons hitem _ ih =>
      rw [List.mapM_cons, hitem, ih]
      rfl

theorem mapM_map_eq_some {read? : β → Option γ} {write : α → β} {value : α → γ} {items : List α}
    (h : ∀ item ∈ items, read? (write item) = some (value item)) :
    (items.map write).mapM read? = some (items.map value) := by
  apply mapM_eq_some_of_forall₂
  rw [List.forall₂_map_left_iff, List.forall₂_map_right_iff, List.forall₂_same]
  exact h

theorem forall₂_filter_filterMap {p : α → Prop} [DecidablePred p] {f : α → Option β}
    {R : α → β → Prop} {items : List α} (hnone : ∀ item ∈ items, ¬ p item → f item = none)
    (hsome : ∀ item ∈ items, p item → ∃ value, f item = some value ∧ R item value) :
    List.Forall₂ R (items.filter p) (items.filterMap f) := by
  induction items with
  | nil => exact .nil
  | cons item items ih =>
      rw [List.forall_mem_cons] at hnone hsome
      have hrest := ih hnone.2 hsome.2
      by_cases hp : p item
      · obtain ⟨value, hvalue, hrelated⟩ := hsome.1 hp
        rw [List.filter_cons_of_pos (by simpa using hp), List.filterMap_cons_some hvalue]
        exact .cons hrelated hrest
      · rw [List.filter_cons_of_neg (by simpa using hp), List.filterMap_cons_none (hnone.1 hp)]
        exact hrest

theorem forall_mem_mapIdx {P : β → Prop} {items : List α} {write : Nat → α → β}
    (h : ∀ index, ∀ item ∈ items, P (write index item)) : ∀ part ∈ items.mapIdx write, P part := by
  rw [List.mapIdx_eq_zipIdx_map, List.forall_mem_map]
  exact fun pair hpair => h pair.2 pair.1 (List.fst_mem_of_mem_zipIdx hpair)

theorem eraseDups_of_nodup [BEq α] [LawfulBEq α] {items : List α} (h : items.Nodup) :
    items.eraseDups = items := by
  induction items with
  | nil => rfl
  | cons item items ih =>
      obtain ⟨hitem, hitems⟩ := List.nodup_cons.mp h
      have hfilter : items.filter (fun other => !other == item) = items := by
        apply List.filter_eq_self.mpr
        intro other hother
        simpa using ne_of_mem_of_not_mem hother hitem
      rw [List.eraseDups_cons, hfilter, ih hitems]

/-! ## Joined lists -/

theorem not_mem_intercalate_map {separator stop : β} {items : List α}
    {write : α → List β} (hne : stop ≠ separator) (h : ∀ item ∈ items, stop ∉ write item) :
    stop ∉ [separator].intercalate (items.map write) := by
  induction items with
  | nil => simp
  | cons item items ih =>
      obtain ⟨hitem, hitems⟩ := List.forall_mem_cons.mp h
      cases items with
      | nil => simpa using hitem
      | cons next items =>
          rw [List.map_cons, List.map_cons, List.intercalate_cons_cons]
          refine List.not_mem_append (List.not_mem_append hitem ?_) (ih hitems)
          simpa using hne

theorem infix_intercalate_of_mem {separator : α} {line : List α} {lines : List (List α)}
    (h : line ∈ lines) : line <:+: [separator].intercalate lines := by
  induction lines with
  | nil => cases h
  | cons first rest ih =>
      cases rest with
      | nil => rw [List.mem_singleton.mp h, List.intercalate_singleton]
      | cons second rest =>
          rw [List.intercalate_cons_cons]
          rcases List.mem_cons.mp h with rfl | h
          · exact (List.prefix_append line _).isInfix.trans (List.prefix_append _ _).isInfix
          · exact (ih h).trans (List.suffix_append _ _).isInfix

end EntityDiagram
