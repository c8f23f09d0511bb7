/-! # Values by names, in order

A list of pairs holds values by names. A name that is put again keeps its place, so that the order
is the one in which names were first put.
-/

namespace EntityDiagram.Entries

/-- Replaces the value of a name where it stands, or adds it at the end. -/
def put {κ α : Type} [BEq κ] (name : κ) (value : α) : List (κ × α) → List (κ × α)
  | [] => [(name, value)]
  | entry :: rest =>
      if entry.1 == name then (name, value) :: rest else entry :: put name value rest

theorem mem_names_put {κ α : Type} [BEq κ] [LawfulBEq κ] {name other : κ} {value : α}
    {entries : List (κ × α)} (h : other ∈ (put name value entries).map (·.1)) :
    other = name ∨ other ∈ entries.map (·.1) := by
  induction entries with
  | nil => simpa [put] using h
  | cons entry rest ih =>
      rw [put] at h
      split at h
      · next hname => simp_all
      · simp only [List.map_cons, List.mem_cons] at h ⊢
        rcases h with h | h
        · exact .inr (.inl h)
        · rcases ih h with h | h
          · exact .inl h
          · exact .inr (.inr h)

/-- Putting a value keeps names distinct. -/
theorem nodup_names_put {κ α : Type} [BEq κ] [LawfulBEq κ] {name : κ} {value : α}
    {entries : List (κ × α)} (h : (entries.map (·.1)).Nodup) :
    ((put name value entries).map (·.1)).Nodup := by
  induction entries with
  | nil => simp [put]
  | cons entry rest ih =>
      rw [List.map_cons, List.nodup_cons] at h
      rw [put]
      split
      · next hname =>
          rw [beq_iff_eq] at hname
          simpa [← hname] using h
      · next hname =>
          rw [List.map_cons, List.nodup_cons]
          refine ⟨fun hmem => ?_, ih h.2⟩
          rcases mem_names_put hmem with heq | hrest
          · exact hname (beq_iff_eq.mpr heq)
          · exact h.1 hrest

/-- The value that was put is found. -/
theorem lookup_put_self {κ α : Type} [BEq κ] [LawfulBEq κ] (name : κ) (value : α)
    (entries : List (κ × α)) : (put name value entries).lookup name = some value := by
  induction entries with
  | nil => simp [put]
  | cons entry rest ih =>
      obtain ⟨first, old⟩ := entry
      rw [put]
      split
      · simp
      · next hname =>
          have hne : (name == first) = false :=
            beq_eq_false_iff_ne.mpr fun h => hname (beq_iff_eq.mpr h.symm)
          simpa only [List.lookup_cons, hne] using ih

/-- The values of other names stay. -/
theorem lookup_put_of_ne {κ α : Type} [BEq κ] [LawfulBEq κ] {name other : κ} (h : other ≠ name)
    (value : α) (entries : List (κ × α)) :
    (put name value entries).lookup other = entries.lookup other := by
  have hne : (other == name) = false := beq_eq_false_iff_ne.mpr h
  induction entries with
  | nil => simp [put, List.lookup_cons, hne]
  | cons entry rest ih =>
      obtain ⟨first, old⟩ := entry
      rw [put]
      split
      · next hname =>
          have hfirst : first = name := beq_iff_eq.mp hname
          simp only [List.lookup_cons, hfirst, hne]
      · simp only [List.lookup_cons, ih]

end EntityDiagram.Entries
