import EntityDiagram.Diagram.Reading
import Mathlib.Data.List.Nodup

/-! # Names of the entities read so far

Both ways of recording an entity add its name at the end, unless it is there already.
-/

namespace EntityDiagram

def addName (names : List String) (name : String) : List String :=
  if name ∈ names then names else names ++ [name]

theorem mem_addName {names : List String} {name other : String} :
    other ∈ addName names name ↔ other ∈ names ∨ other = name := by
  unfold addName
  split
  · next hmem =>
      constructor
      · exact .inl
      · rintro (h | rfl)
        · exact h
        · exact hmem
  · simp

theorem nodup_addName {names : List String} (h : names.Nodup) (name : String) :
    (addName names name).Nodup := by
  unfold addName
  split
  · exact h
  · next hmem =>
      rw [← List.concat_eq_append]
      exact h.concat hmem

namespace Entity

theorem names_put (entity : Entity) (entities : List Entity) :
    (entity.put entities).map (·.name) = addName (entities.map (·.name)) entity.name := by
  induction entities with
  | nil => rfl
  | cons other rest ih =>
      rw [put]
      by_cases hname : other.name = entity.name
      · simp [hname, addName]
      · rw [if_neg hname, List.map_cons, ih, List.map_cons]
        by_cases hmem : entity.name ∈ rest.map (·.name)
        · simp only [addName, hmem, if_true, List.mem_cons, or_true]
        · have hne : ¬ entity.name = other.name := fun h => hname h.symm
          simp only [addName, hmem, hne, if_false, List.mem_cons, or_self, List.cons_append]

theorem any_name_iff {entities : List Entity} {name : String} :
    entities.any (·.name == name) = true ↔ name ∈ entities.map (·.name) := by
  simp

theorem ensure_of_mem {entity : Entity} {entities : List Entity}
    (h : entity.name ∈ entities.map (·.name)) : entity.ensure entities = entities := by
  rw [ensure, if_pos (any_name_iff.mpr h)]

theorem names_ensure (entity : Entity) (entities : List Entity) :
    (entity.ensure entities).map (·.name) = addName (entities.map (·.name)) entity.name := by
  by_cases hmem : entity.name ∈ entities.map (·.name)
  · rw [ensure_of_mem hmem, addName, if_pos hmem]
  · rw [ensure, if_neg (fun h => hmem (any_name_iff.mp h)), addName, if_neg hmem, List.map_append]
    rfl

theorem put_of_not_mem {entity : Entity} {entities : List Entity}
    (h : entity.name ∉ entities.map (·.name)) : entity.put entities = entities ++ [entity] := by
  induction entities with
  | nil => rfl
  | cons other rest ih =>
      simp only [List.map_cons, List.mem_cons, not_or] at h
      rw [put, if_neg (fun heq => h.1 heq.symm), ih h.2, List.cons_append]

end Entity

end EntityDiagram
