import EntityDiagram.Proofs.Reading.Consistency
import Mathlib.Data.List.Count

/-! # The checks of a schema are exact

The scan for repeated names keeps the names it has seen, which are those of the entities before. So
it lists a name once for each entity that has it, but not for the first of them. An end of a
relationship is listed exactly if no entity has its name.
-/

namespace EntityDiagram.Schema

/-! ## Repeated names -/

/-- The names that stand at an earlier position, too, in order. -/
def laterOccurrences (names : List String) : List String :=
  (names.zipIdx.filter fun (name, position) => names.take position |>.contains name).map (·.1)

theorem repeatsFrom_cons_of_mem {seen : List String} {name : String} (h : name ∈ seen)
    (rest : List String) : repeatsFrom seen (name :: rest) = name :: repeatsFrom seen rest := by
  rw [repeatsFrom, if_pos (List.contains_iff_mem.mpr h)]

theorem repeatsFrom_cons_of_not_mem {seen : List String} {name : String} (h : name ∉ seen)
    (rest : List String) : repeatsFrom seen (name :: rest) = repeatsFrom (name :: seen) rest := by
  rw [repeatsFrom, if_neg (mt List.contains_iff_mem.mp h)]

/-- The scan lists the names that were seen, or that stand at an earlier position. -/
theorem repeatsFrom_eq_filter {seen front : List String}
    (hseen : ∀ name, name ∈ seen ↔ name ∈ front) (rest : List String) :
    repeatsFrom seen rest =
      ((rest.zipIdx front.length).filter fun (name, position) =>
        (front ++ rest).take position |>.contains name).map (·.1) := by
  -- What has been read goes to the end of `front`; `seen` keeps its members.
  induction rest generalizing seen front with
  | nil => rfl
  | cons name rest ih =>
      have htake : (front ++ name :: rest).take front.length = front := List.take_left
      have hnext : front ++ name :: rest = (front ++ [name]) ++ rest := by simp
      have hlength : front.length + 1 = (front ++ [name]).length := by simp
      rw [List.zipIdx_cons, List.filter_cons]
      simp only [htake, List.contains_iff_mem]
      by_cases hmem : name ∈ front
      · have hkept : ∀ other, other ∈ seen ↔ other ∈ front ++ [name] := by
          intro other
          rw [hseen, List.mem_append, List.mem_singleton]
          exact ⟨.inl, fun h => h.elim id fun heq => heq ▸ hmem⟩
        rw [repeatsFrom_cons_of_mem ((hseen name).mpr hmem), if_pos hmem, List.map_cons, ih hkept,
          hnext, hlength]
      · have hgrown : ∀ other, other ∈ name :: seen ↔ other ∈ front ++ [name] := by
          intro other
          rw [List.mem_cons, hseen, List.mem_append, List.mem_singleton, or_comm]
        rw [repeatsFrom_cons_of_not_mem (mt (hseen name).mp hmem), if_neg hmem, ih hgrown, hnext,
          hlength]

theorem duplicates_eq_laterOccurrences (schema : Schema) :
    schema.duplicates = laterOccurrences schema.names :=
  repeatsFrom_eq_filter (fun _ => Iff.rfl) schema.names

/-- All occurrences of a name are listed if it was seen, and all but the first otherwise. -/
theorem count_repeatsFrom (seen names : List String) (name : String) :
    (repeatsFrom seen names).count name = names.count name - if name ∈ seen then 0 else 1 := by
  induction names generalizing seen with
  | nil => simp [repeatsFrom]
  | cons other rest ih =>
      by_cases hother : other ∈ seen
      · rw [repeatsFrom_cons_of_mem hother, List.count_cons, List.count_cons, ih]
        by_cases heq : other = name
        · subst heq
          simp [hother]
        · simp [heq]
      · rw [repeatsFrom_cons_of_not_mem hother, List.count_cons, ih]
        by_cases heq : other = name
        · subst heq
          simp [hother]
        · have hne : name ≠ other := Ne.symm heq
          simp [heq, hne]

theorem count_duplicates (schema : Schema) (name : String) :
    schema.duplicates.count name = schema.names.count name - 1 := by
  rw [duplicates, count_repeatsFrom, if_neg List.not_mem_nil]

/-! ## Ends that name no entity -/

/-- The ends of a relationship that name no entity, the first before the second. -/
theorem dangling_eq_flatMap (schema : Schema) :
    schema.dangling = schema.relationships.flatMap fun relationship =>
      [relationship.first, relationship.second].filter fun name => name ∉ schema.names := by
  have htest : (fun name => !schema.names.contains name) =
      fun name => decide (name ∉ schema.names) := by
    funext name
    simp
  rw [dangling, endpoints, htest, List.filter_flatMap]

theorem count_dangling (schema : Schema) (name : String) :
    schema.dangling.count name =
      if name ∈ schema.names then 0
      else (schema.relationships.map (·.first)).count name +
        (schema.relationships.map (·.second)).count name := by
  have hends : schema.endpoints.count name =
      (schema.relationships.map (·.first)).count name +
        (schema.relationships.map (·.second)).count name := by
    unfold endpoints
    induction schema.relationships with
    | nil => rfl
    | cons relationship rest ih =>
        simp only [List.flatMap_cons, List.count_append, List.map_cons, List.count_cons,
          List.count_nil, ih]
        omega
  split
  · next hmem =>
      refine List.count_eq_zero.mpr fun hdangling => ?_
      simpa [hmem] using (List.mem_filter.mp hdangling).2
  · next hmem => rw [dangling, List.count_filter (by simpa using hmem), hends]

/-! ## All checks -/

theorem problems_eq (schema : Schema) :
    schema.problems =
      (if schema.names.Nodup then []
        else ["Duplicate entity names: " ++ ", ".intercalate schema.duplicates]) ++
      schema.dangling.map ("Relationship references non-existent entity: " ++ ·) := by
  simp only [problems, List.isEmpty_iff, duplicates_eq_nil_iff]

/-- The checks of a schema list every later occurrence of a name, so each name once less than there
are entities with it, and every end of a relationship that names no entity, both in order. There is
one message for all repeated names, if there are any, and then one for each such end. -/
theorem checks_exact (schema : Schema) :
    schema.duplicates = laterOccurrences schema.names ∧
      (∀ name, schema.duplicates.count name = schema.names.count name - 1) ∧
      (schema.dangling = schema.relationships.flatMap fun relationship =>
        [relationship.first, relationship.second].filter fun name => name ∉ schema.names) ∧
      (∀ name, schema.dangling.count name =
        if name ∈ schema.names then 0
        else (schema.relationships.map (·.first)).count name +
          (schema.relationships.map (·.second)).count name) ∧
      schema.problems =
        (if schema.names.Nodup then []
          else ["Duplicate entity names: " ++ ", ".intercalate schema.duplicates]) ++
        schema.dangling.map ("Relationship references non-existent entity: " ++ ·) ∧
      (schema.problems = [] ↔
        schema.names.Nodup ∧ ∀ relationship ∈ schema.relationships,
          relationship.first ∈ schema.names ∧ relationship.second ∈ schema.names) := by
  refine ⟨schema.duplicates_eq_laterOccurrences, schema.count_duplicates,
    schema.dangling_eq_flatMap, schema.count_dangling, schema.problems_eq, ?_⟩
  rw [problems_eq_nil_iff]
  exact ⟨fun h => ⟨h.names, h.endpoints⟩, fun h => ⟨h.1, h.2⟩⟩

end EntityDiagram.Schema
