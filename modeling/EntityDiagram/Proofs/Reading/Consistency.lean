import EntityDiagram.Diagram.Check
import EntityDiagram.Proofs.Reading.Names
import EntityDiagram.Proofs.Reading.Step
import Mathlib.Data.List.Infix

/-! # Consistency of what is read

Whatever the lines of a text are, the entities of its schema have different names and every end of a
relationship names one of them: an end is recorded as an entity when the relationship is read, and
no later line takes a name away. So a check of a text finds nothing wrong with its schema.
-/

namespace EntityDiagram

/-! ## Consistent schemas -/

structure Schema.IsConsistent (schema : Schema) : Prop where
  names : schema.names.Nodup
  endpoints : ∀ relationship ∈ schema.relationships,
    relationship.first ∈ schema.names ∧ relationship.second ∈ schema.names

namespace Schema

theorem repeatsFrom_eq_nil_iff {seen names : List String} :
    repeatsFrom seen names = [] ↔ names.Nodup ∧ ∀ name ∈ names, name ∉ seen := by
  induction names generalizing seen with
  | nil => simp [repeatsFrom]
  | cons name rest ih =>
      rw [repeatsFrom, List.nodup_cons]
      by_cases hseen : name ∈ seen
      · have hcontains : seen.contains name = true := List.contains_iff_mem.mpr hseen
        rw [if_pos hcontains]
        constructor
        · intro h
          cases h
        · intro h
          exact absurd hseen (h.2 name List.mem_cons_self)
      · have hcontains : ¬ seen.contains name = true := fun h => hseen (List.contains_iff_mem.mp h)
        rw [if_neg hcontains, ih]
        constructor
        · rintro ⟨hnodup, hfresh⟩
          refine ⟨⟨fun hmem => hfresh name hmem List.mem_cons_self, hnodup⟩, ?_⟩
          intro other hother
          rcases List.mem_cons.mp hother with rfl | hother
          · exact hseen
          · exact fun hmem => hfresh other hother (List.mem_cons_of_mem name hmem)
        · rintro ⟨⟨hname, hnodup⟩, hfresh⟩
          refine ⟨hnodup, fun other hother hmem => ?_⟩
          rcases List.mem_cons.mp hmem with rfl | hmem
          · exact hname hother
          · exact hfresh other (List.mem_cons_of_mem name hother) hmem

theorem duplicates_eq_nil_iff {schema : Schema} :
    schema.duplicates = [] ↔ schema.names.Nodup := by
  simp [duplicates, repeatsFrom_eq_nil_iff]

theorem dangling_eq_nil_iff {schema : Schema} :
    schema.dangling = [] ↔
      ∀ relationship ∈ schema.relationships,
        relationship.first ∈ schema.names ∧ relationship.second ∈ schema.names := by
  simp only [dangling, endpoints, List.filter_eq_nil_iff, List.mem_flatMap, List.mem_cons,
    List.not_mem_nil, or_false, Bool.not_eq_true', Bool.not_eq_false, List.contains_iff_mem]
  constructor
  · intro h relationship hmem
    exact ⟨h _ ⟨relationship, hmem, .inl rfl⟩, h _ ⟨relationship, hmem, .inr rfl⟩⟩
  · rintro h name ⟨relationship, hmem, rfl | rfl⟩
    · exact (h relationship hmem).1
    · exact (h relationship hmem).2

theorem problems_eq_nil_iff {schema : Schema} : schema.problems = [] ↔ schema.IsConsistent := by
  rw [problems, List.append_eq_nil_iff, List.map_eq_nil_iff, dangling_eq_nil_iff]
  constructor
  · rintro ⟨hduplicates, hendpoints⟩
    refine ⟨duplicates_eq_nil_iff.mp ?_, hendpoints⟩
    by_contra hne
    have hempty : ¬ schema.duplicates.isEmpty = true := fun h => hne (List.isEmpty_iff.mp h)
    rw [if_neg hempty] at hduplicates
    cases hduplicates
  · intro h
    refine ⟨?_, h.endpoints⟩
    rw [duplicates_eq_nil_iff.mpr h.names]
    rfl

end Schema

/-! ## Consistency along a text -/

/-- The entities and relationships recorded so far, without the open block. -/
def Reading.recorded (reading : Reading) : Schema := ⟨reading.entities, reading.relationships⟩

theorem Schema.IsConsistent.addName {schema : Schema} {entities : List Entity} {name : String}
    (h : schema.IsConsistent)
    (hnames : entities.map (·.name) = addName schema.names name) :
    Schema.IsConsistent ⟨entities, schema.relationships⟩ := by
  constructor
  · change (entities.map (·.name)).Nodup
    rw [hnames]
    exact nodup_addName h.names name
  · intro relationship hmem
    change relationship.first ∈ entities.map (·.name) ∧ relationship.second ∈ entities.map (·.name)
    obtain ⟨hfirst, hsecond⟩ := h.endpoints relationship hmem
    rw [hnames]
    exact ⟨mem_addName.mpr (.inl hfirst), mem_addName.mpr (.inl hsecond)⟩

theorem Schema.IsConsistent.put {schema : Schema} (h : schema.IsConsistent) (entity : Entity) :
    Schema.IsConsistent ⟨entity.put schema.entities, schema.relationships⟩ :=
  h.addName (Entity.names_put entity schema.entities)

theorem Schema.IsConsistent.ensure {schema : Schema} (h : schema.IsConsistent) (entity : Entity) :
    Schema.IsConsistent ⟨entity.ensure schema.entities, schema.relationships⟩ :=
  h.addName (Entity.names_ensure entity schema.entities)

theorem Schema.IsConsistent.relate {schema : Schema} (h : schema.IsConsistent)
    {relationship : Relationship} (hfirst : relationship.first ∈ schema.names)
    (hsecond : relationship.second ∈ schema.names) :
    Schema.IsConsistent ⟨schema.entities, schema.relationships ++ [relationship]⟩ := by
  refine ⟨h.names, fun other hmem => ?_⟩
  rcases List.mem_append.mp hmem with hmem | hmem
  · exact h.endpoints other hmem
  · rw [List.mem_singleton.mp hmem]
    exact ⟨hfirst, hsecond⟩

theorem Entity.name_mem_ensure (entity : Entity) (entities : List Entity) :
    entity.name ∈ (entity.ensure entities).map (·.name) := by
  rw [names_ensure]
  exact mem_addName.mpr (.inr rfl)

namespace Reading

theorem isConsistent_close {reading : Reading} (h : reading.recorded.IsConsistent) :
    reading.close.recorded.IsConsistent := by
  unfold close
  cases reading.place with
  | beforeHeader => exact h
  | topLevel => exact h
  | inBlock entity => exact h.put entity

theorem isConsistent_effect {reading next : Reading} {line : NumberedLine}
    (h : reading.recorded.IsConsistent) (heffect : Effect reading line next) :
    next.recorded.IsConsistent := by
  cases heffect with
  | skip => exact h
  | start _ => exact h
  | close => exact isConsistent_close h
  | append _ _ => exact h
  | reject _ _ => exact h
  | opening _ _ => exact h
  | @relationship relationship _ _ =>
      -- Both ends are entities before the relationship is recorded.
      have hends := (h.ensure { name := relationship.first }).ensure { name := relationship.second }
      refine hends.relate ?_ (Entity.name_mem_ensure { name := relationship.second } _)
      change relationship.first ∈ (Entity.ensure _ _).map (·.name)
      rw [Entity.names_ensure]
      exact mem_addName.mpr (.inl (Entity.name_mem_ensure { name := relationship.first } _))
  | @mention heading _ _ => exact h.ensure (Entity.ofHeading heading)
  | ignore _ => exact h

theorem isConsistent_run (lines : List NumberedLine) : (run lines).recorded.IsConsistent :=
  run_of_effect ⟨List.nodup_nil, fun _ hmem => absurd hmem List.not_mem_nil⟩
    isConsistent_effect lines

theorem isConsistent_schema_ofText (text : String) : (ofText text).schema.IsConsistent := by
  have hclose := isConsistent_close (isConsistent_run (linesOf text))
  have hschema : (ofText text).schema = (ofText text).close.recorded := by
    unfold schema recorded close
    cases (ofText text).place <;> rfl
  rw [hschema]
  exact hclose

theorem success_result_iff (reading : Reading) :
    reading.result.success = true ↔ reading.result.errors = none := by
  unfold result succeeded errors
  cases reading.rejected with
  | nil => simp
  | cons line rest => simp

theorem getD_errors_result (reading : Reading) :
    reading.result.errors.getD [] = reading.errors := by
  unfold result
  cases reading.errors with
  | nil => rfl
  | cons message rest => rfl

end Reading

/-! ## Checking a text -/

namespace Diagram

theorem occursIn_iff {word cs : List Char} : occursIn word cs = true ↔ word <:+: cs := by
  induction cs with
  | nil => simp [occursIn]
  | cons c rest ih =>
      rw [occursIn, Bool.or_eq_true, List.isPrefixOf_iff_prefix, ih, List.infix_cons_iff]

theorem problems_eq (text : String) :
    problems text = (Reading.ofText text).errors ++
      if Line.headerWord <:+: (Text.lower text).toList then [] else [missingHeader] := by
  have hschema : (Reading.ofText text).schema.problems = [] :=
    Schema.problems_eq_nil_iff.mpr (Reading.isConsistent_schema_ofText text)
  simp only [problems, mentionsHeader, hschema, List.append_nil, occursIn_iff]

/-- Every text has a result, which fails only with a message, and a consistent schema. So a check
of a text reports the messages of its result and then the missing header, and nothing else. -/
theorem check_eq_result_errors (text : String) :
    let result := (Reading.ofText text).result
    let verdict := check text
    (result.success = true ↔ result.errors = none) ∧
      result.schema.names.Nodup ∧
      (∀ relationship ∈ result.schema.relationships,
        relationship.first ∈ result.schema.names ∧ relationship.second ∈ result.schema.names) ∧
      result.schema.problems = [] ∧
      verdict.errors = result.errors.getD [] ++
        (if "erdiagram".toList <:+: (Text.lower text).toList then []
          else ["Diagram does not contain \"erDiagram\" declaration"]) ∧
      (verdict.valid = true ↔ verdict.errors = []) := by
  intro result verdict
  have hschema : result.schema.IsConsistent := Reading.isConsistent_schema_ofText text
  refine ⟨Reading.success_result_iff _, hschema.names, hschema.endpoints,
    Schema.problems_eq_nil_iff.mpr hschema, ?_, List.isEmpty_iff⟩
  calc
    verdict.errors = problems text := rfl
    _ = (Reading.ofText text).errors ++ _ := problems_eq text
    _ = result.errors.getD [] ++ _ := by rw [Reading.getD_errors_result]; rfl

end Diagram

end EntityDiagram
