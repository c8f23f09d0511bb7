import EntityDiagram.Proofs.Lists
import EntityDiagram.Proofs.Reading.Consistency
import EntityDiagram.Proofs.Reading.Spelling
import EntityDiagram.Proofs.Text.Lower
import EntityDiagram.Schema.Summary

/-! # Whose details are shown

The names of entities are told apart by letter case, and looked up without it, once for the entity
and once for its relationships. So the details for a name are those of the first entity whose name
is the same in small letters, and the relationships are those of all such entities together. They
belong to the entity that is shown exactly as long as no two names of the diagram differ in letter
case only.
-/

namespace EntityDiagram

/-! ## Summaries tell their subjects apart -/

theorem Cardinality.code_injective : Function.Injective code := by
  intro a b h
  have hread := congrArg ofCode? h
  simpa using hread

theorem Relationship.summary_injective : Function.Injective summary := by
  intro a b h
  simp only [summary, Json.record.injEq, List.cons.injEq, Prod.mk.injEq, Json.text.injEq,
    Json.bool.injEq, true_and] at h
  obtain ⟨hfirst, hsecond, hfirstCode, hsecondCode, -, -, hidentifying, hlabel, -⟩ := h
  cases a
  cases b
  simp_all [Cardinality.code_injective.eq_iff]

theorem Entity.name_eq_of_summary_eq {entity other : Entity}
    (h : entity.summary = other.summary) : entity.name = other.name := by
  simp only [summary, Json.record.injEq, List.cons.injEq, Prod.mk.injEq, Json.text.injEq,
    true_and] at h
  exact h.1

namespace Schema

/-- An entity and relationships as they are shown. -/
def detailsOf (entity : Entity) (relationships : List Relationship) : Json :=
  .record
    [("entity", entity.summary), ("relationships", .list (relationships.map (·.summary)))]

theorem detailsOf_inj {entity other : Entity} {relationships others : List Relationship}
    (h : detailsOf entity relationships = detailsOf other others) :
    entity.name = other.name ∧ relationships = others := by
  simp only [detailsOf, Json.record.injEq, List.cons.injEq, Prod.mk.injEq, Json.list.injEq,
    true_and, and_true] at h
  exact ⟨Entity.name_eq_of_summary_eq h.1,
    (List.map_inj_right fun _ _ heq => Relationship.summary_injective heq).mp h.2⟩

/-! ## Details of an entity -/

variable (schema : Schema)

/-- The relationships that an entity takes part in, in order. -/
def relationshipsWith (entity : Entity) : List Relationship :=
  schema.relationships.filter fun relationship =>
    relationship.first == entity.name || relationship.second == entity.name

/-- The relationships with an end that has a name in any letter case, in order. -/
def relationshipsLike (name : String) : List Relationship :=
  schema.relationships.filter fun relationship =>
    Text.lower relationship.first == Text.lower name ||
      Text.lower relationship.second == Text.lower name

/-- The details are those of one entity and of the relationships that it takes part in, and the
entity is the one with exactly the given name, if there is one. -/
def Belong (name : String) (details : Json) : Prop :=
  ∃ entity ∈ schema.entities, details = detailsOf entity (schema.relationshipsWith entity) ∧
    ∀ named ∈ schema.entities, named.name = name → entity = named

/-- The first entity with a name in any letter case. -/
def IsFound (name : String) (entity : Entity) : Prop :=
  IsFirst (fun other => Text.lower other.name = Text.lower name) schema.entities entity

variable {schema}

theorem find?_eq_some_iff {name : String} {entity : Entity} :
    schema.find? name = some entity ↔ schema.IsFound name entity := by
  refine (isFirst_iff_find? fun other => ?_).symm
  rw [sameName, beq_iff_eq]

theorem IsFound.mem {name : String} {entity : Entity} (h : schema.IsFound name entity) :
    entity ∈ schema.entities :=
  List.mem_of_find?_eq_some (find?_eq_some_iff.mpr h)

theorem IsFound.lower_name {name : String} {entity : Entity} (h : schema.IsFound name entity) :
    Text.lower entity.name = Text.lower name := by
  obtain ⟨-, -, -, hname, -⟩ := h
  exact hname

theorem exists_isFound {name : String} {entity : Entity} (hmem : entity ∈ schema.entities)
    (hname : Text.lower entity.name = Text.lower name) : ∃ found, schema.IsFound name found := by
  have hsome : (schema.find? name).isSome = true :=
    List.find?_isSome.mpr ⟨entity, hmem, by rw [sameName, beq_iff_eq]; exact hname⟩
  obtain ⟨found, hfound⟩ := Option.isSome_iff_exists.mp hsome
  exact ⟨found, find?_eq_some_iff.mp hfound⟩

theorem IsFound.congr {name other : String} {entity : Entity} (h : schema.IsFound name entity)
    (hname : Text.lower name = Text.lower other) : schema.IsFound other entity := by
  rwa [IsFound, ← hname]

/-- The names of the entities tell them apart and are not empty, and ends of relationships are names
of entities, as in every schema that is read. -/
structure IsNamed (schema : Schema) : Prop where
  consistent : schema.IsConsistent
  nonempty : ∀ entity ∈ schema.entities, entity.name ≠ ""

theorem isNamed_ofText (text : String) : (Reading.ofText text).schema.IsNamed where
  consistent := Reading.isConsistent_schema_ofText text
  nonempty := by
    intro entity hmem hname
    have hspelled := (Reading.isSpelled_of_mem_schema hmem).name
    rw [hname] at hspelled
    exact hspelled.1 rfl

namespace IsNamed

variable (h : schema.IsNamed)

include h

theorem entity_eq {entity other : Entity} (hentity : entity ∈ schema.entities)
    (hother : other ∈ schema.entities) (hname : entity.name = other.name) : entity = other :=
  List.inj_on_of_nodup_map h.consistent.names hentity hother hname

theorem name_ne_empty {name : String} {entity : Entity} (hfound : schema.IsFound name entity) :
    name ≠ "" := by
  rintro rfl
  exact Text.lower_ne_empty (h.nonempty entity hfound.mem) hfound.lower_name

theorem details?_eq_some_iff {name : String} {details : Json} :
    schema.details? name = some details ↔
      ∃ entity, schema.IsFound name entity ∧
        details = detailsOf entity (schema.relationshipsLike name) := by
  have hrelationships {entity : Entity} (hfound : schema.IsFound name entity) :
      schema.relationshipsOf (some name) = schema.relationshipsLike name := by
    have hempty : name.isEmpty = false := by simpa using h.name_ne_empty hfound
    simp only [relationshipsOf, hempty, Bool.false_eq_true, if_false]
    rfl
  rw [details?, Option.map_eq_some_iff]
  constructor
  · rintro ⟨entity, hfind, rfl⟩
    have hfound := find?_eq_some_iff.mp hfind
    exact ⟨entity, hfound, by rw [hrelationships hfound]; rfl⟩
  · rintro ⟨entity, hfound, rfl⟩
    exact ⟨entity, find?_eq_some_iff.mpr hfound, by rw [hrelationships hfound]; rfl⟩

omit h in
theorem relationshipsLike_eq_with_iff {name : String} {entity : Entity}
    (hname : Text.lower entity.name = Text.lower name) :
    schema.relationshipsLike name = schema.relationshipsWith entity ↔
      ∀ relationship ∈ schema.relationshipsLike name,
        relationship.first = entity.name ∨ relationship.second = entity.name := by
  constructor
  · intro heq relationship hmem
    rw [heq, relationshipsWith, List.mem_filter] at hmem
    simpa using hmem.2
  · intro hends
    refine List.filter_congr fun relationship hmem => ?_
    rw [Bool.eq_iff_iff]
    constructor
    · intro hlike
      have hend := hends relationship (List.mem_filter.mpr ⟨hmem, hlike⟩)
      simpa using hend
    · simp only [Bool.or_eq_true, beq_iff_eq]
      rintro (hend | hend) <;> simp [hend, hname]

theorem belong_iff {name : String} {entity : Entity} (hfound : schema.IsFound name entity) :
    schema.Belong name (detailsOf entity (schema.relationshipsLike name)) ↔
      (∀ relationship ∈ schema.relationshipsLike name,
        relationship.first = entity.name ∨ relationship.second = entity.name) ∧
        ∀ named ∈ schema.entities, named.name = name → entity = named := by
  rw [← relationshipsLike_eq_with_iff hfound.lower_name]
  constructor
  · rintro ⟨other, hother, hdetails, hnamed⟩
    obtain ⟨hname, hrelationships⟩ := detailsOf_inj hdetails
    obtain rfl := h.entity_eq hfound.mem hother hname
    exact ⟨hrelationships, hnamed⟩
  · rintro ⟨hrelationships, hnamed⟩
    exact ⟨entity, hfound.mem, by rw [hrelationships], hnamed⟩

theorem belong_of_apart (hapart : (schema.names.map Text.lower).Nodup) {name : String}
    {entity : Entity} (hfound : schema.IsFound name entity) :
    schema.Belong name (detailsOf entity (schema.relationshipsLike name)) := by
  have hentity : entity.name ∈ schema.names := List.mem_map_of_mem hfound.mem
  have heq {other : String} (hother : other ∈ schema.names)
      (hlower : Text.lower other = Text.lower name) : other = entity.name :=
    List.inj_on_of_nodup_map hapart hother hentity (hlower.trans hfound.lower_name.symm)
  refine (h.belong_iff hfound).mpr ⟨?_, ?_⟩
  · intro relationship hmem
    simp only [relationshipsLike, List.mem_filter, Bool.or_eq_true, beq_iff_eq] at hmem
    obtain ⟨hfirst, hsecond⟩ := h.consistent.endpoints relationship hmem.1
    exact hmem.2.imp (heq hfirst) (heq hsecond)
  · intro named hnamed hname
    have hsame : named.name = entity.name := heq (List.mem_map_of_mem hnamed) (by rw [hname])
    exact h.entity_eq hfound.mem hnamed hsame.symm

/-- Of two entities whose names differ in letter case only, the details for both names show one. -/
theorem apart_of_belong
    (hbelong : ∀ name entity, schema.IsFound name entity →
      schema.Belong name (detailsOf entity (schema.relationshipsLike name))) :
    (schema.names.map Text.lower).Nodup := by
  refine h.consistent.names.map_on fun name hname other hother hlower => ?_
  obtain ⟨first, hfirst, rfl⟩ := List.mem_map.mp hname
  obtain ⟨second, hsecond, rfl⟩ := List.mem_map.mp hother
  obtain ⟨found, hfound⟩ := exists_isFound hfirst rfl
  have hfound' : schema.IsFound second.name found := hfound.congr hlower
  have hfoundFirst := ((h.belong_iff hfound).mp (hbelong _ _ hfound)).2 first hfirst rfl
  have hfoundSecond := ((h.belong_iff hfound').mp (hbelong _ _ hfound')).2 second hsecond rfl
  rw [← hfoundFirst, ← hfoundSecond]

end IsNamed

/-- The details for a name are those of the first entity with the name in any letter case, with all
relationships that have an end with the name in any letter case. So they belong to the entity unless
one of these relationships has it at no end, or another entity has exactly the name. This never
happens in a diagram exactly if no two of its names differ in letter case only. -/
theorem details_belong_iff_names_apart (text : String) :
    let schema := (Reading.ofText text).schema
    (∀ name details, schema.details? name = some details ↔
      ∃ entity, schema.IsFound name entity ∧
        details = detailsOf entity (schema.relationshipsLike name)) ∧
    (∀ name entity, schema.IsFound name entity →
      (schema.Belong name (detailsOf entity (schema.relationshipsLike name)) ↔
        (∀ relationship ∈ schema.relationshipsLike name,
          relationship.first = entity.name ∨ relationship.second = entity.name) ∧
        ∀ named ∈ schema.entities, named.name = name → entity = named)) ∧
    ((∀ name details, schema.details? name = some details → schema.Belong name details) ↔
      (schema.names.map Text.lower).Nodup) := by
  intro schema
  have hschema : schema.IsNamed := isNamed_ofText text
  refine ⟨fun name details => hschema.details?_eq_some_iff,
    fun name entity hfound => hschema.belong_iff hfound, ?_, ?_⟩
  · intro hbelong
    refine hschema.apart_of_belong fun name entity hfound => ?_
    exact hbelong name _ (hschema.details?_eq_some_iff.mpr ⟨entity, hfound, rfl⟩)
  · intro hapart name details hdetails
    obtain ⟨entity, hfound, rfl⟩ := hschema.details?_eq_some_iff.mp hdetails
    exact hschema.belong_of_apart hapart hfound

/-- Two orders whose names differ in letter case only, each in a relationship of its own. -/
def twoOrders : String := "erDiagram\nOrder ||--|| Invoice : bills\nORDER ||--|| Parcel : ships"

def bills : Relationship := ⟨"Order", "Invoice", .exactlyOne, .exactlyOne, true, "bills"⟩

def ships : Relationship := ⟨"ORDER", "Parcel", .exactlyOne, .exactlyOne, true, "ships"⟩

def orders : Schema where
  entities :=
    [⟨"Order", none, []⟩, ⟨"Invoice", none, []⟩, ⟨"ORDER", none, []⟩, ⟨"Parcel", none, []⟩]
  relationships := [bills, ships]

/-- The details of the first order show the relationship of the second one too, and the second
order has no details of its own. -/
theorem details_mixed_of_two_orders :
    let schema := (Reading.ofText twoOrders).schema
    let details := detailsOf ⟨"Order", none, []⟩ [bills, ships]
    schema = orders ∧
      (schema.details? "Order" = some details ∧ ¬ schema.Belong "Order" details) ∧
      (schema.details? "ORDER" = some details ∧ ¬ schema.Belong "ORDER" details) := by
  intro schema details
  have hschema : schema.IsNamed := isNamed_ofText twoOrders
  have hread : schema = orders := by decide +kernel
  have hlike : ∀ name ∈ ["Order", "ORDER"],
      schema.find? name = some ⟨"Order", none, []⟩ ∧
        schema.relationshipsLike name = [bills, ships] := by
    rw [hread]
    decide +kernel
  have hmixed : ∀ name ∈ ["Order", "ORDER"],
      schema.details? name = some details ∧ ¬ schema.Belong name details := by
    intro name hname
    obtain ⟨hfind, hrelationships⟩ := hlike name hname
    have hfound := find?_eq_some_iff.mp hfind
    have hdetails : details = detailsOf ⟨"Order", none, []⟩ (schema.relationshipsLike name) := by
      rw [hrelationships]
    refine ⟨hschema.details?_eq_some_iff.mpr ⟨_, hfound, hdetails⟩, ?_⟩
    rw [hdetails, hschema.belong_iff hfound, hrelationships]
    rintro ⟨hends, -⟩
    have hships := hends ships (by simp)
    exact absurd hships (by decide)
  exact ⟨hread, hmixed _ (by simp), hmixed _ (by simp)⟩

end Schema

end EntityDiagram
