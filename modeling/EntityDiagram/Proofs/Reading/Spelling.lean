import EntityDiagram.Proofs.Line.Attribute
import EntityDiagram.Proofs.Reading.Step

/-! # How the names and types that are read are spelled

Every line form takes its names and types by the readers of names and types. So whatever a text is,
a name in its schema is not empty and holds no quote, the name of an attribute is a bare name, and a
type is spelled by the grammar of types.
-/

namespace EntityDiagram

namespace Line

theorem isName_of_heading? {cs rest : List Char} {heading : Heading}
    (h : heading? cs = some (heading, rest)) : IsName heading.name.toList := by
  obtain ⟨name, more, shown, after, hname, -, rfl, -⟩ := exists_parts_of_heading? h
  rw [String.toList_ofList]
  exact isName_of_name? hname

theorem isName_of_opening? {cs : List Char} {heading : Heading}
    (h : opening? cs = some heading) : IsName heading.name.toList := by
  obtain ⟨rest, hread⟩ := exists_heading?_of_opening? h
  exact isName_of_heading? hread

theorem isName_of_mention? {cs : List Char} {heading : Heading}
    (h : mention? cs = some heading) : IsName heading.name.toList :=
  isName_of_heading? (heading?_of_mention? h)

theorem isName_of_giveBack? {name shorter : List Char} (h : IsName name)
    (hback : giveBack? name = some shorter) : IsName shorter := by
  unfold giveBack? at hback
  split at hback
  · next hlong =>
      cases hback
      exact isName_dropLast h.2 hlong.2
  · contradiction

theorem isName_of_firstEnd? {cs name rest : List Char} {link : Link}
    (h : firstEnd? cs = some (name, link, rest)) : IsName name := by
  obtain ⟨whole, more, hname, ⟨rfl, -⟩ | ⟨hback, -⟩⟩ := exists_parts_of_firstEnd? h
  · exact isName_of_name? hname
  · exact isName_of_giveBack? (isName_of_name? hname) hback

theorem isName_of_relationship? {cs : List Char} {relationship : Relationship}
    (h : relationship? cs = some relationship) :
    IsName relationship.first.toList ∧ IsName relationship.second.toList := by
  obtain ⟨first, link, rest, second, more, after, label, hfirst, hsecond, -, -, rfl⟩ :=
    exists_parts_of_relationship? h
  simp only [String.toList_ofList]
  exact ⟨isName_of_firstEnd? hfirst, isName_of_name? hsecond⟩

theorem isSpelled_of_attribute? {cs : List Char} {attr : Attribute}
    (h : attribute? cs = some attr) :
    IsBareName attr.name.toList ∧ IsTypeName attr.typeName.toList := by
  obtain ⟨typeName, blank, rest, name, more, keys, comment, -, htype, -, hname, -, rfl⟩ :=
    exists_parts_of_attribute? h
  simp only [String.toList_ofList]
  exact ⟨(bareName?_eq_some_iff.mp hname).1, htype⟩

end Line

/-! ## Spelling along a text -/

structure Entity.IsSpelled (entity : Entity) : Prop where
  name : Line.IsName entity.name.toList
  attributes : ∀ attr ∈ entity.attributes,
    Line.IsBareName attr.name.toList ∧ Line.IsTypeName attr.typeName.toList

namespace Entity

theorem isSpelled_ofHeading {heading : Line.Heading} (h : Line.IsName heading.name.toList) :
    (ofHeading heading).IsSpelled :=
  ⟨h, fun _ hmem => absurd hmem List.not_mem_nil⟩

theorem isSpelled_ofName {name : String} (h : Line.IsName name.toList) :
    IsSpelled { name := name } :=
  ⟨h, fun _ hmem => absurd hmem List.not_mem_nil⟩

theorem forall_isSpelled_put {entity : Entity} {entities : List Entity} (h : entity.IsSpelled)
    (hentities : ∀ other ∈ entities, other.IsSpelled) :
    ∀ other ∈ entity.put entities, other.IsSpelled := by
  induction entities with
  | nil => simpa [put] using h
  | cons first rest ih =>
      obtain ⟨hfirst, hrest⟩ := List.forall_mem_cons.mp hentities
      rw [put]
      split
      · exact List.forall_mem_cons.mpr ⟨h, hrest⟩
      · exact List.forall_mem_cons.mpr ⟨hfirst, ih hrest⟩

theorem forall_isSpelled_ensure {entity : Entity} {entities : List Entity} (h : entity.IsSpelled)
    (hentities : ∀ other ∈ entities, other.IsSpelled) :
    ∀ other ∈ entity.ensure entities, other.IsSpelled := by
  rw [ensure]
  split
  · exact hentities
  · exact List.forall_mem_append.mpr ⟨hentities, by simpa using h⟩

end Entity

namespace Reading

/-- Every entity is spelled as names and types are, the one of the open block included. -/
structure IsSpelled (reading : Reading) : Prop where
  recorded : ∀ entity ∈ reading.entities, entity.IsSpelled
  opened : ∀ entity, reading.place = .inBlock entity → entity.IsSpelled

theorem IsSpelled.close {reading : Reading} (h : reading.IsSpelled) : reading.close.IsSpelled := by
  unfold Reading.close
  cases hplace : reading.place with
  | beforeHeader => exact h
  | topLevel => exact h
  | inBlock entity =>
      exact ⟨Entity.forall_isSpelled_put (h.opened entity hplace) h.recorded, by simp⟩

theorem IsSpelled.effect {reading next : Reading} {line : NumberedLine} (h : reading.IsSpelled)
    (heffect : Effect reading line next) : next.IsSpelled := by
  cases heffect with
  | skip => exact h
  | start hplace => exact ⟨h.recorded, by simp⟩
  | close => exact h.close
  | append hplace hread =>
      have hentity := h.opened _ hplace
      have hattr := Line.isSpelled_of_attribute? hread
      refine ⟨h.recorded, ?_⟩
      rintro _ ⟨⟩
      exact ⟨hentity.name, List.forall_mem_append.mpr ⟨hentity.attributes, by simpa using hattr⟩⟩
  | reject hplace hread => exact ⟨h.recorded, h.opened⟩
  | opening hplace hread =>
      refine ⟨h.recorded, ?_⟩
      rintro _ ⟨⟩
      exact Entity.isSpelled_ofHeading (Line.isName_of_opening? hread)
  | relationship hplace hread =>
      obtain ⟨hfirst, hsecond⟩ := Line.isName_of_relationship? hread
      have hfirsts := Entity.forall_isSpelled_ensure (Entity.isSpelled_ofName hfirst) h.recorded
      exact ⟨Entity.forall_isSpelled_ensure (Entity.isSpelled_ofName hsecond) hfirsts, h.opened⟩
  | mention hplace hread =>
      have hname := Line.isName_of_mention? hread
      exact ⟨Entity.forall_isSpelled_ensure (Entity.isSpelled_ofHeading hname) h.recorded, h.opened⟩
  | ignore hplace => exact ⟨h.recorded, h.opened⟩

theorem isSpelled_run (lines : List NumberedLine) : (run lines).IsSpelled :=
  run_of_effect ⟨by simp, by simp⟩ IsSpelled.effect lines

theorem isSpelled_of_mem_schema {text : String} {entity : Entity}
    (h : entity ∈ (ofText text).schema.entities) : entity.IsSpelled :=
  (isSpelled_run (linesOf text)).close.recorded entity h

end Reading

end EntityDiagram
