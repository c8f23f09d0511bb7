import EntityDiagram.Proofs.Line.Exclusion
import EntityDiagram.Proofs.Reading.Names
import EntityDiagram.Proofs.Reading.Step

/-! # Diagrams written for a schema

The plain text of a schema is a header, a block for each entity and a line for each relationship,
with any symbols for its cardinalities. Reading such a text gives the schema back, as long as its
names, types, comments and labels can be written at all.
-/

namespace EntityDiagram

open Line

/-! ## Texts -/

def headerLine : List Char := ['e', 'r', 'D', 'i', 'a', 'g', 'r', 'a', 'm']

def blockLines (entity : Entity) : List (List Char) :=
  openingLine entity.name entity.displayName :: entity.attributes.map attributeLine ++ [['}']]

def IsRelationshipLine (relationship : Relationship) (line : List Char) : Prop :=
  ∃ left right, (left, relationship.firstCardinality) ∈ Cardinality.symbols ∧
    (right, relationship.secondCardinality) ∈ Cardinality.symbols ∧
    line = relationshipLine left right relationship

/-- The lines that are written for a schema. -/
inductive AreLinesOf (schema : Schema) : List (List Char) → Prop where
  | intro {links : List (List Char)}
      (hlinks : List.Forall₂ IsRelationshipLine schema.relationships links) :
      AreLinesOf schema (headerLine :: schema.entities.flatMap blockLines ++ links)

/-- A text that is written for a schema. A line feed may end its last line. -/
def IsTextOf (schema : Schema) (text : String) : Prop :=
  ∃ lines, AreLinesOf schema lines ∧
    (text.toList = ['\n'].intercalate lines ∨ text.toList = ['\n'].intercalate lines ++ ['\n'])

/-! ## Schemas that can be written -/

structure Entity.IsWritable (entity : Entity) : Prop where
  name : entity.name ≠ "" ∧ '"' ∉ entity.name.toList ∧ '\n' ∉ entity.name.toList
  displayName : ∀ shown ∈ entity.displayName, ']' ∉ shown.toList ∧ '\n' ∉ shown.toList
  attributes : ∀ attr ∈ entity.attributes, Line.IsWritable attr ∧ ¬ IsLayout attr
  typeName : ∀ attr ∈ entity.attributes, '\n' ∉ attr.typeName.toList
  comment : ∀ attr ∈ entity.attributes, ∀ text ∈ attr.comment, '\n' ∉ text.toList

structure Relationship.IsWritable (relationship : Relationship) : Prop where
  label : relationship.label ≠ "" ∧ '"' ∉ relationship.label.toList ∧
    '\n' ∉ relationship.label.toList
  trimmed : Text.trim relationship.label.toList = relationship.label.toList

/-- The schemas that a diagram can express: names, types, comments and labels that fit between their
quotes and on their lines, and relationships between the entities of the schema. -/
structure Schema.IsWritable (schema : Schema) : Prop where
  names : schema.names.Nodup
  entity : ∀ entity ∈ schema.entities, entity.IsWritable
  relationship : ∀ relationship ∈ schema.relationships, relationship.IsWritable
  endpoints : ∀ relationship ∈ schema.relationships,
    relationship.first ∈ schema.names ∧ relationship.second ∈ schema.names

theorem Entity.IsWritable.isName {entity : Entity} (h : entity.IsWritable) :
    IsName entity.name.toList :=
  ⟨by simpa using h.name.1, h.name.2.1⟩

/-! ## Reading the blocks -/

namespace Reading

theorem readsTo_header : ReadsTo {} [headerLine] { place := .topLevel } := by
  apply ReadsTo.of_step
  intro line hline
  have hform : Line.classify headerLine = .header := by decide
  simp [step, hline, hform]

theorem readsTo_attribute (reading : Reading) (entity : Entity) {attr : Attribute}
    (hattr : Line.IsWritable attr ∧ ¬ IsLayout attr) :
    ReadsTo { reading with place := .inBlock entity } [attributeLine attr]
      { reading with
        place := .inBlock { entity with attributes := entity.attributes ++ [attr] } } := by
  apply ReadsTo.of_step
  intro line hline
  have hordinary := isOrdinary_attributeLine hattr.1 hattr.2
  rw [← hline] at hordinary
  rw [step_inBlock rfl hordinary, stepInBlock, hline, attribute?_attributeLine hattr.1]

theorem readsTo_attributes (reading : Reading) (entity : Entity) {attrs : List Attribute}
    (hattrs : ∀ attr ∈ attrs, Line.IsWritable attr ∧ ¬ IsLayout attr) :
    ReadsTo { reading with place := .inBlock entity } (attrs.map attributeLine)
      { reading with
        place := .inBlock { entity with attributes := entity.attributes ++ attrs } } := by
  induction attrs generalizing entity with
  | nil =>
      rw [List.append_nil]
      exact ReadsTo.refl _
  | cons attr attrs ih =>
      have hfirst := readsTo_attribute reading entity (hattrs attr List.mem_cons_self)
      have hrest := ih { entity with attributes := entity.attributes ++ [attr] } fun other hother =>
        hattrs other (List.mem_cons_of_mem attr hother)
      have hboth := hfirst.cons hrest
      rw [List.append_assoc, List.singleton_append] at hboth
      exact hboth

theorem readsTo_block {reading : Reading} {entity : Entity} (hplace : reading.place = .topLevel)
    (hentity : entity.IsWritable) (hname : entity.name ∉ reading.entities.map (·.name)) :
    ReadsTo reading (blockLines entity)
      { reading with entities := reading.entities ++ [entity] } := by
  have hopening : ReadsTo reading [openingLine entity.name entity.displayName]
      { reading with place := .inBlock (.ofHeading ⟨entity.name, entity.displayName⟩) } := by
    apply ReadsTo.of_step
    intro line hline
    apply step_opening hplace
    rw [hline]
    exact classify_openingLine hentity.isName fun shown hshown =>
      (hentity.displayName shown hshown).1
  have hattributes := readsTo_attributes reading (.ofHeading ⟨entity.name, entity.displayName⟩)
    hentity.attributes
  have hclosing : ReadsTo { reading with place := .inBlock entity } [['}']]
      { reading with entities := reading.entities ++ [entity] } := by
    apply ReadsTo.of_step
    intro line hline
    have hform : Line.classify line.text.toList = .closing := by
      rw [hline]
      decide
    rw [step_closing rfl hform]
    simp only [close, Entity.put_of_not_mem hname, hplace]
  exact hopening.cons (hattributes.trans hclosing)

theorem readsTo_blocks {reading : Reading} {entities : List Entity}
    (hplace : reading.place = .topLevel) (hentities : ∀ entity ∈ entities, entity.IsWritable)
    (hnames : ((reading.entities ++ entities).map (·.name)).Nodup) :
    ReadsTo reading (entities.flatMap blockLines)
      { reading with entities := reading.entities ++ entities } := by
  induction entities generalizing reading with
  | nil =>
      rw [List.append_nil]
      exact ReadsTo.refl reading
  | cons entity entities ih =>
      -- The name is new, so that closing the block adds the entity at the end.
      have hname : entity.name ∉ reading.entities.map (·.name) := by
        intro hmem
        rw [List.map_append, List.map_cons] at hnames
        exact (List.nodup_append.mp hnames).2.2 _ hmem _ List.mem_cons_self rfl
      have hfirst := readsTo_block hplace (hentities entity List.mem_cons_self) hname
      have hrest := @ih { reading with entities := reading.entities ++ [entity] } hplace
        (fun other hother => hentities other (List.mem_cons_of_mem entity hother))
        (by simpa using hnames)
      have hboth := hfirst.trans hrest
      rw [List.append_assoc, List.singleton_append] at hboth
      exact hboth

/-! ## Reading the relationships -/

theorem readsTo_relationship {reading : Reading} {relationship : Relationship} {line : List Char}
    (hplace : reading.place = .topLevel) (hline : IsRelationshipLine relationship line)
    (hrelationship : relationship.IsWritable)
    (hfirst : relationship.first ∈ reading.entities.map (·.name))
    (hsecond : relationship.second ∈ reading.entities.map (·.name))
    (hnames : ∀ entity ∈ reading.entities, IsName entity.name.toList) :
    ReadsTo reading [line]
      { reading with relationships := reading.relationships ++ [relationship] } := by
  obtain ⟨left, right, hleft, hright, rfl⟩ := hline
  have hname : ∀ name ∈ reading.entities.map (·.name), IsName name.toList := by
    intro name hname
    obtain ⟨entity, hentity, rfl⟩ := List.mem_map.mp hname
    exact hnames entity hentity
  have hlabel : IsName relationship.label.toList :=
    ⟨by simpa using hrelationship.label.1, hrelationship.label.2.1⟩
  apply ReadsTo.of_step
  intro line hline
  have hform : Line.classify line.text.toList = .relationship relationship := by
    rw [hline]
    exact classify_relationshipLine hleft hright (hname _ hfirst) (hname _ hsecond) hlabel
      hrelationship.trimmed
  have hensure : Entity.ensure { name := relationship.first } reading.entities = reading.entities :=
    Entity.ensure_of_mem hfirst
  have hensure' : Entity.ensure { name := relationship.second } reading.entities =
      reading.entities := Entity.ensure_of_mem hsecond
  rw [step_relationship hplace hform, hensure, hensure']

theorem readsTo_relationships {reading : Reading} {relationships : List Relationship}
    {links : List (List Char)} (hplace : reading.place = .topLevel)
    (hlinks : List.Forall₂ IsRelationshipLine relationships links)
    (hrelationships : ∀ relationship ∈ relationships, relationship.IsWritable)
    (hendpoints : ∀ relationship ∈ relationships,
      relationship.first ∈ reading.entities.map (·.name) ∧
        relationship.second ∈ reading.entities.map (·.name))
    (hnames : ∀ entity ∈ reading.entities, IsName entity.name.toList) :
    ReadsTo reading links
      { reading with relationships := reading.relationships ++ relationships } := by
  induction hlinks generalizing reading with
  | nil =>
      rw [List.append_nil]
      exact ReadsTo.refl reading
  | @cons relationship line relationships links hline _ ih =>
      obtain ⟨hfirst, hsecond⟩ := hendpoints relationship List.mem_cons_self
      have hone := readsTo_relationship hplace hline
        (hrelationships relationship List.mem_cons_self) hfirst hsecond hnames
      have hrest := @ih
        { reading with relationships := reading.relationships ++ [relationship] } hplace
        (fun other hother => hrelationships other (List.mem_cons_of_mem relationship hother))
        (fun other hother => hendpoints other (List.mem_cons_of_mem relationship hother)) hnames
      have hboth := hone.cons hrest
      rw [List.append_assoc, List.singleton_append] at hboth
      exact hboth

theorem readsTo_lines {schema : Schema} {lines : List (List Char)} (hschema : schema.IsWritable)
    (hlines : AreLinesOf schema lines) :
    ReadsTo {} lines
      { place := .topLevel, entities := schema.entities,
        relationships := schema.relationships } := by
  obtain @⟨links, hlinks⟩ := hlines
  have hblocks := @readsTo_blocks { place := .topLevel } schema.entities rfl hschema.entity
    (by simpa [Schema.names] using hschema.names)
  have hrelationships := @readsTo_relationships
    { place := .topLevel, entities := schema.entities } schema.relationships links rfl hlinks
    hschema.relationship hschema.endpoints fun entity hentity =>
      (hschema.entity entity hentity).isName
  exact (readsTo_header.cons hblocks).trans hrelationships

end Reading

/-! ## Lines and their text -/

/-- Lines that survive being joined, split and trimmed again. -/
def IsKept (line : List Char) : Prop := '\n' ∉ line ∧ Text.trim line = line

theorem newline_not_mem_quoted {s : String} (h : '\n' ∉ s.toList) : '\n' ∉ quoted s := by
  simpa [quoted] using h

theorem isKept_openingLine {entity : Entity} (h : entity.IsWritable) :
    IsKept (openingLine entity.name entity.displayName) := by
  have hname := newline_not_mem_quoted h.name.2.2
  constructor
  · cases hshown : entity.displayName with
    | none => simp [openingLine, displayPart, hname]
    | some shown =>
        have hquoted := newline_not_mem_quoted (h.displayName shown hshown).2
        simp [openingLine, displayPart, hname, hquoted]
  · have hquote : Text.isBlank '"' = false := by decide
    have hbrace : Text.isBlank '{' = false := by decide
    apply Text.trim_eq_self
    · simpa [openingLine, quoted] using hquote
    · simpa [openingLine] using hbrace

theorem isKept_attributeLine {attr : Attribute} (h : Line.IsWritable attr)
    (htype : '\n' ∉ attr.typeName.toList) (hcomment : ∀ text ∈ attr.comment, '\n' ∉ text.toList) :
    IsKept (attributeLine attr) := by
  refine ⟨?_, trim_attributeLine h⟩
  have hname : '\n' ∉ attr.name.toList := by
    intro hmem
    exact absurd (h.name.forall_isNameChar '\n' hmem) (by decide)
  have hkeys : '\n' ∉ keysPart attr.keys := by
    have hcode : ∀ key : Key, '\n' ∉ key.code.toList := fun key => by cases key <;> decide
    have hlist := not_mem_keyList hcode (by decide) (by decide) attr.keys
    cases hkeys : attr.keys with
    | nil => simp [keysPart]
    | cons key keys =>
        rw [hkeys] at hlist
        simpa [keysPart] using hlist
  have hpart : '\n' ∉ commentPart attr.comment := by
    cases hsome : attr.comment with
    | none => simp [commentPart]
    | some text => simp [commentPart, newline_not_mem_quoted (hcomment text hsome)]
  simp [attributeLine, htype, hname, hkeys, hpart]

theorem isKept_relationshipLine {relationship : Relationship} {line : List Char}
    (hline : IsRelationshipLine relationship line)
    (hfirst : '\n' ∉ relationship.first.toList) (hsecond : '\n' ∉ relationship.second.toList)
    (hlabel : '\n' ∉ relationship.label.toList) : IsKept line := by
  obtain ⟨left, right, hleft, hright, rfl⟩ := hline
  have hsymbols : ∀ entry ∈ Cardinality.symbols, '\n' ∉ entry.1 := by decide
  have hconnector : '\n' ∉ connector relationship.identifying := by
    cases relationship.identifying <;> decide
  constructor
  · simp [relationshipLine, newline_not_mem_quoted hfirst, newline_not_mem_quoted hsecond,
      newline_not_mem_quoted hlabel, hsymbols _ hleft, hsymbols _ hright, hconnector]
  · have hquote : Text.isBlank '"' = false := by decide
    apply Text.trim_eq_self
    · simpa [relationshipLine, quoted] using hquote
    · simpa [relationshipLine, List.getLast?_cons] using hquote

theorem isKept_links {relationships : List Relationship} {links : List (List Char)}
    (hlinks : List.Forall₂ IsRelationshipLine relationships links)
    (h : ∀ relationship ∈ relationships, '\n' ∉ relationship.first.toList ∧
      '\n' ∉ relationship.second.toList ∧ '\n' ∉ relationship.label.toList) :
    ∀ line ∈ links, IsKept line := by
  induction hlinks with
  | nil => simp
  | @cons relationship line relationships links hline _ ih =>
      obtain ⟨hfirst, hsecond, hlabel⟩ := h relationship List.mem_cons_self
      intro other hother
      rcases List.mem_cons.mp hother with rfl | hother
      · exact isKept_relationshipLine hline hfirst hsecond hlabel
      · exact ih (fun next hnext => h next (List.mem_cons_of_mem relationship hnext)) other hother

theorem isKept_blockLines {entity : Entity} (h : entity.IsWritable) :
    ∀ line ∈ blockLines entity, IsKept line := by
  intro line hline
  simp only [blockLines, List.cons_append, List.mem_cons, List.mem_append, List.mem_map,
    List.not_mem_nil, or_false] at hline
  rcases hline with rfl | ⟨attr, hattr, rfl⟩ | rfl
  · exact isKept_openingLine h
  · exact isKept_attributeLine (h.attributes attr hattr).1 (h.typeName attr hattr)
      (h.comment attr hattr)
  · exact ⟨by decide, by decide⟩

theorem isKept_lines {schema : Schema} {lines : List (List Char)} (hschema : schema.IsWritable)
    (hlines : AreLinesOf schema lines) : ∀ line ∈ lines, IsKept line := by
  obtain @⟨links, hlinks⟩ := hlines
  have hname : ∀ name ∈ schema.names, '\n' ∉ name.toList := by
    intro name hname
    obtain ⟨entity, hentity, rfl⟩ := List.mem_map.mp hname
    exact (hschema.entity entity hentity).name.2.2
  intro line hline
  rcases List.mem_append.mp hline with hline | hline
  · rcases List.mem_cons.mp hline with rfl | hline
    · exact ⟨by decide, by decide⟩
    · obtain ⟨entity, hentity, hblock⟩ := List.mem_flatMap.mp hline
      exact isKept_blockLines (hschema.entity entity hentity) line hblock
  · refine isKept_links hlinks (fun relationship hrelationship => ?_) line hline
    obtain ⟨hfirst, hsecond⟩ := hschema.endpoints relationship hrelationship
    exact ⟨hname _ hfirst, hname _ hsecond,
      (hschema.relationship relationship hrelationship).label.2.2⟩

theorem splitOn_text {lines : List (List Char)} (hne : lines ≠ [])
    (hkept : ∀ line ∈ lines, IsKept line) :
    ((['\n'].intercalate lines).splitOn '\n').map Text.trim = lines := by
  rw [List.splitOn_intercalate '\n' (fun line hline => (hkept line hline).1) hne]
  exact (List.map_congr_left fun line hline => (hkept line hline).2).trans (List.map_id lines)

theorem ofText_of_isTextOf {schema : Schema} {text : String} (hschema : schema.IsWritable)
    (htext : IsTextOf schema text) :
    Reading.ofText text =
      { place := .topLevel, entities := schema.entities,
        relationships := schema.relationships } := by
  obtain ⟨lines, hlines, htext⟩ := htext
  have hne : lines ≠ [] := by
    obtain @⟨links, hlinks⟩ := hlines
    simp
  have hsplit := splitOn_text hne (isKept_lines hschema hlines)
  have hread := Reading.readsTo_lines hschema hlines
  apply Reading.ReadsTo.ofText
  unfold Reading.trimmedLines
  rcases htext with htext | htext
  · rw [htext, hsplit]
    exact hread
  · have hempty : Reading.ReadsTo
        { place := .topLevel, entities := schema.entities, relationships := schema.relationships }
        [[]]
        { place := .topLevel, entities := schema.entities,
          relationships := schema.relationships } := by
      apply Reading.ReadsTo.of_step
      intro line hline
      have hform : Line.classify [] = .empty := by decide
      simp [Reading.step, hline, hform]
    rw [htext, List.splitOn_append_cons_self, List.map_append, hsplit]
    exact hread.trans hempty

/-- Reading the text of a schema gives the schema back, and nothing is wrong with the text. -/
theorem result_of_isTextOf {schema : Schema} {text : String} (hschema : schema.IsWritable)
    (htext : IsTextOf schema text) : (Reading.ofText text).result = ⟨true, schema, none⟩ := by
  rw [ofText_of_isTextOf hschema htext]
  rfl

theorem result_of_order_diagram :
    let item : Entity :=
      { name := "order item"
        displayName := some "Line, \"x\" \\"
        attributes := [⟨"line-no", "numeric( 4 ,2)[]", [.primary, .foreign], some "count; all"⟩] }
    let size : Entity := { name := "Größe" }
    let link : Relationship :=
      ⟨"order item", "Größe", .zeroOrMore, .exactlyOne, false, "has: size"⟩
    let text :=
      "erDiagram\n\"order item\" [\"Line, \"x\" \\\"] \x7b\n" ++
        "numeric( 4 ,2)[] line-no PK, FK \"count; all\"\n\x7d\n\"Größe\" \x7b\n\x7d\n" ++
        "\"order item\" \x7do..|| \"Größe\" : \"has: size\""
    let schema : Schema := ⟨[item, size], [link]⟩
    schema.IsWritable ∧ IsTextOf schema text ∧
      (Reading.ofText text).result = ⟨true, schema, none⟩ := by
  intro item size link text schema
  have htype : IsTypeName "numeric( 4 ,2)[]".toList :=
    @IsTypeName.intro 'n' ['u', 'm', 'e', 'r', 'i', 'c'] ['(', ' ', '4', ' ', ',', '2', ')']
      ['[', ']'] (by decide) (List.all_eq_true.mp (by decide))
      (@IsArguments.words [[' ', '4', ' '], ['2']] (by simp) (by
        simp only [List.mem_cons, List.not_mem_nil, or_false, forall_eq_or_imp, forall_eq,
          isPaddedWord_iff, ← List.all_eq_true]
        decide))
      .present
  have hattr : Line.IsWritable
      ⟨"line-no", "numeric( 4 ,2)[]", [.primary, .foreign], some "count; all"⟩ :=
    ⟨⟨'l', ['i', 'n', 'e', '-', 'n', 'o'], by decide, by decide, List.all_eq_true.mp (by decide)⟩,
      htype, by decide, by decide⟩
  have hitem : item.IsWritable :=
    ⟨by decide, by decide, by simpa [item, IsLayout] using hattr, by decide, by decide⟩
  have hsize : size.IsWritable := ⟨by decide, by decide, by simp [size], by decide, by decide⟩
  have hlink : link.IsWritable := ⟨by decide, by decide⟩
  have hschema : schema.IsWritable :=
    ⟨by decide, by simpa [schema] using ⟨hitem, hsize⟩, by simpa [schema] using hlink, by decide⟩
  have htext : IsTextOf schema text := by
    refine ⟨_, .intro (.cons ⟨['}', 'o'], ['|', '|'], by decide, by decide, rfl⟩ .nil), .inl ?_⟩
    decide +kernel
  exact ⟨hschema, htext, result_of_isTextOf hschema htext⟩

end EntityDiagram
