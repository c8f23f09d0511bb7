import EntityDiagram.Proofs.Reading.Consistency
import Mathlib.Data.List.Induction
import Mathlib.Logic.Function.Basic

/-! # What a text declares

A text can be understood as a whole, without reading it line by line: after the header it is a list
of declarations, where a block reaches to the next closing line or to the end. Declarations mention
entities. The entities of the schema are the mentioned names in the order of their first mention; a
name has the entity of its last block, or else one without attributes, shown as its first mention
says.
-/

namespace EntityDiagram

open Line

/-! ## Declarations -/

inductive Declaration where
  | block (entity : Entity)
  | relationship (relationship : Relationship)
  | mention (heading : Heading)
  deriving Repr, DecidableEq

namespace Declaration

/-- Whether a line closes a block. -/
def closes (line : List Char) : Bool := classify line == .closing

/-- The attribute that a line of a block declares, if it is not one that is skipped everywhere. -/
def attributeIn? (line : List Char) : Option Attribute :=
  match classify line with
  | .empty | .header | .direction => none
  | _ => attribute? line

/-- The declarations of the lines after a header. -/
def ofLines : List (List Char) → List Declaration
  | [] => []
  | line :: rest =>
      match classify line with
      | .opening heading =>
          .block ⟨heading.name, heading.displayName,
              (rest.takeWhile fun other => !closes other).filterMap attributeIn?⟩ ::
            ofLines ((rest.dropWhile fun other => !closes other).drop 1)
      | .relationship linked => .relationship linked :: ofLines rest
      | .mention heading => .mention heading :: ofLines rest
      | _ => ofLines rest
termination_by lines => lines.length
decreasing_by
  · have := (List.dropWhile_sublist (p := fun other => !closes other) (l := rest)).length_le
    rw [List.length_drop, List.length_cons]
    omega
  all_goals rw [List.length_cons]; omega

/-- The declarations of a text: those of the lines after its first header. -/
def ofText (text : String) : List Declaration :=
  ofLines (((Reading.trimmedLines text).dropWhile fun line => classify line != .header).drop 1)

def linked? : Declaration → Option Relationship
  | relationship linked => some linked
  | _ => none

end Declaration

/-! ## Mentions -/

/-- A place outside blocks that names an entity. -/
inductive Mention where
  | block (entity : Entity)
  | bare (heading : Heading)
  deriving Repr, DecidableEq

namespace Mention

def name : Mention → String
  | block entity => entity.name
  | bare heading => heading.name

def displayName : Mention → Option String
  | block entity => entity.displayName
  | bare heading => heading.displayName

def block? : Mention → Option Entity
  | block entity => some entity
  | bare _ => none

/-- The entity that mentions give a name: that of the last block with this name, or else one without
attributes that is shown as the first mention of the name says. -/
def entityOf (mentions : List Mention) (name : String) : Entity :=
  match ((mentions.filterMap block?).filter (·.name == name)).getLast? with
  | some entity => entity
  | none => ⟨name, (mentions.find? (·.name == name)).bind displayName, []⟩

end Mention

/-- The mentions in a declaration. The ends of a relationship give their names nothing to show. -/
def Declaration.mentions : Declaration → List Mention
  | block entity => [.block entity]
  | relationship linked => [.bare ⟨linked.first, none⟩, .bare ⟨linked.second, none⟩]
  | mention heading => [.bare heading]

/-! ## Entities by names -/

section Tables

variable {names : List String} {f : String → Entity}

theorem addName_cons_of_ne {first name : String} (h : name ≠ first) (rest : List String) :
    addName (first :: rest) name = first :: addName rest name := by
  by_cases hmem : name ∈ rest
  · simp only [addName, hmem, if_true, List.mem_cons, or_true]
  · simp only [addName, hmem, h, if_false, List.mem_cons, or_self, List.cons_append]

theorem eraseDups_append_singleton (names : List String) (name : String) :
    (names ++ [name]).eraseDups = addName names.eraseDups name := by
  rw [List.eraseDups_append, addName]
  by_cases hmem : name ∈ names
  · rw [if_pos (List.mem_eraseDups.mpr hmem)]
    simp [List.removeAll, hmem]
  · rw [if_neg (fun h => hmem (List.mem_eraseDups.mp h))]
    simp [List.removeAll, hmem, List.eraseDups_cons]

theorem nodup_eraseDups (names : List String) : names.eraseDups.Nodup := by
  induction names using List.reverseRecOn with
  | nil => exact List.nodup_nil
  | append_singleton names name ih =>
      rw [eraseDups_append_singleton]
      exact nodup_addName ih name

theorem map_update_of_not_mem {name : String} (h : name ∉ names) (entity : Entity) :
    names.map (Function.update f name entity) = names.map f := by
  apply List.map_congr_left
  intro other hother
  have hne : other ≠ name := fun heq => h (heq ▸ hother)
  exact Function.update_of_ne hne entity f

/-- Putting an entity into a table that is given by its names changes the value of one name. -/
theorem Entity.put_map (hf : ∀ name, (f name).name = name) (hnames : names.Nodup)
    (entity : Entity) :
    entity.put (names.map f) =
      (addName names entity.name).map (Function.update f entity.name entity) := by
  induction names with
  | nil => simp [put, addName]
  | cons first rest ih =>
      obtain ⟨hfirst, hrest⟩ := List.nodup_cons.mp hnames
      rw [List.map_cons, put, hf]
      by_cases heq : first = entity.name
      · subst heq
        rw [if_pos rfl, addName, if_pos List.mem_cons_self, List.map_cons, Function.update_self,
          map_update_of_not_mem hfirst]
      · rw [if_neg heq, ih hrest, addName_cons_of_ne (Ne.symm heq), List.map_cons,
          Function.update_of_ne heq]

end Tables

namespace Mention

/-- Records a mention: a block replaces what its name had, any other mention only adds a name. -/
def record (entities : List Entity) : Mention → List Entity
  | block entity => entity.put entities
  | bare heading => (Entity.ofHeading heading).ensure entities

theorem name_entityOf (mentions : List Mention) (name : String) :
    (entityOf mentions name).name = name := by
  unfold entityOf
  split
  · next entity hlast =>
      have hmem := List.mem_of_getLast? hlast
      simpa using (List.mem_filter.mp hmem).2
  · rfl

theorem entityOf_append_block (mentions : List Mention) (entity : Entity) :
    entityOf (mentions ++ [block entity]) =
      Function.update (entityOf mentions) entity.name entity := by
  funext name
  by_cases heq : name = entity.name
  · subst heq
    simp [entityOf, block?]
  · have hne : (entity.name == name) = false := beq_eq_false_iff_ne.mpr (Ne.symm heq)
    have hfirst : (mentions ++ [block entity]).find? (·.name == name) =
        mentions.find? (·.name == name) := by
      simp [List.find?_append, Mention.name, hne]
    rw [Function.update_of_ne heq]
    simp [entityOf, block?, hne, hfirst]

theorem blocks_append_bare (mentions : List Mention) (heading : Heading) :
    (mentions ++ [bare heading]).filterMap block? = mentions.filterMap block? := by
  simp [block?]

theorem entityOf_append_bare_of_mem {mentions : List Mention} {name : String}
    (h : name ∈ mentions.map (·.name)) (heading : Heading) :
    entityOf (mentions ++ [bare heading]) name = entityOf mentions name := by
  have hfound : (mentions.find? (·.name == name)).isSome = true := by
    obtain ⟨mention, hmem, hname⟩ := List.mem_map.mp h
    exact List.find?_isSome.mpr ⟨mention, hmem, beq_iff_eq.mpr hname⟩
  have hfirst : (mentions ++ [bare heading]).find? (·.name == name) =
      mentions.find? (·.name == name) := by
    rw [List.find?_append, Option.or_of_isSome hfound]
  unfold entityOf
  rw [blocks_append_bare, hfirst]

theorem entityOf_append_bare_of_not_mem {mentions : List Mention} {heading : Heading}
    (h : heading.name ∉ mentions.map (·.name)) :
    entityOf (mentions ++ [bare heading]) heading.name = .ofHeading heading := by
  have hnone : mentions.find? (·.name == heading.name) = none := by
    rw [List.find?_eq_none]
    intro mention hmem hname
    exact h (List.mem_map.mpr ⟨mention, hmem, beq_iff_eq.mp hname⟩)
  have hblocks : (mentions.filterMap block?).filter (·.name == heading.name) = [] := by
    rw [List.filter_eq_nil_iff]
    intro entity hmem hname
    obtain ⟨mention, hmention, hblock⟩ := List.mem_filterMap.mp hmem
    cases mention with
    | bare other => cases hblock
    | block other =>
        cases hblock
        exact h (List.mem_map.mpr ⟨.block entity, hmention, beq_iff_eq.mp hname⟩)
  unfold entityOf
  rw [blocks_append_bare, hblocks, List.find?_append, hnone]
  simp [Mention.name, displayName, Entity.ofHeading]

theorem record_bare_map {names : List String} {f : String → Entity}
    (hf : ∀ name, (f name).name = name) (heading : Heading) :
    record (names.map f) (bare heading) =
      if heading.name ∈ names then names.map f else names.map f ++ [.ofHeading heading] := by
  have hnames : (names.map f).map (·.name) = names := by
    rw [List.map_map]
    exact (List.map_congr_left fun name _ => hf name).trans (List.map_id names)
  by_cases hmem : heading.name ∈ names
  · rw [if_pos hmem]
    apply Entity.ensure_of_mem
    rw [hnames]
    exact hmem
  · rw [if_neg hmem, record, Entity.ensure, if_neg]
    rw [Entity.any_name_iff, hnames]
    exact hmem

/-- Recording mention after mention comes to looking up each mentioned name among all of them. -/
theorem foldl_record_eq (mentions : List Mention) :
    mentions.foldl record [] =
      (mentions.map (·.name)).eraseDups.map (entityOf mentions) := by
  induction mentions using List.reverseRecOn with
  | nil => rfl
  | append_singleton mentions mention ih =>
      rw [List.foldl_append, List.foldl_cons, List.foldl_nil, ih, List.map_append,
        List.map_singleton, eraseDups_append_singleton]
      cases mention with
      | block entity =>
          rw [entityOf_append_block]
          exact Entity.put_map (name_entityOf mentions) (nodup_eraseDups _) entity
      | bare heading =>
          have hsame : (mentions.map (·.name)).eraseDups.map
              (entityOf (mentions ++ [bare heading])) =
                (mentions.map (·.name)).eraseDups.map (entityOf mentions) := by
            apply List.map_congr_left
            intro name hname
            exact entityOf_append_bare_of_mem (List.mem_eraseDups.mp hname) heading
          rw [record_bare_map (name_entityOf mentions), addName]
          by_cases hmem : heading.name ∈ (mentions.map (·.name)).eraseDups
          · rw [if_pos hmem, Mention.name, if_pos hmem, hsame]
          · have hfresh : heading.name ∉ mentions.map (·.name) :=
              fun h => hmem (List.mem_eraseDups.mpr h)
            rw [if_neg hmem, Mention.name, if_neg hmem, List.map_append, List.map_singleton, hsame,
              entityOf_append_bare_of_not_mem hfresh]

end Mention

/-! ## Adding declarations -/

namespace Declaration

/-- Adds a declaration to a schema. -/
def addTo (schema : Schema) (declaration : Declaration) : Schema :=
  ⟨declaration.mentions.foldl Mention.record schema.entities,
    schema.relationships ++ declaration.linked?.toList⟩

theorem foldl_addTo (declarations : List Declaration) (schema : Schema) :
    declarations.foldl addTo schema =
      ⟨(declarations.flatMap (·.mentions)).foldl Mention.record schema.entities,
        schema.relationships ++ declarations.filterMap (·.linked?)⟩ := by
  induction declarations generalizing schema with
  | nil => simp
  | cons declaration declarations ih =>
      rw [List.foldl_cons, ih, addTo, List.flatMap_cons, List.foldl_append, List.append_assoc]
      cases hlinked : declaration.linked? <;> simp [hlinked]

end Declaration

/-! ## Reading line by line -/

namespace Reading

open Declaration

theorem exists_stepInBlock (reading : Reading) (entity : Entity) (line : NumberedLine) :
    ∃ rejected, stepInBlock { reading with place := .inBlock entity } entity line =
      { reading with
        place := .inBlock { entity with
          attributes := entity.attributes ++ (attribute? line.text.toList).toList }
        rejected := rejected } := by
  unfold stepInBlock
  cases attribute? line.text.toList with
  | some attr => exact ⟨reading.rejected, rfl⟩
  | none => exact ⟨reading.rejected ++ [line], by simp⟩

/-- Inside a block a line that does not close it adds the attribute it declares, if any. -/
theorem exists_step_inBlock (reading : Reading) (entity : Entity) {line : NumberedLine}
    (hline : closes line.text.toList = false) :
    ∃ rejected, step { reading with place := .inBlock entity } line =
      { reading with
        place := .inBlock { entity with
          attributes := entity.attributes ++ (attributeIn? line.text.toList).toList }
        rejected := rejected } := by
  have hblock := exists_stepInBlock reading entity line
  unfold step attributeIn?
  cases hform : classify line.text.toList with
  | empty => exact ⟨reading.rejected, by simp⟩
  | header => exact ⟨reading.rejected, by simp⟩
  | direction => exact ⟨reading.rejected, by simp⟩
  | closing => simp [closes, hform] at hline
  | opening heading => exact hblock
  | relationship linked => exact hblock
  | mention heading => exact hblock
  | unknown => exact hblock

theorem exists_foldl_step_inBlock (reading : Reading) (entity : Entity)
    {lines : List NumberedLine} (hlines : ∀ line ∈ lines, closes line.text.toList = false) :
    ∃ rejected, lines.foldl step { reading with place := .inBlock entity } =
      { reading with
        place := .inBlock { entity with
          attributes :=
            entity.attributes ++ (lines.map (·.text.toList)).filterMap attributeIn? }
        rejected := rejected } := by
  induction lines generalizing reading entity with
  | nil => exact ⟨reading.rejected, by simp⟩
  | cons line lines ih =>
      obtain ⟨hline, hlines⟩ := List.forall_mem_cons.mp hlines
      obtain ⟨rejected, hstep⟩ := exists_step_inBlock reading entity hline
      obtain ⟨final, hrest⟩ := ih { reading with rejected := rejected }
        { entity with
          attributes := entity.attributes ++ (attributeIn? line.text.toList).toList } hlines
      refine ⟨final, ?_⟩
      rw [List.foldl_cons, hstep]
      refine hrest.trans ?_
      cases hattr : attributeIn? line.text.toList <;> simp [hattr]

/-- A line outside blocks that declares nothing leaves what is recorded. -/
theorem exists_step_topLevel {reading : Reading} {line : NumberedLine}
    (hplace : reading.place = .topLevel)
    (hopening : ∀ heading, classify line.text.toList ≠ .opening heading)
    (hlinked : ∀ linked, classify line.text.toList ≠ .relationship linked)
    (hmention : ∀ heading, classify line.text.toList ≠ .mention heading) :
    ∃ ignored, reading.step line = { reading with ignored := ignored } := by
  obtain ⟨place, entities, relationships, rejected, ignored⟩ := reading
  cases hplace
  unfold step
  cases hform : classify line.text.toList with
  | empty => exact ⟨ignored, rfl⟩
  | header => exact ⟨ignored, rfl⟩
  | direction => exact ⟨ignored, rfl⟩
  | closing => exact ⟨ignored, rfl⟩
  | unknown => exact ⟨ignored ++ [line], rfl⟩
  | opening heading => exact absurd hform (hopening heading)
  | relationship linked => exact absurd hform (hlinked linked)
  | mention heading => exact absurd hform (hmention heading)

theorem schema_of_topLevel {reading : Reading} (hplace : reading.place = .topLevel) :
    reading.schema = reading.recorded := by
  simp [schema, recorded, close, hplace]

theorem schema_close (reading : Reading) : reading.close.schema = reading.schema := by
  obtain ⟨place, entities, relationships, rejected, ignored⟩ := reading
  cases place <;> rfl

/-- A block is recorded with the attributes of all lines before the first that closes it. That the
text ends instead makes no difference. -/
theorem exists_foldl_step_block (reading : Reading) (entity : Entity)
    (lines : List NumberedLine) :
    ∃ next : Reading, next.place = .topLevel ∧
      next.recorded = addTo reading.recorded (.block { entity with
        attributes := entity.attributes ++ ((lines.map (·.text.toList)).takeWhile fun other =>
          !closes other).filterMap attributeIn? }) ∧
      (lines.foldl step { reading with place := .inBlock entity }).schema =
        (((lines.dropWhile fun line => !closes line.text.toList).drop 1).foldl step next).schema
          := by
  have hbody : ∀ line ∈ lines.takeWhile fun line => !closes line.text.toList,
      closes line.text.toList = false := by
    intro line hline
    simpa using List.mem_takeWhile_imp hline
  obtain ⟨rejected, hfold⟩ := exists_foldl_step_inBlock reading entity hbody
  have htexts : (lines.takeWhile fun line => !closes line.text.toList).map (·.text.toList) =
      (lines.map (·.text.toList)).takeWhile fun other => !closes other := by
    rw [List.takeWhile_map]
    rfl
  rw [htexts] at hfold
  generalize hattributes :
    (((lines.map (·.text.toList)).takeWhile fun other => !closes other).filterMap
      attributeIn?) = attributes at hfold ⊢
  refine ⟨close { reading with
    place := .inBlock { entity with attributes := entity.attributes ++ attributes }
    rejected := rejected }, rfl, ?_, ?_⟩
  · simp [recorded, close, addTo, mentions, linked?, Mention.record]
  · conv_lhs => rw [← List.takeWhile_append_dropWhile (p := fun line : NumberedLine =>
      !closes line.text.toList) (l := lines), List.foldl_append, hfold]
    cases hrest : lines.dropWhile fun line => !closes line.text.toList with
    | nil => exact (schema_close _).symm
    | cons line rest =>
        have hline : closes line.text.toList = true := by
          have hhead := List.head?_dropWhile_not (fun line : NumberedLine =>
            !closes line.text.toList) lines
          rw [hrest] at hhead
          simpa using hhead
        have hform : classify line.text.toList = .closing := by simpa [closes] using hline
        rw [List.foldl_cons, step_closing rfl hform]
        rfl

/-- Reading lines outside blocks adds the declarations of these lines. -/
theorem schema_foldl_step {reading : Reading} (hplace : reading.place = .topLevel)
    (lines : List NumberedLine) :
    (lines.foldl step reading).schema =
      (ofLines (lines.map (·.text.toList))).foldl addTo reading.recorded := by
  generalize htexts : lines.map (·.text.toList) = texts
  -- The cases are those of `ofLines`; in each the first line is read by one step, or by a block.
  fun_induction ofLines texts generalizing reading lines with
  | case1 =>
      rw [List.map_eq_nil_iff.mp htexts]
      exact schema_of_topLevel hplace
  | case2 text rest heading hform ih =>
      obtain ⟨line, lines, rfl, rfl, rfl⟩ := List.map_eq_cons_iff.mp htexts
      obtain ⟨next, hnext, hrecorded, hfold⟩ :=
        exists_foldl_step_block reading (.ofHeading heading) lines
      have hrest : ((lines.dropWhile fun line => !closes line.text.toList).drop 1).map
          (·.text.toList) =
            ((lines.map (·.text.toList)).dropWhile fun other => !closes other).drop 1 := by
        rw [List.map_drop, List.dropWhile_map]
        rfl
      rw [List.foldl_cons, step_opening hplace hform, hfold, ih hnext _ hrest, hrecorded]
      rfl
  | case3 text rest linked hform ih =>
      obtain ⟨line, lines, rfl, rfl, rfl⟩ := List.map_eq_cons_iff.mp htexts
      rw [List.foldl_cons, step_relationship hplace hform]
      refine (@ih _ ?_ lines rfl).trans ?_
      · exact hplace
      · rfl
  | case4 text rest heading hform ih =>
      obtain ⟨line, lines, rfl, rfl, rfl⟩ := List.map_eq_cons_iff.mp htexts
      rw [List.foldl_cons, step_mention hplace hform]
      refine (@ih _ ?_ lines rfl).trans ?_
      · exact hplace
      · simp [recorded, addTo, mentions, linked?, Mention.record]
  | case5 text rest hopening hlinked hmention ih =>
      obtain ⟨line, lines, rfl, rfl, rfl⟩ := List.map_eq_cons_iff.mp htexts
      obtain ⟨ignored, hstep⟩ := exists_step_topLevel hplace hopening hlinked hmention
      rw [List.foldl_cons, hstep]
      refine (@ih _ ?_ lines rfl).trans ?_
      · exact hplace
      · rfl

/-- Lines up to the first header are left out. -/
theorem schema_run (lines : List NumberedLine) :
    (run lines).schema =
      (ofLines (((lines.map (·.text.toList)).dropWhile fun text =>
        classify text != .header).drop 1)).foldl addTo {} := by
  unfold run
  induction lines with
  | nil =>
      rw [List.map_nil, List.dropWhile_nil, List.drop_nil, ofLines]
      rfl
  | cons line lines ih =>
      rw [List.foldl_cons, List.map_cons, List.dropWhile_cons]
      by_cases hheader : classify line.text.toList = .header
      · have hstep : step {} line = { place := .topLevel } := by simp [step, hheader]
        rw [hstep, if_neg (by simp [hheader])]
        exact schema_foldl_step rfl lines
      · rw [step_of_beforeHeader rfl hheader, if_pos (by simp [hheader])]
        exact ih

/-- The schema of a text has the mentioned names in the order of their first mention, each with the
entity of its last block or else with what its first mention shows, and one relationship for each
line that declares one. -/
theorem schema_ofText_eq_declared (text : String) :
    let declarations := Declaration.ofText text
    let mentions := declarations.flatMap (·.mentions)
    (ofText text).result.schema =
      { entities := (mentions.map (·.name)).eraseDups.map (Mention.entityOf mentions)
        relationships := declarations.filterMap (·.linked?) } := by
  intro declarations mentions
  have hrun := schema_run (linesOf text)
  rw [map_text_linesOf, foldl_addTo, Mention.foldl_record_eq] at hrun
  exact hrun

end Reading

end EntityDiagram
