import EntityDiagram.Proofs.Reading.Insertion
import EntityDiagram.Proofs.Reading.Spelling
import EntityDiagram.Proofs.Reading.Written

/-! # Blocks of attribute lines

A block of lines that declare attributes has these attributes. Among such lines only a direction is
not offered to the block: it is skipped there as it is anywhere else, and this happens to an
attribute of the type `direction` with the name of a layout and nothing more.
-/

namespace EntityDiagram.Line

/-! ## The line that opens a block -/

/-- The opening of a block by a bare name. -/
def bareOpening (name : List Char) : List Char := name ++ [' ', '{']

theorem trim_bareOpening {name : List Char} (h : IsBareName name) :
    Text.trim (bareOpening name) = bareOpening name := by
  have hbrace : Text.isBlank '{' = false := by decide
  have hlast : (bareOpening name).getLast? = some '{' := by simp [bareOpening]
  obtain ⟨first, more, rfl, hfirst, -⟩ := h
  have hblank := isBlank_of_isNameChar (isNameChar_of_isNameStart hfirst)
  apply Text.trim_eq_self
  · simpa [bareOpening] using hblank
  · simpa [hlast] using hbrace

theorem opening?_bareOpening {name : List Char} (h : IsBareName name) :
    opening? (bareOpening name) = some ⟨String.ofList name, none⟩ := by
  have hbrace : skipBlanks ['{'] = ['{'] := by decide
  have hstart : skipBlanks (bareOpening name) = bareOpening name := by
    rw [← trim_bareOpening h]
    exact skipBlanks_of_head (Text.head?_trim_not_blank _)
  have hname : name? (bareOpening name) = some (name, [' ', '{']) :=
    name?_bareName h (by simp; decide)
  simp [opening?, heading?, hstart, hname, hbrace, displayName?_of_ne]

theorem classify_bareOpening {name : List Char} (h : IsBareName name) :
    classify (bareOpening name) = .opening ⟨String.ofList name, none⟩ :=
  classify_of_opening? (opening?_bareOpening h)

end EntityDiagram.Line

namespace EntityDiagram.Reading

open Line

/-! ## The lines of a block -/

/-- A line with the attribute that it declares, when nothing is looked at but the line. -/
structure Declares (line : List Char) (attr : Attribute) : Prop where
  oneLine : '\n' ∉ line
  read : attribute? (Text.trim line) = some attr

theorem readsTo_declaration (reading : Reading) (entity : Entity) {line : List Char}
    {attr : Attribute} (h : Declares line attr) (hline : isDirection line = false) :
    ReadsTo { reading with place := .inBlock entity } [Text.trim line]
      { reading with
        place := .inBlock { entity with attributes := entity.attributes ++ [attr] } } := by
  apply ReadsTo.of_step
  intro numbered htext
  have hordinary := isOrdinary_of_attribute? h.read hline
  rw [← htext] at hordinary
  rw [step_inBlock rfl hordinary, stepInBlock, htext, h.read]

theorem readsTo_direction (reading : Reading) {line : List Char} (h : isDirection line = true) :
    ReadsTo reading [Text.trim line] reading := by
  apply ReadsTo.of_step
  intro numbered htext
  apply step_of_empty_or_direction
  rw [htext]
  exact .inr (classify_of_isDirection ((isDirection_trim line).trans h))

theorem readsTo_declarations (reading : Reading) (entity : Entity)
    {entries : List (List Char × Attribute)} (h : ∀ entry ∈ entries, Declares entry.1 entry.2) :
    ReadsTo { reading with place := .inBlock entity } (entries.map fun entry => Text.trim entry.1)
      { reading with
        place := .inBlock { entity with
          attributes := entity.attributes ++
            (entries.filter fun entry => !isDirection entry.1).map (·.2) } } := by
  induction entries generalizing entity with
  | nil => simpa using ReadsTo.refl _
  | cons entry entries ih =>
      obtain ⟨hentry, hentries⟩ := List.forall_mem_cons.mp h
      cases hline : isDirection entry.1 with
      | true =>
          have hfirst := readsTo_direction { reading with place := .inBlock entity } hline
          have hboth := hfirst.cons (ih entity hentries)
          simpa [hline] using hboth
      | false =>
          have hfirst := readsTo_declaration reading entity hentry hline
          have hrest := ih { entity with attributes := entity.attributes ++ [entry.2] } hentries
          have hboth := hfirst.cons hrest
          simpa [hline] using hboth

/-! ## Texts of one block -/

/-- The lines of a diagram that is one block. -/
def oneBlock (name : List Char) (lines : List (List Char)) : List (List Char) :=
  headerLine :: bareOpening name :: lines ++ [['}']]

theorem readsTo_oneBlock {name : List Char} {entries : List (List Char × Attribute)}
    (hname : IsBareName name) (h : ∀ entry ∈ entries, Declares entry.1 entry.2) :
    ReadsTo {} ((oneBlock name (entries.map (·.1))).map Text.trim)
      { place := .topLevel
        entities := [{
          name := String.ofList name
          attributes := (entries.filter fun entry => !isDirection entry.1).map (·.2) }] } := by
  have hopening : ReadsTo { place := .topLevel } [bareOpening name]
      { place := .inBlock { name := String.ofList name } } := by
    apply ReadsTo.of_step
    intro line hline
    have hform : classify line.text.toList = .opening ⟨String.ofList name, none⟩ := by
      rw [hline]
      exact classify_bareOpening hname
    exact step_opening rfl hform
  have hclosing : ∀ entity : Entity, ReadsTo { place := .inBlock entity } [['}']]
      { place := .topLevel, entities := [entity] } := by
    intro entity
    apply ReadsTo.of_step
    intro line hline
    have hform : classify line.text.toList = .closing := by
      rw [hline]
      decide
    rw [step_closing rfl hform]
    rfl
  have hlines := readsTo_declarations {} { name := String.ofList name } h
  have hall := readsTo_header.cons (hopening.cons (hlines.trans (hclosing _)))
  have htexts : (oneBlock name (entries.map (·.1))).map Text.trim =
      headerLine :: bareOpening name ::
        (entries.map fun entry => Text.trim entry.1) ++ [['}']] := by
    have hheader : Text.trim headerLine = headerLine := by decide
    have hend : Text.trim ['}'] = ['}'] := by decide
    simp [oneBlock, hheader, hend, trim_bareOpening hname, Function.comp_def]
  rw [htexts]
  exact hall

theorem newline_not_mem_oneBlock {name : List Char} {lines : List (List Char)}
    (hname : IsBareName name) (h : ∀ line ∈ lines, '\n' ∉ line) :
    ∀ line ∈ oneBlock name lines, '\n' ∉ line := by
  have hheader : '\n' ∉ headerLine := by decide
  have hopening : '\n' ∉ bareOpening name := by
    intro hmem
    rcases List.mem_append.mp hmem with hmem | hmem
    · exact absurd (hname.forall_isNameChar '\n' hmem) (by decide)
    · exact absurd hmem (by decide)
  have hend : '\n' ∉ ['}'] := by decide
  intro line hline
  simp only [oneBlock, List.cons_append, List.mem_cons, List.mem_append, List.not_mem_nil,
    or_false] at hline
  rcases hline with rfl | rfl | hline | rfl
  · exact hheader
  · exact hopening
  · exact h line hline
  · exact hend

/-- A block of lines that declare attributes has these attributes, one for each line and in their
order, but for the lines that are directions, which are skipped. Of all attribute lines only a bare
`direction` with the name of a layout is one. -/
theorem result_of_attribute_block {name : List Char} {entries : List (List Char × Attribute)}
    (hname : IsBareName name) (h : ∀ entry ∈ entries, Declares entry.1 entry.2) :
    (ofText (textOf (oneBlock name (entries.map (·.1))))).result = {
      success := true
      schema := {
        entities := [{
          name := String.ofList name
          attributes := (entries.filter fun entry => !isDirection entry.1).map (·.2) }] }
      errors := none } ∧
    ∀ entry ∈ entries, isDirection entry.1 = true → IsLayout entry.2 := by
  refine ⟨?_, fun entry hentry => isLayout_of_attribute? (h entry hentry).read⟩
  have honeLine : ∀ line ∈ entries.map (·.1), '\n' ∉ line := by
    rw [List.forall_mem_map]
    exact fun entry hentry => (h entry hentry).oneLine
  have hlines := newline_not_mem_oneBlock hname honeLine
  have hsplit : (textOf (oneBlock name (entries.map (·.1)))).toList.splitOn '\n' =
      oneBlock name (entries.map (·.1)) := by
    rw [textOf, String.toList_ofList]
    exact List.splitOn_intercalate '\n' hlines (by simp [oneBlock])
  have hread := readsTo_oneBlock hname h
  rw [← hsplit] at hread
  rw [hread.ofText]
  rfl

theorem result_of_attribute_block_with_directions :
    let id : Attribute := ⟨"id", "int", [.primary, .foreign], some "number"⟩
    let layout : Attribute := ⟨"lr", "Direction", [], none⟩
    let side : Attribute := ⟨"LR", "direction", [.primary], none⟩
    let kind : Attribute := ⟨"erDiagram", "varchar( 9 )[]", [], none⟩
    let name := "LINE-ITEM_2".toList
    let entries : List (List Char × Attribute) :=
      [("\tint *id fk \"number\" ".toList, id), (" Direction  lr".toList, layout),
        ("direction LR PK".toList, side), ("varchar( 9 )[] erDiagram".toList, kind)]
    IsBareName name ∧ (∀ entry ∈ entries, Declares entry.1 entry.2) ∧
      (ofText (textOf (oneBlock name (entries.map (·.1))))).result =
        ⟨true, ⟨[⟨"LINE-ITEM_2", none, [id, side, kind]⟩], []⟩, none⟩ ∧ IsLayout layout := by
  intro id layout side kind name entries
  have hname : IsBareName name :=
    ⟨'L', "INE-ITEM_2".toList, by decide, by decide, List.all_eq_true.mp (by decide)⟩
  have hdeclares : ∀ entry ∈ entries, Declares entry.1 entry.2 := by
    simp only [entries, List.forall_mem_cons]
    exact ⟨⟨by decide, by decide +kernel⟩, ⟨by decide, by decide +kernel⟩,
      ⟨by decide, by decide +kernel⟩, ⟨by decide, by decide +kernel⟩, by simp⟩
  obtain ⟨hresult, hlayout⟩ := result_of_attribute_block hname hdeclares
  refine ⟨hname, hdeclares, hresult.trans (by decide +kernel), ?_⟩
  exact hlayout (" Direction  lr".toList, layout) (by simp [entries]) (by decide)

/-- Not every line that declares an attribute adds it to its block. -/
theorem attribute_line_lost_as_direction :
    ¬ ∀ (name : List Char) (entries : List (List Char × Attribute)), IsBareName name →
      (∀ entry ∈ entries, Declares entry.1 entry.2) →
        (ofText (textOf (oneBlock name (entries.map (·.1))))).result =
          ⟨true, ⟨[⟨String.ofList name, none, entries.map (·.2)⟩], []⟩, none⟩ := by
  intro h
  have hname : IsBareName "LAYOUT".toList :=
    ⟨'L', "AYOUT".toList, by decide, by decide, List.all_eq_true.mp (by decide)⟩
  have hdeclares : Declares "direction LR".toList ⟨"LR", "direction", [], none⟩ :=
    ⟨by decide, by decide +kernel⟩
  have hresult := h "LAYOUT".toList [("direction LR".toList, ⟨"LR", "direction", [], none⟩)] hname
    (by simpa using hdeclares)
  exact absurd hresult (by decide +kernel)

end EntityDiagram.Reading
