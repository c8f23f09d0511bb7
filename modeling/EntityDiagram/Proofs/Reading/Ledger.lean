import EntityDiagram.Proofs.Reading.Consistency
import EntityDiagram.Proofs.Reading.Insertion
import Mathlib.Data.List.Induction

/-! # The account of the lines in blocks

Whether a line belongs to a block depends on all the lines before it. The ledger of a run has the
lines that were offered to an open block, and the blocks themselves, with those that a later block
of the same name took the place of. Every line that was offered is in one column of the ledger: it
is an attribute of its block, or it is rejected.
-/

namespace EntityDiagram

/-- The heading of the block that declares an entity. -/
def Entity.heading (entity : Entity) : Line.Heading := ⟨entity.name, entity.displayName⟩

namespace Reading

open Line

/-! ## What is collected along a run -/

/-- Collects what each line gives in the reading before it. -/
def along {α : Type} (give? : Reading → NumberedLine → Option α) (reading : Reading) :
    List NumberedLine → List α
  | [] => []
  | line :: lines => (give? reading line).toList ++ along give? (reading.step line) lines

theorem along_append {α : Type} (give? : Reading → NumberedLine → Option α) (reading : Reading)
    (lines more : List NumberedLine) :
    along give? reading (lines ++ more) =
      along give? reading lines ++ along give? (lines.foldl step reading) more := by
  induction lines generalizing reading with
  | nil => rfl
  | cons line lines ih =>
      rw [List.cons_append, along, ih, along, List.append_assoc, List.foldl_cons]

theorem along_concat {α : Type} (give? : Reading → NumberedLine → Option α)
    (lines : List NumberedLine) (line : NumberedLine) :
    along give? {} (lines ++ [line]) = along give? {} lines ++ (give? (run lines) line).toList := by
  rw [along_append, along, along, List.append_nil]
  rfl

theorem run_concat (lines : List NumberedLine) (line : NumberedLine) :
    run (lines ++ [line]) = (run lines).step line := by
  rw [run, List.foldl_append]
  rfl

/-! ## The blocks of a run -/

def openBlock? (reading : Reading) : Option Entity :=
  match reading.place with
  | .inBlock entity => some entity
  | .beforeHeader => none
  | .topLevel => none

/-- The block that a line is offered to. -/
def blockOf? (reading : Reading) (line : NumberedLine) : Option Entity :=
  if IsOrdinary line.text.toList then reading.openBlock? else none

/-- The block that a line closes. -/
def closedBy? (reading : Reading) (line : NumberedLine) : Option Entity :=
  if classify line.text.toList = .closing then reading.openBlock? else none

/-- The heading of the block that a line opens. -/
def openedBy? (reading : Reading) (line : NumberedLine) : Option Heading :=
  match reading.place, classify line.text.toList with
  | .topLevel, .opening heading => some heading
  | _, _ => none

/-- The attribute that a line declares. -/
def declared? (line : NumberedLine) : Option Attribute := attribute? line.text.toList

def isRejected (line : NumberedLine) : Bool := (declared? line).isNone

/-- The line itself, if it is offered to a block. -/
def offered? (reading : Reading) (line : NumberedLine) : Option NumberedLine :=
  (reading.blockOf? line).map fun _ => line

/-- The lines that were offered to a block. -/
def entries (lines : List NumberedLine) : List NumberedLine := along offered? {} lines

/-- The headings of the blocks that were opened. -/
def openings (lines : List NumberedLine) : List Heading := along openedBy? {} lines

/-- The blocks as they were closed, and last the one that is still open. -/
def blocks (lines : List NumberedLine) : List Entity :=
  along closedBy? {} lines ++ (run lines).openBlock?.toList

/-! ## One line -/

theorem openBlock?_eq_some_iff {reading : Reading} {entity : Entity} :
    reading.openBlock? = some entity ↔ reading.place = .inBlock entity := by
  unfold openBlock?
  cases reading.place <;> simp

theorem blockOf?_eq_some_iff {reading : Reading} {line : NumberedLine} {entity : Entity} :
    reading.blockOf? line = some entity ↔
      reading.place = .inBlock entity ∧ IsOrdinary line.text.toList := by
  rw [blockOf?, Option.ite_none_right_eq_some, openBlock?_eq_some_iff, and_comm]

theorem blockOf?_eq_none_iff {reading : Reading} {line : NumberedLine} :
    reading.blockOf? line = none ↔
      ∀ entity, reading.place = .inBlock entity → ¬ IsOrdinary line.text.toList := by
  simp only [Option.eq_none_iff_forall_ne_some, ne_eq, blockOf?_eq_some_iff, not_and]

theorem step_of_blockOf? {reading : Reading} {line : NumberedLine} {entity : Entity}
    (h : reading.blockOf? line = some entity) :
    reading.step line = reading.stepInBlock entity line := by
  obtain ⟨hplace, hordinary⟩ := blockOf?_eq_some_iff.mp h
  exact step_inBlock hplace hordinary

/-- A line that is offered to no block rejects nothing, and leaves the open block as it is, closes
it, or opens one when there is none. -/
theorem step_of_blockOf?_eq_none {reading : Reading} {line : NumberedLine}
    (h : reading.blockOf? line = none) :
    (reading.step line).rejected = reading.rejected ∧
      (reading.closedBy? line).toList ++ (reading.step line).openBlock?.toList =
        reading.openBlock?.toList ++ (reading.openedBy? line).toList.map Entity.ofHeading := by
  cases hplace : reading.place with
  | beforeHeader =>
      cases hform : classify line.text.toList <;>
        simp [step, hform, hplace, closedBy?, openedBy?, openBlock?]
  | topLevel =>
      cases hform : classify line.text.toList <;>
        simp [step, hform, hplace, stepTopLevel, close, closedBy?, openedBy?, openBlock?]
  | inBlock entity =>
      have hordinary := blockOf?_eq_none_iff.mp h entity hplace
      rcases classify_of_not_isOrdinary hordinary with hform | hform | hform
      · have hkept := step_of_empty_or_direction hform reading
        rcases hform with hform | hform <;> simp [hkept, hform, hplace, closedBy?, openedBy?]
      · have hstarted : reading.place ≠ .beforeHeader := by simp [hplace]
        have hkept := step_of_header hstarted hform
        simp [hkept, hform, hplace, closedBy?, openedBy?]
      · have hclosed := step_closing hplace hform
        simp [hclosed, hform, hplace, close, closedBy?, openedBy?, openBlock?]

/-- What one line adds to each column of the ledger. -/
structure Booked (reading : Reading) (line : NumberedLine) (next : Reading) : Prop where
  rejected : next.rejected = reading.rejected ++ (reading.offered? line).toList.filter isRejected
  attributes :
    ((reading.closedBy? line).toList ++ next.openBlock?.toList).flatMap (·.attributes) =
      reading.openBlock?.toList.flatMap (·.attributes) ++
        (reading.offered? line).toList.filterMap declared?
  headings :
    ((reading.closedBy? line).toList ++ next.openBlock?.toList).map Entity.heading =
      reading.openBlock?.toList.map Entity.heading ++ (reading.openedBy? line).toList

theorem booked_step (reading : Reading) (line : NumberedLine) :
    Booked reading line (reading.step line) := by
  cases hblock : reading.blockOf? line with
  | none =>
      obtain ⟨hrejected, hblocks⟩ := step_of_blockOf?_eq_none hblock
      constructor
      · simp [hrejected, offered?, hblock]
      · simp [hblocks, offered?, hblock, Entity.ofHeading]
      · simp [hblocks, Entity.heading, Entity.ofHeading, Function.comp_def]
  | some entity =>
      obtain ⟨hplace, hordinary⟩ := blockOf?_eq_some_iff.mp hblock
      have hclosed : reading.closedBy? line = none :=
        if_neg (classify_ne_closing_of_isOrdinary hordinary)
      have hopened : reading.openedBy? line = none := by simp [openedBy?, hplace]
      rw [step_of_blockOf? hblock]
      cases hread : attribute? line.text.toList <;> constructor <;>
        simp [stepInBlock, hread, offered?, hblock, hclosed, hopened, openBlock?, hplace,
          isRejected, declared?, Entity.heading]

/-! ## Whole runs -/

theorem blocks_concat (lines : List NumberedLine) (line : NumberedLine) :
    blocks (lines ++ [line]) = along closedBy? {} lines ++
      (((run lines).closedBy? line).toList ++ ((run lines).step line).openBlock?.toList) := by
  rw [blocks, along_concat, run_concat, List.append_assoc]

theorem attributes_blocks_concat (lines : List NumberedLine) (line : NumberedLine) :
    (blocks (lines ++ [line])).flatMap (·.attributes) =
      (blocks lines).flatMap (·.attributes) ++
        ((run lines).offered? line).toList.filterMap declared? := by
  rw [blocks_concat, List.flatMap_append, (booked_step (run lines) line).attributes, blocks,
    List.flatMap_append, List.append_assoc]

theorem rejected_run (lines : List NumberedLine) :
    (run lines).rejected = (entries lines).filter isRejected := by
  induction lines using List.reverseRecOn with
  | nil => rfl
  | append_singleton lines line ih =>
      rw [run_concat, (booked_step (run lines) line).rejected, ih, entries, entries, along_concat,
        List.filter_append]

theorem attributes_blocks (lines : List NumberedLine) :
    (blocks lines).flatMap (·.attributes) = (entries lines).filterMap declared? := by
  induction lines using List.reverseRecOn with
  | nil => rfl
  | append_singleton lines line ih =>
      rw [attributes_blocks_concat, ih, entries, entries, along_concat, List.filterMap_append]

theorem headings_blocks (lines : List NumberedLine) :
    (blocks lines).map Entity.heading = openings lines := by
  induction lines using List.reverseRecOn with
  | nil => rfl
  | append_singleton lines line ih =>
      rw [blocks_concat, List.map_append, (booked_step (run lines) line).headings, openings,
        along_concat, ← openings, ← ih, blocks, List.map_append, List.append_assoc]

theorem entries_sublist (lines : List NumberedLine) : (entries lines).Sublist lines := by
  induction lines using List.reverseRecOn with
  | nil => exact List.Sublist.slnil
  | append_singleton lines line ih =>
      have hentry : ((run lines).offered? line).toList.Sublist [line] := by
        unfold offered?
        cases (run lines).blockOf? line <;> simp
      rw [entries, along_concat]
      exact ih.append hentry

theorem length_entries (lines : List NumberedLine) :
    (entries lines).length =
      (run lines).rejected.length + ((blocks lines).flatMap (·.attributes)).length := by
  have hkept : ∀ line, (declared? line).isSome = !isRejected line := by
    intro line
    rw [isRejected, Option.not_isNone]
  rw [attributes_blocks, rejected_run, List.length_filterMap_eq_countP,
    List.countP_eq_length_filter, List.length_eq_length_filter_add isRejected]
  simp only [hkept]

/-! ## Texts -/

theorem pairwise_number_linesOf (text : String) :
    (linesOf text).Pairwise (·.number < ·.number) := by
  rw [List.pairwise_iff_getElem]
  intro i j hi hj hlt
  simpa [linesOf] using hlt

theorem take_linesOf {text : String} {index : Nat} {raw : List Char}
    (h : (text.toList.splitOn '\n')[index]? = some raw) :
    (linesOf text).take (index + 1) =
      (linesOf text).take index ++ [⟨index + 1, String.ofList (Text.trim raw)⟩] := by
  rw [List.take_add_one]
  simp [linesOf, List.getElem?_mapIdx, h]

/-- An offered line does one of two things to its block. -/
theorem xor_step_of_blockOf? {reading : Reading} {line : NumberedLine} {entity : Entity}
    (h : reading.blockOf? line = some entity) :
    Xor
      (∃ attr, attribute? line.text.toList = some attr ∧
        reading.step line = { reading with
          place := .inBlock { entity with attributes := entity.attributes ++ [attr] } })
      (reading.step line = { reading with rejected := reading.rejected ++ [line] }) := by
  have hrejected : reading.rejected ≠ reading.rejected ++ [line] := by simp
  rw [step_of_blockOf? h, stepInBlock]
  cases hread : attribute? line.text.toList with
  | some attr =>
      refine .inl ⟨⟨attr, rfl, rfl⟩, ?_⟩
      intro heq
      exact hrejected (congrArg Reading.rejected heq)
  | none =>
      refine .inr ⟨rfl, ?_⟩
      rintro ⟨attr, hattr, -⟩
      contradiction

/-- What a line does to the ledger of the lines before it. -/
theorem line_booked (before : List NumberedLine) (line : NumberedLine) :
    (∀ entity, (run before).place = .inBlock entity → IsOrdinary line.text.toList →
      Xor
        (∃ attr, attribute? line.text.toList = some attr ∧
          run (before ++ [line]) = { run before with
            place := .inBlock { entity with attributes := entity.attributes ++ [attr] } })
        (run (before ++ [line]) = { run before with
          rejected := (run before).rejected ++ [line] })) ∧
    ((∀ entity, (run before).place = .inBlock entity → ¬ IsOrdinary line.text.toList) →
      (run (before ++ [line])).rejected = (run before).rejected ∧
      (blocks (before ++ [line])).flatMap (·.attributes) =
        (blocks before).flatMap (·.attributes)) := by
  rw [attributes_blocks_concat, run_concat]
  constructor
  · intro entity hplace hordinary
    exact xor_step_of_blockOf? (blockOf?_eq_some_iff.mpr ⟨hplace, hordinary⟩)
  · intro hnone
    have hblock := blockOf?_eq_none_iff.mpr hnone
    have hoffered : (run before).offered? line = none := by rw [offered?, hblock, Option.map_none]
    refine ⟨(step_of_blockOf?_eq_none hblock).1, ?_⟩
    rw [hoffered]
    exact List.append_nil _

/-- Every line that is read in an open block, and is not blank, a remark, a header, a direction or
the end of the block, is booked once: as an attribute of that block or as an error. No other line
adds an attribute or an error. The errors are then the rejected lines in the order of their numbers,
and the blocks, those that were replaced too, have an attribute for each of the other lines. -/
theorem block_lines_booked_once (text : String) :
    let lines := linesOf text
    (∀ (index : Nat) (raw : List Char), (text.toList.splitOn '\n')[index]? = some raw →
      let line : NumberedLine := ⟨index + 1, String.ofList (Text.trim raw)⟩
      let reading := run (lines.take index)
      let next := run (lines.take (index + 1))
      (∀ entity, reading.place = .inBlock entity → IsOrdinary (Text.trim raw) →
        Xor
          (∃ attr, attribute? (Text.trim raw) = some attr ∧
            next = { reading with
              place := .inBlock { entity with attributes := entity.attributes ++ [attr] } })
          (next = { reading with rejected := reading.rejected ++ [line] })) ∧
      ((∀ entity, reading.place = .inBlock entity → ¬ IsOrdinary (Text.trim raw)) →
        next.rejected = reading.rejected ∧
        (blocks (lines.take (index + 1))).flatMap (·.attributes) =
          (blocks (lines.take index)).flatMap (·.attributes))) ∧
    ((ofText text).result.errors.getD [] =
      ((entries lines).filter fun line => (attribute? line.text.toList).isNone).map fun line =>
        "Line " ++ toString line.number ++ ": Unable to parse attribute: \"" ++ line.text ++ "\"") ∧
    (entries lines).Pairwise (·.number < ·.number) ∧
    (blocks lines).map Entity.heading = openings lines ∧
    (blocks lines).flatMap (·.attributes) =
      (entries lines).filterMap (fun line => attribute? line.text.toList) ∧
    (entries lines).length = ((ofText text).result.errors.getD []).length +
      ((blocks lines).flatMap (·.attributes)).length := by
  intro lines
  have herrors := getD_errors_result (ofText text)
  refine ⟨?_, ?_, ?_, headings_blocks lines, attributes_blocks lines, ?_⟩
  · intro index raw hraw line reading next
    have htake : lines.take (index + 1) = lines.take index ++ [line] := take_linesOf hraw
    have htext : line.text.toList = Text.trim raw := String.toList_ofList
    have hline := line_booked (lines.take index) line
    rwa [← htake, htext] at hline
  · rw [herrors, errors, ofText, rejected_run]
    rfl
  · exact (pairwise_number_linesOf text).sublist (entries_sublist lines)
  · rw [herrors, errors, List.length_map]
    exact length_entries lines

/-- A block that looks nested is a rejected line, and the brace that was meant to close it closes
the outer block. The second block takes the place of the first, and is open at the end. -/
theorem block_lines_booked_once_in_replaced_block :
    let text := "erDiagram\nA \x7b\n int id\n B \x7b\n erDiagram\n \x7d\n\x7d\nA \x7b\n int x\n ?"
    let lines := linesOf text
    let first : Entity := ⟨"A", none, [⟨"id", "int", [], none⟩]⟩
    let second : Entity := ⟨"A", none, [⟨"x", "int", [], none⟩]⟩
    let nested := " B \x7b".toList
    let header := " erDiagram".toList
    (text.toList.splitOn '\n')[3]? = some nested ∧ (text.toList.splitOn '\n')[4]? = some header ∧
      (run (lines.take 3)).place = .inBlock first ∧ IsOrdinary (Text.trim nested) ∧
      ¬ IsOrdinary (Text.trim header) ∧
      run (lines.take 4) = { run (lines.take 3) with rejected := [⟨4, "B \x7b"⟩] } ∧
      (run (lines.take 5)).rejected = (run (lines.take 4)).rejected ∧
      (ofText text).result.errors = some ["Line 4: Unable to parse attribute: \"B \x7b\"",
        "Line 10: Unable to parse attribute: \"?\""] ∧
      blocks lines = [first, second] ∧ (ofText text).result.schema.entities = [second] ∧
      (entries lines).length = ((ofText text).result.errors.getD []).length + 2 := by
  intro text lines first second nested header
  have hnested : (text.toList.splitOn '\n')[3]? = some nested := by decide +kernel
  have hheader : (text.toList.splitOn '\n')[4]? = some header := by decide +kernel
  have hplace : (run (lines.take 3)).place = .inBlock first := by decide +kernel
  have hordinary : IsOrdinary (Text.trim nested) := by decide +kernel
  have hskipped : ¬ IsOrdinary (Text.trim header) := by decide +kernel
  have hread : attribute? (Text.trim nested) = none := by decide +kernel
  have hblocks : blocks lines = [first, second] := by decide +kernel
  obtain ⟨hlines, -, -, -, -, hlength⟩ := block_lines_booked_once text
  have hrejected :
      run (lines.take 4) = { run (lines.take 3) with rejected := [⟨4, "B \x7b"⟩] } := by
    have hone := (hlines 3 nested hnested).1 first hplace hordinary
    rcases hone with ⟨⟨attr, hattr, -⟩, -⟩ | ⟨hnext, -⟩
    · rw [hread] at hattr
      contradiction
    · exact hnext.trans (by decide +kernel)
  have hkept := ((hlines 4 header hheader).2 fun _ _ => hskipped).1
  refine ⟨hnested, hheader, hplace, hordinary, hskipped, hrejected, hkept, by decide +kernel,
    hblocks, by decide +kernel, ?_⟩
  exact hlength.trans (by rw [hblocks]; rfl)

end Reading

end EntityDiagram
