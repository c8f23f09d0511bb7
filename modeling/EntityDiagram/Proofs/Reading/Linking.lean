import EntityDiagram.Proofs.Line.Exclusion
import EntityDiagram.Proofs.Reading.Extension

/-! # Relationship lines in any spelling

A relationship line may have its names bare, between quotes or between escaped quotes, any blanks or
none between its parts, and a quote on either side of its label. A bare name can then run into the
symbol after it, since both may have an o there; the line is still cut where it was written, and
outside blocks it adds the relationship that it was written for.
-/

namespace EntityDiagram

open Line

theorem Cardinality.ofSymbol?_text (symbol : Symbol) :
    ofSymbol? symbol.text = some symbol.cardinality := by
  have hall : ∀ entry ∈ symbols, ofSymbol? entry.1 = some entry.2 := by decide
  exact hall _ symbol.mem_symbols

namespace Reading

theorem step_linkLine (line : LinkLine) {reading : Reading} (hplace : reading.place = .topLevel)
    (number : Nat) :
    reading.step ⟨number, String.ofList (Text.trim line.text)⟩ =
      { reading with
        entities :=
          Entity.ensure { name := line.relationship.second }
            (Entity.ensure { name := line.relationship.first } reading.entities)
        relationships := reading.relationships ++ [line.relationship] } := by
  obtain ⟨other, htext, hlinked⟩ := line.exists_trimmed
  apply step_relationship hplace
  rw [String.toList_ofList, ← htext, ← hlinked]
  exact classify_of_relationship? other.relationship?_text

/-- A relationship line that follows a text outside blocks adds one relationship, and the entities
that it names, and nothing else. Its ends are the names without their quotes, its cardinalities are
those that the table has for the symbols, a solid connector makes it identifying, and its label is
trimmed. -/
theorem ofText_append_linkLine (line : LinkLine) {text : String}
    (hplace : (ofText text).place = .topLevel) (honeLine : '\n' ∉ line.text) :
    let earlier := ofText text
    let linked := line.relationship
    ofText (text ++ "\n" ++ String.ofList line.text) =
        { earlier with
          entities :=
            Entity.ensure { name := linked.second }
              (Entity.ensure { name := linked.first } earlier.entities)
          relationships := earlier.relationships ++ [linked] } ∧
      (linked.first = Name.unquote (String.ofList line.first.text) ∧
        linked.second = Name.unquote (String.ofList line.second.text)) ∧
      (Cardinality.ofSymbol? line.left.text = some linked.firstCardinality ∧
        Cardinality.ofSymbol? line.right.text = some linked.secondCardinality) ∧
      (linked.identifying = true ↔ connector line.identifying = ['-', '-']) ∧
      linked.label = String.ofList (Text.trim line.label) := by
  intro earlier linked
  have hunquote : ∀ written : WrittenName,
      String.ofList written.name = Name.unquote (String.ofList written.text) := by
    intro written
    rw [Name.unquote, String.toList_ofList, written.unquoteChars_text]
  have hconnector : line.identifying = true ↔ connector line.identifying = ['-', '-'] := by
    cases line.identifying <;> decide
  obtain ⟨number, hstep⟩ := exists_ofText_append_line honeLine text
  exact ⟨hstep.trans (step_linkLine line hplace number),
    ⟨hunquote line.first, hunquote line.second⟩,
    ⟨Cardinality.ofSymbol?_text line.left, Cardinality.ofSymbol?_text line.right⟩, hconnector, rfl⟩

/-- The first name ends in two letters o and the symbol after it starts with a third one; the second
name looks like a label. -/
theorem ofText_append_linkLine_without_blanks :
    let text := "erDiagram\nzoo \x7b\n  int id\n\x7d"
    let line : LinkLine := {
      first := .bare "zoo".toList ⟨'z', ['o', 'o'], rfl, by decide, List.all_eq_true.mp (by decide)⟩
      beforeLink := Text.noBlanks
      left := ⟨['o', '\x7b'], .zeroOrMore, by decide⟩
      identifying := false
      right := ⟨['|', 'o'], .zeroOrOne, by decide⟩
      afterLink := Text.noBlanks
      second := .escaped "a : b".toList ⟨by decide, by decide⟩
      beforeColon := Text.noBlanks
      afterColon := ⟨['\t'], List.forall_mem_singleton.mpr (by decide)⟩
      quoteBefore := true
      label := " has -- ".toList
      quoteAfter := false
      quote_not_mem := by decide
      exists_not_blank := ⟨'h', by decide, by decide⟩ }
    (ofText text).place = .topLevel ∧ '\n' ∉ line.text ∧
      String.ofList line.text = "zooo\x7b..|o\\\"a : b\\\":\t\" has -- " ∧
      (ofText (text ++ "\n" ++ String.ofList line.text)).relationships =
        [⟨"zoo", "a : b", .zeroOrMore, .zeroOrOne, false, "has --"⟩] := by
  intro text line
  have hplace : (ofText text).place = .topLevel := by decide +kernel
  have honeLine : '\n' ∉ line.text := by decide
  have hempty : (ofText text).relationships = [] := by decide +kernel
  obtain ⟨hread, -⟩ := ofText_append_linkLine line hplace honeLine
  refine ⟨hplace, honeLine, by decide, ?_⟩
  rw [hread, hempty]
  decide

end Reading

end EntityDiagram
