import EntityDiagram.Proofs.Lists
import EntityDiagram.Proofs.Reading.Consistency
import EntityDiagram.Proofs.Reading.Insertion
import EntityDiagram.Proofs.Text.Lower

/-! # Headers that a check does not find

Reading takes a line for the header if it is the word letter by letter, where the dotted capital I
and the dotless small i count as an i. A check looks for the word in the text in small letters,
where neither of the two is an i. So a check misses a header exactly if the text nowhere has the
word in ASCII letters, and no header that is spelled without the two.
-/

namespace EntityDiagram

/-! ## Lines of a text -/

theorem Reading.infix_of_mem_trimmedLines {text : String} {line : List Char}
    (h : line ∈ trimmedLines text) : line <:+: text.toList := by
  obtain ⟨whole, hwhole, rfl⟩ := List.mem_map.mp h
  obtain ⟨before, after, -, -, hpadded⟩ := Text.exists_trim whole
  have htrim : Text.trim whole <:+: whole := ⟨before, after, hpadded.symm⟩
  have hlines : whole <:+: ['\n'].intercalate (text.toList.splitOn '\n') :=
    infix_intercalate_of_mem hwhole
  rw [List.intercalate_splitOn] at hlines
  exact htrim.trans hlines

namespace Diagram

theorem place_ne_beforeHeader_iff (text : String) :
    (Reading.ofText text).place ≠ .beforeHeader ↔
      ∃ line ∈ Reading.trimmedLines text, Line.isHeader line = true := by
  have hplace := @Reading.place_run_numberedFrom_eq_beforeHeader_iff 0 (text.toList.splitOn '\n')
  rw [← Reading.linesOf_eq_numberedFrom] at hplace
  rw [Reading.ofText, ne_eq, hplace]
  simp [Reading.trimmedLines, Line.isHeader_trim]

/-! ## Checking a text with a header -/

theorem rejection_ne_missingHeader (line : NumberedLine) :
    Reading.rejection line ≠ missingHeader := by
  intro h
  have hhead := congrArg (fun s => s.toList.head?) h
  simp [Reading.rejection, missingHeader, String.toList_append] at hhead

theorem missingHeader_mem_errors_iff (text : String) :
    missingHeader ∈ (check text).errors ↔ ¬ Line.headerWord <:+: (Text.lower text).toList := by
  have hrejected : missingHeader ∉ (Reading.ofText text).errors := by
    rw [Reading.errors, List.mem_map]
    rintro ⟨line, -, hline⟩
    exact rejection_ne_missingHeader line hline
  change missingHeader ∈ problems text ↔ _
  rw [problems_eq, List.mem_append]
  by_cases h : Line.headerWord <:+: (Text.lower text).toList
  · simp [h, hrejected]
  · simp [h]

/-- Reading leaves what is before the header exactly when a line of the text is one. A check finds
a header exactly when the text has the word in ASCII letters anywhere, so it finds every line that
is the header and has neither a dotted capital I nor a dotless small i. -/
theorem missingHeader_not_mem_errors_iff_spelling (text : String) :
    ((Reading.ofText text).place ≠ .beforeHeader ↔
      ∃ line ∈ Reading.trimmedLines text, Line.isHeader line = true) ∧
    (missingHeader ∉ (check text).errors ↔
      ∃ part, part <:+: text.toList ∧ part.map Char.toLower = Line.headerWord) ∧
    ∀ line ∈ Reading.trimmedLines text, Line.isHeader line = true → 'İ' ∉ line → 'ı' ∉ line →
      missingHeader ∉ (check text).errors := by
  have hfound : missingHeader ∉ (check text).errors ↔
      ∃ part, part <:+: text.toList ∧ part.map Char.toLower = Line.headerWord := by
    rw [missingHeader_mem_errors_iff, not_not]
    exact Text.infix_lower_iff (by simp [Line.headerWord]) (by decide)
  refine ⟨place_ne_beforeHeader_iff text, hfound, fun line hline hheader hdotted hdotless => ?_⟩
  obtain ⟨whole, -, htrim⟩ := List.mem_map.mp hline
  have hword : Line.sameWord Line.headerWord line = true := by
    rw [← htrim, Line.isHeader_trim] at hheader
    rw [← htrim]
    exact hheader
  exact hfound.mpr ⟨line, Reading.infix_of_mem_trimmedLines hline,
    Line.map_toLower_of_sameWord_of_not_mem hword hdotted hdotless⟩

/-- A header with a dotless i starts a diagram, and a check says that there is no header. -/
theorem missingHeader_mem_errors_of_dotless :
    let text := "erDıagram\nCUSTOMER"
    (Reading.ofText text).place = .topLevel ∧
      (Reading.ofText text).result = ⟨true, ⟨[⟨"CUSTOMER", none, []⟩], []⟩, none⟩ ∧
      check text = ⟨false, [missingHeader]⟩ := by
  decide +kernel

end Diagram

end EntityDiagram
