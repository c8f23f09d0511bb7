/-! # Line ends

Text from a file has one kind of line end, whichever the file was written with. Printed text keeps
a carriage return that does not belong to a line end.
-/

namespace EntityDiagram.Text

/-- Writes every line end as a line feed: a carriage return with a line feed after it, or alone. -/
def unifyNewlines : List Char → List Char
  | [] => []
  | '\r' :: '\n' :: rest => '\n' :: unifyNewlines rest
  | c :: rest => (if c = '\r' then '\n' else c) :: unifyNewlines rest

theorem unifyNewlines_of_not_mem {cs : List Char} (h : '\r' ∉ cs) :
    unifyNewlines cs = cs := by
  induction cs with
  | nil => rfl
  | cons c cs ih =>
      obtain ⟨hc, hcs⟩ := not_or.mp fun hmem => h (List.mem_cons.mpr hmem)
      simp [unifyNewlines, Ne.symm hc, ih hcs]

/-- Drops the carriage return of every line end that has one. -/
def dropReturns : List Char → List Char
  | [] => []
  | '\r' :: '\n' :: rest => '\n' :: dropReturns rest
  | c :: rest => c :: dropReturns rest

end EntityDiagram.Text
