/-! # Runs of letters with a common distance to their other case -/

namespace EntityDiagram.Text

/-- The code points `first`, `first + stride`, …, `last`, each `shift` away from its other case. -/
structure CaseRun where
  first : Nat
  last : Nat
  stride : Nat
  shift : Int
  deriving Repr, DecidableEq

/-- Whether `n` is one of the code points of the run. -/
def CaseRun.covers (run : CaseRun) (n : Nat) : Bool :=
  run.first ≤ n && n ≤ run.last && (n - run.first) % run.stride == 0

/-- The other case of `n` by the first run that covers it, and `n` itself when none does. The runs
must ascend by their first code points. -/
def shiftBy : List CaseRun → Nat → Nat
  | [], n => n
  | run :: rest, n =>
      if n < run.first then n
      else if run.covers n then (n + run.shift).toNat
      else shiftBy rest n

end EntityDiagram.Text
