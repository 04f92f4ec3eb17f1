/-!
# Runs of code points

A character class is a short list of runs, and so is a change of case: in both, neighbouring code
points behave alike, either all of them or every second one. The two table modules
`Text.CaseTable` and `Text.GlyphTable` are lists of the records below.
-/

namespace ConfigBinding.Text

/-- The code points `first`, `first + stride`, … up to `last`. -/
structure Run where
  first : Nat
  last : Nat
  stride : Nat

/-- Whether the code point `n` belongs to the run. -/
def Run.contains (r : Run) (n : Nat) : Bool :=
  r.first ≤ n && n ≤ r.last && (n - r.first) % r.stride == 0

/-- Whether one of the runs holds the code point `n`. -/
def Run.anyContains (rs : List Run) (n : Nat) : Bool :=
  rs.any (·.contains n)

/-- A run whose code points all move by the same distance. -/
structure ShiftRun where
  run : Run
  shift : Int

/-- Where the runs move the code point `n`; `none` when no run holds it. -/
def ShiftRun.shift? (rs : List ShiftRun) (n : Nat) : Option Nat :=
  (rs.find? (·.run.contains n)).map fun r => ((n : Int) + r.shift).toNat

end ConfigBinding.Text
