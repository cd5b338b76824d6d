/-!
# Sets of code points

A character class is a list of ranges of code points.  A `Run` also has a step,
so that a class of every other code point is one run.
-/

namespace ResolverScaffold.Text

/-- Whether a code point lies in one of the ranges, ends included. -/
def inRanges (ranges : List (Nat × Nat)) (n : Nat) : Bool :=
  ranges.any fun r => r.1 ≤ n && n ≤ r.2

/-- Whether a code point lies in one of the runs `(first, last, step)`. -/
def inRuns (runs : List (Nat × Nat × Nat)) (n : Nat) : Bool :=
  runs.any fun r => r.1 ≤ n && n ≤ r.2.1 && (n - r.1) % r.2.2 == 0

end ResolverScaffold.Text
