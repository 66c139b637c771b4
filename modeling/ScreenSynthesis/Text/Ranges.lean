/-!
# Tables of code point ranges

A character property is kept as its ranges of code points, in increasing order. `inRanges` looks a
code point up.
-/

namespace ScreenSynthesis.Text

/-- Inclusive ranges of code points, in increasing order. -/
abbrev Ranges := List (Nat × Nat)

/-- Whether `n` lies in one of the ranges. The search ends at the first range that starts above
`n`. -/
def inRanges : Ranges → Nat → Bool
  | [], _ => false
  | (low, high) :: rest, n =>
    if n < low then false else if n ≤ high then true else inRanges rest n

end ScreenSynthesis.Text
