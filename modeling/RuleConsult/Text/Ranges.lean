/-!
# Ranges of code points

A character class is given by the ranges of code points that it covers, in ascending order, and a
character is looked up by walking along them.
-/

namespace RuleConsult.Text

/-- Whether the code point lies in one of the closed ranges. The ranges are in ascending order, so
the walk stops at the first one that begins beyond it. -/
def inRanges : List (Nat × Nat) → Nat → Bool
  | [], _ => false
  | (low, high) :: rest, n =>
    if n < low then false else if n ≤ high then true else inRanges rest n

end RuleConsult.Text
