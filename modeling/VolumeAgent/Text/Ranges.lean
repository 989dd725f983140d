/-!
# Membership in a sorted list of ranges
-/

namespace VolumeAgent.Text

/-- Whether a number lies in one of the ranges, given by first and last
member in increasing order. The search stops at the first range above it. -/
def inRanges : List (Nat × Nat) → Nat → Bool
  | [], _ => false
  | (first, last) :: rest, n =>
    if n < first then false else if n ≤ last then true else inRanges rest n

end VolumeAgent.Text
