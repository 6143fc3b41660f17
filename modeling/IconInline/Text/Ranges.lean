/-!
# Sets of code points as ranges

A set of code points is written as its closed ranges in ascending order. Membership is a
search from the front that stops as soon as the ranges have passed the code point.
-/

namespace IconInline.Text

/-- Lies in one of the ascending closed ranges. -/
def inRanges : List (Nat × Nat) → Nat → Bool
  | [], _ => false
  | (lo, hi) :: rest, n => if n < lo then false else if n ≤ hi then true else inRanges rest n

end IconInline.Text
