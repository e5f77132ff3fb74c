/-! Membership in a set of code points that is given as an ascending list of closed ranges. -/

namespace PropertyLint.Text

/-- Whether `point` lies in one of the ascending closed ranges.
The search stops at the first range that starts above the point.
-/
def inRanges : List (Nat × Nat) → Nat → Bool
  | [], _ => false
  | (low, high) :: rest, point => low ≤ point && (point ≤ high || inRanges rest point)

end PropertyLint.Text
