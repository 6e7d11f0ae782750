/-!
# Ranges of code points

A character property is stored as a list of closed ranges of code points in ascending order.
-/

namespace Concordance.Text

/-- Whether `n` lies in one of the ranges; the search stops at the first range that begins above
`n`. -/
def inRanges : List (Nat × Nat) → Nat → Bool
  | [], _ => false
  | r :: rs, n => if n < r.1 then false else n ≤ r.2 || inRanges rs n

end Concordance.Text
