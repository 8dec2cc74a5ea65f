/-!
# Tables of code point ranges

Classes of characters beyond ASCII are given by closed ranges of code points in increasing order.
-/

namespace DiagramText.Text

/-- Whether `n` lies in one of the closed ranges, which stand in increasing order. -/
def inRanges (n : Nat) : List (Nat × Nat) → Bool
  | [] => false
  | (lo, hi) :: rs => lo ≤ n && (n ≤ hi || inRanges n rs)

end DiagramText.Text
