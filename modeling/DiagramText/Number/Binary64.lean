/-!
# Double precision from exact ratios

A decimal number is an exact ratio of naturals; `Binary64.ofRatio` gives the nearest double, a tie
going to the even neighbour.  With `q` the exponent of the last place, a finite double `m * 2 ^ q`
has the bit pattern `m + (q + 1074) * 2 ^ 52`, and every pattern from `infinity` on is an overflow.
-/

namespace DiagramText.Binary64

/-- The quotient rounded to the nearest natural, a tie going to the even one. -/
def roundDiv (num den : Nat) : Nat :=
  let m := num / den
  let twice := 2 * (num % den)
  if twice < den then m else if den < twice then m + 1 else m + m % 2

/-- The bit pattern of positive infinity. -/
def infinity : Nat := 0x7ff <<< 52

/-- The exponent of the last place of the double nearest to `num / den`, plus 1074: zero for the
smallest numbers, else such that the quotient has 53 binary digits. -/
def place (num den : Nat) : Nat :=
  -- `e - bias` is the exponent of the leading digit, or one more than it
  let bias := 2000
  let e := bias + num.log2 - den.log2
  let lead := if num <<< bias < den <<< e then e - 1 else e
  lead + 1074 - 52 - bias

/-- The bit pattern of the double nearest to `num / den`. -/
def bits (num den : Nat) : Nat :=
  let p := place num den
  -- `num / (den * 2 ^ (p - 1074))`
  let m := if 1074 ≤ p then roundDiv num (den <<< (p - 1074)) else roundDiv (num <<< (1074 - p)) den
  min (m + (p <<< 52)) infinity

/-- The double nearest to `num / den`, where `den` is positive. -/
def ofRatio (num den : Nat) : Float :=
  if num = 0 then 0.0 else Float.ofBits (bits num den).toUInt64

/-- The double nearest to `digits / 10 ^ places`. -/
def ofDecimal (digits places : Nat) : Float := ofRatio digits (Nat.pow 10 places)

end DiagramText.Binary64
