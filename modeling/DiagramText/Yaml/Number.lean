import DiagramText.Number.Binary64
import DiagramText.Text.Blank
import DiagramText.Text.Digit
import DiagramText.Text.Lower
import DiagramText.Yaml.Cursor
import DiagramText.Yaml.Value

/-!
# Numbers

Underscores in a number are ignored, and colons separate its digits in base 60.

1. `integerValue` reads an integer: binary, octal, hexadecimal, decimal or in base 60.
2. `decimalValue` reads a number with a fraction.
-/

namespace DiagramText.Yaml

open Text

/-- The sign in front of a number, and the rest of it. -/
def signed (s : List Char) : Bool × List Char :=
  match s with
  | '-' :: r => (true, r)
  | '+' :: r => (false, r)
  | _ => (false, s)

/-- The characters that may stand around a number: blanks, but for the separators of records. -/
def isMargin (ch : Char) : Bool := isBlank ch && !('\x1c' ≤ ch && ch ≤ '\x1f')

/-- A text without the margins around it. -/
def withoutMargins (s : List Char) : List Char :=
  ((s.dropWhile isMargin).reverse.dropWhile isMargin).reverse

/-- A text with ASCII digits in place of the digits of other scripts. -/
def plainDigits (s : List Char) : List Char :=
  s.map fun ch => ((digitValue? ch).map fun n => Char.ofNat (n + 48)).getD ch

/-! ## Integers -/

/-- The value of a digit, or of a letter that counts as one. -/
def digitIn? (base : Nat) (ch : Char) : Option Nat := do
  guard (ch.isAlphanum && digitOf ch < base)
  return digitOf ch

/-- The letter that may follow a zero in front of the digits of a base. -/
def baseLetter? : Nat → Option Char
  | 2 => some 'b'
  | 8 => some 'o'
  | 16 => some 'x'
  | _ => none

/-- The digits of a number without the zero and the letter that name its base. -/
def withoutBase (base : Nat) (s : List Char) : List Char :=
  match s with
  | '0' :: c :: r => if baseLetter? base = some c.toLower then r else s
  | _ => s

/-- A number in the given base, with digits of any script, margins around it and possibly a sign. -/
def integerIn (base : Nat) (text : List Char) : Except Fault Int :=
  let (negative, s) := signed (plainDigits (withoutMargins text))
  let digits := withoutBase base s
  let width := (digits.takeWhile Char.isDigit).length
  if base = 10 ∧ mostDigits < width then .error (.longInteger width)
  else
    match digits, digits.mapM (digitIn? base) with
    | _ :: _, some values =>
      let n : Nat := values.foldl (fun n d => base * n + d) 0
      .ok (if negative then -(n : Int) else n)
    | _, _ => .error (.integer base (String.ofList text))

/-- The integer that digits of base 60 stand for, most significant first. -/
def sexagesimal (digits : List Int) : Int := digits.foldl (fun n d => 60 * n + d) 0

/-- An integer without a sign. -/
def magnitude (s : List Char) : Except Fault Int :=
  match s with
  | [] => .error .emptyNumber
  | ['0'] => .ok 0
  | '0' :: 'b' :: r => integerIn 2 r
  | '0' :: 'x' :: r => integerIn 16 r
  | '0' :: _ => integerIn 8 s
  | _ =>
    if s.contains ':' then do return sexagesimal (← (splitOn ':' s).mapM (integerIn 10))
    else integerIn 10 s

/-- The integer that a text is forced to be. -/
def integerValue (text : String) : Except Fault Int := do
  let (negative, s) := signed (text.toList.filter (· != '_'))
  let n ← magnitude s
  return if negative then -n else n

/-! ## Numbers with a fraction -/

/-- The infinite double. -/
def infinite : Float := Float.ofBits Binary64.infinity.toUInt64

/-- A double that is no number. -/
def notANumber : Float := Float.ofBits 0x7ff8000000000000

/-- A decimal number: the value of its digits, how many of them count, and the power of ten to
multiply with. -/
structure Decimal where
  digits : Nat
  width : Nat
  exponent : Int
deriving Repr, DecidableEq

/-- The double nearest to a decimal number.  One whose first digit is far outside the range of
doubles is infinite or zero. -/
def Decimal.toFloat (d : Decimal) : Float :=
  let lead := d.width + d.exponent
  if d.digits = 0 || lead < -400 then 0.0
  else if 400 < lead then infinite
  else if 0 ≤ d.exponent then Binary64.ofDecimal (d.digits * Nat.pow 10 d.exponent.toNat) 0
  else Binary64.ofDecimal d.digits d.exponent.natAbs

/-- The exponent behind the digits of a decimal number. -/
def exponent? (s : List Char) : Option Int :=
  match s with
  | [] => some 0
  | 'e' :: r => do
    let (negative, ds) := signed r
    guard (ds != [] && ds.all isDigit)
    let n : Int := digitsValue ds
    return if negative then -n else n
  | _ => none

/-- A decimal number without a sign: digits, possibly a point and more digits, and possibly an
exponent. -/
def Decimal.read? (s : List Char) : Option Decimal := do
  let whole := s.takeWhile isDigit
  let r := s.dropWhile isDigit
  let (places, r) :=
    match r with
    | '.' :: q => (q.takeWhile isDigit, q.dropWhile isDigit)
    | _ => ([], r)
  let digits := whole ++ places
  guard (digits != [])
  let exponent ← exponent? r
  let significant := digits.dropWhile (digitValue? · == some 0)
  return ⟨digitsValue digits, significant.length, exponent - places.length⟩

/-- A number in small letters, with margins around it and possibly a sign. -/
def floatValue (text : List Char) : Except Fault Float :=
  let (negative, s) := signed (withoutMargins text)
  let found :=
    if s = "inf".toList || s = "infinity".toList then some infinite
    else if s = "nan".toList then some notANumber
    else (Decimal.read? s).map Decimal.toFloat
  match found with
  | some x => .ok (if negative then -x else x)
  | none => .error (.decimal (String.ofList text))

/-- The sum of digits of base 60, least significant first, from the power `place` on. -/
def sexagesimalSum : (place : Nat) → (sum : Float) → List Float → Except Fault Float
  | _, sum, [] => .ok sum
  | place, sum, d :: ds =>
    let power := Binary64.ofDecimal (Nat.pow 60 place) 0
    if power == infinite then .error .widePlace
    else sexagesimalSum (place + 1) (sum + d * power) ds

/-- A number with a fraction, in small letters and without its first sign. -/
def decimalMagnitude (s : List Char) : Except Fault Float :=
  if s = ".inf".toList then .ok infinite
  else if s.contains ':' then do
    sexagesimalSum 0 0.0 (← (splitOn ':' s).mapM floatValue).reverse
  else floatValue s

/-- The number with a fraction that a text is forced to be. -/
def decimalValue (text : String) : Except Fault Value := do
  let spelled := lower (text.toList.filter (· != '_'))
  let (negative, s) := signed spelled
  if spelled == [] then .error .emptyNumber
  else if s = ".nan".toList then return .nan
  else
    let x ← decimalMagnitude s
    return .float (if negative then -x else x)

end DiagramText.Yaml
