import DiagramText.Text.Quoted

/-!
# Base 64

Four characters of an alphabet of 64 stand for three bytes.  A last group of two or three characters
is filled up with padding, which ends the text; all other characters are ignored.
-/

namespace DiagramText.Text.Base64

/-- What is wrong with a text. -/
inductive Flaw where
  /-- The text has a character beyond ASCII, or several in a row: the first, its place, and their
  number. -/
  | foreign (first : Char) (position width : Nat)
  /-- One character of the alphabet is left over; the number of all of them. -/
  | surplus (characters : Nat)
  /-- The last group is not filled up. -/
  | padding
deriving Repr, DecidableEq

/-- The wording of a flaw. -/
def Flaw.message : Flaw → String
  | foreign first position width =>
    let place :=
      if width = 1 then
        s!"character '{String.ofList (escapeCode first.toNat)}' in position {position}"
      else s!"characters in position {position}-{position + width - 1}"
    "failed to convert base64 data into ascii: 'ascii' codec can't encode " ++
      s!"{place}: ordinal not in range(128)"
  | surplus characters =>
    "failed to decode base64 data: Invalid base64-encoded string: number of data characters " ++
      s!"({characters}) cannot be 1 more than a multiple of 4"
  | padding => "failed to decode base64 data: Incorrect padding"

/-- The place of a character in the alphabet. -/
def value? (c : Char) : Option Nat :=
  if 'A' ≤ c && c ≤ 'Z' then some (c.toNat - 65)
  else if 'a' ≤ c && c ≤ 'z' then some (c.toNat - 71)
  else if '0' ≤ c && c ≤ '9' then some (c.toNat + 4)
  else if c = '+' then some 62
  else if c = '/' then some 63
  else none

/-- The bytes of a group, which is full or is followed by padding. -/
def groupBytes : List Nat → List Nat
  | [a, b] => [a * 4 + b / 16]
  | [a, b, c] => [a * 4 + b / 16, b % 16 * 16 + c / 4]
  | [a, b, c, d] => [a * 4 + b / 16, b % 16 * 16 + c / 4, c % 4 * 64 + d]
  | _ => []

/-- The bytes of a text behind `groups` full groups, the characters `held` of an open one, and
`pads` signs of padding. -/
def decodeFrom (groups : Nat) (held : List Nat) (pads : Nat) :
    List Char → Except Flaw (List Nat)
  | [] =>
    match held with
    | [] => .ok []
    | [_] => .error (.surplus (4 * groups + 1))
    | _ => .error .padding
  | c :: s =>
    if c = '=' then
      if held.length < 2 then decodeFrom groups held pads s
      else if 4 ≤ held.length + pads + 1 then .ok (groupBytes held)
      else decodeFrom groups held (pads + 1) s
    else
      match value? c with
      | none => decodeFrom groups held pads s
      | some v =>
        let held := held ++ [v]
        if held.length = 4 then do
          return groupBytes held ++ (← decodeFrom (groups + 1) [] 0 s)
        else decodeFrom groups held 0 s

/-- The bytes that a text stands for. -/
def decode (s : List Char) : Except Flaw (List Nat) :=
  let isForeign := fun c : Char => 0x80 ≤ c.toNat
  match s.dropWhile (!isForeign ·) with
  | [] => decodeFrom 0 [] 0 s
  | c :: r =>
    .error (.foreign c (s.length - (r.length + 1)) ((c :: r).takeWhile isForeign).length)

end DiagramText.Text.Base64
