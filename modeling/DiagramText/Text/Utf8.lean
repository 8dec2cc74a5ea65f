import DiagramText.Text.Quoted

/-!
# UTF-8

`Utf8.decode` reads bytes as UTF-8.  A character beyond ASCII is a leading byte and one to three
more, and the leading byte restricts the one behind it, so that every character has one encoding and
surrogates have none.  `Utf8.Flaw.message` says what is wrong with bytes that are no UTF-8.
-/

namespace DiagramText.Text.Utf8

/-- What is wrong with a sequence of bytes. -/
inductive Cause where
  /-- No character starts with this byte. -/
  | start
  /-- A byte inside a character is none that may stand there. -/
  | continuation
  /-- The bytes end inside a character. -/
  | truncated
deriving Repr, DecidableEq

/-- The wording of a cause. -/
def Cause.text : Cause → String
  | start => "invalid start byte"
  | continuation => "invalid continuation byte"
  | truncated => "unexpected end of data"

/-- Bytes that are no character: what is wrong, the place and value of the first, and the number of
them. -/
structure Flaw where
  cause : Cause
  position : Nat
  byte : Nat
  width : Nat
deriving Repr, DecidableEq

/-- The wording of a flaw. -/
def Flaw.message (f : Flaw) : String :=
  let place :=
    if f.width = 1 then s!"byte 0x{String.ofList (hex 2 f.byte)} in position {f.position}"
    else s!"bytes in position {f.position}-{f.position + f.width - 1}"
  s!"'utf-8' codec can't decode {place}: {f.cause.text}"

/-- For a leading byte beyond ASCII, the number of bytes behind it and the least and greatest value
of the first of them. -/
def lead? (b : Nat) : Option (Nat × Nat × Nat) :=
  if b < 0xc2 then none
  else if b < 0xe0 then some (1, 0x80, 0xbf)
  else if b < 0xf0 then some (2, if b = 0xe0 then 0xa0 else 0x80, if b = 0xed then 0x9f else 0xbf)
  else if b < 0xf5 then some (3, if b = 0xf0 then 0x90 else 0x80, if b = 0xf4 then 0x8f else 0xbf)
  else none

/-- The bits that a leading byte with `more` bytes behind it gives. -/
def leadBits (more b : Nat) : Nat := b % (if more = 1 then 32 else if more = 2 then 16 else 8)

/-- The code point that starts with the bits `code` and goes on with `more` bytes, the next of them
between `lo` and `hi`; else the cause, and how many bytes fit. -/
def continued (code lo hi : Nat) : (more : Nat) → List Nat → Except (Cause × Nat) Nat
  | 0, _ => .ok code
  | _ + 1, [] => .error (.truncated, 0)
  | more + 1, b :: s =>
    if lo ≤ b && b ≤ hi then
      (continued (code * 64 + b % 64) 0x80 0xbf more s).mapError fun (cause, n) => (cause, n + 1)
    else .error (.continuation, 0)

/-- The characters that bytes stand for; `position` bytes stand in front of them. -/
def decodeFrom (position : Nat) : (fuel : Nat) → List Nat → Except Flaw (List Char)
  | 0, _ => .ok []
  | _ + 1, [] => .ok []
  | fuel + 1, b :: s =>
    if b < 0x80 then do
      return Char.ofNat b :: (← decodeFrom (position + 1) fuel s)
    else
      match lead? b with
      | none => .error ⟨.start, position, b, 1⟩
      | some (more, lo, hi) =>
        match continued (leadBits more b) lo hi more s with
        | .error (cause, n) => .error ⟨cause, position, b, n + 1⟩
        | .ok code => do
          return Char.ofNat code :: (← decodeFrom (position + more + 1) fuel (s.drop more))

/-- The characters that bytes stand for. -/
def decode (bytes : List Nat) : Except Flaw (List Char) := decodeFrom 0 bytes.length bytes

end DiagramText.Text.Utf8
