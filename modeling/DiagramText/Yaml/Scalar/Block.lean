import DiagramText.Yaml.Cursor

/-!
# Block scalars

A block scalar starts with a bar, which keeps line breaks, or with an angle bracket, which folds
them into spaces.  Indicators behind it say what happens to the breaks at the end and how far the
text is indented.
-/

namespace DiagramText.Yaml

/-- What happens to the line breaks at the end of a block scalar. -/
inductive Chomping where
  | strip
  | clip
  | keep
deriving Repr, DecidableEq

/-- The chomping indicator, if there is one. -/
def chomping? (c : Cursor) : Option Chomping × Cursor :=
  if c.peek = '+' then (some .keep, c.next)
  else if c.peek = '-' then (some .strip, c.next)
  else (none, c)

/-- The indentation indicator, if there is one. -/
def increment? (c : Cursor) : Except Failure (Option Nat × Cursor) :=
  if c.peek = '0' then c.fail "expected indentation indicator in the range 1-9, but found 0"
  else if c.peek.isDigit then .ok (some (digitOf c.peek), c.next)
  else .ok (none, c)

/-- The indicators of a block scalar, in either order, and the rest of their line. -/
def indicators (c : Cursor) : Except Failure (Chomping × Option Nat × Cursor) := do
  let (first, c) := chomping? c
  let (increment, c) ← increment? c
  let (second, c) := if first.isNone then chomping? c else (none, c)
  if isSpaceOrEnd c.peek then
    return ((first <|> second).getD .clip, increment, ← ignoredLine c)
  else c.unexpected "chomping or indentation indicators"

/-- The place behind the spaces in front of the column `indent`. -/
def toIndent (indent : Nat) (c : Cursor) : Cursor :=
  Cursor.skip (min (indent - c.column) (c.rest.takeWhile (· == ' ')).length) c

/-- The number of empty lines, which hold at most the spaces of the indentation, and the place
behind them; `fuel` bounds their number. -/
def emptyLines (indent : Nat) : (fuel : Nat) → Cursor → Nat × Cursor
  | 0, c => (0, c)
  | fuel + 1, c =>
    let c := toIndent indent c
    if c.peek = '\n' then
      let (n, c) := emptyLines indent fuel c.next
      (n + 1, c)
    else (0, c)

/-- The empty lines in front of a text whose indentation is not given: their number, the width of
the widest run of spaces, and the place behind them. -/
def leadingLines : (fuel width : Nat) → Cursor → Nat × Nat × Cursor
  | 0, width, c => (0, width, c)
  | fuel + 1, width, c =>
    if c.peek = ' ' then leadingLines fuel (max width c.next.column) c.next
    else if c.peek = '\n' then
      let (n, width, c) := leadingLines fuel width c.next
      (n + 1, width, c)
    else (0, width, c)

/-- The lines of a block scalar, and how they end. -/
structure BlockLines where
  text : List Char
  /-- Whether a line break ends the last line. -/
  broken : Bool
  /-- The number of empty lines behind it. -/
  empty : Nat
  rest : Cursor

/-- The lines of a block scalar behind `empty` empty lines; `fuel` bounds their number. -/
def blockLines (folded : Bool) (indent : Nat) : (fuel empty : Nat) → Cursor → BlockLines
  | 0, empty, c => ⟨[], false, empty, c⟩
  | fuel + 1, empty, c =>
    if c.column = indent ∧ c.peek ≠ stop then
      let flush := !isGap c.peek
      let (line, c) := c.run (!isLineEnd ·)
      let broken := c.peek == '\n'
      let text := List.replicate empty '\n' ++ line
      let (empty, c) := emptyLines indent (c.rest.length + 1) c.next
      if c.column = indent ∧ c.peek ≠ stop then
        let glue :=
          if folded && flush && !isGap c.peek then (if empty = 0 then [' '] else []) else ['\n']
        let more := blockLines folded indent fuel empty c
        { more with text := text ++ glue ++ more.text }
      else ⟨text, broken, empty, c⟩
    else ⟨[], false, empty, c⟩

/-- A block scalar inside a block of the given indentation; the cursor stands behind the bar or the
angle bracket. -/
def blockScalar (folded : Bool) (parentIndent : Int) (c : Cursor) :
    Except Failure (String × Cursor) := do
  let (chomping, increment, c) ← indicators c
  let least := (max (parentIndent + 1) 1).toNat
  let fuel := c.rest.length + 1
  let (indent, empty, c) :=
    match increment with
    | some n =>
      let indent := least + n - 1
      let (empty, c) := emptyLines indent fuel c
      (indent, empty, c)
    | none =>
      let (empty, width, c) := leadingLines fuel 0 c
      (max least width, empty, c)
  let lines := blockLines folded indent fuel empty c
  let lastBreak := if lines.broken && chomping != .strip then ['\n'] else []
  let kept := if chomping == .keep then List.replicate lines.empty '\n' else []
  return (String.ofList (lines.text ++ lastBreak ++ kept), lines.rest)

end DiagramText.Yaml
