import DiagramText.Yaml.Cursor

/-!
# Quoted scalars

Between single quotes only the quote itself is escaped, by doubling it.  Between double quotes a
backslash escapes.  A line break inside stands for a space, and further empty lines for line breaks.
-/

namespace DiagramText.Yaml

/-- What a single character behind a backslash stands for. -/
def escapedChar? : Char → Option Char
  | '0' => some '\x00'
  | 'a' => some '\x07'
  | 'b' => some '\x08'
  | 't' => some '\t'
  | '\t' => some '\t'
  | 'n' => some '\n'
  | 'v' => some '\x0b'
  | 'f' => some '\x0c'
  | 'r' => some '\r'
  | 'e' => some '\x1b'
  | ' ' => some ' '
  | '"' => some '"'
  | '\\' => some '\\'
  | '/' => some '/'
  | 'N' => some '\u0085'
  | '_' => some '\u00a0'
  | 'L' => some '\u2028'
  | 'P' => some '\u2029'
  | _ => none

/-- How many hexadecimal digits follow a character behind a backslash. -/
def escapeWidth? : Char → Option Nat
  | 'x' => some 2
  | 'u' => some 4
  | 'U' => some 8
  | _ => none

/-- A character given by `width` hexadecimal digits. -/
def hexEscape (width : Nat) (c : Cursor) : Except Failure (Char × Cursor) :=
  let digits := (List.range width).map c.peekAt
  match digits.find? (!isHexDigit ·) with
  | some ch =>
    c.fail (s!"expected escape sequence of {width} hexadecimal numbers, " ++
      s!"but found {Text.quoted ch.toString}")
  | none =>
    let code := numberOf 16 digits
    if code < 0x110000 then .ok (Char.ofNat code, Cursor.skip width c)
    else .error (.fault (if code < 0x80000000 then .character else .characterWord))

/-- The line breaks of empty lines inside quotes; `fuel` bounds their number. -/
def quotedBreaks : (fuel : Nat) → Cursor → Except Failure (Nat × Cursor)
  | 0, c => .ok (0, c)
  | fuel + 1, c =>
    if c.atSeparator then c.fail "found unexpected document separator"
    else
      let c := c.skipRun isGap
      if c.peek = '\n' then do
        let (n, c) ← quotedBreaks fuel c.next
        return (n + 1, c)
      else .ok (0, c)

/-- What stands behind a backslash: the characters it stands for and the place behind them. -/
def escapeSequence (c : Cursor) : Except Failure (List Char × Cursor) :=
  match escapedChar? c.peek with
  | some ch => .ok ([ch], c.next)
  | none =>
    match escapeWidth? c.peek with
    | some width => do
      let (ch, c) ← hexEscape width c.next
      return ([ch], c)
    | none =>
      if c.peek = '\n' then do
        let (n, c) ← quotedBreaks (c.rest.length + 1) c.next
        return (List.replicate n '\n', c)
      else c.fail s!"found unknown escape character {Text.quoted c.peek.toString}"

/-- The characters up to a gap, the end of the line or the closing quote; `fuel` bounds their
number. -/
def quotedRun (double : Bool) : (fuel : Nat) → Cursor → Except Failure (List Char × Cursor)
  | 0, c => .ok ([], c)
  | fuel + 1, c =>
    let go := fun (front : List Char) (c : Cursor) => do
      let (rest, c) ← quotedRun double fuel c
      return (front ++ rest, c)
    let ch := c.peek
    if isGapOrEnd ch then .ok ([], c)
    else if ch = '\'' && !double then
      if c.peekAt 1 = '\'' then go ['\''] c.next.next else .ok ([], c)
    else if ch = '"' && double then .ok ([], c)
    else if ch = '\\' && double then do
      let (front, c) ← escapeSequence c.next
      go front c
    else go [ch] c.next

/-- A gap inside quotes: the spaces themselves, or a folded line break. -/
def quotedGap (c : Cursor) : Except Failure (List Char × Cursor) :=
  let (gap, c) := c.run isGap
  if c.peek = stop then c.fail "found unexpected end of stream"
  else if c.peek = '\n' then do
    let (n, c) ← quotedBreaks (c.rest.length + 1) c.next
    return (if n = 0 then [' '] else List.replicate n '\n', c)
  else .ok (gap, c)

/-- The runs and gaps up to the closing quote; `fuel` bounds their number. -/
def quotedRest (double : Bool) : (fuel : Nat) → Cursor → Except Failure (List Char × Cursor)
  | 0, c => .ok ([], c)
  | fuel + 1, c => do
    let (front, c) ← quotedRun double (c.rest.length + 1) c
    if c.peek = (if double then '"' else '\'') then return (front, c.next)
    else
      let (gap, c) ← quotedGap c
      let (rest, c) ← quotedRest double fuel c
      return (front ++ gap ++ rest, c)

/-- A quoted scalar; the cursor stands behind the opening quote. -/
def quotedScalar (double : Bool) (c : Cursor) : Except Failure (String × Cursor) := do
  let (text, c) ← quotedRest double (c.rest.length + 1) c
  return (String.ofList text, c)

end DiagramText.Yaml
