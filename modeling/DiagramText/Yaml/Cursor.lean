import DiagramText.Fault

/-!
# Reading positions in YAML text

A `Cursor` stands in front of the text that is still to be read and knows its line and column.  The
only line break in the text is the line feed, and `stop` stands for the end of the text.
-/

namespace DiagramText.Yaml

/-- Why a text has no value: it is malformed at a line, counted from zero, or it has a fault. -/
inductive Failure where
  | malformed (problem : String) (line : Nat)
  | fault (f : Fault)
deriving Repr, DecidableEq

/-- A place in a text: the rest of the text, the number of characters in front of it, and line and
column, both counted from zero. -/
structure Cursor where
  rest : List Char
  index : Nat := 0
  line : Nat := 0
  column : Nat := 0
deriving Repr, DecidableEq

/-- The sign for the end of the text, which is no character of it. -/
def stop : Char := '\x00'

namespace Cursor

/-- The character `n` places ahead. -/
def peekAt (c : Cursor) (n : Nat) : Char := c.rest.getD n stop

/-- The next character. -/
def peek (c : Cursor) : Char := c.peekAt 0

/-- The place behind the next character.  A byte order mark takes no column. -/
def next (c : Cursor) : Cursor :=
  match c.rest with
  | [] => c
  | ch :: r =>
    if ch = '\n' then ⟨r, c.index + 1, c.line + 1, 0⟩
    else ⟨r, c.index + 1, c.line, if ch = '\ufeff' then c.column else c.column + 1⟩

/-- The place behind the next `n` characters. -/
def skip : Nat → Cursor → Cursor
  | 0, c => c
  | n + 1, c => skip n c.next

/-- The longest run of characters of a class, and the place behind it. -/
def run (p : Char → Bool) (c : Cursor) : List Char × Cursor :=
  let t := c.rest.takeWhile p
  (t, skip t.length c)

/-- The place behind the longest run of characters of a class. -/
def skipRun (p : Char → Bool) (c : Cursor) : Cursor := (c.run p).2

/-- The failure of a text that is malformed at this place. -/
def fail {α : Type} (c : Cursor) (problem : String) : Except Failure α :=
  .error (.malformed problem c.line)

/-- The failure of a text that goes on with an unexpected character. -/
def unexpected {α : Type} (c : Cursor) (expected : String) : Except Failure α :=
  c.fail s!"expected {expected}, but found {Text.quoted c.peek.toString}"

end Cursor

/-! ## Classes of characters -/

/-- The end of a line. -/
def isLineEnd (ch : Char) : Bool := ch == stop || ch == '\n'

/-- The end of a line, or a space. -/
def isSpaceOrEnd (ch : Char) : Bool := ch == ' ' || isLineEnd ch

/-- The end of a line, a space or a tab. -/
def isGapOrEnd (ch : Char) : Bool := ch == '\t' || isSpaceOrEnd ch

/-- A space or a tab. -/
def isGap (ch : Char) : Bool := ch == ' ' || ch == '\t'

/-- The characters of anchors, handles and directives. -/
def isNameChar (ch : Char) : Bool := ch.isAlphanum || ch == '-' || ch == '_'

/-- The hexadecimal digits. -/
def isHexDigit (ch : Char) : Bool :=
  ch.isDigit || ('a' ≤ ch && ch ≤ 'f') || ('A' ≤ ch && ch ≤ 'F')

/-- The value of a digit in any base up to 36. -/
def digitOf (ch : Char) : Nat :=
  if ch.isDigit then ch.toNat - 48 else ch.toLower.toNat - 87

/-- The most digits that a decimal number may have. -/
def mostDigits : Nat := 4300

/-- The number that digits of a base spell. -/
def numberOf (base : Nat) (ds : List Char) : Nat := ds.foldl (fun n d => base * n + digitOf d) 0

/-- Whether a document separator stands at this place. -/
def Cursor.atSeparator (c : Cursor) : Bool :=
  (c.rest.take 3 == ['-', '-', '-'] || c.rest.take 3 == ['.', '.', '.']) && isGapOrEnd (c.peekAt 3)

/-- The rest of a line, which holds nothing but spaces and a comment. -/
def ignoredLine (c : Cursor) : Except Failure Cursor :=
  let c := c.skipRun (· == ' ')
  let c := if c.peek = '#' then c.skipRun (!isLineEnd ·) else c
  if isLineEnd c.peek then .ok c.next else c.unexpected "a comment or a line break"

end DiagramText.Yaml
