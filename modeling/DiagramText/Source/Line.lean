import DiagramText.Text.Blank
import DiagramText.Text.Lines
import DiagramText.Diagnostic

/-!
# Logical lines

A source is read as a list of logical lines: blank lines and comments are dropped, the blanks around
a text are cut off, and the place of the text in the source is kept.

1. `Block`, a front-matter block between two fences, and `block?`, which finds it.
2. `Line` and `statement?`, which locates a text in its physical line.
3. `scan`, the logical lines behind the front matter, one per physical line or one per statement.
-/

namespace DiagramText.Source

open Text

/-! ## The front-matter block -/

/-- A line that opens or closes front matter. -/
def isFence (raw : List Char) : Bool := trim raw == ['-', '-', '-']

/-- Front matter: the number of lines above its opening fence, and the lines between the fences. -/
structure Block where
  above : Nat
  content : List (List Char)
deriving Repr, DecidableEq

/-- The number of physical lines up to the closing fence. -/
def Block.height (b : Block) : Nat := b.above + b.content.length + 2

/-- The front matter of a source.  Its opening fence is the first line that is not blank; without a
closing fence there is no front matter. -/
def block? (raw : List (List Char)) : Option Block :=
  let blank := fun l : List Char => trim l == []
  match raw.dropWhile blank with
  | [] => none
  | first :: rest =>
    if isFence first && rest.any isFence then
      some ⟨(raw.takeWhile blank).length, rest.takeWhile (!isFence ·)⟩
    else none

/-- The number of physical lines in front of the body. -/
def bodyStart (raw : List (List Char)) : Nat :=
  match block? raw with
  | some b => b.height
  | none => 0

/-! ## Lines -/

/-- A trimmed text and its place: the number of its physical line and the column of its first
character, both counted from one, and the width of the indentation of that line. -/
structure Line where
  number : Int
  text : String
  indent : Int
  column : Int
deriving Repr, DecidableEq

/-- The report of a problem with the whole of a line. -/
def Line.report {π : Type} (l : Line) (problem : π) : Report π := ⟨problem, l.number, some l.column⟩

/-- The width of the spaces and tabs in front; a tab is two columns wide. -/
def indentWidth : List Char → Nat
  | ' ' :: r => 1 + indentWidth r
  | '\t' :: r => 2 + indentWidth r
  | _ => 0

/-- A comment starts with two percent signs. -/
def isComment : List Char → Bool
  | '%' :: '%' :: _ => true
  | _ => false

/-- The statement in a piece of line `number` that starts `offset` characters into the line; blank
pieces and comments hold none. -/
def statement? (number indent offset : Nat) (piece : List Char) : Option Line :=
  let text := trim piece
  if text == [] || isComment text then none
  else
    some
      { number := number
        text := String.ofList text
        indent := indent
        column := (offset + (piece.length - (trimStart piece).length) + 1 : Nat) }

/-- The statements in the pieces of a line that is cut at semicolons. -/
def statements (number indent : Nat) : (offset : Nat) → List (List Char) → List Line
  | _, [] => []
  | offset, piece :: pieces =>
    (statement? number indent offset piece).toList ++
      statements number indent (offset + piece.length + 1) pieces

/-- The logical lines of one physical line. -/
def ofPhysical (split : Bool) (number : Nat) (raw : List Char) : List Line :=
  let text := trim raw
  if text == [] || isComment text then []
  else if split then statements number (indentWidth raw) 0 (splitOn ';' raw)
  else (statement? number (indentWidth raw) 0 raw).toList

/-! ## Scanning -/

/-- The logical lines of physical lines that are numbered from `number`. -/
def ofBody (split : Bool) : (number : Nat) → List (List Char) → List Line
  | _, [] => []
  | number, raw :: rest => ofPhysical split number raw ++ ofBody split (number + 1) rest

/-- The logical lines of a source; with `split` a semicolon ends a statement. -/
def scan (source : String) (split : Bool) : List Line :=
  let raw := lines source.toList
  ofBody split (bodyStart raw + 1) (raw.drop (bodyStart raw))

/-- The first logical line of a source. -/
def firstLine? (source : String) : Option Line := (scan source false).head?

end DiagramText.Source
