import DiagramText.Text.Printable

/-!
# Quotes

`unquote` takes the double quotes off a label, and `quoted` writes a name between quotes so that
every character of it can be read: single quotes, or double quotes for a name that has a single and
no double one; a backslash in front of backslashes and of the quote in use; short forms for line
feed, carriage return and tab, and the hexadecimal code point for all else that is not printable.
-/

namespace DiagramText.Text

/-- The text between quotes `q`, if `s` starts and ends with one and has two of them. -/
def between? (q : Char) (s : List Char) : Option (List Char) :=
  match s with
  | c :: r => if c = q ∧ r.getLast? = some q then some r.dropLast else none
  | [] => none

/-- The text between double quotes, and any other text as it is. -/
def unquote (s : List Char) : List Char := (between? '"' s).getD s

/-- The hexadecimal digits of `n`, padded with zeros to the width `w`. -/
def hex (w n : Nat) : List Char :=
  let ds := Nat.toDigits 16 n
  List.replicate (w - ds.length) '0' ++ ds

/-- A code point as a backslash, a letter and its hexadecimal digits. -/
def escapeCode (n : Nat) : List Char :=
  if n < 0x100 then '\\' :: 'x' :: hex 2 n
  else if n < 0x10000 then '\\' :: 'u' :: hex 4 n
  else '\\' :: 'U' :: hex 8 n

/-- One character of a name between quotes `q`. -/
def escape (q c : Char) : List Char :=
  if c == q || c == '\\' then ['\\', c]
  else if c == '\n' then ['\\', 'n']
  else if c == '\r' then ['\\', 'r']
  else if c == '\t' then ['\\', 't']
  else if isPrintable c then [c]
  else escapeCode c.toNat

/-- A name between quotes, with everything escaped that could not be read. -/
def quoted (s : String) : String :=
  let cs := s.toList
  let q := if cs.contains '\'' && !cs.contains '"' then '"' else '\''
  String.ofList (q :: (cs.flatMap (escape q) ++ [q]))

end DiagramText.Text
