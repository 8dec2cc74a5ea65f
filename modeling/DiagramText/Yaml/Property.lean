import DiagramText.Text.Utf8
import DiagramText.Yaml.Token

/-!
# Names, tags and directives

1. `anchorName` reads the name of an anchor or an alias.
2. `tag` reads a tag: a handle and a suffix, or the whole name between angle brackets.
3. `directive` reads a directive up to the end of its line.
-/

namespace DiagramText.Yaml

/-- A reader of a part of a text: what it says, and the place behind it. -/
abbrev Reader (α : Type) := Cursor → Except Failure (α × Cursor)

/-! ## Names -/

/-- The characters that may stand behind the name of an anchor or an alias. -/
def endsName (ch : Char) : Bool :=
  isGapOrEnd ch || ['?', ':', ',', ']', '\x7d', '%', '@', '\x60'].contains ch

/-- A run of name characters in front of a character that may end it. -/
def nameBefore (ends : Char → Bool) : Reader String := fun c =>
  let (text, d) := c.run isNameChar
  if text == [] || !ends d.peek then d.unexpected "alphabetic or numeric character"
  else .ok (String.ofList text, d)

/-- The name of an anchor or an alias. -/
def anchorName : Reader String := nameBefore endsName

/-! ## Tags -/

/-- The characters of a tag. -/
def isTagChar (ch : Char) : Bool := ch.isAlphanum || "-;/?:@&=+$,_.!~*'()[]%".toList.contains ch

/-- The bytes that escape sequences, each a percent sign and two digits, stand for; `fuel` bounds
their number. -/
def escapedBytes : (fuel : Nat) → Reader (List Nat)
  | 0, c => .ok ([], c)
  | fuel + 1, c =>
    if c.peek = '%' then
      let digits := [c.peekAt 1, c.peekAt 2]
      match digits.find? (!isHexDigit ·) with
      | some ch =>
        c.fail ("expected URI escape sequence of 2 hexadecimal numbers, " ++
          s!"but found {Text.quoted ch.toString}")
      | none => do
        let (rest, d) ← escapedBytes fuel (Cursor.skip 3 c)
        return (numberOf 16 digits :: rest, d)
    else .ok ([], c)

/-- The characters of a tag from here on, with escape sequences read; `fuel` bounds their number. -/
def tagChars : (fuel : Nat) → Reader (List Char)
  | 0, c => .ok ([], c)
  | fuel + 1, c =>
    if c.peek = '%' then do
      let (bytes, d) ← escapedBytes (c.rest.length + 1) c
      match Text.Utf8.decode bytes with
      | .error flaw => c.fail flaw.message
      | .ok text =>
        let (rest, d) ← tagChars fuel d
        return (text ++ rest, d)
    else if isTagChar c.peek then do
      let (rest, d) ← tagChars fuel c.next
      return (c.peek :: rest, d)
    else .ok ([], c)

/-- The suffix of a tag, which is not empty. -/
def tagSuffix : Reader String := fun c =>
  if isTagChar c.peek then do
    let (text, d) ← tagChars (c.rest.length + 1) c
    return (String.ofList text, d)
  else c.unexpected "URI"

/-- The handle of a tag: an exclamation mark, or two of them with a name in between. -/
def tagHandle : Reader String := fun c =>
  if c.peek ≠ '!' then c.unexpected "'!'"
  else if c.peekAt 1 = ' ' then .ok ("!", c.next)
  else
    let (text, d) := c.next.run isNameChar
    if d.peek ≠ '!' then d.unexpected "'!'"
    else .ok (String.ofList ('!' :: (text ++ ['!'])), d.next)

/-- A tag in front of the text that has it. -/
def tag : Reader (Option String × String) := fun c => do
  let (found, d) ←
    if c.peekAt 1 = '<' then do
      let (suffix, d) ← tagSuffix (Cursor.skip 2 c)
      if d.peek = '>' then pure ((none, suffix), d.next) else d.unexpected "'>'"
    else if isGapOrEnd (c.peekAt 1) then pure ((none, "!"), c.next)
    else do
      let named := ((c.rest.drop 1).takeWhile (!isSpaceOrEnd ·)).contains '!'
      let (handle, d) ← if named then tagHandle c else pure ("!", c.next)
      let (suffix, d) ← tagSuffix d
      pure ((some handle, suffix), d)
  if isSpaceOrEnd d.peek then return (found, d) else d.unexpected "' '"

/-! ## Directives -/

/-- A part of a version. -/
def versionNumber : Reader Nat := fun c =>
  let (digits, d) := c.run Char.isDigit
  if digits == [] then c.unexpected "a digit"
  else if mostDigits < digits.length then .error (.fault (.longInteger digits.length))
  else .ok (numberOf 10 digits, d)

/-- A version: two numbers with a point in between. -/
def version : Reader Directive := fun c => do
  let (major, c) ← versionNumber c
  if c.peek ≠ '.' then c.unexpected "a digit or '.'"
  else
    let (minor, c) ← versionNumber c.next
    if isSpaceOrEnd c.peek then return (.version major minor, c)
    else c.unexpected "a digit or ' '"

/-- A handle and what it expands to. -/
def handleExpansion : Reader Directive := fun c => do
  let (handle, c) ← tagHandle c
  if c.peek ≠ ' ' then c.unexpected "' '"
  else
    let (expansion, c) ← tagSuffix (c.skipRun (· == ' '))
    if isSpaceOrEnd c.peek then return (.handle handle expansion, c) else c.unexpected "' '"

/-- A directive and the rest of its line. -/
def directive : Reader Directive := fun c => do
  let (word, c) ← nameBefore isSpaceOrEnd c.next
  let (found, c) ←
    if word = "YAML" then version (c.skipRun (· == ' '))
    else if word = "TAG" then handleExpansion (c.skipRun (· == ' '))
    else pure (.reserved, c.skipRun (!isLineEnd ·))
  return (found, ← ignoredLine c)

end DiagramText.Yaml
