import DiagramText.Yaml.Cursor

/-!
# Plain scalars

A plain scalar ends in front of a comment, a colon with a gap behind it, a line that is not indented
enough, or, between flow brackets, one of their signs.
-/

namespace DiagramText.Yaml

/-- The signs that structure a flow collection. -/
def isFlowSign (ch : Char) : Bool := [',', '[', ']', '\x7b', '\x7d'].contains ch

/-- The number of characters up to the end of a run of a plain scalar. -/
def plainRunLength (flow : Bool) : List Char → Nat
  | [] => 0
  | ch :: r =>
    let ahead := r.headD stop
    if isGapOrEnd ch || (ch == ':' && (isGapOrEnd ahead || (flow && isFlowSign ahead))) ||
        (flow && (isFlowSign ch || ch == '?')) then 0
    else plainRunLength flow r + 1

/-- The empty lines behind a line break of a plain scalar; none if a document separator ends it.
`fuel` bounds the number of characters. -/
def plainBreaks : (fuel : Nat) → Cursor → Option (Nat × Cursor) × Cursor
  | 0, c => (some (0, c), c)
  | fuel + 1, c =>
    if c.peek = ' ' then plainBreaks fuel c.next
    else if c.peek = '\n' then
      if c.next.atSeparator then (none, c.next)
      else
        match plainBreaks fuel c.next with
        | (some (n, d), e) => (some (n + 1, d), e)
        | (none, e) => (none, e)
    else (some (0, c), c)

/-- A gap inside a plain scalar: its text, empty if the scalar ends here, whether it holds a line
break, and the place behind it. -/
structure PlainGap where
  text : List Char
  broken : Bool
  rest : Cursor

/-- The gap at a place. -/
def plainGap (c : Cursor) : PlainGap :=
  let (spaces, c) := c.run (· == ' ')
  if c.peek = '\n' then
    let c := c.next
    if c.atSeparator then ⟨[], true, c⟩
    else
      match plainBreaks (c.rest.length + 1) c with
      | (some (n, d), _) => ⟨if n = 0 then [' '] else List.replicate n '\n', true, d⟩
      | (none, d) => ⟨[], true, d⟩
  else ⟨spaces, false, c⟩

/-- A plain scalar: its text, whether a line break stands between its end and the next text, and the
place of that text. -/
structure PlainText where
  text : List Char
  broken : Bool
  rest : Cursor

/-- The runs of a plain scalar behind `front`, which is a gap; `fuel` bounds their number. -/
def plainRuns (flow : Bool) (indent : Int) : (fuel : Nat) → (front : PlainGap) → PlainText
  | 0, front => ⟨[], front.broken, front.rest⟩
  | fuel + 1, front =>
    let c := front.rest
    let length := if c.peek = '#' then 0 else plainRunLength flow c.rest
    if length = 0 then ⟨[], front.broken, c⟩
    else
      let text := front.text ++ c.rest.take length
      let gap := plainGap (Cursor.skip length c)
      let ends := gap.text == [] || gap.rest.peek == '#' || (!flow && gap.rest.column < indent)
      if ends then ⟨text, gap.broken, gap.rest⟩
      else
        let more := plainRuns flow indent fuel gap
        { more with text := text ++ more.text }

/-- A plain scalar inside a block of the given indentation. -/
def plainScalar (flow : Bool) (parentIndent : Int) (c : Cursor) : PlainText :=
  plainRuns flow (parentIndent + 1) (c.rest.length + 1) ⟨[], false, c⟩

end DiagramText.Yaml
