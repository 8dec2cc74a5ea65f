import DiagramText.Yaml.Property
import DiagramText.Yaml.Scalar.Block
import DiagramText.Yaml.Scalar.Plain
import DiagramText.Yaml.Scalar.Quoted

/-!
# The tokens of a text

A key in front of a colon is known as a key only when the colon is found, so the `Lexer` remembers
where a key may have started and puts the key token there afterwards.  Until then the tokens from
that place on are not settled: a failure hides them.

1. `Lexer`, the state between two tokens, and its bookkeeping of possible keys and indentation.
2. `Lexer.fetch`, which reads the next token.
3. `TokenStream.ofText`, the settled tokens of a text and the failure that ends them.
-/

namespace DiagramText.Yaml

/-- A place where a key may have started. -/
structure KeyStart where
  /-- The number of tokens in front of it. -/
  number : Nat
  /-- Whether only a key may stand there. -/
  required : Bool
  place : Cursor
deriving Repr, DecidableEq

/-- The state between two tokens. -/
structure Lexer where
  cursor : Cursor
  tokens : Array Token := #[]
  /-- The depth of brackets; every depth but zero is inside brackets. -/
  depth : Int := 0
  /-- The indentation of the innermost block. -/
  indent : Int := -1
  /-- The indentations of the blocks around it, innermost first. -/
  outer : List Int := []
  /-- Whether a key may start here. -/
  keyAllowed : Bool := true
  /-- Where keys may have started, by depth of brackets. -/
  keys : List (Int × KeyStart) := []
deriving Repr, DecidableEq

namespace Lexer

/-! ## Bookkeeping -/

/-- Whether the lexer is inside brackets. -/
def inFlow (l : Lexer) : Bool := l.depth != 0

/-- Appends a token that starts at the given place. -/
def push (l : Lexer) (kind : TokenKind) (start : Cursor) : Lexer :=
  { l with tokens := l.tokens.push ⟨kind, start.line⟩ }

/-- Appends a token of `n` characters. -/
def pushSign (l : Lexer) (kind : TokenKind) (n : Nat) : Lexer :=
  { l.push kind l.cursor with cursor := Cursor.skip n l.cursor }

/-- The possible key of the present depth. -/
def key? (l : Lexer) : Option KeyStart := l.keys.lookup l.depth

/-- Forgets the possible key of the present depth; a required one has failed. -/
def dropKey (l : Lexer) : Except Failure Lexer :=
  if l.key?.any (·.required) then l.cursor.fail "could not find expected ':'"
  else .ok { l with keys := l.keys.filter (·.1 != l.depth) }

/-- Notes that a key may start here. -/
def noteKey (l : Lexer) : Except Failure Lexer :=
  if l.keyAllowed then do
    let l ← l.dropKey
    let required := !l.inFlow && l.indent == l.cursor.column
    return { l with keys := l.keys ++ [(l.depth, ⟨l.tokens.size, required, l.cursor⟩)] }
  else .ok l

/-- Whether a key that may have started at `k` is too far away: it is at most one line of 1024
characters. -/
def isStale (l : Lexer) (k : KeyStart) : Bool :=
  k.place.line != l.cursor.line || 1024 < l.cursor.index - k.place.index

/-- Forgets the possible keys that are too far away; a required one has failed. -/
def dropStaleKeys (l : Lexer) : Except Failure Lexer :=
  if l.keys.any fun (_, k) => k.required && l.isStale k then
    l.cursor.fail "could not find expected ':'"
  else .ok { l with keys := l.keys.filter fun (_, k) => !l.isStale k }

/-- Opens a block at a column that is further in than the innermost block, if it is. -/
def deepen? (l : Lexer) (column : Nat) : Option Lexer :=
  if l.indent < column then some { l with indent := column, outer := l.indent :: l.outer } else none

/-- Opens a block with a token in front of it, if the present column is further in. -/
def openBlock (l : Lexer) (kind : TokenKind) : Lexer :=
  match l.deepen? l.cursor.column with
  | some m => m.push kind m.cursor
  | none => l

/-- Ends the blocks with the given indentations, from the innermost on, that are further in than
`column`. -/
def endBlocks (column : Int) : List Int → Lexer → Lexer
  | [], l => l
  | i :: outer, l =>
    if column < l.indent then
      endBlocks column outer { l.push .blockEnd l.cursor with indent := i, outer := outer }
    else l

/-- Ends the blocks that are further in than `column`; brackets keep them open. -/
def unwind (l : Lexer) (column : Int) : Lexer :=
  if l.inFlow then l else endBlocks column l.outer l

/-! ## Tokens -/

/-- The place of the next token, behind spaces, comments and line breaks, and whether there is a
line break in front of it; `fuel` bounds the number of lines. -/
def nextPlace : (fuel : Nat) → Cursor → Cursor × Bool
  | 0, c => (c, false)
  | fuel + 1, c =>
    let c := c.skipRun (· == ' ')
    let c := if c.peek = '#' then c.skipRun (!isLineEnd ·) else c
    if c.peek = '\n' then ((nextPlace fuel c.next).1, true) else (c, false)

/-- Goes to the next token.  A new line outside brackets may start with a key. -/
def advance (l : Lexer) : Lexer :=
  let c := l.cursor
  let c := if c.index = 0 ∧ c.peek = '\ufeff' then c.next else c
  let (c, broken) := nextPlace (c.rest.length + 1) c
  { l with cursor := c, keyAllowed := l.keyAllowed || (broken && !l.inFlow) }

/-- Leaves all blocks, in front of something that stands outside of them. -/
def leaveBlocks (l : Lexer) : Except Failure Lexer := do
  let l ← (l.unwind (-1)).dropKey
  return { l with keyAllowed := false }

/-- The end of the text. -/
def fetchEnd (l : Lexer) : Except Failure Lexer := do
  return { (← l.leaveBlocks).push .streamEnd l.cursor with keys := [] }

/-- A directive. -/
def fetchDirective (l : Lexer) : Except Failure Lexer := do
  let l ← l.leaveBlocks
  let (d, c) ← directive l.cursor
  return { l.push (.directive d) l.cursor with cursor := c }

/-- The start or end of a document. -/
def fetchSeparator (l : Lexer) (kind : TokenKind) : Except Failure Lexer := do
  return (← l.leaveBlocks).pushSign kind 3

/-- An opening bracket. -/
def fetchOpening (l : Lexer) (kind : TokenKind) : Except Failure Lexer := do
  let l ← l.noteKey
  return { l.pushSign kind 1 with depth := l.depth + 1, keyAllowed := true }

/-- A closing bracket. -/
def fetchClosing (l : Lexer) (kind : TokenKind) : Except Failure Lexer := do
  let l ← l.dropKey
  return { l.pushSign kind 1 with depth := l.depth - 1, keyAllowed := false }

/-- A comma between brackets. -/
def fetchFlowEntry (l : Lexer) : Except Failure Lexer := do
  return { (← l.dropKey).pushSign .flowEntry 1 with keyAllowed := true }

/-- Opens a block for a sign at the present column; `problem` says that none may stand here. -/
def enterBlock (l : Lexer) (kind : TokenKind) (problem : String) : Except Failure Lexer :=
  if l.inFlow then .ok l
  else if l.keyAllowed then .ok (l.openBlock kind)
  else l.cursor.fail problem

/-- The hyphen of an entry of a sequence. -/
def fetchBlockEntry (l : Lexer) : Except Failure Lexer := do
  let l ← l.enterBlock .blockSequenceStart "sequence entries are not allowed here"
  return { (← l.dropKey).pushSign .blockEntry 1 with keyAllowed := true }

/-- The question mark of a key. -/
def fetchKey (l : Lexer) : Except Failure Lexer := do
  let l ← l.enterBlock .blockMappingStart "mapping keys are not allowed here"
  return { (← l.dropKey).pushSign .key 1 with keyAllowed := !l.inFlow }

/-- Puts a key token, and the start of a block mapping if the key is its first, where `k` says. -/
def insertKey (l : Lexer) (k : KeyStart) : Lexer :=
  let insert := fun (l : Lexer) (kind : TokenKind) =>
    { l with tokens := l.tokens.insertIdxIfInBounds k.number ⟨kind, k.place.line⟩ }
  let l := insert { l with keys := l.keys.filter (·.1 != l.depth) } .key
  if l.inFlow then l
  else
    match l.deepen? k.place.column with
    | some m => insert m .blockMappingStart
    | none => l

/-- The colon in front of a value. -/
def fetchValue (l : Lexer) : Except Failure Lexer :=
  match l.key? with
  | some k => .ok { (l.insertKey k).pushSign .value 1 with keyAllowed := false }
  | none => do
    let l ← l.enterBlock .blockMappingStart "mapping values are not allowed here"
    return { (← l.dropKey).pushSign .value 1 with keyAllowed := !l.inFlow }

/-- A token that may start a key: an alias, an anchor, a tag or a scalar. -/
def fetchInline (l : Lexer) (read : Reader TokenKind) : Except Failure Lexer := do
  let l ← l.noteKey
  let (kind, c) ← read l.cursor
  return { l.push kind l.cursor with cursor := c, keyAllowed := false }

/-- A plain scalar.  It ends in front of the next token, and a line break there allows a key. -/
def fetchPlain (l : Lexer) : Except Failure Lexer := do
  let l ← l.noteKey
  let plain := plainScalar l.inFlow l.indent l.cursor
  return { l.push (.scalar (String.ofList plain.text) true) l.cursor with
    cursor := plain.rest, keyAllowed := plain.broken }

/-- A block scalar. -/
def fetchBlockScalar (l : Lexer) (folded : Bool) : Except Failure Lexer := do
  let l ← l.dropKey
  let (text, c) ← blockScalar folded l.indent l.cursor.next
  return { l.push (.scalar text false) l.cursor with cursor := c, keyAllowed := true }

/-- The readers of aliases, anchors, tags and quoted scalars. -/
def inlineReader? : Char → Option (Reader TokenKind)
  | '*' => some fun c => do
    let (n, c) ← anchorName c.next
    return (.reference n, c)
  | '&' => some fun c => do
    let (n, c) ← anchorName c.next
    return (.anchor n, c)
  | '!' => some fun c => do
    let ((handle, suffix), c) ← tag c
    return (.tag handle suffix, c)
  | '\'' => some fun c => do
    let (text, c) ← quotedScalar false c.next
    return (.scalar text false, c)
  | '"' => some fun c => do
    let (text, c) ← quotedScalar true c.next
    return (.scalar text false, c)
  | _ => none

/-- The signs that never start a plain scalar, but for a hyphen, a question mark or a colon. -/
def isReserved (ch : Char) : Bool :=
  isGapOrEnd ch || "-?:,[]\x7b\x7d#&*!|>'\"%@\x60".toList.contains ch

/-- Whether a plain scalar starts here. -/
def startsPlain (l : Lexer) : Bool :=
  let ch := l.cursor.peek
  !isReserved ch ||
    (!isGapOrEnd (l.cursor.peekAt 1) && (ch == '-' || (!l.inFlow && (ch == '?' || ch == ':'))))

/-- A token whose first character decides nothing but whether it is a scalar. -/
def fetchOther (l : Lexer) : Except Failure Lexer :=
  match inlineReader? l.cursor.peek with
  | some read => l.fetchInline read
  | none =>
    if l.startsPlain then l.fetchPlain
    else
      let ch := Text.quoted l.cursor.peek.toString
      l.cursor.fail s!"found character {ch} that cannot start any token"

/-- The token at the present place. -/
def fetchHere (l : Lexer) : Except Failure Lexer :=
  let c := l.cursor
  let detached := isGapOrEnd (c.peekAt 1)
  if c.column = 0 ∧ c.peek = '%' then l.fetchDirective
  else if c.column = 0 ∧ c.atSeparator then
    l.fetchSeparator (if c.peek = '-' then .documentStart else .documentEnd)
  else
    match c.peek with
    | '[' => l.fetchOpening .flowSequenceStart
    | '\x7b' => l.fetchOpening .flowMappingStart
    | ']' => l.fetchClosing .flowSequenceEnd
    | '\x7d' => l.fetchClosing .flowMappingEnd
    | ',' => l.fetchFlowEntry
    | '-' => if detached then l.fetchBlockEntry else l.fetchOther
    | '?' => if l.inFlow || detached then l.fetchKey else l.fetchOther
    | ':' => if l.inFlow || detached then l.fetchValue else l.fetchOther
    | '|' => if l.inFlow then l.fetchOther else l.fetchBlockScalar false
    | '>' => if l.inFlow then l.fetchOther else l.fetchBlockScalar true
    | _ => l.fetchOther

/-- The next token, with the ends of the blocks in front of it. -/
def fetch (l : Lexer) : Except Failure Lexer := do
  let l ← l.advance.dropStaleKeys
  let l := l.unwind l.cursor.column
  let l ← if l.cursor.rest == [] then l.fetchEnd else l.fetchHere
  l.dropStaleKeys

/-- Whether the end of the text is reached. -/
def finished (l : Lexer) : Bool := l.tokens.back?.any (·.kind == .streamEnd)

/-- The number of tokens in front of all possible keys. -/
def settled (l : Lexer) : Nat := l.keys.foldl (fun n (_, k) => min n k.number) l.tokens.size

end Lexer

/-- The tokens of a text, and the failure behind them, if there is one. -/
structure TokenStream where
  tokens : List Token
  failure : Option Failure := none
deriving Repr, DecidableEq

namespace TokenStream

/-- The tokens from a state on; `fuel` bounds the number of further ones. -/
def ofLexer : (fuel : Nat) → Lexer → TokenStream
  | 0, l => ⟨l.tokens.toList, none⟩
  | fuel + 1, l =>
    match l.fetch with
    | .error f => ⟨l.tokens.toList.take l.settled, some f⟩
    | .ok m => if m.finished then ⟨m.tokens.toList, none⟩ else ofLexer fuel m

/-- The tokens of a text. -/
def ofText (text : List Char) : TokenStream :=
  ofLexer (text.length + 1) { cursor := { rest := text } }

end TokenStream

end DiagramText.Yaml
