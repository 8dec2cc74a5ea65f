import DiagramText.Yaml.Node
import DiagramText.Yaml.Token.Stream

/-!
# Nodes from tokens

`NodeGraph.ofTokens` reads the only document of a token stream.  A failure at the end of the stream
counts when a token behind the settled ones is asked for.  A collection gets its number when it
starts, so that an alias inside it may name it.
-/

namespace DiagramText.Yaml

/-- The state between two nodes. -/
structure Composition where
  stream : TokenStream
  graph : NodeGraph := {}
  /-- The nodes with anchors. -/
  anchors : List (String × NodeId) := []
  /-- The handles of tags and what they expand to. -/
  handles : List (String × String) := []

/-- Reading nodes, with a state and failures. -/
abbrev Compose := StateT Composition (Except Failure)

namespace Compose

/-! ## Tokens -/

/-- The next token. -/
def peek : Compose Token := do
  match (← get).stream with
  | ⟨t :: _, _⟩ => return t
  | ⟨[], some f⟩ => throw f
  | ⟨[], none⟩ => return ⟨.streamEnd, 0⟩

/-- Goes behind the next token. -/
def skip : Compose Unit :=
  modify fun s => { s with stream := { s.stream with tokens := s.stream.tokens.tail } }

/-- Whether the next token is one of the given kinds. -/
def atAny (kinds : List TokenKind) : Compose Bool := return kinds.contains (← peek).kind

/-- A failure at a line. -/
def fail {α : Type} (problem : String) (line : Nat) : Compose α := throw (.malformed problem line)

/-! ## Properties -/

/-- What stands in front of the content of a node. -/
structure Properties where
  anchor : Option String := none
  tag : Option String := none
  line : Option Nat := none

/-- The name of the tag with the given handle and suffix. -/
def expand (handle : Option String) (suffix : String) (line : Nat) : Compose String := do
  match handle with
  | none => return suffix
  | some h =>
    match (← get).handles.lookup h with
    | some expansion => return expansion ++ suffix
    | none => fail s!"found undefined tag handle {Text.quoted h}" line

/-- An anchor and a tag, in either order. -/
def properties : Compose Properties := do
  let t ← peek
  match t.kind with
  | .anchor a =>
    skip
    let u ← peek
    match u.kind with
    | .tag handle suffix =>
      skip
      return ⟨some a, some (← expand handle suffix u.line), some t.line⟩
    | _ => return ⟨some a, none, some t.line⟩
  | .tag handle suffix =>
    skip
    let u ← peek
    match u.kind with
    | .anchor a =>
      skip
      return ⟨some a, some (← expand handle suffix t.line), some t.line⟩
    | _ => return ⟨none, some (← expand handle suffix t.line), some t.line⟩
  | _ => return {}

/-- Adds a node. -/
def add (node : Node) : Compose NodeId := do
  let n := (← get).graph.size
  modify fun s => { s with graph := s.graph.add node }
  return n

/-- Adds the node that has the given properties. -/
def addWith (p : Properties) (node : Node) : Compose NodeId := do
  match p.anchor with
  | none => add node
  | some a =>
    if ((← get).anchors.lookup a).isSome then fail "second occurrence" node.line
    else
      let n ← add node
      modify fun s => { s with anchors := (a, n) :: s.anchors }
      return n

/-- Adds a collection, and then reads what it holds. -/
def addCollection (p : Properties) (node : Node) (content : Compose Content) : Compose NodeId := do
  let n ← addWith p node
  let found ← content
  modify fun s => { s with graph := s.graph.setContent n found }
  return n

/-- The node that an alias stands for. -/
def resolve (name : String) (line : Nat) : Compose NodeId := do
  match (← get).anchors.lookup name with
  | some n => return n
  | none => fail s!"found undefined alias {Text.quoted name}" line

/-! ## Types -/

/-- The type of a collection: the given one unless there is a tag. -/
def collectionTag (tag : Option String) (default : Tag) : Tag :=
  match tag with
  | none => default
  | some name => if name = "!" then default else Tag.ofName name

/-- The type of a scalar.  A quoted scalar without a tag is text. -/
def scalarTag (tag : Option String) (plain : Bool) (text : String) : Tag :=
  match tag with
  | none => if plain then Tag.ofSpelling text else .str
  | some name => if name = "!" then Tag.ofSpelling text else Tag.ofName name

/-! ## Nodes -/

/-- What is thrown when the bound on the number of steps is reached. -/
def exhausted : Failure := .malformed "too many nodes" 0

mutual

/-- A node.  Only a `block` node may be written by indentation, and an `indentless` one may be a
sequence without indentation.  Here and below `fuel` bounds the number of steps. -/
def node (block indentless : Bool) : (fuel : Nat) → Compose NodeId
  | 0 => throw exhausted
  | fuel + 1 => do
    let t ← peek
    match t.kind with
    | .reference name =>
      skip
      resolve name t.line
    | _ =>
      let p ← properties
      let t ← peek
      let line := p.line.getD t.line
      let sequence := fun (items : Compose (List NodeId)) =>
        addCollection p ⟨line, collectionTag p.tag .seq, .sequence []⟩ (return .sequence (← items))
      let mapping := fun (pairs : Compose (List (NodeId × NodeId))) =>
        addCollection p ⟨line, collectionTag p.tag .map, .mapping []⟩ (return .mapping (← pairs))
      match t.kind, block with
      | .scalar text plain, _ =>
        skip
        addWith p ⟨line, scalarTag p.tag plain text, .scalar text⟩
      | .flowSequenceStart, _ => sequence (do skip; flowItems true fuel)
      | .flowMappingStart, _ => mapping (do skip; flowPairs true fuel)
      | .blockSequenceStart, true => sequence (do skip; blockItems fuel)
      | .blockMappingStart, true => mapping (do skip; blockPairs fuel)
      | _, _ =>
        if indentless && t.kind == .blockEntry then sequence (indentlessItems fuel)
        else if p.line.isSome then addWith p ⟨line, scalarTag p.tag true "", .scalar ""⟩
        else t.fail "expected the node content, but found"

/-- The node behind a sign on the given line; it is missing if one of `ends` follows. -/
def nodeUnless (ends : List TokenKind) (block indentless : Bool) (line : Nat) :
    (fuel : Nat) → Compose NodeId
  | 0 => throw exhausted
  | fuel + 1 => do
    if ← atAny ends then add (.missing line) else node block indentless fuel

/-- The value behind a key; it is missing without a colon, or if one of `ends` follows. -/
def valueUnless (ends : List TokenKind) (block indentless : Bool) : (fuel : Nat) → Compose NodeId
  | 0 => throw exhausted
  | fuel + 1 => do
    let t ← peek
    if t.kind = .value then
      skip
      nodeUnless ends block indentless t.line fuel
    else add (.missing t.line)

/-- The entries of an indented sequence. -/
def blockItems : (fuel : Nat) → Compose (List NodeId)
  | 0 => throw exhausted
  | fuel + 1 => do
    let t ← peek
    match t.kind with
    | .blockEntry =>
      skip
      let item ← nodeUnless [.blockEntry, .blockEnd] true false t.line fuel
      return item :: (← blockItems fuel)
    | .blockEnd =>
      skip
      return []
    | _ => t.fail "expected <block end>, but found"

/-- The entries of a sequence that is not indented. -/
def indentlessItems : (fuel : Nat) → Compose (List NodeId)
  | 0 => throw exhausted
  | fuel + 1 => do
    let t ← peek
    if t.kind = .blockEntry then
      skip
      let item ← nodeUnless [.blockEntry, .key, .value, .blockEnd] true false t.line fuel
      return item :: (← indentlessItems fuel)
    else return []

/-- The pairs of an indented mapping. -/
def blockPairs : (fuel : Nat) → Compose (List (NodeId × NodeId))
  | 0 => throw exhausted
  | fuel + 1 => do
    let t ← peek
    match t.kind with
    | .key =>
      skip
      let k ← nodeUnless [.key, .value, .blockEnd] true true t.line fuel
      let v ← valueUnless [.key, .value, .blockEnd] true true fuel
      return (k, v) :: (← blockPairs fuel)
    | .blockEnd =>
      skip
      return []
    | _ => t.fail "expected <block end>, but found"

/-- The items of a sequence between brackets; an item with a colon is a mapping of one pair. -/
def flowItems (first : Bool) : (fuel : Nat) → Compose (List NodeId)
  | 0 => throw exhausted
  | fuel + 1 => do
    let t ← peek
    if t.kind = .flowSequenceEnd then
      skip
      return []
    else
      if !first then
        if t.kind = .flowEntry then skip else t.fail "expected ',' or ']', but got"
      let t ← peek
      match t.kind with
      | .flowSequenceEnd =>
        skip
        return []
      | .key =>
        skip
        let item ← addCollection {} ⟨t.line, .map, .mapping []⟩ do
          let k ← nodeUnless [.value, .flowEntry, .flowSequenceEnd] false false t.line fuel
          let v ← valueUnless [.flowEntry, .flowSequenceEnd] false false fuel
          return .mapping [(k, v)]
        return item :: (← flowItems false fuel)
      | _ =>
        let item ← node false false fuel
        return item :: (← flowItems false fuel)

/-- The pairs of a mapping between braces; a key without a colon has a missing value. -/
def flowPairs (first : Bool) : (fuel : Nat) → Compose (List (NodeId × NodeId))
  | 0 => throw exhausted
  | fuel + 1 => do
    let t ← peek
    if t.kind = .flowMappingEnd then
      skip
      return []
    else
      if !first then
        if t.kind = .flowEntry then skip else t.fail "expected ',' or '\x7d', but got"
      let t ← peek
      match t.kind with
      | .flowMappingEnd =>
        skip
        return []
      | .key =>
        skip
        let k ← nodeUnless [.value, .flowEntry, .flowMappingEnd] false false t.line fuel
        let v ← valueUnless [.flowEntry, .flowMappingEnd] false false fuel
        return (k, v) :: (← flowPairs false fuel)
      | _ =>
        let k ← node false false fuel
        let v ← add (.missing (← peek).line)
        return (k, v) :: (← flowPairs false fuel)

end

/-! ## Documents -/

/-- The handles that every document knows. -/
def defaultHandles : List (String × String) := [("!", "!"), ("!!", Tag.standard)]

/-- The handles that the directives in front of a document declare; `handles` holds those declared
before, and `versioned` tells whether a version was given before. -/
def readDirectives (versioned : Bool) (handles : List (String × String)) :
    List Token → Except Failure (List (String × String))
  | [] => .ok handles
  | ⟨.directive (.version major _), line⟩ :: ts =>
    if versioned then .error (.malformed "found duplicate YAML directive" line)
    else if major ≠ 1 then
      .error (.malformed "found incompatible YAML document (version 1.* is required)" line)
    else readDirectives true handles ts
  | ⟨.directive (.handle h expansion), line⟩ :: ts =>
    if (handles.lookup h).isSome then
      .error (.malformed s!"duplicate tag handle {Text.quoted h}" line)
    else readDirectives versioned (handles ++ [(h, expansion)]) ts
  | _ :: ts => readDirectives versioned handles ts

/-- The directives and the start of a document. -/
def documentStart : Compose Unit := do
  let isDirective := fun t : Token => match t.kind with
    | .directive _ => true
    | _ => false
  let tokens := (← get).stream.tokens
  let handles ← readDirectives false [] (tokens.takeWhile isDirective)
  modify fun s =>
    { s with
      handles := handles ++ defaultHandles
      stream := { s.stream with tokens := tokens.dropWhile isDirective } }
  let t ← peek
  if t.kind = .documentStart then skip else t.fail "expected '<document start>', but found"

/-- The root of the first document, if there is one. -/
def document (fuel : Nat) : Compose (Option NodeId) := do
  let t ← peek
  match t.kind with
  | .streamEnd => return none
  | .directive _ | .documentStart =>
    documentStart
    let t ← peek
    match t.kind with
    | .directive _ | .documentStart | .documentEnd | .streamEnd =>
      return some (← add (.missing t.line))
    | _ => return some (← node true false fuel)
  | _ =>
    modify fun s => { s with handles := defaultHandles }
    return some (← node true false fuel)

/-- The end of the stream; a further document is a failure. -/
def streamEnd : Compose Unit := do
  modify fun s =>
    { s with
      stream := { s.stream with tokens := s.stream.tokens.dropWhile (·.kind == .documentEnd) } }
  let t ← peek
  if t.kind ≠ .streamEnd then
    documentStart
    fail "but found another document" t.line

end Compose

/-- The nodes of the only document of a stream and its root; there is no root if the stream is
empty. -/
def NodeGraph.ofTokens (stream : TokenStream) : Except Failure (NodeGraph × Option NodeId) :=
  let compose := do
    let root ← Compose.document (4 * stream.tokens.length + 4)
    if root.isSome then Compose.streamEnd
    return root
  (compose.run { stream }).map fun (root, s) => (s.graph, root)

end DiagramText.Yaml
