import DiagramText.OrderedMap
import DiagramText.Yaml.Key
import DiagramText.Yaml.Node.Merge
import DiagramText.Yaml.Scalar.Typed

/-!
# Documents

A document says what each of its nodes stands for.  A scalar is read when its collection is; a
collection is known as soon as it is met, and what it holds is read later, in the order in which the
collections were met.  So the first failure is one of the collections nearest to the root.

1. `Cell`, what a node stands for.
2. `Making`, the state between two collections, and `Making.fill` for one of them.
3. `Document.ofGraph`, the document of a graph of nodes.
4. `Document.value`, what a node stands for without references to other nodes.
-/

namespace DiagramText.Yaml

/-- What a node stands for.  Collections name their parts by number. -/
inductive Cell where
  | scalar (v : Value)
  | list (items : List NodeId)
  | pairList (pairs : List (NodeId × NodeId))
  | set (items : List NodeId)
  | map (pairs : List (NodeId × NodeId))

/-- The empty collection of a type, if it is a type of collections. -/
def Cell.empty? : Tag → Option Cell
  | .seq => some (.list [])
  | .omap | .pairs => some (.pairList [])
  | .set => some (.set [])
  | .map => some (.map [])
  | _ => none

/-- What the nodes of a document stand for, as far as it is known. -/
structure Document where
  cells : Array (Option Cell)
  root : NodeId

namespace Document

/-- What a node stands for; nothing but null if it is not known. -/
def cell (d : Document) (n : NodeId) : Cell := (d.cells.getD n none).getD (.scalar .null)

end Document

/-! ## Making -/

/-- The state between two collections. -/
structure Making where
  graph : NodeGraph
  cells : Array (Option Cell)
  /-- The collections that have been met and not been read, the last one first. -/
  pending : List NodeId := []

namespace Making

/-- Steps that may fail. -/
abbrev Make := StateT Making (Except Failure)

/-- Sets what a node stands for. -/
def setCell (n : NodeId) (c : Cell) : Make Unit :=
  modify fun m => { m with cells := m.cells.setIfInBounds n (some c) }

/-- Makes a node known. -/
def meet (n : NodeId) : Make Cell := do
  let m ← get
  match m.cells.getD n none with
  | some c => return c
  | none =>
    match Cell.empty? (m.graph.tag n) with
    | some c =>
      modify fun m => { m with pending := n :: m.pending }
      setCell n c
      return c
    | none =>
      let c := Cell.scalar (← m.graph.scalarValue n)
      setCell n c
      return c

/-- A failure at the line of a node. -/
def fail {α : Type} (n : NodeId) (problem : String) : Make α := do
  (← get).graph.fail n problem

/-- The key that a node stands for; a collection is no key. -/
def meetKey (n : NodeId) : Make Key := do
  match ← meet n with
  | .scalar v => return ⟨n, v⟩
  | _ => fail n "found unhashable key"

/-- The parts of a sequence. -/
def items (n : NodeId) : Make (List NodeId) := do
  match (← get).graph.content n with
  | .sequence items =>
    items.forM fun i => discard (meet i)
    return items
  | content => fail n s!"expected a sequence node, but found {content.kind}"

/-- Adds the key and the value that a pair stands for. -/
def meetEntry (found : OrderedMap Key NodeId) (pair : NodeId × NodeId) :
    Make (OrderedMap Key NodeId) := do
  let key ← meetKey pair.1
  discard (meet pair.2)
  return found.insert key pair.2

/-- The keys of a mapping and their values, with merged pairs.  A key that occurs again keeps its
place and takes the last value. -/
def entries (n : NodeId) : Make (List (NodeId × NodeId)) := do
  match (← get).graph.content n with
  | .mapping _ =>
    let graph ← (← get).graph.flatten n
    modify fun m => { m with graph }
    let found ← (graph.pairs n).foldlM meetEntry {}
    return found.entries.map fun (key, v) => (key.node, v)
  | content => fail n s!"expected a mapping node, but found {content.kind}"

/-- The only pair of a mapping that is a part of a list of pairs. -/
def singlePair (n : NodeId) : Make (NodeId × NodeId) := do
  match (← get).graph.content n with
  | .mapping [(k, v)] =>
    discard (meet k)
    discard (meet v)
    return (k, v)
  | .mapping pairs => fail n s!"expected a single mapping item, but found {pairs.length} items"
  | content => fail n s!"expected a mapping of length 1, but found {content.kind}"

/-- The pairs of a list of pairs. -/
def singlePairs (n : NodeId) : Make (List (NodeId × NodeId)) := do
  match (← get).graph.content n with
  | .sequence items => items.mapM singlePair
  | content => fail n s!"expected a sequence, but found {content.kind}"

/-- Reads what a collection holds. -/
def fill (n : NodeId) : Make Unit := do
  match (← get).graph.tag n with
  | .seq => setCell n (.list (← items n))
  | .omap | .pairs => setCell n (.pairList (← singlePairs n))
  | .set => setCell n (.set ((← entries n).map (·.1)))
  | .map => setCell n (.map (← entries n))
  | _ => return

/-- Reads the collections that have been met, and those that are met on the way; `fuel` bounds how
deep they are. -/
def fillPending : (fuel : Nat) → Make Unit
  | 0 => return
  | fuel + 1 => do
    let pending := (← get).pending
    if pending.isEmpty then return
    else
      modify fun m => { m with pending := [] }
      pending.reverse.forM fill
      fillPending fuel

end Making

/-- The document of a graph of nodes. -/
def Document.ofGraph (graph : NodeGraph) (root : NodeId) : Except Failure Document := do
  let make : Making.Make Unit := do
    discard (Making.meet root)
    Making.fillPending (graph.size + 1)
  let (_, m) ← make.run { graph, cells := Array.replicate graph.size none }
  return ⟨m.cells, root⟩

/-! ## Values -/

/-- The least integer that has too many digits to be written. -/
def tooWide : Nat := Nat.pow 10 mostDigits

namespace Document

/-- What a node stands for.  A collection inside itself has no end, and an integer may be too wide
to be written; `fuel` bounds the number of collections inside each other. -/
def valueWithin (d : Document) : (fuel : Nat) → NodeId → Except Fault Value
  | 0, _ => .error .endless
  | fuel + 1, n =>
    let pair := fun (p : NodeId × NodeId) => do
      let k ← valueWithin d fuel p.1
      return (k, ← valueWithin d fuel p.2)
    match d.cell n with
    | .scalar (.int i) => if tooWide ≤ i.natAbs then .error .wideInteger else .ok (.int i)
    | .scalar v => .ok v
    | .list items => do return .list (← items.mapM (valueWithin d fuel))
    | .pairList pairs => do return .list ((← pairs.mapM pair).map fun (k, v) => .list [k, v])
    | .set items => do return .set (← items.mapM (valueWithin d fuel))
    | .map pairs => do return .map (← pairs.mapM pair)

/-- What a node stands for. -/
def value (d : Document) (n : NodeId) : Except Fault Value := d.valueWithin (d.cells.size + 1) n

end Document

end DiagramText.Yaml
