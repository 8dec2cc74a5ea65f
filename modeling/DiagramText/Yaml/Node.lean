import DiagramText.Yaml.Tag

/-!
# Nodes

A document is a graph of nodes: scalars with their text, sequences and mappings.  An alias names a
node that stands elsewhere too, so a node may occur at several places, even inside itself; nodes
refer to each other by number.

1. `Node` and `NodeGraph`, with what is known about the node of a number.
2. Changes of a node in place.
-/

namespace DiagramText.Yaml

/-- The number of a node in its graph. -/
abbrev NodeId := Nat

/-- What a node holds. -/
inductive Content where
  | scalar (text : String)
  | sequence (items : List NodeId)
  | mapping (pairs : List (NodeId × NodeId))
deriving Repr, DecidableEq

/-- The word for a kind of content. -/
def Content.kind : Content → String
  | scalar _ => "scalar"
  | sequence _ => "sequence"
  | mapping _ => "mapping"

/-- A node: its type, the line on which it starts, and what it holds. -/
structure Node where
  line : Nat
  tag : Tag
  content : Content
deriving Repr, DecidableEq

/-- The scalar that stands where a node is missing. -/
def Node.missing (line : Nat) : Node := ⟨line, .null, .scalar ""⟩

/-- The nodes of a document by number. -/
structure NodeGraph where
  nodes : Array Node := #[]
deriving Repr, DecidableEq

namespace NodeGraph

/-- The number of nodes. -/
def size (g : NodeGraph) : Nat := g.nodes.size

/-- The node of a number. -/
def node (g : NodeGraph) (n : NodeId) : Node := g.nodes.getD n (Node.missing 0)

/-- The line of a node. -/
def line (g : NodeGraph) (n : NodeId) : Nat := (g.node n).line

/-- The type of a node. -/
def tag (g : NodeGraph) (n : NodeId) : Tag := (g.node n).tag

/-- What a node holds. -/
def content (g : NodeGraph) (n : NodeId) : Content := (g.node n).content

/-- The word for the kind of a node. -/
def kind (g : NodeGraph) (n : NodeId) : String := (g.content n).kind

/-- The pairs of a mapping. -/
def pairs (g : NodeGraph) (n : NodeId) : List (NodeId × NodeId) :=
  match g.content n with
  | .mapping pairs => pairs
  | _ => []

/-- The number of pairs in all mappings. -/
def pairCount (g : NodeGraph) : Nat :=
  (List.range g.size).foldl (fun count n => count + (g.pairs n).length) 0

/-- A failure at the line of a node. -/
def fail {α : Type} (g : NodeGraph) (n : NodeId) (problem : String) : Except Failure α :=
  .error (.malformed problem (g.line n))

/-! ## Changes -/

/-- Adds a node; its number is the size of the graph before. -/
def add (g : NodeGraph) (node : Node) : NodeGraph := ⟨g.nodes.push node⟩

/-- Replaces what a node holds. -/
def setContent (g : NodeGraph) (n : NodeId) (content : Content) : NodeGraph :=
  ⟨g.nodes.modify n fun node => { node with content }⟩

/-- Replaces the type of a node. -/
def setTag (g : NodeGraph) (n : NodeId) (tag : Tag) : NodeGraph :=
  ⟨g.nodes.modify n fun node => { node with tag }⟩

end NodeGraph

end DiagramText.Yaml
