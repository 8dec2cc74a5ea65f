import DiagramText.Direction
import DiagramText.Distinct
import DiagramText.OrderedMap
import DiagramText.Tree

/-!
# Graphs of nodes, edges and nested scopes

Flowcharts and state diagrams have the same structure: nodes joined by edges, and scopes (subgraphs
or composite states) that own nodes and contain further scopes.

1. Shapes of nodes, kinds and styles of edges.
2. `Node`, `Edge`, `Scope` and `Graph`; a subgraph is a tree of scopes.
3. Questions about the forest of subgraphs.
-/

namespace DiagramText.ScopeGraph

/-! ## Vocabulary -/

/-- The shapes of nodes. -/
inductive Shape where
  | rectangle
  | rounded
  | decision
  | stadium
  | circle
  | subroutine
  | doubleCircle
  | hexagon
  | cylinder
  | asymmetric
  | trapezoid
  | trapezoidAlt
  | parallelogram
  | parallelogramAlt
  | stateStart
  | stateEnd
deriving Repr, DecidableEq

/-- The name of a shape. -/
def Shape.name : Shape → String
  | rectangle => "rectangle"
  | rounded => "rounded"
  | decision => "decision"
  | stadium => "stadium"
  | circle => "circle"
  | subroutine => "subroutine"
  | doubleCircle => "doublecircle"
  | hexagon => "hexagon"
  | cylinder => "cylinder"
  | asymmetric => "asymmetric"
  | trapezoid => "trapezoid"
  | trapezoidAlt => "trapezoid-alt"
  | parallelogram => "parallelogram"
  | parallelogramAlt => "parallelogram-alt"
  | stateStart => "state-start"
  | stateEnd => "state-end"

/-- The lines of edges. -/
inductive LineStyle where
  | solid
  | dotted
  | thick
  | invisible
deriving Repr, DecidableEq

/-- The name of a line style. -/
def LineStyle.name : LineStyle → String
  | solid => "solid"
  | dotted => "dotted"
  | thick => "thick"
  | invisible => "invisible"

/-- The kinds of edges. -/
inductive EdgeKind where
  | solidArrow
  | dottedArrow
  | thickArrow
  | openLink
  | dottedLink
  | thickLink
  | invisibleLink
  | circleArrow
  | crossArrow
deriving Repr, DecidableEq

/-- The name of a kind of edge. -/
def EdgeKind.name : EdgeKind → String
  | solidArrow => "solid-arrow"
  | dottedArrow => "dotted-arrow"
  | thickArrow => "thick-arrow"
  | openLink => "open-link"
  | dottedLink => "dotted-link"
  | thickLink => "thick-link"
  | invisibleLink => "invisible-link"
  | circleArrow => "circle-arrow"
  | crossArrow => "cross-arrow"

/-! ## Graphs -/

/-- A node, in the place of its first mention. -/
structure Node where
  id : String
  label : String
  shape : Shape
  declaredOrder : Nat
  implicit : Bool
  line : Int
deriving Repr, DecidableEq

/-- The text that a node shows: its label, or its id if the label is empty. -/
def Node.displayLabel (n : Node) : String := if n.label = "" then n.id else n.label

/-- An edge between two nodes. -/
structure Edge where
  source : String
  target : String
  kind : EdgeKind
  label : Option String
  style : LineStyle
  arrowStart : Bool
  arrowEnd : Bool
  line : Int
deriving Repr, DecidableEq

/-- A scope: a subgraph or a composite state without its children.  The serial number counts the
lines that open scopes, so it tells apart scopes of the same id. -/
structure Scope where
  serial : Nat
  id : String
  label : String
  nodeIds : List String := []
  parent : Option String
  direction : Option Direction := none
  line : Int
deriving Repr, DecidableEq

/-- A scope with the scopes inside it. -/
abbrev Subgraph := Tree Scope

/-- Style properties by name. -/
abbrev Properties := OrderedMap String String

/-- What a link style is for: one edge, by its index, or all edges. -/
inductive LinkTarget where
  | default
  | index (n : Nat)
deriving Repr, DecidableEq

/-- The text of a link target. -/
def LinkTarget.text : LinkTarget → String
  | default => "default"
  | index n => toString n

/-- The styles of a graph. -/
structure Styles where
  classDefs : OrderedMap String Properties := {}
  classAssignments : OrderedMap String (List String) := {}
  nodeStyles : OrderedMap String Properties := {}
  linkStyles : OrderedMap LinkTarget Properties := {}
deriving Repr, DecidableEq

/-- The two families of diagrams that are graphs. -/
inductive Family where
  | flowchart
  | state
deriving Repr, DecidableEq

/-- The name of a family. -/
def Family.name : Family → String
  | flowchart => "flowchart"
  | state => "state"

/-- A flowchart or a state diagram.  Its direction is a direction of the source, or the text that
the caller asked for when the source gives none. -/
structure Graph where
  family : Family
  direction : String
  nodes : Registry Node
  edges : List Edge
  subgraphs : List Subgraph
  styles : Styles
deriving Repr

namespace Graph

/-- All subgraphs, parents before children. -/
def allSubgraphs (g : Graph) : List Subgraph := Tree.walk g.subgraphs

/-- The first subgraph with the given id. -/
def subgraph? (g : Graph) (id : String) : Option Subgraph :=
  g.allSubgraphs.find? (·.value.id == id)

/-- The nodes that the subgraph with the given id, or a subgraph inside it, owns. -/
def members (g : Graph) (id : String) : List String :=
  match g.subgraph? id with
  | some t => (Tree.walk [t]).foldl (fun ids s => addAllNew ids s.value.nodeIds) []
  | none => []

end Graph

end DiagramText.ScopeGraph
