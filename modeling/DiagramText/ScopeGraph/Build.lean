import DiagramText.ScopeGraph.Directive
import DiagramText.ScopeGraph.Problem
import DiagramText.Parsed
import DiagramText.Source.Line

/-!
# Building graphs

The steps by which flowcharts and state diagrams build a graph.

1. Scopes open and close like brackets; the open ones form a spine, innermost first.
2. A node is registered on first mention.  Its first declaration decides label and shape.
3. A mention inside a scope claims the node: the innermost open scope becomes its owner, unless the
   present owner is closed already.
4. Style directives are collected, and checked against the finished graph.
-/

namespace DiagramText.ScopeGraph

open Source (Line)

/-- A graph being built. -/
structure State where
  direction : String
  nodes : Registry Node := {}
  edges : List Edge := []
  finished : List Subgraph := []
  scopes : List (Frame Scope) := []
  serial : Nat := 0
  owners : OrderedMap String Nat := {}
  styles : Styles := {}
  /-- The line that first styled a node or gave it a class. -/
  targetLines : OrderedMap String Int := {}
  /-- The line that first styled an edge. -/
  linkLines : OrderedMap Nat Int := {}
  /-- The number of subgraphs without any text. -/
  unnamed : Nat := 0
  /-- The number of start states so far. -/
  starts : Nat := 0
  /-- The number of end states so far. -/
  ends : Nat := 0
  reports : List (Report Problem) := []

namespace State

/-- Records a problem with a whole line. -/
def report (st : State) (l : Line) (p : Problem) : State :=
  { st with reports := st.reports ++ [l.report p] }

/-- Records a problem that has a line and no column. -/
def reportAt (st : State) (line : Int) (p : Problem) : State :=
  { st with reports := st.reports ++ [⟨p, line, none⟩] }

/-! ## Scopes -/

/-- Opens a scope inside the innermost open one. -/
def openScope (st : State) (l : Line) (id label : String) : State :=
  let scope : Scope :=
    { serial := st.serial, id, label, parent := st.scopes.head?.map (·.value.id), line := l.number }
  { st with scopes := { value := scope } :: st.scopes, serial := st.serial + 1 }

/-- Closes the innermost scope. -/
def closeScope (st : State) : State :=
  match st.scopes with
  | [] => st
  | [f] => { st with scopes := [], finished := st.finished ++ [f.close] }
  | f :: g :: fs => { st with scopes := g.adopt f.close :: fs }

/-- Closes the innermost scope, or reports that none is open. -/
def closeOrReport (st : State) (family : Family) (l : Line) : State :=
  if st.scopes.isEmpty then st.report l (.strayClose family) else st.closeScope

/-- Sets the direction of the innermost scope, or of the graph. -/
def setDirection (st : State) (d : Direction) : State :=
  match st.scopes with
  | [] => { st with direction := d.name }
  | f :: fs => { st with scopes := f.map (fun s => { s with direction := some d }) :: fs }

/-! ## Nodes -/

/-- Takes a node away from the open scope with the given serial number. -/
def release (serial : Nat) (id : String) (f : Frame Scope) : Frame Scope :=
  if f.value.serial = serial then f.map fun s => { s with nodeIds := s.nodeIds.erase id } else f

/-- Makes the innermost open scope the owner of a node, unless another scope owns it that is no
longer open. -/
def claim (st : State) (id : String) : State :=
  match st.scopes with
  | [] => st
  | f :: fs =>
    let take := fun fs : List (Frame Scope) =>
      { st with
        scopes := f.map (fun s => { s with nodeIds := s.nodeIds ++ [id] }) :: fs
        owners := st.owners.insert id f.value.serial }
    match st.owners.get? id with
    | none => take fs
    | some owner =>
      if owner = f.value.serial then st
      else if fs.any fun g => g.value.serial == owner then take (fs.map (release owner id))
      else st

/-- Registers a node on a mere mention. -/
def mention (st : State) (id : String) (shape : Shape) (line : Int) : State :=
  let make := fun order : Nat =>
    { id, label := "", shape, declaredOrder := order, implicit := true, line : Node }
  { st with nodes := Registry.ensure st.nodes id make }.claim id

/-- Declares a node with a label and a shape; only the first declaration counts. -/
def declare (st : State) (id label : String) (shape : Shape) (line : Int) : State :=
  let st :=
    match st.nodes.get? id with
    | none =>
      let node : Node :=
        { id, label, shape, declaredOrder := st.nodes.size, implicit := false, line }
      { st with nodes := st.nodes.insert id node }
    | some n =>
      if n.implicit then
        { st with nodes := st.nodes.modify id fun n => { n with label, shape, implicit := false } }
      else if n.label = label ∧ n.shape = shape then st
      else st.reportAt line (.redeclared id n.line)
  st.claim id

/-- Gives a class to a node. -/
def assignClass (st : State) (id className : String) : State :=
  let known := (st.styles.classAssignments.get? id).getD []
  { st with
    styles.classAssignments := st.styles.classAssignments.insert id (addNew known className) }

/-! ## Directives -/

/-- Remembers the line that first referred to a styled node. -/
def noteTarget (st : State) (l : Line) (id : String) : State :=
  { st with targetLines := Registry.ensure st.targetLines id fun _ => l.number }

/-- Remembers the line that first referred to a styled edge. -/
def noteLink (st : State) (l : Line) : LinkTarget → State
  | .default => st
  | .index n =>
    if st.linkLines.contains n then st else { st with linkLines := st.linkLines.insert n l.number }

/-- Adds properties to those stored for a key. -/
def restyle {κ : Type} [BEq κ] (m : OrderedMap κ Properties) (k : κ) (p : Properties) :
    OrderedMap κ Properties :=
  m.insert k (((m.get? k).getD {}).insertAll p)

/-- Obeys a style directive. -/
def applyDirective (st : State) (l : Line) : Directive → State
  | .classDef names properties =>
    let st := if properties.entries.isEmpty then st.report l .emptyClassDef else st
    let define := fun (st : State) (name : String) =>
      { st with styles.classDefs := st.styles.classDefs.insert name properties }
    names.foldl define st
  | .assign ids className =>
    ids.foldl (fun st id => (st.assignClass id className).noteTarget l id) st
  | .style ids properties =>
    let paint := fun (st : State) (id : String) =>
      { st with styles.nodeStyles := restyle st.styles.nodeStyles id properties }.noteTarget l id
    ids.foldl paint st
  | .linkStyle targets properties =>
    let paint := fun (st : State) (t : LinkTarget) =>
      { st with styles.linkStyles := restyle st.styles.linkStyles t properties }.noteLink l t
    targets.foldl paint st
  | .malformed => st.report l (.malformedDirective l.text)

/-! ## The end -/

/-- Closes the scope `f`, which is the innermost one, at the end of the source. -/
def closeUnclosed (family : Family) (st : State) (f : Frame Scope) : State :=
  (st.reportAt f.value.line (.unclosed family f.value.id)).closeScope

/-- The reports on styled nodes that are neither nodes nor subgraphs. -/
def undeclaredTargets (st : State) : List (Report Problem) :=
  let known := st.nodes.keys ++ (Tree.forestValues st.finished).map (·.id)
  (st.targetLines.entries.filter fun e => !known.contains e.1).map fun e =>
    ⟨.undeclaredTarget e.1, e.2, none⟩

/-- The reports on styled edges that do not exist. -/
def missingLinks (st : State) : List (Report Problem) :=
  (st.linkLines.entries.filter fun e => st.edges.length ≤ e.1).map fun e =>
    ⟨.linkRange e.1 st.edges.length, e.2, none⟩

/-- Closes all open scopes, innermost first. -/
def closeAll (st : State) (family : Family) : State := st.scopes.foldl (closeUnclosed family) st

/-- The graph that has been built, with all reports. -/
def finish (st : State) (family : Family) : Parsed Graph :=
  let st := st.closeAll family
  .ofReports
    { family, direction := st.direction, nodes := st.nodes, edges := st.edges,
      subgraphs := st.finished, styles := st.styles }
    (st.reports ++ st.undeclaredTargets ++ st.missingLinks)

end State

end DiagramText.ScopeGraph
