import DiagramText.Classes.Parse
import DiagramText.Er.Parse
import DiagramText.Flowchart.Parse
import DiagramText.Gantt.Parse
import DiagramText.Mindmap.Parse
import DiagramText.Pie.Parse
import DiagramText.Sequence.Parse
import DiagramText.Source.Kind
import DiagramText.StateChart.Parse

/-!
# Diagrams of all kinds

A `Diagram` is a diagram of one of the built-in kinds, and `Diagram.parse` reads the logical lines
of a source of a known kind.
-/

namespace DiagramText

/-- A diagram of a built-in kind. -/
inductive Diagram where
  | graph (g : ScopeGraph.Graph)
  | sequence (d : Sequence.Diagram)
  | classes (d : Classes.Diagram)
  | er (d : Er.Diagram)
  | pie (c : Pie.Chart)
  | gantt (c : Gantt.Chart)
  | mindmap (m : Mindmap.Map)

namespace Diagram

/-- The kind of a diagram. -/
def kind : Diagram → DiagramKind
  | graph g =>
    match g.family with
    | .flowchart => .flowchart
    | .state => .state
  | sequence _ => .sequence
  | classes _ => .classes
  | er _ => .er
  | pie _ => .pie
  | gantt _ => .gantt
  | mindmap _ => .mindmap

/-- Reads the lines of a diagram of the given kind, the first line being the header. -/
def parse (kind : DiagramKind) (defaultDirection : String) (ls : List Source.Line) :
    Except Fault (Parsed Diagram) :=
  match kind with
  | .flowchart => (Flowchart.parse ls defaultDirection).map (·.map graph)
  | .state => (StateChart.parse ls).map (·.map graph)
  | .sequence => (Sequence.parse ls).map (·.map sequence)
  | .classes => .ok ((Classes.parse ls).map classes)
  | .er => .ok ((Er.parse ls).map er)
  | .pie => (Pie.parse ls).map (·.map pie)
  | .gantt => .ok ((Gantt.parse ls).map gantt)
  | .mindmap => .ok ((Mindmap.parse ls).map mindmap)

end Diagram

end DiagramText
