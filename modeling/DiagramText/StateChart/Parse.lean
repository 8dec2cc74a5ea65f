import DiagramText.ScopeGraph.Build
import DiagramText.StateChart.Statement

/-!
# Reading state diagrams

A state diagram becomes a graph: states are nodes, transitions are edges, and composite states are
scopes.  Every `[*]` gets a node of its own.  Notes say nothing about the graph, and the lines of a
note block are left out before anything else is read.
-/

namespace DiagramText.StateChart

open Source (Line)
open ScopeGraph (State)

/-! ## Notes -/

/-- The lines outside note blocks, and whether a block is open at the end. -/
def outsideNotes : (inNote : Bool) → List Line → List Line × Bool
  | inNote, [] => ([], inNote)
  | true, l :: ls => outsideNotes (!isNoteEnd l.text) ls
  | false, l :: ls =>
    let (rest, isOpen) := outsideNotes (note? l.text.toList == some .block) ls
    (l :: rest, isOpen)

/-! ## Steps -/

/-- The name of the `n`-th start or end state. -/
def starName (role : String) (n : Nat) : String :=
  if 1 < n then s!"_{role}{n}" else s!"_{role}"

/-- Registers the source of a transition and gives its id. -/
def readSource (st : State) (l : Line) : Endpoint → State × String
  | .state id => (st.mention id .rounded l.number, id)
  | .star =>
    let id := starName "start" (st.starts + 1)
    ({ st with starts := st.starts + 1 }.declare id "" .stateStart l.number, id)

/-- Registers the target of a transition and gives its id. -/
def readTarget (st : State) (l : Line) : Endpoint → State × String
  | .state id => (st.mention id .rounded l.number, id)
  | .star =>
    let id := starName "end" (st.ends + 1)
    ({ st with ends := st.ends + 1 }.declare id "" .stateEnd l.number, id)

/-- Adds a transition and registers its ends. -/
def addTransition (st : State) (l : Line) (source target : Endpoint) (label : Option String) :
    State :=
  let (st, source) := readSource st l source
  let (st, target) := readTarget st l target
  { st with
    edges := st.edges ++
      [{ source, target, kind := .solidArrow, label, style := .solid, arrowStart := false,
         arrowEnd := true, line := l.number }] }

/-- Reads a statement. -/
def step (st : State) : Line × Statement → State
  | (l, .directive d) => st.applyDirective l d
  | (_, .direction d) => st.setDirection d
  | (l, .openComposite id label) => st.openScope l id label
  | (l, .close) => st.closeOrReport .state l
  | (_, .separator) => st
  | (_, .note _) => st
  | (l, .declare id label shape) => st.declare id label shape l.number
  | (l, .transition source target label) => addTransition st l source target label
  | (l, .mention id) => st.mention id .rounded l.number
  | (l, .unrecognised) => st.report l (.unrecognisedLine l.text)

/-! ## Parsing -/

/-- The statements of lines, or the first fault among them. -/
def statements (ls : List Line) : Except Fault (List (Line × Statement)) :=
  ls.mapM fun l => do return (l, ← Statement.recognise l.text)

/-- Reports a note block that is open at the end of the source. -/
def reportOpenNote (st : State) (isOpen : Bool) (ls : List Line) : State :=
  match isOpen, ls.getLast? with
  | true, some l => st.reportAt l.number .unclosedNote
  | _, _ => st

/-- Reads a state diagram, whose first line is the header. -/
def parse (ls : List Line) : Except Fault (Parsed ScopeGraph.Graph) := do
  let (body, isOpen) := outsideNotes false ls.tail
  let st := (← statements body).foldl step { direction := Direction.topDown.name }
  return (reportOpenNote st isOpen ls).finish .state

end DiagramText.StateChart
