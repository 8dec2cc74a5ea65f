import DiagramText.Fault
import DiagramText.Parsed
import DiagramText.Pie.Basic
import DiagramText.Pie.Statement
import DiagramText.Source.Line

/-!
# Reading pie charts

The header sets title and flag, every further line adds one slice, changes title or flag, or is
reported.
-/

namespace DiagramText.Pie

open Source (Line)

/-- What can be wrong with a pie chart. -/
inductive Problem where
  | header (text : String)
  | badValue (raw : String)
  | unrecognised (text : String)
deriving Repr, DecidableEq

instance : Describe Problem where
  severity
    | .badValue _ => .error
    | _ => .warning
  message
    | .header text => s!"Ignoring unexpected text in header: {text}"
    | .badValue raw => s!"Slice value must be a non-negative number, got '{raw}'"
    | .unrecognised text => s!"Skipping unrecognized line: {text}"
  suggestions _ := []

/-- A chart being read, and the problems so far. -/
structure State where
  chart : Chart := {}
  reports : List (Report Problem) := []

/-- Records a problem with a line. -/
def State.report (st : State) (l : Line) (p : Problem) : State :=
  { st with reports := st.reports ++ [l.report p] }

/-- Reads the header. -/
def State.ofHeader (l : Line) : State :=
  match Header.recognise? l.text with
  | some h => { chart := { title := h.title, showData := h.showData } }
  | none => ({} : State).report l (.header l.text)

/-- Reads a line of the body. -/
def State.step (st : State) (l : Line) : State :=
  match Statement.recognise l.text with
  | .showData => { st with chart.showData := true }
  | .title t => { st with chart.title := some t }
  | .slice label value =>
    { st with chart.slices := st.chart.slices ++ [⟨label, value, l.number⟩] }
  | .badValue raw => st.report l (.badValue raw)
  | .unrecognised => st.report l (.unrecognised l.text)

/-- Reads a pie chart, whose first line is the header. -/
def parse : List Line → Except Fault (Parsed Chart)
  | [] => .error .missingHeader
  | header :: body =>
    let st := body.foldl State.step (State.ofHeader header)
    .ok (.ofReports st.chart st.reports)

end DiagramText.Pie
