import DiagramText.Gantt.Statement
import DiagramText.Parsed
import DiagramText.Source.Line

/-!
# Reading gantt charts

A section line opens or reopens the section of its name, and an accepted task joins the open
section.  Tasks above the first section line join an unnamed section.
-/

namespace DiagramText.Gantt

open Source (Line)

/-- What can be wrong with a gantt chart. -/
inductive Problem where
  | taskSyntax (text : String)
  | taskMetadata (label metadata : String)
deriving Repr, DecidableEq

instance : Describe Problem where
  severity _ := .error
  message
    | .taskSyntax text => s!"Invalid task syntax: {text}"
    | .taskMetadata label metadata => s!"Invalid task metadata for '{label}': {metadata}"
  suggestions
    | .taskSyntax _ => ["Expected: label : [tags,] [id,] [start,] end"]
    | .taskMetadata _ _ => ["Expected: [tags,] [id,] [start,] end"]

/-- A chart being read, the name of its open section, and the problems so far. -/
structure State where
  chart : Chart := {}
  current : Option String := none
  reports : List (Report Problem) := []

/-- Records a problem with a line. -/
def State.report (st : State) (l : Line) (p : Problem) : State :=
  { st with reports := st.reports ++ [l.report p] }

/-- Opens the section of the given name, behind the others if it is new. -/
def State.enter (st : State) (name : String) : State :=
  { st with
    chart.sections := Registry.ensure st.chart.sections name fun _ => []
    current := some name }

/-- Adds a task to the open section. -/
def State.addTask (st : State) (t : Task) : State :=
  let st := if st.current.isSome then st else st.enter ""
  match st.current with
  | some name => { st with chart.sections := st.chart.sections.modify name (· ++ [t]) }
  | none => st

/-- Reads a line below the header. -/
def State.step (st : State) (l : Line) : State :=
  match Statement.recognise l.text with
  | .title text => { st with chart.title := some text }
  | .dateFormat text => { st with chart.dateFormat := some text }
  | .axisFormat text => { st with chart.axisFormat := some text }
  | .excludes days => { st with chart.excludes := st.chart.excludes ++ days }
  | .includes days => { st with chart.includes := st.chart.includes ++ days }
  | .enter name => st.enter name
  | .setting name value => { st with chart.settings := st.chart.settings.insert name value }
  | .task label metadata =>
    match Task.ofMetadata? label metadata l.number with
    | some t => st.addTask t
    | none => st.report l (.taskMetadata (String.ofList label) (String.ofList metadata))
  | .invalid => st.report l (.taskSyntax l.text)

/-- Reads a gantt chart, whose first line is the header. -/
def parse (ls : List Line) : Parsed Chart :=
  let st := ls.tail.foldl State.step {}
  .ofReports st.chart st.reports

end DiagramText.Gantt
