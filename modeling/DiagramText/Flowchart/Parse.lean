import DiagramText.Flowchart.Statement
import DiagramText.ScopeGraph.Build

/-!
# Reading flowcharts

The header gives the direction, and every further line is a statement.  A subgraph stays open until
`end`, and the nodes mentioned meanwhile belong to it.
-/

namespace DiagramText.Flowchart

open Source (Line)
open ScopeGraph (State)

/-- Reads the header. -/
def readHeader (st : State) (l : Line) : State :=
  match header? l.text with
  | none => st.report l (.invalidHeader l.text)
  | some none => st
  | some (some token) =>
    match Direction.ofName? (String.ofList (Text.upper token)) with
    | some d => { st with direction := d.name }
    | none => st.report l (.unknownDirection (String.ofList token) st.direction)

/-- Opens a subgraph.  One without an id gets the next free number as its name. -/
def openSubgraph (st : State) (l : Line) : SubgraphHead → State
  | .unnamed =>
    let st := { st with unnamed := st.unnamed + 1 }
    (st.report l .missingId).openScope l s!"subgraph{st.unnamed}" ""
  | .named id label => st.openScope l id label
  | .labelled label => st.openScope l s!"subgraph{st.unnamed + 1}" label

/-- Mentions a node. -/
def mention (st : State) (l : Line) (m : Mention) : State :=
  let st :=
    match m.form with
    | some (label, shape) => st.declare m.id label shape l.number
    | none => st.mention m.id .rectangle l.number
  match m.className with
  | some c => st.assignClass m.id c
  | none => st

/-- The edges from every source to every target. -/
def edges (line : Int) (sources targets : List String) (a : Arrow) : List ScopeGraph.Edge :=
  sources.flatMap fun source => targets.map fun target =>
    { source, target, kind := a.kind, label := a.label, style := a.style,
      arrowStart := a.arrowStart, arrowEnd := a.arrowEnd, line }

/-- Reports a problem with the part of a line behind `offset` characters. -/
def reportWithin (st : State) (l : Line) (offset : Nat) (p : ScopeGraph.Problem) : State :=
  { st with reports := st.reports ++ [⟨p, l.number, some (l.column + offset)⟩] }

/-- Takes one step of a chain. -/
def takeStep (l : Line) (st : State) : Step → State
  | .mention m => mention st l m
  | .join sources targets a =>
    { st with edges := st.edges ++ edges l.number sources targets a }
  | .unknownArrow token offset => reportWithin st l offset (.unknownArrow token)
  | .missingTarget => st.report l (.missingTarget l.text)
  | .unrecognisedText text offset => reportWithin st l offset (.unrecognisedText text)
  | .unrecognisedLine => st.report l (.unrecognisedLine l.text)

/-- Reads a statement. -/
def step (st : State) : Line × Statement → State
  | (l, .directive d) => st.applyDirective l d
  | (_, .direction d) => st.setDirection d
  | (l, .openSubgraph head) => openSubgraph st l head
  | (l, .close) => st.closeOrReport .flowchart l
  | (l, .interaction) => st.report l (.interaction l.text)
  | (l, .chain steps) => steps.foldl (takeStep l) st

/-- The state behind the header, if there is one. -/
def start (ls : List Line) (defaultDirection : String) : State :=
  match ls with
  | [] => { direction := defaultDirection }
  | l :: _ => readHeader { direction := defaultDirection } l

/-- The statements of lines, or the first fault among them. -/
def statements (ls : List Line) : Except Fault (List (Line × Statement)) :=
  ls.mapM fun l => do return (l, ← Statement.recognise l.text)

/-- Reads a flowchart, whose first line is the header. -/
def parse (ls : List Line) (defaultDirection : String) :
    Except Fault (Parsed ScopeGraph.Graph) := do
  let st := (← statements ls.tail).foldl step (start ls defaultDirection)
  return st.finish .flowchart

end DiagramText.Flowchart
