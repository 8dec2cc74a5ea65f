import DiagramText.Classes.Statement
import DiagramText.Distinct
import DiagramText.OrderedMap
import DiagramText.Parsed
import DiagramText.Source.Line

/-!
# Reading class diagrams

Classes are registered on first mention.  While the body of a class is open, every line but the
closing brace and a new declaration belongs to that class.  Namespaces do not nest: opening one
closes the open one with a warning.
-/

namespace DiagramText.Classes

open Source (Line)

/-! ## Problems -/

/-- What can be wrong with a class diagram. -/
inductive Problem where
  | unclosedBody (id : String)
  | unclosedGroup (name : String)
  | bodyBeforeClass (id : String)
  | nestedGroup (inner outer : String)
  | strayClose
  | unexpectedText (id text : String)
  | namelessMember (id text : String)
  | unknownConnector (token : String)
  | malformedRelationship (text : String)
  | unrecognised (text : String)
deriving Repr, DecidableEq

instance : Describe Problem where
  severity
    | .strayClose | .unknownConnector _ | .malformedRelationship _ => .error
    | _ => .warning
  message
    | .unclosedBody id => s!"Class body of '{id}' closed at end of input (missing '\x7d')"
    | .unclosedGroup name => s!"Namespace '{name}' closed at end of input (missing '\x7d')"
    | .bodyBeforeClass id =>
      s!"Class body of '{id}' not closed before the next class (missing '\x7d')"
    | .nestedGroup inner outer =>
      s!"Namespace '{inner}' inside '{outer}' is not nested; closing the outer namespace"
    | .strayClose => "Unexpected '\x7d' without an open block"
    | .unexpectedText id text => s!"Ignoring unexpected text after class '{id}': {text}"
    | .namelessMember id text => s!"Ignoring member of '{id}' without a name: {text}"
    | .unknownConnector token => s!"Unknown relationship connector '{token}'"
    | .malformedRelationship text => s!"Malformed relationship: {text}"
    | .unrecognised text => s!"Skipping unrecognized line: {text}"
  suggestions
    | .unknownConnector _ => ["<|--", "*--", "o--", "-->", "..>", "..|>", "--", ".."]
    | .malformedRelationship _ => ["Expected: From [\"1\"] --> [\"*\"] To : label"]
    | _ => []

/-! ## State -/

/-- The open body of a class and the line that opened it. -/
structure Body where
  id : String
  line : Int
deriving Repr, DecidableEq

/-- The open namespace and the line that opened it. -/
structure OpenGroup where
  group : Group
  line : Int
deriving Repr, DecidableEq

/-- A diagram being read. -/
structure State where
  classes : Registry Entity := {}
  relationships : List Relationship := []
  groups : List Group := []
  notes : List Note := []
  direction : Option Direction := none
  body : Option Body := none
  group : Option OpenGroup := none
  reports : List (Report Problem) := []

namespace State

/-- Records a problem with a line. -/
def report (st : State) (l : Line) (p : Problem) : State :=
  { st with reports := st.reports ++ [l.report p] }

/-- Records a problem that has a line and no column. -/
def reportAt (st : State) (line : Int) (p : Problem) : State :=
  { st with reports := st.reports ++ [⟨p, line, none⟩] }

/-- Changes a class. -/
def modifyClass (st : State) (id : String) (f : Entity → Entity) : State :=
  { st with classes := st.classes.modify id f }

/-- Registers a class on its first mention. -/
def mention (st : State) (id : String) : State :=
  { st with classes := Registry.ensure st.classes id (Entity.mentioned id) }

/-- Declares a class: it is no longer implicit, type arguments show in its label, and it joins the
open namespace. -/
def declareName (st : State) (n : ClassName) : State :=
  let id := String.ofList n.id
  let st := st.mention id
  let st := st.modifyClass id fun e => { e with implicit := false, label := n.label?.getD e.label }
  { st with
    group := st.group.map fun g => { g with group.classIds := addNew g.group.classIds id } }

/-- Adds a line of a body to a class. -/
def addBodyLine (st : State) (l : Line) (id : String) : BodyLine → State
  | .stereotype t => st.modifyClass id fun e => { e with stereotype := some t }
  | .member m => st.modifyClass id fun e => { e with members := e.members ++ [m] }
  | .nameless t => st.report l (.namelessMember id t)

/-- Reads what stands behind a declared class. -/
def readTail (st : State) (l : Line) (id : String) : Tail → State
  | .nothing => st
  | .body => { st with body := some ⟨id, l.number⟩ }
  | .inline parts => parts.foldl (fun st p => st.addBodyLine l id (.recognise p)) st
  | .unexpected t => st.report l (.unexpectedText id (String.ofList t))

/-- Declares a class with its label and its tail. -/
def declare (st : State) (l : Line) (d : Declaration) : State :=
  let id := String.ofList d.name.id
  let st := st.declareName d.name
  let st := st.modifyClass id fun e => { e with label := d.label.getD e.label }
  st.readTail l id d.tail

/-- Closes the open namespace. -/
def closeGroup (st : State) : State :=
  { st with groups := st.groups ++ (st.group.map (·.group)).toList, group := none }

/-- Opens a namespace and closes the open one. -/
def openGroup (st : State) (l : Line) (name : String) : State :=
  let st :=
    match st.group with
    | some g => (st.report l (.nestedGroup name g.group.name)).closeGroup
    | none => st
  { st with group := some ⟨{ name }, l.number⟩ }

/-- Adds a relationship and registers its classes. -/
def relate (st : State) (l : Line) (r : RelationText) : State :=
  let source := String.ofList (ClassName.ofToken r.source).id
  let target := String.ofList (ClassName.ofToken r.target).id
  let st := (st.mention source).mention target
  { st with
    relationships := st.relationships ++
      [{ source, target, kind := r.connector.kind, markedEnd := r.connector.markedEnd,
         sourceMultiplicity := r.sourceMultiplicity.map String.ofList,
         targetMultiplicity := r.targetMultiplicity.map String.ofList,
         label := (r.label.map fun t => String.ofList (Text.trim t)).filter (· ≠ ""),
         line := l.number }] }

/-- Adds a note and registers its class. -/
def addNote (st : State) (l : Line) (classId : Option String) (text : String) : State :=
  let st :=
    match classId with
    | some id => st.mention id
    | none => st
  { st with notes := st.notes ++ [{ text, classId, line := l.number }] }

/-! ## Steps -/

/-- Reads a line while no body is open. -/
def stepOutside (st : State) (l : Line) : State :=
  match Statement.recognise l.text with
  | .openGroup name => st.openGroup l name
  | .close => if st.group.isSome then st.closeGroup else st.report l .strayClose
  | .declare d => st.declare l d
  | .stereotype t n =>
    (st.declareName n).modifyClass (String.ofList n.id) fun e => { e with stereotype := some t }
  | .direction d => { st with direction := some d }
  | .note classId text => st.addNote l classId text
  | .relate r => st.relate l r
  | .unknownConnector token => st.report l (.unknownConnector token)
  | .malformedRelationship => st.report l (.malformedRelationship l.text)
  | .member id b => (st.mention id).addBodyLine l id b
  | .unrecognised => st.report l (.unrecognised l.text)

/-- Reads a line below the header. -/
def step (st : State) (l : Line) : State :=
  match st.body with
  | none => st.stepOutside l
  | some b =>
    if l.text = "\x7d" then { st with body := none }
    else if (Text.literal? "class ".toList l.text.toList).isSome then
      stepOutside { st.report l (.bodyBeforeClass b.id) with body := none } l
    else st.addBodyLine l b.id (.recognise l.text.toList)

/-- Closes the body that is open at the end. -/
def finishBody (st : State) : State :=
  match st.body with
  | some b => { st.reportAt b.line (.unclosedBody b.id) with body := none }
  | none => st

/-- Closes the namespace that is open at the end. -/
def finishGroup (st : State) : State :=
  match st.group with
  | some g => (st.reportAt g.line (.unclosedGroup g.group.name)).closeGroup
  | none => st

/-- The diagram that has been read. -/
def diagram (st : State) : Diagram :=
  { classes := st.classes.values, relationships := st.relationships, groups := st.groups,
    notes := st.notes, direction := st.direction }

end State

/-- Reads a class diagram, whose first line is the header. -/
def parse (ls : List Line) : Parsed Diagram :=
  let st := (ls.tail.foldl State.step {}).finishBody.finishGroup
  .ofReports st.diagram st.reports

end DiagramText.Classes
