import DiagramText.Er.Statement
import DiagramText.OrderedMap
import DiagramText.Parsed
import DiagramText.Source.Line

/-!
# Reading entity-relationship diagrams

Entities are registered on first mention.  While the body of an entity is open, every line but the
closing brace and a relationship is an attribute of that entity; a relationship closes the body with
a warning.
-/

namespace DiagramText.Er

open Source (Line)

/-- What can be wrong with an entity-relationship diagram. -/
inductive Problem where
  | unclosedBody (id : String)
  | bodyBeforeRelationship (id : String)
  | strayClose
  | unknownCardinality (glyph : String)
  | noLabel (entity1 entity2 : String)
  | unnamedAttribute (text : String)
  | unknownKey (word owner : String)
  | invalidRelationship (text : String)
  | unrecognised (text : String)
deriving Repr, DecidableEq

instance : Describe Problem where
  severity
    | .strayClose | .unknownCardinality _ | .unnamedAttribute _ | .invalidRelationship _ => .error
    | _ => .warning
  message
    | .unclosedBody id => s!"Attribute block of '{id}' closed at end of input (missing '\x7d')"
    | .bodyBeforeRelationship id =>
      s!"Attribute block of '{id}' not closed before a relationship (missing '\x7d')"
    | .strayClose => "Unexpected '\x7d' without an open entity block"
    | .unknownCardinality glyph => s!"Unknown cardinality '{glyph}', assuming zero-or-many"
    | .noLabel entity1 entity2 =>
      s!"Relationship {entity1} - {entity2} has no label (expected ': label')"
    | .unnamedAttribute text => s!"Attribute needs a type and a name: {text}"
    | .unknownKey word owner => s!"Unknown key constraint '{word}' on attribute '{owner}'"
    | .invalidRelationship text => s!"Invalid relationship syntax: {text}"
    | .unrecognised text => s!"Skipping unrecognized line: {text}"
  suggestions
    | .unknownCardinality _ => (glyphs.map (·.1)).mergeSort
    | .unknownKey _ _ => KeyTag.all.map KeyTag.name
    | .invalidRelationship _ => ["Expected: ENTITY1 ||--o\x7b ENTITY2 : label"]
    | _ => []

/-- The open body of an entity and the line that opened it. -/
structure Body where
  id : String
  line : Int
deriving Repr, DecidableEq

/-- A diagram being read. -/
structure State where
  entities : Registry Entity := {}
  relationships : List Relationship := []
  body : Option Body := none
  reports : List (Report Problem) := []

namespace State

/-- Records problems with a line. -/
def reportAll (st : State) (l : Line) (ps : List Problem) : State :=
  { st with reports := st.reports ++ ps.map l.report }

/-- Registers an entity on its first mention. -/
def mention (st : State) (id : String) : State :=
  { st with entities := Registry.ensure st.entities id (Entity.mentioned id) }

/-- The cardinality of a mark; an unknown glyph stands for zero or many. -/
def cardinality : Mark → Cardinality
  | .known c => c
  | .unknown _ => .zeroOrMany

/-- The problems with a relationship, in order. -/
def linkProblems (k : Link) : List Problem :=
  let unknown : Mark → List Problem := fun
    | .known _ => []
    | .unknown g => [.unknownCardinality g]
  unknown k.mark1 ++ unknown k.mark2 ++
    (if k.label.isNone then [.noLabel k.entity1 k.entity2] else [])

/-- Adds a relationship and registers its entities. -/
def relate (st : State) (l : Line) (k : Link) : State :=
  let st := ((st.reportAll l (linkProblems k)).mention k.entity1).mention k.entity2
  { st with
    relationships := st.relationships ++
      [{ entity1 := k.entity1, entity2 := k.entity2, cardinality1 := cardinality k.mark1,
         cardinality2 := cardinality k.mark2, identifying := k.identifying,
         label := k.label.filter (· ≠ ""), line := l.number }] }

/-- Declares an entity and possibly opens its body. -/
def declare (st : State) (l : Line) (d : Declaration) : State :=
  let st := st.mention d.id
  { st with
    entities := st.entities.modify d.id fun e =>
      { e with implicit := false, label := d.label.getD e.label }
    body := if d.opens then some ⟨d.id, l.number⟩ else st.body }

/-- Adds the attribute on a line to an entity. -/
def addAttribute (st : State) (l : Line) (id : String) : State :=
  match attribute? l.text with
  | none => st.reportAll l [.unnamedAttribute l.text]
  | some a =>
    let st := st.reportAll l (a.unknown.map fun w => .unknownKey w a.value.name)
    { st with
      entities := st.entities.modify id fun e =>
        { e with attributes := e.attributes ++ [a.value] } }

/-- Reads a line below the header. -/
def step (st : State) (l : Line) : State :=
  match st.body, Statement.recognise l.text with
  | some _, .close => { st with body := none }
  | some b, .relationship k =>
    ({ st.reportAll l [.bodyBeforeRelationship b.id] with body := none }).relate l k
  | some b, _ => st.addAttribute l b.id
  | none, .close => st.reportAll l [.strayClose]
  | none, .relationship k => st.relate l k
  | none, .entity d => st.declare l d
  | none, .invalidRelationship => st.reportAll l [.invalidRelationship l.text]
  | none, .unrecognised => st.reportAll l [.unrecognised l.text]

/-- The report of a body that is open at the end. -/
def openEnd (st : State) : List (Report Problem) :=
  match st.body with
  | some b => [{ problem := .unclosedBody b.id, line := b.line }]
  | none => []

end State

/-- Reads an entity-relationship diagram, whose first line is the header. -/
def parse (ls : List Line) : Parsed Diagram :=
  let st := ls.tail.foldl State.step {}
  .ofReports ⟨st.entities.values, st.relationships⟩ (st.reports ++ st.openEnd)

end DiagramText.Er
