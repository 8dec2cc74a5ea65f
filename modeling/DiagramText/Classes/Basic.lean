import DiagramText.Direction

/-!
# Class diagrams

Classes have members and are joined by relationships.  A connector is a line with an optional marker
at either end; the markers decide the kind of the relationship.

1. `Marker`, `Link` and `Connector`, with the kind and the marked end of a connector.
2. Members, classes, relationships, namespaces, notes and the `Diagram`.
-/

namespace DiagramText.Classes

/-! ## Connectors -/

/-- The markers at the ends of a connector. -/
inductive Marker where
  | triangle
  | filledDiamond
  | openDiamond
  | arrow
deriving Repr, DecidableEq

/-- The line of a connector. -/
inductive Link where
  | solid
  | dashed
deriving Repr, DecidableEq

/-- The kinds of relationships. -/
inductive Kind where
  | inheritance
  | composition
  | aggregation
  | association
  | dependency
  | realization
deriving Repr, DecidableEq

/-- The name of a kind of relationship. -/
def Kind.name : Kind → String
  | inheritance => "inheritance"
  | composition => "composition"
  | aggregation => "aggregation"
  | association => "association"
  | dependency => "dependency"
  | realization => "realization"

/-- The ends of a connector that carry a marker. -/
inductive MarkedEnd where
  | first
  | second
  | both
  | neither
deriving Repr, DecidableEq

/-- The name of the marked ends. -/
def MarkedEnd.name : MarkedEnd → String
  | first => "from"
  | second => "to"
  | both => "both"
  | neither => "none"

/-- A line with an optional marker at either end. -/
structure Connector where
  left : Option Marker
  link : Link
  right : Option Marker
deriving Repr, DecidableEq

namespace Connector

/-- The spelling of a marker at the left end. -/
def leftToken : Option Marker → String
  | some .triangle => "<|"
  | some .filledDiamond => "*"
  | some .openDiamond => "o"
  | some .arrow => "<"
  | none => ""

/-- The spelling of a marker at the right end. -/
def rightToken : Option Marker → String
  | some .triangle => "|>"
  | some .filledDiamond => "*"
  | some .openDiamond => "o"
  | some .arrow => ">"
  | none => ""

/-- The spelling of a line. -/
def linkToken : Link → String
  | .solid => "--"
  | .dashed => ".."

/-- The spelling of a connector. -/
def token (c : Connector) : String := leftToken c.left ++ linkToken c.link ++ rightToken c.right

/-- The kind of relationship; of two markers the left one decides. -/
def kind (c : Connector) : Kind :=
  match c.left <|> c.right, c.link with
  | some .triangle, .solid => .inheritance
  | some .triangle, .dashed => .realization
  | some .filledDiamond, _ => .composition
  | some .openDiamond, _ => .aggregation
  | _, .solid => .association
  | _, .dashed => .dependency

/-- The ends that carry a marker. -/
def markedEnd (c : Connector) : MarkedEnd :=
  match c.left, c.right with
  | some _, some _ => .both
  | some _, none => .first
  | none, some _ => .second
  | none, none => .neither

/-- The markers that an end may have, the missing one last. -/
def ends : List (Option Marker) :=
  [some .triangle, some .filledDiamond, some .openDiamond, some .arrow, none]

/-- All connectors. -/
def all : List Connector :=
  ends.flatMap fun left => [Link.solid, Link.dashed].flatMap fun link =>
    ends.map fun right => ⟨left, link, right⟩

/-- All connectors, longer spellings first. -/
def longestFirst : List Connector :=
  [6, 5, 4, 3, 2].flatMap fun n => all.filter fun c => c.token.length == n

end Connector

/-! ## Diagrams -/

/-- Who may see a member. -/
inductive Visibility where
  | unmarked
  | everywhere
  | inClass
  | inSubclasses
  | inPackage
deriving Repr, DecidableEq

/-- The sign of a visibility. -/
def Visibility.sign : Visibility → String
  | unmarked => ""
  | everywhere => "+"
  | inClass => "-"
  | inSubclasses => "#"
  | inPackage => "~"

/-- A member is a field or a method, and a method has parameters. -/
inductive MemberKind where
  | field
  | method
deriving Repr, DecidableEq

/-- The name of a kind of member. -/
def MemberKind.name : MemberKind → String
  | field => "field"
  | method => "method"

/-- A static member belongs to the class, an abstract one has no body. -/
inductive Classifier where
  | ordinary
  | static
  | abstract
deriving Repr, DecidableEq

/-- A field or a method. -/
structure Member where
  visibility : Visibility
  name : String
  kind : MemberKind
  type : Option String
  parameters : Option String := none
  classifier : Classifier
deriving Repr, DecidableEq

/-- A class, in the place of its first mention. -/
structure Entity where
  id : String
  label : String
  stereotype : Option String := none
  members : List Member := []
  declaredOrder : Nat
  implicit : Bool
deriving Repr, DecidableEq

/-- The class that a mere mention of its id stands for. -/
def Entity.mentioned (id : String) (order : Nat) : Entity :=
  { id, label := id, declaredOrder := order, implicit := true }

/-- The fields of a class. -/
def Entity.fields (e : Entity) : List Member := e.members.filter (·.kind == .field)

/-- The methods of a class. -/
def Entity.methods (e : Entity) : List Member := e.members.filter (·.kind == .method)

/-- A relationship between two classes. -/
structure Relationship where
  source : String
  target : String
  kind : Kind
  markedEnd : MarkedEnd
  sourceMultiplicity : Option String
  targetMultiplicity : Option String
  label : Option String
  line : Int
deriving Repr, DecidableEq

/-- A named group of classes. -/
structure Group where
  name : String
  classIds : List String := []
deriving Repr, DecidableEq

/-- A note, on its own or for a class. -/
structure Note where
  text : String
  classId : Option String
  line : Int
deriving Repr, DecidableEq

/-- A class diagram. -/
structure Diagram where
  classes : List Entity
  relationships : List Relationship
  groups : List Group
  notes : List Note
  direction : Option Direction
deriving Repr, DecidableEq

/-- The class with the given id. -/
def Diagram.class? (d : Diagram) (id : String) : Option Entity := d.classes.find? (·.id == id)

end DiagramText.Classes
