/-!
# Entity-relationship diagrams

Entities have attributes; relationships join two entities by their ids, with a cardinality at each
end.
-/

namespace DiagramText.Er

/-- How many entities may stand at an end of a relationship. -/
inductive Cardinality where
  | zeroOrOne
  | exactlyOne
  | zeroOrMany
  | oneOrMany
deriving Repr, DecidableEq

/-- The name of a cardinality. -/
def Cardinality.name : Cardinality → String
  | zeroOrOne => "zero-or-one"
  | exactlyOne => "exactly-one"
  | zeroOrMany => "zero-or-many"
  | oneOrMany => "one-or-many"

/-- The constraints that make an attribute a key. -/
inductive KeyTag where
  | foreign
  | primary
  | unique
deriving Repr, DecidableEq

/-- The spelling of a key constraint. -/
def KeyTag.name : KeyTag → String
  | foreign => "FK"
  | primary => "PK"
  | unique => "UK"

/-- All key constraints, in the alphabetical order of their spellings. -/
def KeyTag.all : List KeyTag := [foreign, primary, unique]

/-- The key constraint with the given spelling. -/
def KeyTag.ofName? (s : String) : Option KeyTag := all.find? (·.name == s)

/-- An attribute of an entity; its key tags stand in alphabetical order, each at most once. -/
structure Attribute where
  type : String
  name : String
  keyTags : List KeyTag
  comment : Option String
deriving Repr, DecidableEq

/-- An entity, in the place of its first mention. -/
structure Entity where
  id : String
  label : String
  attributes : List Attribute := []
  declaredOrder : Nat
  implicit : Bool
deriving Repr, DecidableEq

/-- The entity that a mere mention of its id stands for. -/
def Entity.mentioned (id : String) (order : Nat) : Entity :=
  { id, label := id, declaredOrder := order, implicit := true }

/-- A relationship; an identifying one is drawn as a solid line. -/
structure Relationship where
  entity1 : String
  entity2 : String
  cardinality1 : Cardinality
  cardinality2 : Cardinality
  identifying : Bool
  label : Option String
  line : Int
deriving Repr, DecidableEq

/-- An entity-relationship diagram. -/
structure Diagram where
  entities : List Entity
  relationships : List Relationship
deriving Repr, DecidableEq

/-- The entity with the given id. -/
def Diagram.entity? (d : Diagram) (id : String) : Option Entity := d.entities.find? (·.id == id)

end DiagramText.Er
