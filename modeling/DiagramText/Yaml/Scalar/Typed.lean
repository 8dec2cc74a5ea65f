import DiagramText.Text.Base64
import DiagramText.Yaml.Node
import DiagramText.Yaml.Number

/-!
# Scalars with a type

1. `NodeGraph.scalarText`, the text of a node that is used as a scalar.
2. `NodeGraph.scalarValue`, the value of a node whose type is one of scalars.
-/

namespace DiagramText.Yaml

/-- The truth value that a word in any letter case names. -/
def truthValue (text : String) : Except Fault Bool :=
  let word := String.ofList (Text.lower text.toList)
  match truths.lookup word with
  | some b => .ok b
  | none => .error (.truth word)

namespace NodeGraph

/-- The text of a node: its own, or that of the default value of a mapping; `fuel` bounds the
number of mappings inside each other. -/
def textWithin (g : NodeGraph) : (fuel : Nat) → NodeId → Except Failure String
  | 0, _ => .error (.fault .endless)
  | fuel + 1, n =>
    match g.content n with
    | .scalar text => .ok text
    | .mapping pairs =>
      match pairs.find? fun p => g.tag p.1 == .value with
      | some (_, v) => textWithin g fuel v
      | none => g.fail n "expected a scalar node, but found mapping"
    | .sequence _ => g.fail n "expected a scalar node, but found sequence"

/-- The text of a node that is used as a scalar. -/
def scalarText (g : NodeGraph) (n : NodeId) : Except Failure String := g.textWithin (g.size + 1) n

/-- The date or moment that a node spells.  Its own text counts, so a default value is of no use. -/
def stampValue (g : NodeGraph) (n : NodeId) : Except Fault Value :=
  match g.content n with
  | .scalar text =>
    match Stamp.read? (dropBreak text.toList) with
    | some t => t.value
    | none => .error .timestamp
  | _ => .error .stampedCollection

/-- The bytes that a text in base 64 stands for. -/
def bytesValue (g : NodeGraph) (n : NodeId) (text : String) : Except Failure Value :=
  match Text.Base64.decode text.toList with
  | .ok bytes => .ok (.bytes bytes)
  | .error flaw => g.fail n flaw.message

/-- The value of a node whose type is one of scalars, or no known type at all. -/
def scalarValue (g : NodeGraph) (n : NodeId) : Except Failure Value :=
  let typed := fun (value : String → Except Fault Value) => do
    ((value (← g.scalarText n)).mapError .fault : Except Failure Value)
  match g.tag n with
  | .null => typed fun _ => .ok .null
  | .bool => typed fun text => (truthValue text).map .bool
  | .int => typed fun text => (integerValue text).map .int
  | .float => typed decimalValue
  | .str => typed fun text => .ok (.str text)
  | .timestamp => typed fun _ => g.stampValue n
  | .binary => do g.bytesValue n (← g.scalarText n)
  | tag => g.fail n s!"could not determine a constructor for the tag {Text.quoted tag.name}"

end NodeGraph

end DiagramText.Yaml
