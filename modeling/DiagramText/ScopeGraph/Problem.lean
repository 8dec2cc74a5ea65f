import DiagramText.Diagnostic
import DiagramText.Direction
import DiagramText.ScopeGraph.Basic

/-!
# Problems with flowcharts and state diagrams
-/

namespace DiagramText.ScopeGraph

/-- What can be wrong with a flowchart or a state diagram. -/
inductive Problem where
  | invalidHeader (text : String)
  | unknownDirection (token current : String)
  | missingId
  | strayClose (family : Family)
  | unclosed (family : Family) (id : String)
  | unclosedNote
  | interaction (text : String)
  | emptyClassDef
  | malformedDirective (text : String)
  | undeclaredTarget (id : String)
  | linkRange (index edges : Nat)
  | redeclared (id : String) (line : Int)
  | unknownArrow (token : String)
  | missingTarget (text : String)
  | unrecognisedText (text : String)
  | unrecognisedLine (text : String)
deriving Repr, DecidableEq

instance : Describe Problem where
  severity
    | .missingId | .strayClose _ | .malformedDirective _ | .missingTarget _ => .error
    | _ => .warning
  message
    | .invalidHeader text =>
      s!"Invalid header: \"{text}\". Expected \"graph TD\", \"flowchart LR\", etc."
    | .unknownDirection token current => s!"Unknown direction \"{token}\"; using {current}"
    | .missingId => "Subgraph is missing an id"
    | .strayClose .flowchart => "Unexpected 'end' without an open subgraph"
    | .strayClose .state => "Unexpected '\x7d' without an open composite state"
    | .unclosed .flowchart id =>
      s!"Unclosed subgraph '{id}' closed at end of input (missing 'end')"
    | .unclosed .state id =>
      s!"Unclosed composite state '{id}' closed at end of input (missing '\x7d')"
    | .unclosedNote => "Unclosed note block closed at end of input"
    | .interaction text => s!"Ignoring interaction directive: {text}"
    | .emptyClassDef => "classDef has no style properties"
    | .malformedDirective text => s!"Malformed style directive: {text}"
    | .undeclaredTarget id => s!"Style directive references undeclared node '{id}'"
    | .linkRange index edges => s!"linkStyle index {index} is out of range ({edges} edges)"
    | .redeclared id line =>
      s!"Node '{id}' is already declared on line {line}; keeping its first definition"
    | .unknownArrow token => s!"Unknown arrow \"{token}\"; treating it as a plain link"
    | .missingTarget text => s!"Edge is missing a target node: {text}"
    | .unrecognisedText text => s!"Skipping unrecognized text: {text}"
    | .unrecognisedLine text => s!"Skipping unrecognized line: {text}"
  suggestions
    | .unknownDirection _ _ => Direction.all.map Direction.name
    | .unknownArrow _ => ["-->", "---", "-.->", "==>"]
    | _ => []

end DiagramText.ScopeGraph
