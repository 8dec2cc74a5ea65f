import DiagramText.Source.Line
import DiagramText.Text.Lower

/-!
# Kinds of diagrams

The first word of the first logical line decides which kind of diagram a source holds.
-/

namespace DiagramText

/-- The built-in kinds of diagrams. -/
inductive DiagramKind where
  | flowchart
  | state
  | sequence
  | classes
  | er
  | pie
  | gantt
  | mindmap
deriving Repr, DecidableEq

namespace DiagramKind

/-- The name of a kind. -/
def name : DiagramKind → String
  | flowchart => "flowchart"
  | state => "state"
  | sequence => "sequence"
  | classes => "class"
  | er => "er"
  | pie => "pie"
  | gantt => "gantt"
  | mindmap => "mindmap"

/-- The keywords that open a diagram, in small letters. -/
def keywords : List (String × DiagramKind) :=
  [("graph", flowchart), ("flowchart", flowchart), ("statediagram", state),
   ("statediagram-v2", state), ("sequencediagram", sequence), ("classdiagram", classes),
   ("classdiagram-v2", classes), ("erdiagram", er), ("pie", pie), ("gantt", gantt),
   ("mindmap", mindmap)]

/-- The keywords in alphabetical order. -/
def sortedKeywords : List String := (keywords.map (·.1)).mergeSort

/-- The first word of a line, in small letters; a semicolon ends it too. -/
def firstToken (text : List Char) : List Char :=
  Text.lower (text.takeWhile fun c => !(Text.isBlank c || c == ';'))

/-- The kind of diagram that a line opens. -/
def ofLine? (l : Source.Line) : Option DiagramKind :=
  keywords.lookup (String.ofList (firstToken l.text.toList))

/-- The kind of diagram that a source holds. -/
def detect? (source : String) : Option DiagramKind := (Source.firstLine? source).bind ofLine?

/-- Whether the statements of this kind may be separated by semicolons. -/
def separable : DiagramKind → Bool
  | flowchart => true
  | state => true
  | _ => false

end DiagramKind

end DiagramText
