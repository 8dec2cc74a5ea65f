import DiagramText.Distinct
import DiagramText.OrderedMap
import DiagramText.Parsed
import DiagramText.Sequence.Statement
import DiagramText.Source.Line

/-!
# Reading sequence diagrams

The open blocks form a stack of frames, innermost first; a frame holds the finished branches of its
block and the items of the branch being read.  New items go to the innermost frame, or to the
diagram itself when no block is open.  Blocks and boxes that are open at the end are closed with a
warning.
-/

namespace DiagramText.Sequence

open Source (Line)

/-! ## Problems -/

/-- What can be wrong with a sequence diagram. -/
inductive Problem where
  | noText (sender : String) (arrow : Arrow) (receiver : String)
  | wideNote
  | sharedNote (position : String)
  | nestedBox
  | strayEnd
  | strayDivider (divider : Divider)
  | misplacedDivider (divider : Divider) (kind : BlockKind)
  | redeclared (id : String)
  | invalidMessage (text : String)
  | unrecognised (text : String)
  | unclosedBlock (kind : BlockKind)
  | unclosedBox
deriving Repr, DecidableEq

instance : Describe Problem where
  severity
    | .nestedBox | .strayEnd | .strayDivider _ | .invalidMessage _ => .error
    | _ => .warning
  message
    | .noText sender arrow receiver =>
      s!"Message {sender}{arrow.token}{receiver} has no text (expected ': text')"
    | .wideNote => "A note spans at most two participants; extra ones are kept as written"
    | .sharedNote position => s!"'{position}' notes attach to a single participant"
    | .nestedBox => "A box cannot be nested"
    | .strayEnd => "Unexpected 'end' without an open block"
    | .strayDivider divider => s!"Unexpected '{divider.name}' outside a block"
    | .misplacedDivider divider kind =>
      s!"'{divider.name}' belongs in a '{divider.home.name}' block, not '{kind.name}'"
    | .redeclared id => s!"Participant '{id}' is already declared"
    | .invalidMessage text => s!"Invalid message syntax: {text}"
    | .unrecognised text => s!"Skipping unrecognized line: {text}"
    | .unclosedBlock kind =>
      s!"Unclosed '{kind.name}' block closed at end of input (missing 'end')"
    | .unclosedBox => "Unclosed box closed at end of input (missing 'end')"
  suggestions
    | .invalidMessage _ =>
      ["Expected: A->>B: message",
       "Arrows: " ++ String.intercalate ", " (Arrow.all.map Arrow.token)]
    | _ => []

/-! ## Frames -/

/-- An open block: its finished branches, and the condition and items of the branch being read. -/
structure OpenBlock where
  head : BlockHead
  finished : List Branch := []
  condition : Option String
  items : List Item := []

/-- The condition that a label stands for. -/
def condition (label : String) : Option String := if label = "" then none else some label

/-- The block of a frame that takes no more items. -/
def OpenBlock.close (f : OpenBlock) : Item :=
  .block f.head (f.finished ++ [.mk f.condition f.items])

/-- Finishes the branch being read and starts another one. -/
def OpenBlock.divide (f : OpenBlock) (label : String) : OpenBlock :=
  { f with
    finished := f.finished ++ [.mk f.condition f.items]
    condition := Sequence.condition label
    items := [] }

/-- A diagram being read. -/
structure State where
  participants : Registry Participant := {}
  items : List Item := []
  blocks : List OpenBlock := []
  boxes : List Box := []
  box : Option Box := none
  title : Option String := none
  autonumber : Bool := false
  count : Nat := 0
  reports : List (Report Problem) := []

namespace State

/-! ## Steps -/

/-- Records a problem with a line. -/
def report (st : State) (l : Line) (p : Problem) : State :=
  { st with reports := st.reports ++ [l.report p] }

/-- Records a problem that has a line and no column. -/
def reportAt (st : State) (line : Int) (p : Problem) : State :=
  { st with reports := st.reports ++ [⟨p, line, none⟩] }

/-- Records a problem with a line if a condition holds. -/
def reportIf (st : State) (c : Bool) (l : Line) (p : Problem) : State :=
  if c then st.report l p else st

/-- Adds an item to the branch being read, or to the diagram itself. -/
def addItem (st : State) (i : Item) : State :=
  match st.blocks with
  | [] => { st with items := st.items ++ [i] }
  | f :: fs => { st with blocks := { f with items := f.items ++ [i] } :: fs }

/-- Closes the innermost block. -/
def closeBlock (st : State) : State :=
  match st.blocks with
  | [] => st
  | f :: fs => { st with blocks := fs }.addItem f.close

/-- Closes the open box. -/
def closeBox (st : State) : State := { st with boxes := st.boxes ++ st.box.toList, box := none }

/-- Registers a participant on its first mention. -/
def mention (st : State) (id : String) : State :=
  { st with participants := Registry.ensure st.participants id (Participant.mentioned id) }

/-- Declares a participant.  The first declaration decides label and role, and inside a box every
declaration makes the participant a member. -/
def declare (st : State) (l : Line) (role : Role) (id label : String) : State :=
  let declared := (st.participants.get? id).any (!·.implicit)
  let st := st.reportIf declared l (.redeclared id)
  let st := st.mention id
  { st with
    participants := st.participants.modify id fun p =>
      if p.implicit then { p with label, role, implicit := false } else p
    box := st.box.map fun b => { b with participantIds := addNew b.participantIds id } }

/-- Adds a note and registers its participants. -/
def addNote (st : State) (l : Line) (position : Position) (spelled : String) (ids : List String)
    (text : String) : State :=
  let st := st.reportIf (2 < ids.length) l .wideNote
  let st := st.reportIf (position != .above && 1 < ids.length) l (.sharedNote spelled)
  (ids.foldl mention st).addItem (.note { text, position, participantIds := ids, line := l.number })

/-- Adds a message and registers sender and receiver. -/
def addMessage (st : State) (l : Line) (m : MessageText) : State :=
  let sender := String.ofList m.sender
  let receiver := String.ofList m.receiver
  let st := st.reportIf m.text.isNone l (.noText sender m.arrow receiver)
  let st := (st.mention sender).mention receiver
  let message : Message :=
    { sender, receiver, text := String.ofList (Text.trim (m.text.getD [])), arrow := m.arrow,
      index := st.count, activate := m.activation == .activate,
      deactivate := m.activation == .deactivate, line := l.number }
  { st with count := st.count + 1 }.addItem (.message message)

/-- Opens a further branch of the innermost block. -/
def divide (st : State) (l : Line) (divider : Divider) (label : String) : State :=
  match st.blocks with
  | [] => st.report l (.strayDivider divider)
  | f :: fs =>
    let st := st.reportIf (f.head.kind != divider.home) l (.misplacedDivider divider f.head.kind)
    { st with blocks := f.divide label :: fs }

/-- Opens a block. -/
def openBlock (st : State) (l : Line) (kind : BlockKind) (label : String) : State :=
  { st with
    blocks := { head := { kind, label, line := l.number }, condition := condition label } ::
      st.blocks }

/-- Opens a box, unless a box or a block is open. -/
def openBox (st : State) (l : Line) (label : String) : State :=
  if st.box.isSome || !st.blocks.isEmpty then st.report l .nestedBox
  else { st with box := some { label, line := l.number } }

/-- Closes the innermost block, or else the open box. -/
def close (st : State) (l : Line) : State :=
  if !st.blocks.isEmpty then st.closeBlock
  else if st.box.isSome then st.closeBox
  else st.report l .strayEnd

/-- Reads a statement. -/
def step (st : State) : Line × Statement → State
  | (l, .declare role id label) => st.declare l role id label
  | (l, .note position spelled ids text) => st.addNote l position spelled ids text
  | (l, .box label) => st.openBox l label
  | (l, .block kind label) => st.openBlock l kind label
  | (l, .divide divider label) => st.divide l divider label
  | (l, .close) => st.close l
  | (_, .autonumber) => { st with autonumber := true }
  | (_, .title text) => { st with title := some text }
  | (_, .activation id) => st.mention id
  | (l, .message m) => st.addMessage l m
  | (l, .invalidMessage) => st.report l (.invalidMessage l.text)
  | (l, .unrecognised) => st.report l (.unrecognised l.text)

/-! ## The end -/

/-- Closes the innermost block at the end of the source. -/
def closeUnclosed (st : State) (f : OpenBlock) : State :=
  (st.reportAt f.head.line (.unclosedBlock f.head.kind)).closeBlock

/-- Closes everything that is open, blocks before the box. -/
def finish (st : State) : State :=
  let st := st.blocks.foldl closeUnclosed st
  match st.box with
  | some b => (st.reportAt b.line .unclosedBox).closeBox
  | none => st

/-- The diagram that has been read. -/
def diagram (st : State) : Diagram :=
  { participants := st.participants.values, items := st.items, boxes := st.boxes,
    title := st.title, autonumber := st.autonumber }

end State

/-! ## Parsing -/

/-- The statements of lines, or the first fault among them. -/
def statements (ls : List Line) : Except Fault (List (Line × Statement)) :=
  ls.mapM fun l => do return (l, ← Statement.recognise l.text)

/-- Reads a sequence diagram, whose first line is the header. -/
def parse (ls : List Line) : Except Fault (Parsed Diagram) := do
  let st := ((← statements ls.tail).foldl State.step {}).finish
  return .ofReports st.diagram st.reports

end DiagramText.Sequence
