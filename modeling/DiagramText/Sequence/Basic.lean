/-!
# Sequence diagrams

Participants exchange messages over time.  The items of a diagram are messages, notes and blocks,
and a block holds items again, in one or more branches.

1. The vocabulary: arrows, kinds of blocks, dividers, positions of notes.
2. `Item` and `Branch`, with `Item.walk`, the listing in source order.
3. `Diagram`.
-/

namespace DiagramText.Sequence

/-! ## Vocabulary -/

/-- How a participant is drawn. -/
inductive Role where
  | participant
  | actor
deriving Repr, DecidableEq

/-- The name of a role. -/
def Role.name : Role → String
  | participant => "participant"
  | actor => "actor"

/-- What a message is. -/
inductive MessageKind where
  | sync
  | async
  | reply
deriving Repr, DecidableEq

/-- The name of a message kind. -/
def MessageKind.name : MessageKind → String
  | sync => "sync"
  | async => "async"
  | reply => "reply"

/-- The line of an arrow. -/
inductive LineStyle where
  | solid
  | dashed
deriving Repr, DecidableEq

/-- The name of a line style. -/
def LineStyle.name : LineStyle → String
  | solid => "solid"
  | dashed => "dashed"

/-- The head of an arrow. -/
inductive ArrowHead where
  | filled
  | hollow
  | cross
  | headless
deriving Repr, DecidableEq

/-- The name of an arrow head. -/
def ArrowHead.name : ArrowHead → String
  | filled => "filled"
  | hollow => "open"
  | cross => "cross"
  | headless => "none"

/-- The arrows of messages. -/
inductive Arrow where
  | filled
  | dashedFilled
  | plain
  | dashedPlain
  | cross
  | dashedCross
  | async
  | dashedAsync
  | both
  | dashedBoth
deriving Repr, DecidableEq

namespace Arrow

/-- The spelling of an arrow. -/
def token : Arrow → String
  | filled => "->>"
  | dashedFilled => "-->>"
  | plain => "->"
  | dashedPlain => "-->"
  | cross => "-x"
  | dashedCross => "--x"
  | async => "-)"
  | dashedAsync => "--)"
  | both => "<<->>"
  | dashedBoth => "<<-->>"

/-- The line of an arrow. -/
def lineStyle : Arrow → LineStyle
  | filled | plain | cross | async | both => .solid
  | dashedFilled | dashedPlain | dashedCross | dashedAsync | dashedBoth => .dashed

/-- The head of an arrow. -/
def head : Arrow → ArrowHead
  | filled | dashedFilled | both | dashedBoth => .filled
  | plain | dashedPlain => .headless
  | cross | dashedCross => .cross
  | async | dashedAsync => .hollow

/-- Whether an arrow points both ways. -/
def bidirectional : Arrow → Bool
  | both | dashedBoth => true
  | _ => false

/-- The kind of message that an arrow makes. -/
def kind : Arrow → MessageKind
  | async | dashedAsync => .async
  | filled | plain | cross | both => .sync
  | dashedFilled | dashedPlain | dashedCross | dashedBoth => .reply

/-- All arrows. -/
def all : List Arrow :=
  [filled, dashedFilled, plain, dashedPlain, cross, dashedCross, async, dashedAsync, both,
   dashedBoth]

/-- All arrows, longer spellings first. -/
def longestFirst : List Arrow :=
  [dashedBoth, both, dashedFilled, filled, dashedCross, dashedAsync, dashedPlain, cross, async,
   plain]

end Arrow

/-- The kinds of blocks. -/
inductive BlockKind where
  | loop
  | alt
  | opt
  | par
  | critical
  | breakOut
  | rect
deriving Repr, DecidableEq

/-- The keyword of a kind of block. -/
def BlockKind.name : BlockKind → String
  | loop => "loop"
  | alt => "alt"
  | opt => "opt"
  | par => "par"
  | critical => "critical"
  | breakOut => "break"
  | rect => "rect"

/-- All kinds of blocks. -/
def BlockKind.all : List BlockKind := [.loop, .alt, .opt, .par, .critical, .breakOut, .rect]

/-- The keywords that open a further branch of a block. -/
inductive Divider where
  | otherwise
  | also
  | option
deriving Repr, DecidableEq

namespace Divider

/-- The spelling of a divider. -/
def name : Divider → String
  | otherwise => "else"
  | also => "and"
  | option => "option"

/-- The kind of block that a divider belongs in. -/
def home : Divider → BlockKind
  | otherwise => .alt
  | also => .par
  | option => .critical

/-- All dividers. -/
def all : List Divider := [otherwise, also, option]

end Divider

/-- Where a note stands. -/
inductive Position where
  | leftOf
  | rightOf
  | above
deriving Repr, DecidableEq

namespace Position

/-- The name of a position. -/
def name : Position → String
  | leftOf => "left-of"
  | rightOf => "right-of"
  | above => "over"

/-- The spelling of a position in a source. -/
def phrase : Position → String
  | leftOf => "left of"
  | rightOf => "right of"
  | above => "over"

/-- All positions. -/
def all : List Position := [leftOf, rightOf, above]

end Position

/-! ## Items -/

/-- A participant, in the place of its first appearance. -/
structure Participant where
  id : String
  label : String
  role : Role
  declaredOrder : Nat
  implicit : Bool
deriving Repr, DecidableEq

/-- The participant that a mere mention of its id stands for. -/
def Participant.mentioned (id : String) (order : Nat) : Participant :=
  { id, label := id, role := .participant, declaredOrder := order, implicit := true }

/-- A message; its index counts the messages of the whole diagram. -/
structure Message where
  sender : String
  receiver : String
  text : String
  arrow : Arrow
  index : Nat
  activate : Bool
  deactivate : Bool
  line : Int
deriving Repr, DecidableEq

/-- A note beside or over participants. -/
structure Note where
  text : String
  position : Position
  participantIds : List String
  line : Int
deriving Repr, DecidableEq

/-- What the opening line of a block says. -/
structure BlockHead where
  kind : BlockKind
  label : String
  line : Int
deriving Repr, DecidableEq

mutual

/-- A message, a note or a block of items. -/
inductive Item where
  | message (m : Message)
  | note (n : Note)
  | block (head : BlockHead) (branches : List Branch)

/-- One branch of a block: its condition, if it has one, and its items. -/
inductive Branch where
  | mk (condition : Option String) (items : List Item)

end

/-- The condition of a branch. -/
def Branch.condition : Branch → Option String
  | mk c _ => c

/-- The items of a branch. -/
def Branch.items : Branch → List Item
  | mk _ is => is

/-- The line that an item comes from. -/
def Item.line : Item → Int
  | message m => m.line
  | note n => n.line
  | block h _ => h.line

mutual

/-- An item and everything inside it, in source order. -/
def Item.walk : Item → List Item
  | .message m => [.message m]
  | .note n => [.note n]
  | .block h bs => .block h bs :: Branch.walkAll bs

/-- The items of a list and everything inside them, in source order. -/
def Item.walkAll : List Item → List Item
  | [] => []
  | i :: is => i.walk ++ Item.walkAll is

/-- Everything inside a branch, in source order. -/
def Branch.walk : Branch → List Item
  | .mk _ is => Item.walkAll is

/-- Everything inside a list of branches, in source order. -/
def Branch.walkAll : List Branch → List Item
  | [] => []
  | b :: bs => b.walk ++ Branch.walkAll bs

end

/-- The message of an item that is one. -/
def Item.message? : Item → Option Message
  | message m => some m
  | _ => none

/-- The note of an item that is one. -/
def Item.note? : Item → Option Note
  | note n => some n
  | _ => none

/-! ## Diagrams -/

/-- A group of participants. -/
structure Box where
  label : String
  participantIds : List String := []
  line : Int
deriving Repr, DecidableEq

/-- A sequence diagram. -/
structure Diagram where
  participants : List Participant
  items : List Item
  boxes : List Box
  title : Option String
  autonumber : Bool

namespace Diagram

/-- All messages, also those inside blocks, in source order. -/
def messages (d : Diagram) : List Message := (Item.walkAll d.items).filterMap Item.message?

/-- All notes, also those inside blocks, in source order. -/
def notes (d : Diagram) : List Note := (Item.walkAll d.items).filterMap Item.note?

/-- The participant with the given id. -/
def participant? (d : Diagram) (id : String) : Option Participant :=
  d.participants.find? (·.id == id)

/-- The participants that are drawn as actors. -/
def actors (d : Diagram) : List Participant := d.participants.filter (·.role == .actor)

end Diagram

end DiagramText.Sequence
