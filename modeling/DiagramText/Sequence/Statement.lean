import DiagramText.Fault
import DiagramText.Sequence.Basic
import DiagramText.Text.Caseless
import DiagramText.Text.Ending
import DiagramText.Text.Lower

/-!
# Statements of sequence diagrams

1. `declaration?`: `participant A as Alice`, `actor B`.
2. `note?`: `Note over A,B: text`; `Position.ofSpelled` finds the position.
3. `message?`: `A->>+B: text`.  The sender is the shortest text that is followed by an arrow and a
   receiver.
4. `Statement.recognise`, which tries the forms in a fixed order.
-/

namespace DiagramText.Sequence

open Text

/-! ## Declarations -/

/-- `as ALIAS` behind an id, which may be missing. -/
def alias? (s : List Char) : Option (Option (List Char)) :=
  (do blanks₁ (← literal? ['a', 's'] (← gap? s)) lineRest₁?).map some <|>
    if atEnd s then some none else none

/-- The role, the id and the alias of a declared participant. -/
def declaration? (s : List Char) : Option (Role × List Char × Option (List Char)) := do
  let (role, rest) ←
    (literal? "participant".toList s).map (Role.participant, ·) <|>
      (literal? "actor".toList s).map (Role.actor, ·)
  let rest ← gap? rest
  let id := rest.takeWhile (!isBlank ·)
  if id == [] then none else return (role, id, ← alias? (rest.dropWhile (!isBlank ·)))

/-! ## Notes -/

/-- A note as it is written. -/
structure NoteText where
  spelled : List Char
  position : Position
  ids : List (List Char)
  text : List Char
deriving Repr, DecidableEq

/-- The ids of a note and its text: between them stands a colon, and in front of the ids a blank. -/
def noteEnd? (s : List Char) : Option (List (List Char) × List Char) :=
  let ids := s.takeWhile (· != ':')
  match ids, s.dropWhile (· != ':') with
  | c :: _ :: _, ':' :: v =>
    if isBlank c then (lineRest? (trimStart v)).map (fields ids, ·) else none
  | _, _ => none

/-- A note, with its keywords in any letter case. -/
def note? (s : List Char) : Option NoteText := do
  let rest ← gap? (← caselessRest? "note".toList s)
  Position.all.findSome? fun position => do
    let (spelled, rest) ← caseless? position.phrase.toList rest
    let (ids, text) ← noteEnd? rest
    return { spelled, position, ids, text }

/-- A position that is spelled in plain letters is what it says; any other spelling is a fault. -/
def Position.ofSpelled (p : Position) (spelled : List Char) : Except Fault Position :=
  let key := String.ofList (lower spelled)
  if key = p.phrase then .ok p else .error (.notePosition key)

/-! ## Messages -/

/-- Whether a message starts or ends the activity of a participant. -/
inductive Activation where
  | unchanged
  | activate
  | deactivate
deriving Repr, DecidableEq

/-- The mark in front of a receiver, and the text behind the mark. -/
def activation : List Char → Activation × List Char
  | '+' :: r => (.activate, trimStart r)
  | '-' :: r => (.deactivate, trimStart r)
  | s => (.unchanged, s)

/-- A message as it is written; the text is missing together with its colon. -/
structure MessageText where
  sender : List Char
  arrow : Arrow
  activation : Activation
  receiver : List Char
  text : Option (List Char)
deriving Repr, DecidableEq

/-- The characters that may start the name of a sender or a receiver. -/
def isNameStart (c : Char) : Bool :=
  !(isBlank c || [':', '<', '>', '+', '-'].contains c)

/-- The receiver and the text of a message. -/
def receiver? (s : List Char) : Option (List Char × Option (List Char)) :=
  match s with
  | [] => none
  | c :: _ =>
    if isNameStart c then
      let name := trim (s.takeWhile (· != ':'))
      match s.dropWhile (· != ':') with
      | _ :: v => (lineRest? (trimStart v)).map fun t => (name, some t)
      | [] => some (name, none)
    else none

/-- The arrow in front of `s`, with the receiver and the text behind it. -/
def arrowEnd? (sender s : List Char) : Option MessageText :=
  Arrow.longestFirst.findSome? fun arrow => do
    let rest ← literal? arrow.token.toList s
    let (activation, rest) := activation (trimStart rest)
    let (receiver, text) ← receiver? rest
    return { sender := trim sender, arrow, activation, receiver, text }

/-- A message. -/
def message? : List Char → Option MessageText
  | [] => none
  | c :: r =>
    if isNameStart c then
      shortest (· != ':') r fun t u => arrowEnd? (c :: t) (trimStart u)
    else none

/-- Whether a text holds something that looks like an arrow. -/
def looksLikeMessage : List Char → Bool
  | [] => false
  | '<' :: '<' :: '-' :: _ => true
  | '-' :: c :: r => ['-', '>', 'x', ')'].contains c || looksLikeMessage (c :: r)
  | _ :: r => looksLikeMessage r

/-! ## Lines -/

/-- A line of a sequence diagram. -/
inductive Statement where
  | declare (role : Role) (id label : String)
  | note (position : Position) (spelled : String) (ids : List String) (text : String)
  | box (label : String)
  | block (kind : BlockKind) (label : String)
  | divide (divider : Divider) (label : String)
  | close
  | autonumber
  | title (text : String)
  | activation (id : String)
  | message (m : MessageText)
  | invalidMessage
  | unrecognised
deriving Repr, DecidableEq

/-- A keyword of a list, with the trimmed text behind it. -/
def headed? {κ : Type} (all : List κ) (name : κ → String) (s : List Char) :
    Option (κ × String) :=
  all.findSome? fun k => do
    let text ← textEnd? (← literal? (name k).toList s)
    return (k, String.ofList (trim text))

/-- The text of a title line; a colon may stand in front of it. -/
def title? (s : List Char) : Option (List Char) := do
  let rest ← literal? "title".toList s
  (do blanks (← literal? [':'] (trimStart rest)) lineRest₁?) <|> blanks₁ rest lineRest₁?

/-- The participant of an activation line. -/
def activation? (s : List Char) : Option (List Char) := do
  let rest ← literal? "activate".toList s <|> literal? "deactivate".toList s
  solidEnd? (← gap? rest)

/-- The statements that are tried behind declarations and notes, in order of preference. -/
def Statement.plain? (s : List Char) : Option Statement :=
  ((headed? [()] (fun _ => "box") s).map fun (_, label) => Statement.box label) <|>
  ((headed? BlockKind.all BlockKind.name s).map fun (kind, label) => Statement.block kind label) <|>
  ((headed? Divider.all Divider.name s).map fun (divider, label) =>
    Statement.divide divider label) <|>
  (if s = "end".toList then some Statement.close else none) <|>
  (if s = "autonumber".toList || (literal? "autonumber ".toList s).isSome then
    some Statement.autonumber
  else
    none) <|>
  ((title? s).map fun t => Statement.title (String.ofList (trim t))) <|>
  ((activation? s).map fun id => Statement.activation (String.ofList id)) <|>
  ((message? s).map Statement.message)

/-- The statement on a line that is no declaration and no note. -/
def Statement.plain (s : List Char) : Statement :=
  (plain? s).getD (if looksLikeMessage s then .invalidMessage else .unrecognised)

/-- The statement on a line. -/
def Statement.recognise (text : String) : Except Fault Statement :=
  let s := text.toList
  match declaration? s with
  | some (role, id, nick) =>
    .ok (.declare role (String.ofList id) (String.ofList ((nick.map trim).getD id)))
  | none =>
    match note? s with
    | some n => do
      let position ← n.position.ofSpelled n.spelled
      return .note position (String.ofList n.spelled) (n.ids.map String.ofList)
        (String.ofList (trim n.text))
    | none => .ok (.plain s)

end DiagramText.Sequence
