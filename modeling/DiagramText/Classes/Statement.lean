import DiagramText.Classes.Member
import DiagramText.Classes.Relationship
import DiagramText.Text.Quoted

/-!
# Statements of class diagrams

1. `ClassName`, a name with optional type arguments.
2. The forms of a line: namespaces, declarations, stereotypes, directions, notes, members.
3. `BodyLine`, a line between the braces of a class.
4. `Statement.recognise`, which tries the forms in a fixed order.
-/

namespace DiagramText.Classes

open Text

/-! ## Names -/

/-- The id of a class and its type arguments, if the name has them. -/
structure ClassName where
  id : List Char
  arguments : Option (List Char)
deriving Repr, DecidableEq

/-- The characters of ids. -/
def isIdChar (c : Char) : Bool := isNameStart c || c == '-'

/-- The type arguments behind an id, between tildes. -/
def arguments? (s : List Char) : Option (List Char) := do
  let inside ← dropSuffix? ['~'] (← lineRest? (← literal? ['~'] s))
  if inside = [] then none else some inside

/-- The id and the type arguments of a name; a name of another form is an id as a whole. -/
def ClassName.ofToken (t : List Char) : ClassName :=
  let id := t.takeWhile isIdChar
  let rest := t.dropWhile isIdChar
  if id = [] then ⟨t, none⟩
  else
    match arguments? rest with
    | some a => ⟨id, some a⟩
    | none => if atEnd rest then ⟨id, none⟩ else ⟨t, none⟩

/-- The label of a name with type arguments. -/
def ClassName.label? (n : ClassName) : Option String :=
  n.arguments.map fun a => String.ofList (n.id ++ renderGenerics ('~' :: a ++ ['~']))

/-! ## Forms -/

/-- `namespace NAME {`; a brace may stand directly behind the name. -/
def namespace? (s : List Char) : Option (List Char) := do
  let rest ← gap? (← literal? "namespace".toList s)
  let name := rest.takeWhile (!isBlank ·)
  let afterName := rest.dropWhile (!isBlank ·)
  match trimStart afterName with
  | '\x7b' :: u => if name ≠ [] ∧ atEnd u then some name else none
  | _ =>
    if atEnd afterName then (dropSuffix? ['\x7b'] name).filter (· ≠ []) else none

/-- What stands behind the name and the label of a declared class. -/
inductive Tail where
  | nothing
  | body
  | inline (parts : List (List Char))
  | unexpected (text : List Char)
deriving Repr, DecidableEq

/-- The tail of a declaration; a body on the same line is a list of parts with semicolons between
them. -/
def Tail.ofText (rest : List Char) : Tail :=
  match rest with
  | [] => .nothing
  | ['\x7b'] => .body
  | '\x7b' :: r =>
    match dropSuffix? ['\x7d'] r with
    | some inside => .inline (((splitOn ';' inside).map trim).filter (· ≠ []))
    | none => .unexpected rest
  | _ => .unexpected rest

/-- The declaration of a class. -/
structure Declaration where
  name : ClassName
  label : Option String
  tail : Tail
deriving Repr, DecidableEq

/-- A label between square brackets and double quotes, and the text behind it. -/
def label? (s : List Char) : Option (List Char × List Char) := do
  let inside ← literal? ['['] (trimStart s)
  let (label, rest) ← quotedText? (trimStart inside)
  return (label, ← literal? [']'] (trimStart rest))

/-- `class NAME["Label"] { … }`. -/
def declaration? (s : List Char) : Option Declaration := do
  let rest ← gap? (← literal? "class".toList s)
  let isPlain := fun c : Char => !(isBlank c || ['\x7b', '[', '"'].contains c)
  let name := rest.takeWhile isPlain
  if name = [] then none
  else
    let rest := rest.dropWhile isPlain
    let declare := fun (label : Option String) (rest : List Char) => do
      let tail ← lineRest? (trimStart rest)
      return { name := .ofToken name, label, tail := .ofText (trim tail) : Declaration }
    (do
      let (label, rest) ← label? rest
      declare (some (String.ofList label)) rest) <|> declare none rest

/-- The text between double angle brackets in front of `s`, and what stands behind them. -/
def stereotype? (s : List Char) : Option (List Char × List Char) := do
  let r ← literal? ['<', '<'] s
  let inside := r.takeWhile (· != '>')
  let rest ← literal? ['>', '>'] (r.dropWhile (· != '>'))
  match trim inside with
  | [] => inside.getLast?.map fun c => ([c], rest)
  | t => some (t, rest)

/-- `<<stereotype>> NAME`. -/
def stereotypeLine? (s : List Char) : Option (List Char × List Char) := do
  let (stereotype, rest) ← stereotype? s
  return (stereotype, ← solidEnd? (← gap? rest))

/-- `direction LR`. -/
def direction? (s : List Char) : Option Direction := do
  Direction.ofName? (String.ofList (← solidEnd? (← gap? (← literal? "direction".toList s))))

/-- `note "text"` or `note for NAME "text"`. -/
def note? (s : List Char) : Option (Option (List Char) × List Char) := do
  let rest ← gap? (← literal? "note".toList s)
  let text? := fun u => do dropSuffix? ['"'] (← lineRest? (← literal? ['"'] u))
  (do
    let u ← gap? (← literal? "for".toList rest)
    let name := u.takeWhile (!isBlank ·)
    return (some name, ← text? (← gap? (u.dropWhile (!isBlank ·))))) <|>
  (text? rest).map (none, ·)

/-- `NAME : member`. -/
def inlineMember? (s : List Char) : Option (List Char × List Char) :=
  shortest₁ (!isBlank ·) s fun name u => do
    return (name, ← blanks (← literal? [':'] (trimStart u)) lineRest₁?)

/-! ## Bodies -/

/-- A line between the braces of a class. -/
inductive BodyLine where
  | stereotype (text : String)
  | member (m : Member)
  | nameless (text : String)
deriving Repr, DecidableEq

/-- A member, or a text that names none. -/
def BodyLine.ofMember (s : List Char) : BodyLine :=
  match Member.parse? s with
  | some m => .member m
  | none => .nameless (String.ofList (trim s))

/-- The line of a body. -/
def BodyLine.recognise (s : List Char) : BodyLine :=
  match stereotype? s with
  | some (t, rest) => if atEnd rest then .stereotype (String.ofList t) else .ofMember s
  | none => .ofMember s

/-! ## Lines -/

/-- A line outside the bodies of classes. -/
inductive Statement where
  | openGroup (name : String)
  | close
  | declare (d : Declaration)
  | stereotype (text : String) (name : ClassName)
  | direction (d : Direction)
  | note (classId : Option String) (text : String)
  | relate (r : RelationText)
  | unknownConnector (token : String)
  | malformedRelationship
  | member (classId : String) (line : BodyLine)
  | unrecognised
deriving Repr, DecidableEq

/-- A line that has something like a connector and is no relationship. -/
def Statement.broken? (s : List Char) : Option Statement :=
  (connectorLike? s).map fun t =>
    if Connector.all.any fun c => c.token == String.ofList t then .malformedRelationship
    else .unknownConnector (String.ofList t)

/-- The statement on a line, if it has one of the known forms. -/
def Statement.recognise? (s : List Char) : Option Statement :=
  ((namespace? s).map fun name => Statement.openGroup (String.ofList name)) <|>
  (if s = ['\x7d'] then some Statement.close else none) <|>
  ((declaration? s).map Statement.declare) <|>
  ((stereotypeLine? s).map fun (t, name) =>
    Statement.stereotype (String.ofList t) (.ofToken name)) <|>
  ((direction? s).map Statement.direction) <|>
  ((note? s).map fun (id, t) =>
    Statement.note (id.map String.ofList) (String.ofList t)) <|>
  ((relationship? s).map Statement.relate) <|>
  broken? s <|>
  ((inlineMember? s).map fun (id, t) =>
    Statement.member (String.ofList id) (.ofMember t))

/-- The statement on a line. -/
def Statement.recognise (text : String) : Statement :=
  (recognise? text.toList).getD .unrecognised

end DiagramText.Classes
