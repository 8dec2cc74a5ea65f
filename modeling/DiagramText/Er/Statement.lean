import DiagramText.Er.Basic
import DiagramText.Text.Caseless
import DiagramText.Text.Ending
import DiagramText.Text.Quoted
import DiagramText.Text.Word

/-!
# Statements of entity-relationship diagrams

1. `glyphRelationship?` reads `A ||--o{ B : label`, `wordRelationship?` reads
   `A only one to zero or more B : label`; a `Link` is what both give.
2. `entity?` reads `A`, `A["Label"]` and `A {`.
3. `attribute?` reads a line of an entity's body.
-/

namespace DiagramText.Er

open Text

/-! ## Cardinalities -/

/-- The glyphs for cardinalities, as they stand at either end. -/
def glyphs : List (String × Cardinality) :=
  [("|o", .zeroOrOne), ("o|", .zeroOrOne), ("||", .exactlyOne), ("\x7do", .zeroOrMany),
   ("o\x7b", .zeroOrMany), ("\x7bo", .zeroOrMany), ("\x7d|", .oneOrMany), ("|\x7b", .oneOrMany)]

/-- The words for cardinalities. -/
def phrases : List (String × Cardinality) :=
  [("zero or one", .zeroOrOne), ("one or zero", .zeroOrOne), ("only one", .exactlyOne),
   ("1", .exactlyOne), ("zero or more", .zeroOrMany), ("zero or many", .zeroOrMany),
   ("many(0)", .zeroOrMany), ("0+", .zeroOrMany), ("one or more", .oneOrMany),
   ("one or many", .oneOrMany), ("many(1)", .oneOrMany), ("1+", .oneOrMany)]

/-- A cardinality, or a glyph that is none. -/
inductive Mark where
  | known (cardinality : Cardinality)
  | unknown (glyph : String)
deriving Repr, DecidableEq

/-- What a glyph stands for. -/
def Mark.ofGlyph (glyph : String) : Mark :=
  match glyphs.lookup glyph with
  | some c => .known c
  | none => .unknown glyph

/-! ## Names -/

/-- The name of an entity in front of `s`, as written: a text in double quotes, or word characters
and hyphens. -/
def name? (s : List Char) : Option (List Char × List Char) :=
  match s with
  | '"' :: r =>
    match r.takeWhile (· != '"'), r.dropWhile (· != '"') with
    | [], _ => none
    | t, '"' :: u => some ('"' :: t ++ ['"'], u)
    | _, _ => none
  | _ =>
    match s.takeWhile isWordOrHyphen with
    | [] => none
    | t => some (t, s.dropWhile isWordOrHyphen)

/-! ## Relationships -/

/-- A relationship as it is written; the label is missing together with its colon. -/
structure Link where
  entity1 : String
  entity2 : String
  mark1 : Mark
  mark2 : Mark
  identifying : Bool
  label : Option String
deriving Repr, DecidableEq

/-- The second name and the label, which end both forms of a relationship. -/
def linkEnd? (s : List Char) : Option (String × Option String) := do
  let (name, rest) ← name? s
  let label ← labelEnd? rest
  return (String.ofList (unquote name), label.map fun t => String.ofList (unquote (trim t)))

/-- The characters of glyphs. -/
def isGlyphChar (c : Char) : Bool := !(isBlank c || c == '.' || c == '-')

/-- A glyph in front of `s`: one to three characters. -/
def glyph? (s : List Char) : Option (String × List Char) :=
  let g := s.takeWhile isGlyphChar
  if g.length = 0 ∨ 3 < g.length then none else some (String.ofList g, s.dropWhile isGlyphChar)

/-- A relationship with glyphs on both sides of a solid or a dotted line. -/
def glyphRelationship? (s : List Char) : Option Link := do
  let (name1, rest) ← name? s
  let (glyph1, rest) ← glyph? (← gap? rest)
  let (identifying, rest) ←
    (literal? ['-', '-'] rest).map (true, ·) <|> (literal? ['.', '.'] rest).map (false, ·)
  let (glyph2, rest) ← glyph? rest
  let (entity2, label) ← linkEnd? (← gap? rest)
  return { entity1 := String.ofList (unquote name1), entity2, mark1 := .ofGlyph glyph1,
           mark2 := .ofGlyph glyph2, identifying, label }

/-- A cardinality in words and the gap behind it. -/
def phrase? (s : List Char) : Option (Cardinality × List Char) :=
  phrases.findSome? fun (w, c) => do
    return (c, ← gap? (← literal? w.toList s))

/-- A relationship in words. -/
def wordRelationship? (s : List Char) : Option Link := do
  let (name1, rest) ← name? s
  let (card1, rest) ← phrase? (← gap? rest)
  let (identifying, rest) ←
    (literal? "optionally to".toList rest).map (false, ·) <|>
      (literal? "to".toList rest).map (true, ·)
  let (card2, rest) ← phrase? (← gap? rest)
  let (entity2, label) ← linkEnd? rest
  return { entity1 := String.ofList (unquote name1), entity2, mark1 := .known card1,
           mark2 := .known card2, identifying, label }

/-! ## Entities -/

/-- The label of an entity between square brackets, possibly quoted, and the text behind it. -/
def entityLabel? (s : List Char) : Option (List Char × List Char) := do
  let inside ← literal? ['['] (trimStart s)
  let inside := trimStart inside
  let inside := (literal? ['"'] inside).getD inside
  let isLabelChar := fun c : Char => c != '"' && c != ']'
  let rest := inside.dropWhile isLabelChar
  let rest := trimStart ((literal? ['"'] rest).getD rest)
  return (inside.takeWhile isLabelChar, ← literal? [']'] rest)

/-- Whether a declaration ends by opening a body; an empty body counts as none. -/
def bodyOpen? (s : List Char) : Option Bool :=
  match trimStart s with
  | [] => some false
  | '\x7b' :: r =>
    match trimStart r with
    | [] => some true
    | '\x7d' :: u => if atEnd u then some false else none
    | _ => none
  | _ => none

/-- The declaration of an entity. -/
structure Declaration where
  id : String
  label : Option String
  opens : Bool
deriving Repr, DecidableEq

/-- The declaration of an entity on a line; an empty label counts as none. -/
def entity? (s : List Char) : Option Declaration := do
  let (name, rest) ← name? s
  let id := String.ofList (unquote name)
  match entityLabel? rest with
  | some (label, rest) =>
    let label := if label == [] then none else some (String.ofList (trim label))
    return ⟨id, label, ← bodyOpen? rest⟩
  | none => return ⟨id, none, ← bodyOpen? rest⟩

/-! ## Attributes -/

/-- The first text in double quotes, and the text around it. -/
def comment? (s : List Char) : Option (List Char × List Char) :=
  match s.dropWhile (· != '"') with
  | '"' :: r =>
    match r.dropWhile (· != '"') with
    | '"' :: u => some (r.takeWhile (· != '"'), s.takeWhile (· != '"') ++ u)
    | _ => none
  | _ => none

/-- An attribute, and the words behind its name that are no key constraints. -/
structure AttributeLine where
  value : Attribute
  unknown : List String
deriving Repr, DecidableEq

/-- The type, the name and the text behind them. -/
def typeAndName? (s : List Char) : Option (List Char × List Char × List Char) := do
  let solid := fun c : Char => !isBlank c
  let type := s.takeWhile solid
  let afterType ← gap? (s.dropWhile solid)
  let name := afterType.takeWhile solid
  let rest ← restEnd? (afterType.dropWhile solid)
  if type == [] || name == [] then none else some (type, name, trim (rest.getD []))

/-- An attribute: type, name, key constraints in any order, and a comment among them. -/
def attribute? (text : String) : Option AttributeLine := do
  let (type, name, rest) ← typeAndName? text.toList
  let (comment, rest) :=
    match comment? rest with
    | some (c, around) => (some (String.ofList c), trim around)
    | none => (none, rest)
  let parts := (splitWhere (fun c => isBlank c || c == ',') rest).filter (· ≠ [])
  let tag? := fun p : List Char => KeyTag.ofName? (String.ofList (upper p))
  let named := parts.filterMap tag?
  return { value :=
             { type := String.ofList type, name := String.ofList name,
               keyTags := KeyTag.all.filter named.contains, comment }
           unknown := (parts.filter fun p => (tag? p).isNone).map String.ofList }

/-! ## Lines -/

/-- A line outside the bodies of entities. -/
inductive Statement where
  | close
  | relationship (link : Link)
  | entity (declaration : Declaration)
  | invalidRelationship
  | unrecognised
deriving Repr, DecidableEq

/-- The statement on a line. -/
def Statement.recognise (text : String) : Statement :=
  let s := text.toList
  if text = "\x7d" then .close
  else
    match glyphRelationship? s <|> wordRelationship? s with
    | some link => .relationship link
    | none =>
      match entity? s with
      | some d => .entity d
      | none =>
        if hasInfix ['-', '-'] s || hasInfix ['.', '.'] s then .invalidRelationship
        else .unrecognised

end DiagramText.Er
