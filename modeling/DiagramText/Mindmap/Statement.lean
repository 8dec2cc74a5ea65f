import DiagramText.Mindmap.Basic
import DiagramText.Text.Ending
import DiagramText.Text.Quoted

/-!
# Statements of mindmaps

A line decorates the topic above it with an icon or with class names, or it is a topic: an optional
id without blanks and brackets, then a label between the brackets of a shape, or any other text.
-/

namespace DiagramText.Mindmap

open Text

/-- The brackets of the shapes, longest first. -/
def brackets : List (String × String × Shape) :=
  [("((", "))", .circle), ("))", "((", .bang), ("\x7b\x7b", "\x7d\x7d", .hexagon),
   ("(", ")", .rounded), (")", "(", .cloud), ("[", "]", .square)]

/-- A line of a mindmap. -/
inductive Statement where
  | icon (text : String)
  | classes (names : List String)
  | topic (shape : Shape) (label : String)
  | emptyLabel
deriving Repr, DecidableEq

/-- The characters that an id in front of a bracket may have. -/
def isIdChar (c : Char) : Bool :=
  !(isBlank c || ['(', ')', '[', ']', '\x7b', '\x7d'].contains c)

/-- The label of a line that is an id and a text between the given brackets. -/
def bracketed? (opener closer : List Char) (s : List Char) : Option (List Char) := do
  dropSuffix? closer (← lineRest? (← literal? opener (s.dropWhile isIdChar)))

/-- A label without the quotes around it, which are double quotes, backticks or both. -/
def unquoteLabel (s : List Char) : List Char :=
  match (between? '"' s).bind (between? '\x60') with
  | some t => trim t
  | none =>
    match between? '"' s with
    | some t => trim t
    | none =>
      match between? '\x60' s with
      | some t => trim t
      | none => s

/-- The shape and the label, as written, of a line that is a topic. -/
def shapeAndLabel (s : List Char) : Shape × List Char :=
  (brackets.findSome? fun (opener, closer, shape) =>
      (bracketed? opener.toList closer.toList s).map (shape, ·)).getD (.plain, s)

/-- The text of an icon line. -/
def icon? (s : List Char) : Option (List Char) := do
  dropSuffix? [')'] (← lineRest? (← literal? "::icon(".toList s))

/-- The text of a line of class names. -/
def classes? (s : List Char) : Option (List Char) := do
  blanks (← literal? ":::".toList s) lineRest₁?

/-- The statement on a line. -/
def Statement.recognise (text : String) : Statement :=
  let s := text.toList
  match icon? s with
  | some t => .icon (String.ofList (trim t))
  | none =>
    match classes? s with
    | some t => .classes ((words t).map String.ofList)
    | none =>
      let (shape, raw) := shapeAndLabel s
      let label := unquoteLabel (trim raw)
      if label == [] then .emptyLabel else .topic shape (String.ofList label)

end DiagramText.Mindmap
