import DiagramText.Number.Binary64
import DiagramText.Text.Caseless
import DiagramText.Text.Digit
import DiagramText.Text.Ending
import DiagramText.Text.Lower

/-!
# Statements of pie charts

1. `Header.recognise?` reads the header, `pie [showData] [title TEXT]`.
2. `Statement.recognise` reads a line of the body: `showData`, `title TEXT` or `"LABEL" : VALUE`.
-/

namespace DiagramText.Pie

open Text

/-- `title TEXT`, with the keyword in any letter case. -/
def title? (s : List Char) : Option (List Char) := do
  blanks₁ (← caselessRest? "title".toList s) lineRest₁?

/-- What a header says. -/
structure Header where
  showData : Bool
  title : Option String
deriving Repr, DecidableEq

/-- The end of a header: a title, or nothing. -/
def headerEnd? (s : List Char) : Option (Option String) :=
  (blanks₁ s title?).map (fun t => some (String.ofList (trim t))) <|>
    if atEnd s then some none else none

/-- The header of a pie chart. -/
def Header.recognise? (text : String) : Option Header := do
  let rest ← caselessRest? "pie".toList text.toList
  (blanks₁ rest fun u => do
      return ⟨true, ← headerEnd? (← caselessRest? "showData".toList u)⟩) <|>
    (headerEnd? rest).map (⟨false, ·⟩)

/-- A non-negative number: digits, and possibly a point and more digits. -/
def number? (s : List Char) : Option Float :=
  let whole := s.takeWhile isDigit
  if whole == [] then none
  else
    match s.dropWhile isDigit with
    | [] => some (Binary64.ofDecimal (digitsValue whole) 0)
    | c :: places =>
      if c == '.' && places != [] && places.all isDigit then
        some (Binary64.ofDecimal (digitsValue (whole ++ places)) places.length)
      else none

/-- A line of the body. -/
inductive Statement where
  | showData
  | title (text : String)
  | slice (label : String) (value : Float)
  | badValue (raw : String)
  | unrecognised
deriving Repr

/-- `"LABEL" : VALUE`, where the value is any text without blanks. -/
def slice? (s : List Char) : Option (List Char × List Char) :=
  match s with
  | '"' :: r =>
    let label := r.takeWhile (· != '"')
    if label == [] then none
    else
      match r.dropWhile (· != '"') with
      | '"' :: u =>
        match trimStart u with
        | ':' :: v => (solidEnd? (trimStart v)).map (label, ·)
        | _ => none
      | _ => none
  | _ => none

/-- The statement on a line of the body. -/
def Statement.recognise (text : String) : Statement :=
  let s := text.toList
  if lower s = "showdata".toList then .showData
  else
    match title? s with
    | some t => .title (String.ofList (trim t))
    | none =>
      match slice? s with
      | some (label, raw) =>
        match number? raw with
        | some value => .slice (String.ofList label) value
        | none => .badValue (String.ofList raw)
      | none => .unrecognised

end DiagramText.Pie
