import DiagramText.Classes.Basic
import DiagramText.Text.Ending

/-!
# Members of classes

1. `renderGenerics` writes the tildes around type arguments as angle brackets.
2. `Member.parse?` reads a field, `+String name`, or a method, `+eat(Food f) bool`.
-/

namespace DiagramText.Classes

open Text

/-! ## Type arguments -/

/-- Writes the tildes of a word as angle brackets; `opening` more of them open. -/
def bracketTildes : (opening : Nat) → List Char → List Char
  | _, [] => []
  | 0, c :: r => (if c = '~' then '>' else c) :: bracketTildes 0 r
  | n + 1, c :: r =>
    if c = '~' then '<' :: bracketTildes n r else c :: bracketTildes (n + 1) r

/-- Writes the tildes of a word as angle brackets, the first half opening and the second half
closing; a word with an odd number of tildes stays as it is. -/
def renderWord (w : List Char) : List Char :=
  let tildes := w.count '~'
  if tildes % 2 = 0 then bracketTildes (tildes / 2) w else w

/-- Writes type arguments between angle brackets, word by word. -/
def renderGenerics (s : List Char) : List Char := mapWords renderWord s

/-! ## Members -/

/-- Drops the characters `c` at the end. -/
def dropTrailing (c : Char) (s : List Char) : List Char := (s.reverse.dropWhile (· == c)).reverse

/-- The visibility in front of a member, and the text behind it. -/
def leadingVisibility : List Char → Visibility × List Char
  | '+' :: r => (.everywhere, trim r)
  | '-' :: r => (.inClass, trim r)
  | '#' :: r => (.inSubclasses, trim r)
  | '~' :: r => (.inPackage, trim r)
  | s => (.unmarked, s)

/-- What a character behind a member says about it. -/
def Classifier.ofChar? (c : Char) : Option Classifier :=
  if c = '$' then some .static else if c = '*' then some .abstract else none

/-- The classifier at the end of a text, and the text in front of it. -/
def trailingClassifier (s : List Char) : Option Classifier × List Char :=
  match s.getLast?.bind Classifier.ofChar? with
  | some k => (some k, trim s.dropLast)
  | none => (none, s)

/-- The text as a type or a parameter list, if it is not empty. -/
def rendered? (s : List Char) : Option String :=
  if s = [] then none else some (String.ofList (renderGenerics s))

/-- The parts of a method: its name, its parameters, and what stands behind the parentheses. -/
def methodParts? (s : List Char) : Option (List Char × List Char × List Char) :=
  match s.takeWhile (· != '('), s.dropWhile (· != '(') with
  | [], _ => none
  | name, _ :: r =>
    match r.dropWhile (· != ')') with
    | _ :: u => some (name, r.takeWhile (· != ')'), u)
    | [] => none
  | _, [] => none

/-- A method.  Its classifier stands behind the parentheses or behind the type. -/
def method? (v : Visibility) (s : List Char) : Option Member := do
  let (name, parameters, rest) ← methodParts? s
  let (early, rest) :=
    match rest with
    | c :: r => if (Classifier.ofChar? c).isSome then (Classifier.ofChar? c, r) else (none, c :: r)
    | [] => (none, [])
  let (late, type) := trailingClassifier (trim (← lineRest? (trimStart rest)))
  return { visibility := v, name := String.ofList (trim name), kind := .method,
           type := rendered? (trim (type.dropWhile (· == ':'))),
           parameters := rendered? (trim parameters),
           classifier := (early <|> late).getD .ordinary }

/-- A field: a type and a name, or a name alone. -/
def field (v : Visibility) (s : List Char) : Member :=
  let (classifier, rest) := trailingClassifier s
  let (type, name) :=
    match words rest with
    | type :: w :: ws => (rendered? type, [' '].intercalate (w :: ws))
    | _ => (none, rest)
  { visibility := v, name := String.ofList name, kind := .field, type,
    classifier := classifier.getD .ordinary }

/-- A member, unless the text names none. -/
def Member.parse? (text : List Char) : Option Member :=
  let (v, rest) := leadingVisibility (trim (dropTrailing ';' (trim text)))
  if rest = [] ∨ rest = ['$'] ∨ rest = ['*'] then none
  else method? v rest <|> some (field v rest)

end DiagramText.Classes
