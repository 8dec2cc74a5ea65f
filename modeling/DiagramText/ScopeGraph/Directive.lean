import DiagramText.Fault
import DiagramText.ScopeGraph.Basic
import DiagramText.Text.Caseless
import DiagramText.Text.Digit
import DiagramText.Text.Ending
import DiagramText.Text.Word

/-!
# Style directives

Flowcharts and state diagrams share the directives `classDef`, `class`, `style` and `linkStyle`, and
the statement `direction`.

1. `Properties.parse` reads `fill:#f00,stroke:#333`.
2. `idLists` lists the ways to read a comma-separated list of ids.
3. `Directive.recognise?` reads a directive.
-/

namespace DiagramText.ScopeGraph

open Text

/-! ## Properties -/

/-- One `name:value` pair, if neither side is empty. -/
def property? (s : List Char) : Option (String × String) :=
  let name := trim (s.takeWhile (· != ':'))
  let value := trim (s.dropWhile (· != ':')).tail
  if name = [] ∨ value = [] then none else some (String.ofList name, String.ofList value)

/-- The properties in a comma-separated list of pairs; other parts are ignored. -/
def parseProperties (s : List Char) : Properties :=
  let body := (s.reverse.dropWhile (· == ';')).reverse
  ((splitOn ',' body).filterMap property?).foldl (fun m e => m.insert e.1 e.2) {}

/-! ## Lists of ids -/

/-- The ways to read a comma-separated list of items made of `p`-characters, longest list first,
each with the text behind the list; `fuel` bounds the number of items. -/
def idListsWithin (p : Char → Bool) : (fuel : Nat) → List Char → List (List String × List Char)
  | 0, _ => []
  | fuel + 1, s =>
    match s.takeWhile p with
    | [] => []
    | item =>
      let rest := s.dropWhile p
      let more :=
        match trimStart rest with
        | ',' :: r => idListsWithin p fuel (trimStart r)
        | _ => []
      more.map (fun (items, u) => (String.ofList item :: items, u)) ++
        [([String.ofList item], rest)]

/-- The ways to read a comma-separated list of items in front of `s`, longest list first. -/
def idLists (p : Char → Bool) (s : List Char) : List (List String × List Char) :=
  idListsWithin p s.length s

/-! ## Directives -/

/-- A style directive. -/
inductive Directive where
  | classDef (names : List String) (properties : Properties)
  | assign (ids : List String) (className : String)
  | style (ids : List String) (properties : Properties)
  | linkStyle (targets : List LinkTarget) (properties : Properties)
  | malformed
deriving Repr, DecidableEq

/-- `classDef NAMES PROPERTIES`, where the properties may be missing. -/
def classDef? (s : List Char) : Option Directive := do
  let rest ← gap? (← literal? "classDef".toList s)
  (idLists isWordOrHyphen rest).findSome? fun (names, u) => do
    return .classDef names (parseProperties ((← restEnd? u).getD []))

/-- `class IDS NAME`. -/
def assign? (s : List Char) : Option Directive := do
  let rest ← gap? (← literal? "class".toList s)
  (idLists isWordOrHyphen rest).findSome? fun (ids, u) => do
    let v ← gap? u
    let name := v.takeWhile isWordOrHyphen
    if name ≠ [] ∧ trimStart (v.dropWhile isWordOrHyphen) = [] then
      some (.assign ids (String.ofList name))
    else none

/-- `style IDS PROPERTIES`. -/
def style? (s : List Char) : Option Directive := do
  let rest ← gap? (← literal? "style".toList s)
  (idLists isWordOrHyphen rest).findSome? fun (ids, u) => do
    return .style ids (parseProperties (← blanks₁ u lineRest₁?))

/-- An index of an edge; one of more than 4300 digits is a fault. -/
def linkIndex (digits : String) : Except Fault LinkTarget :=
  if digits.length ≤ 4300 then .ok (.index (digitsValue digits.toList))
  else .error (.longInteger digits.length)

/-- The targets of a link style as they are written, and its properties; without targets the style
is for all edges. -/
def linkStyle? (s : List Char) : Option (List String × Properties) := do
  let rest ← gap? (← literal? "linkStyle".toList s)
  (do
    let u ← literal? "default".toList rest
    return ([], parseProperties (← blanks₁ u lineRest₁?))) <|>
  (idLists isDigit rest).findSome? fun (indices, u) => do
    return (indices, parseProperties (← blanks₁ u lineRest₁?))

/-- Whether a text starts with the keyword of a directive and a blank. -/
def looksLikeDirective (s : List Char) : Bool :=
  ["classDef", "class", "style", "linkStyle"].any fun w =>
    ((literal? w.toList s).bind gap?).isSome

/-- The style directive on a line. -/
def Directive.recognise? (s : List Char) : Except Fault (Option Directive) :=
  match classDef? s <|> assign? s <|> style? s with
  | some d => .ok (some d)
  | none =>
    match linkStyle? s with
    | some ([], properties) => .ok (some (.linkStyle [.default] properties))
    | some (indices, properties) => do
      return some (.linkStyle (← indices.mapM linkIndex) properties)
    | none => .ok (if looksLikeDirective s then some .malformed else none)

/-! ## Directions -/

/-- `direction LR`, in any letter case. -/
def direction? (s : List Char) : Option Direction := do
  let rest ← gap? (← caselessRest? "direction".toList s)
  let name := rest.takeWhile (!isBlank ·)
  if trimStart (rest.dropWhile (!isBlank ·)) = [] then
    Direction.ofName? (String.ofList (upper name))
  else none

end DiagramText.ScopeGraph
