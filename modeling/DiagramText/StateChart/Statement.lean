import DiagramText.ScopeGraph.Directive

/-!
# Statements of state diagrams

1. `Endpoint` and `transition?`: `A --> B : label`, where `[*]` is a start or an end.
2. Declarations: composite states, aliases, choices, forks and joins, descriptions.
3. Notes, which take one line or a block of lines.
4. `Statement.recognise`, which tries the forms in a fixed order.
-/

namespace DiagramText.StateChart

open Text
open ScopeGraph (Directive)

/-! ## Transitions -/

/-- An end of a transition. -/
inductive Endpoint where
  | star
  | state (id : String)
deriving Repr, DecidableEq

/-- The target of a transition and its label. -/
def target? (s : List Char) : Option (Endpoint × Option (List Char)) :=
  (do
    let rest ← literal? ['[', '*', ']'] s
    return (.star, ← labelEnd? rest)) <|>
  match s.takeWhile isWordOrHyphen with
  | [] => none
  | id => (labelEnd? (s.dropWhile isWordOrHyphen)).map (.state (String.ofList id), ·)

/-- The arrow of a transition and what stands behind it. -/
def arrow? (s : List Char) : Option (Endpoint × Option (List Char)) := do
  target? (trimStart (← literal? ['-', '-', '>'] (trimStart s)))

/-- A transition: source, target and label.  Of a source with hyphens at its end, as many belong to
the id as the arrow leaves over. -/
def transition? (s : List Char) : Option (Endpoint × Endpoint × Option (List Char)) :=
  (do
    let rest ← literal? ['[', '*', ']'] s
    return (.star, ← arrow? rest)) <|>
  longest₁ isWordOrHyphen s fun id u => do return (.state (String.ofList id), ← arrow? u)

/-! ## Declarations -/

/-- The text behind the keyword `state`. -/
def stateKeyword? (s : List Char) : Option (List Char) := do gap? (← literal? "state".toList s)

/-- The id in front of `s`, and the text behind it. -/
def id? (s : List Char) : Option (List Char × List Char) :=
  match s.takeWhile isWordOrHyphen with
  | [] => none
  | id => some (id, s.dropWhile isWordOrHyphen)

/-- `"TEXT" as` in front of an id. -/
def alias? (s : List Char) : Option (List Char × List Char) := do
  let r ← literal? ['"'] s
  let text := r.takeWhile (· != '"')
  let rest ← gap? (← literal? ['"'] (r.dropWhile (· != '"')))
  if text = [] then none else return (text, ← gap? (← literal? ['a', 's'] rest))

/-- `state ID {` or `state "LABEL" as ID {`, as the id and the label. -/
def composite? (s : List Char) : Option (List Char × List Char) := do
  let rest ← stateKeyword? s
  let (label, rest) :=
    match alias? rest with
    | some (t, u) => (some t, u)
    | none => (none, rest)
  let (id, rest) ← id? rest
  if atEnd (← literal? ['\x7b'] (trimStart rest)) then some (id, label.getD id) else none

/-- `state "LABEL" as ID`, as the id and the label. -/
def aliased? (s : List Char) : Option (List Char × List Char) := do
  let (label, rest) ← alias? (← stateKeyword? s)
  let (id, rest) ← id? rest
  if trimStart rest = [] then some (id, label) else none

/-- `state ID <<choice>>`, and likewise for forks and joins, as the id and the shape. -/
def pseudo? (s : List Char) : Option (List Char × ScopeGraph.Shape) := do
  let (id, rest) ← id? (← stateKeyword? s)
  let rest ← literal? ['<', '<'] (← gap? rest)
  [("choice", ScopeGraph.Shape.decision), ("fork", .rectangle), ("join", .rectangle)].findSome?
    fun (w, shape) => do
      let u ← literal? ['>', '>'] (← literal? w.toList rest)
      if trimStart u = [] then some (id, shape) else none

/-- `ID : TEXT`. -/
def description? (s : List Char) : Option (List Char × List Char) := do
  let (id, rest) ← id? s
  return (id, ← blanks (← literal? [':'] (trimStart rest)) lineRest₁?)

/-- An id alone, possibly behind the keyword `state`. -/
def bare? (s : List Char) : Option (List Char) :=
  let alone := fun u => do
    let (id, rest) ← id? u
    if atEnd rest then some id else none
  (do alone (← stateKeyword? s)) <|> alone s

/-! ## Notes -/

/-- A note of one line, or the opening line of a block. -/
inductive NoteLine where
  | single
  | block
deriving Repr, DecidableEq

/-- `note left of ID : TEXT`, or without the text; keywords in any letter case. -/
def note? (s : List Char) : Option NoteLine := do
  let rest ← gap? (← caselessRest? "note".toList s)
  let rest ← gap? (← caselessRest? "left".toList rest <|> caselessRest? "right".toList rest)
  let rest ← gap? (← caselessRest? "of".toList rest)
  let (_, rest) ← id? rest
  (do
    let _ ← blanks (← literal? [':'] (trimStart rest)) lineRest₁?
    return .single) <|>
  if atEnd rest then some .block else none

/-- `end note`, in any letter case. -/
def isNoteEnd (text : String) : Bool :=
  ((do
    let rest ← gap? (← caselessRest? "end".toList text.toList)
    caselessRest? "note".toList rest) : Option (List Char)).any atEnd

/-! ## Lines -/

/-- A line of a state diagram. -/
inductive Statement where
  | directive (d : Directive)
  | direction (d : Direction)
  | openComposite (id label : String)
  | close
  | separator
  | note (kind : NoteLine)
  | declare (id label : String) (shape : ScopeGraph.Shape)
  | transition (source target : Endpoint) (label : Option String)
  | mention (id : String)
  | unrecognised
deriving Repr, DecidableEq

/-- The statement on a line that is no style directive, if it has one of the known forms. -/
def Statement.plain? (s : List Char) : Option Statement :=
  ((ScopeGraph.direction? s).map Statement.direction) <|>
  ((composite? s).map fun (id, label) =>
    Statement.openComposite (String.ofList id) (String.ofList label)) <|>
  (if s = ['\x7d'] then some Statement.close else none) <|>
  (if s = ['-', '-'] then some Statement.separator else none) <|>
  ((note? s).map Statement.note) <|>
  ((aliased? s).map fun (id, label) =>
    Statement.declare (String.ofList id) (String.ofList label) .rounded) <|>
  ((pseudo? s).map fun (id, shape) =>
    Statement.declare (String.ofList id) "" shape) <|>
  ((transition? s).map fun (source, target, label) =>
    Statement.transition source target
      ((label.map fun t => String.ofList (trim t)).filter (· ≠ ""))) <|>
  ((description? s).map fun (id, t) =>
    Statement.declare (String.ofList id) (String.ofList (trim t)) .rounded) <|>
  ((bare? s).map fun id => Statement.mention (String.ofList id))

/-- The statement on a line. -/
def Statement.recognise (text : String) : Except Fault Statement := do
  let s := text.toList
  match ← Directive.recognise? s with
  | some d => return .directive d
  | none => return (plain? s).getD .unrecognised

end DiagramText.StateChart
