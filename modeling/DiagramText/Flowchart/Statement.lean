import DiagramText.Flowchart.Chain
import DiagramText.ScopeGraph.Directive

/-!
# Statements of flowcharts

1. `Header.recognise?` reads `graph TD` and `flowchart LR`.
2. `SubgraphHead.ofText` finds the id and the label of a subgraph.
3. `Statement.recognise` reads a line of the body.
-/

namespace DiagramText.Flowchart

open Text
open ScopeGraph (Directive)

/-! ## Headers -/

/-- The direction that a header names, as written; none if the line is no header. -/
def header? (text : String) : Option (Option (List Char)) := do
  let s := text.toList
  let rest ← caselessRest? "graph".toList s <|> caselessRest? "flowchart".toList s
  if trimStart rest = [] then some none
  else
    let token ← gap? rest
    if trimStart (token.dropWhile (!isBlank ·)) = [] then
      some (some (token.takeWhile (!isBlank ·)))
    else none

/-! ## Subgraphs -/

/-- What the opening line of a subgraph says about it. -/
inductive SubgraphHead where
  /-- Nothing at all. -/
  | unnamed
  /-- An id and a label. -/
  | named (id label : String)
  /-- A label in which nothing can serve as an id. -/
  | labelled (label : String)
deriving Repr, DecidableEq

/-- `ID [LABEL]`. -/
def bracketedHead? (s : List Char) : Option (List Char × List Char) := do
  let id := s.takeWhile isWordOrHyphen
  let inside ← literal? ['['] (trimStart (s.dropWhile isWordOrHyphen))
  let label ← dropSuffix? [']'] (← lineRest? inside)
  if id = [] ∨ label = [] then none else some (id, label)

/-- The id made from a label: its word characters, with an underscore for every space. -/
def idOfLabel (label : List Char) : List Char :=
  (label.map fun c => if c == ' ' then '_' else c).filter isWord

/-- The id and the label in the text behind the keyword. -/
def SubgraphHead.ofText (s : List Char) : SubgraphHead :=
  if s = [] then .unnamed
  else
    match bracketedHead? s with
    | some (id, label) => .named (String.ofList id) (String.ofList (unquote label))
    | none =>
      let label := unquote s
      match idOfLabel label with
      | [] => .labelled (String.ofList label)
      | id => .named (String.ofList id) (String.ofList label)

/-- The text behind the keyword of a subgraph. -/
def subgraph? (s : List Char) : Option (List Char) := do
  let rest ← literal? "subgraph".toList s
  if atWordEnd rest then (lineRest? (trimStart rest)).map trim else none

/-! ## Lines -/

/-- A line of a flowchart. -/
inductive Statement where
  | directive (d : Directive)
  | direction (d : Direction)
  | openSubgraph (head : SubgraphHead)
  | close
  | interaction
  | chain (steps : List Step)
deriving Repr, DecidableEq

/-- Whether a line is about interaction, which has no place in the graph. -/
def isInteraction (s : List Char) : Bool :=
  ["click", "href", "callback"].any fun w => (literal? w.toList s).any atWordEnd

/-- The statement on a line that is no style directive. -/
def Statement.plain (s : List Char) : Statement :=
  match ScopeGraph.direction? s with
  | some d => .direction d
  | none =>
    match subgraph? s with
    | some t => .openSubgraph (.ofText t)
    | none =>
      if s = "end".toList then .close
      else if isInteraction s then .interaction
      else .chain (Flowchart.chain s)

/-- The statement on a line. -/
def Statement.recognise (text : String) : Except Fault Statement := do
  let s := text.toList
  match ← Directive.recognise? s with
  | some d => return .directive d
  | none => return .plain s

end DiagramText.Flowchart
