import DiagramText.Flowchart.Arrow
import DiagramText.Flowchart.Node

/-!
# Chains of edges

A line such as `a & b --> c -.-> d` is a chain of groups with arrows between them.  `chain` reads it
into steps, in the order in which they take effect: nodes are mentioned, groups are joined, and what
cannot be read is reported at its place in the line.
-/

namespace DiagramText.Flowchart

open Text

/-- One effect of a chain; an offset counts the characters of the line in front of a text. -/
inductive Step where
  | mention (m : Mention)
  | join (sources targets : List String) (arrow : Arrow)
  | unknownArrow (token : String) (offset : Nat)
  | missingTarget
  | unrecognisedText (text : String) (offset : Nat)
  | unrecognisedLine
deriving Repr, DecidableEq

/-- The report of an unknown arrow in front of a text of the given length. -/
def unknownSteps (total remaining : Nat) : Option (List Char) → List Step
  | some token => [.unknownArrow (String.ofList token) (total - remaining)]
  | none => []

/-- The steps of a chain behind the group `sources`; `total` is the length of the line, of which `s`
is left. -/
def links (total : Nat) (sources : List String) (s : List Char) : List Step :=
  if s = [] then []
  else
    match _h : arrow? s with
    | none => [.unrecognisedText (String.ofList s) (total - s.length)]
    | some (token, arrow, rest) =>
      unknownSteps total s.length token ++
        match _h' : group? (trim rest) with
        | none => [.missingTarget]
        | some (ms, u) =>
          ms.map .mention ++
            .join sources (ms.map (·.id)) arrow :: links total (ms.map (·.id)) (trim u)
termination_by s.length
decreasing_by
  have h₁ := length_of_arrow? _h
  have h₂ := length_trim_le rest
  have h₃ := length_of_group? _h'
  have h₄ := length_trim_le u
  omega

/-- The steps of a line that is a chain. -/
def chain (s : List Char) : List Step :=
  match group? s with
  | none => [.unrecognisedLine]
  | some (ms, u) => ms.map .mention ++ links s.length (ms.map (·.id)) (trim u)

end DiagramText.Flowchart
