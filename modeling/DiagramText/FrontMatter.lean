import DiagramText.Source.Line
import DiagramText.Yaml.Document
import DiagramText.Yaml.Node.OfTokens

/-!
# Front matter

A source may start with a YAML mapping between two fences.  `FrontMatter.read` reads it; text that
is malformed or no mapping is reported as a warning and counts as no front matter at all.
`FrontMatter.pairs` lists its keys and values.

YAML has a standard of its own, so what reads it is a parameter (`Yaml.Loader`).  Unless told
otherwise, `Yaml.load` does.
-/

namespace DiagramText

namespace Yaml

/-- The characters that may stand in YAML text. -/
def isAllowed (ch : Char) : Bool :=
  let n := ch.toNat
  n == 0x09 || n == 0x0a || n == 0x0d || (0x20 ≤ n && n ≤ 0x7e) || n == 0x85 ||
    (0xa0 ≤ n && n ≤ 0xd7ff) || (0xe000 ≤ n && n ≤ 0xfffd) || 0x10000 ≤ n

/-- What finds the only document in a text, if there is one. -/
abbrev Loader := List Char → Except Failure (Option Document)

/-- The loader for the standard types of YAML 1.1. -/
def load : Loader := fun text =>
  match text.find? (!isAllowed ·) with
  | some ch =>
    let code := String.ofList (Text.hex 4 ch.toNat)
    .error (.malformed s!"unacceptable character #x{code}: special characters are not allowed" 0)
  | none => do
    let (graph, root) ← NodeGraph.ofTokens (TokenStream.ofText text)
    match root with
    | some n => some <$> Document.ofGraph graph n
    | none => return none

end Yaml

/-- Front matter: a document whose root is a mapping, or nothing. -/
structure FrontMatter where
  document : Option Yaml.Document := none

namespace FrontMatter

/-- Why front matter is ignored. -/
inductive Problem where
  | invalid (problem : String)
  | notMapping
deriving Repr, DecidableEq

instance : Describe Problem where
  severity _ := .warning
  message
    | .invalid problem => s!"Invalid front matter: {problem}"
    | .notMapping => "Front matter must be a mapping; ignoring it"
  suggestions _ := []

/-- The keys and values of front matter, in source order. -/
def pairs (f : FrontMatter) : Except Fault (List (Yaml.Value × Yaml.Value)) :=
  match f.document with
  | none => .ok []
  | some d => do
    match ← d.value d.root with
    | .map pairs => return pairs
    | _ => return []

/-- Ignores front matter, with a warning at a line. -/
def ignored (problem : Problem) (line : Nat) : FrontMatter × List Diagnostic :=
  ({}, [(Report.mk problem line none).toDiagnostic])

/-- The front matter in a block, and a warning if it is ignored. -/
def ofBlock (b : Source.Block) (load : Yaml.Loader) :
    Except Fault (FrontMatter × List Diagnostic) :=
  match load (Text.unlines b.content) with
  | .ok none => .ok ({}, [])
  | .ok (some d) =>
    match d.cell d.root with
    | .map _ => .ok (⟨some d⟩, [])
    | .scalar .null => .ok ({}, [])
    | _ => .ok (ignored .notMapping (b.above + 1))
  | .error (.malformed problem line) => .ok (ignored (.invalid problem) (b.above + 2 + line))
  | .error (.fault f) => .error f

/-- The front matter of a source, and a warning if it is ignored. -/
def read (source : String) (load : Yaml.Loader := Yaml.load) :
    Except Fault (FrontMatter × List Diagnostic) :=
  match Source.block? (Text.lines source.toList) with
  | some b => ofBlock b load
  | none => .ok ({}, [])

end FrontMatter

end DiagramText
