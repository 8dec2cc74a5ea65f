import DiagramText.Plugin

/-!
# Reading sources of any kind

`dispatch` finds out which kind of diagram a source holds and reads it.  Built-in kinds come first;
a source of no built-in kind goes to the first plugin that accepts its first line.  The diagnostics
of a result are those of the front matter, followed by those of the diagram.  What loads the front
matter is a parameter, like the plugins.
-/

namespace DiagramText

/-- The wishes of a caller; a missing wish means the usual behaviour. -/
structure Options where
  /-- The direction of a flowchart whose header names none. -/
  defaultDirection : Option String := none
  /-- Whether a semicolon ends a statement of a flowchart or state diagram. -/
  splitStatements : Option Bool := none
  /-- Whether front matter is read. -/
  frontMatter : Option Bool := none
deriving Repr, DecidableEq

/-- The direction of a flowchart whose header names none. -/
def Options.direction (o : Options) : String :=
  match o.defaultDirection with
  | none => "TD"
  | some d => if d = "" then "TD" else d

/-- Whether statements of the given kind are split at semicolons. -/
def Options.splits (o : Options) (kind : DiagramKind) : Bool :=
  o.splitStatements != some false && kind.separable

/-- What a source was read as. -/
structure Result (υ : Type) where
  ast : Option (Ast υ)
  diagnostics : List Diagnostic
  frontMatter : FrontMatter

namespace Result

variable {υ : Type}

/-- The diagnostics that are errors. -/
def errors (r : Result υ) : List Diagnostic := r.diagnostics.filter (·.isError)

/-- The diagnostics that are warnings. -/
def warnings (r : Result υ) : List Diagnostic := r.diagnostics.filter (·.isWarning)

/-- Whether there is an error. -/
def hasErrors (r : Result υ) : Bool := r.diagnostics.any (·.isError)

end Result

/-- The answer to a call: a result or a fault, and the notices given on the way. -/
structure Dispatched (υ : Type) where
  result : Except Fault (Result υ)
  notices : List Notice := []

variable {υ : Type}

/-- An error at the first line. -/
def firstLineError (message : String) (suggestions : List String) : Diagnostic :=
  { severity := .error, message, line := 1, suggestions }

/-- The error for a source that nobody can read. -/
def unrecognisedDiagram : Diagnostic :=
  firstLineError "unrecognized diagram type"
    ["Expected the first line to start with one of: " ++
      String.intercalate ", " DiagramKind.sortedKeywords]

/-- Lets a plugin read a source. -/
def runPlugin (p : Plugin υ) (d : DiagramPlugin υ) (source : String) (frontMatter : FrontMatter)
    (warnings : List Diagnostic) : Dispatched υ :=
  let reading := (d.read.map (· source)).getD ⟨.failed "", []⟩
  let handles := Notice.handles p.name d.type :: reading.notices
  match reading.outcome with
  | .result ast diagnostics =>
    { result := .ok { ast, diagnostics := warnings ++ diagnostics, frontMatter }
      notices := handles }
  | .failed message =>
    let error := firstLineError
      s!"Plugin {Text.quoted p.name} failed to parse {d.type} diagram: {message}" []
    { result := .ok { ast := none, diagnostics := warnings ++ [error], frontMatter }
      notices := handles ++ [.readerFailed p.name d.type] }
  | .other resultType =>
    let error := firstLineError
      s!"Plugin {Text.quoted p.name} returned an unsupported result for {d.type} diagram" []
    { result := .ok { ast := none, diagnostics := warnings ++ [error], frontMatter }
      notices := handles ++ [.wrongResult p.name resultType] }

/-- Reads a source of a built-in kind. -/
def runBuiltin (kind : DiagramKind) (o : Options) (source : String) (frontMatter : FrontMatter)
    (warnings : List Diagnostic) : Dispatched υ :=
  { notices := [.detected kind]
    result := do
      let parsed ← Diagram.parse kind o.direction (Source.scan source (o.splits kind))
      return { ast := some (.builtin parsed.diagram),
               diagnostics := warnings ++ parsed.diagnostics, frontMatter } }

/-- Reads a source of no built-in kind, whose first logical line is given. -/
def runOther (registry : PluginRegistry υ) (first : Option Source.Line) (source : String)
    (frontMatter : FrontMatter) (warnings : List Diagnostic) : Dispatched υ :=
  let (found, notices) :=
    match first with
    | some l => registry.detect l.text
    | none => (none, [])
  match found with
  | some (p, d) =>
    let run := runPlugin p d source frontMatter warnings
    { run with notices := notices ++ run.notices }
  | none =>
    { result := .ok { ast := none, diagnostics := warnings ++ [unrecognisedDiagram], frontMatter }
      notices }

/-- Reads a source. -/
def dispatch (registry : PluginRegistry υ) (o : Options) (source : String)
    (load : Yaml.Loader := Yaml.load) : Dispatched υ :=
  let front := if o.frontMatter = some false then .ok ({}, []) else FrontMatter.read source load
  match front with
  | .error fault => { result := .error fault }
  | .ok (frontMatter, warnings) =>
    let first := Source.firstLine? source
    match first.bind DiagramKind.ofLine? with
    | some kind => runBuiltin kind o source frontMatter warnings
    | none => runOther registry first source frontMatter warnings

end DiagramText
