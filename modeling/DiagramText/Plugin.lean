import DiagramText.Diagram
import DiagramText.Fault
import DiagramText.FrontMatter

/-!
# Plugins

A plugin contributes further kinds of diagrams.  For each it has a detector, asked about the first
logical line of a source, and a reader, which gets the whole source.  Plugins are asked in the order
in which they were registered, and the first one that accepts the line reads the source.

1. `Notice`, what the library tells about its work while it goes on.
2. `DiagramPlugin` and `Plugin`; a reader answers with an `Outcome`.
3. `PluginRegistry` with `register` and `detect`; a call of `register` that fails is a `Refusal`.
-/

namespace DiagramText

/-! ## Notices -/

/-- The importance of a notice. -/
inductive Level where
  | debug
  | warning
  | error
deriving Repr, DecidableEq

/-- The name of a level. -/
def Level.name : Level → String
  | debug => "DEBUG"
  | warning => "WARNING"
  | error => "ERROR"

/-- Something worth telling while a source is read. -/
inductive Notice where
  | detected (kind : DiagramKind)
  | registered (plugin : String) (types : List String)
  | handles (plugin type : String)
  | detectorFailed (plugin type : String)
  | readerFailed (plugin type : String)
  | wrongResult (plugin resultType : String)
deriving Repr, DecidableEq

namespace Notice

/-- The importance of a notice. -/
def level : Notice → Level
  | detected _ | registered _ _ | handles _ _ => .debug
  | wrongResult _ _ => .warning
  | detectorFailed _ _ | readerFailed _ _ => .error

/-- The types that a plugin contributes, in words. -/
def typeList (types : List String) : String :=
  match String.intercalate ", " types with
  | "" => "no diagrams"
  | s => s

/-- The wording of a notice. -/
def message : Notice → String
  | detected kind => s!"Detected {kind.name} diagram"
  | registered plugin types => s!"Registered plugin {Text.quoted plugin} ({typeList types})"
  | handles plugin type => s!"Plugin {Text.quoted plugin} handles {type} diagram"
  | detectorFailed plugin type => s!"Detector of plugin {Text.quoted plugin} ({type}) failed"
  | readerFailed plugin type => s!"Plugin {Text.quoted plugin} failed to parse {type} diagram"
  | wrongResult plugin resultType =>
    s!"Plugin {Text.quoted plugin} returned {resultType} instead of a parse result"

end Notice

/-! ## Plugins -/

/-- What a source was read as: a built-in diagram, or a value of a plugin's own. -/
inductive Ast (υ : Type) where
  | builtin (d : Diagram)
  | custom (v : υ)

/-- How a plugin's reader ends. -/
inductive Outcome (υ : Type) where
  /-- It fails with a message. -/
  | failed (message : String)
  /-- It gives a diagram, or none, and diagnostics. -/
  | result (ast : Option (Ast υ)) (diagnostics : List Diagnostic)
  /-- It gives something that is no result, of the named type. -/
  | other (resultType : String)

/-- A call of a plugin's reader: how it ends, and the notices given meanwhile. -/
structure Reading (υ : Type) where
  outcome : Outcome υ
  notices : List Notice := []

/-- One kind of diagram that a plugin contributes.  A detector or reader that cannot be called is
missing. -/
structure DiagramPlugin (υ : Type) where
  type : String
  detect : Option (String → Except String Bool)
  read : Option (String → Reading υ)

/-- What the detector says about a line. -/
def DiagramPlugin.accepts {υ : Type} (d : DiagramPlugin υ) (line : String) : Except String Bool :=
  match d.detect with
  | some f => f line
  | none => .ok false

/-- A named list of kinds of diagrams. -/
structure Plugin (υ : Type) where
  name : String
  diagrams : List (DiagramPlugin υ)

/-! ## Registries -/

/-- The registered plugins, in order of registration. -/
structure PluginRegistry (υ : Type) where
  plugins : List (Plugin υ) := []

/-- A call that fails: its fault, and the registry that it leaves behind. -/
structure Refusal (υ : Type) where
  fault : Fault
  registry : PluginRegistry υ

/-- A refusal is reported by its fault. -/
instance {υ : Type} : CoeOut (Refusal υ) Fault where
  coe := Refusal.fault

namespace PluginRegistry

variable {υ : Type}

/-- Registers a plugin behind the others, unless a detector or reader of it cannot be called.  There
is a registry behind the call in either case. -/
def register (r : PluginRegistry υ) (p : Plugin υ) :
    Except (Refusal υ) (PluginRegistry υ × Notice) :=
  match p.diagrams.find? fun d => d.detect.isNone || d.read.isNone with
  | some d => .error { fault := .notCallable p.name d.type, registry := r }
  | none => .ok (⟨r.plugins ++ [p]⟩, .registered p.name (p.diagrams.map (·.type)))

/-- All contributed kinds of diagrams, each with its plugin. -/
def diagrams (r : PluginRegistry υ) : List (Plugin υ × DiagramPlugin υ) :=
  r.plugins.flatMap fun p => p.diagrams.map (p, ·)

/-- The first kind of a list whose detector accepts the line, with the notices of the detectors that
failed before it. -/
def detectIn (line : String) :
    List (Plugin υ × DiagramPlugin υ) → Option (Plugin υ × DiagramPlugin υ) × List Notice
  | [] => (none, [])
  | (p, d) :: rest =>
    match d.accepts line with
    | .ok true => (some (p, d), [])
    | .ok false => detectIn line rest
    | .error _ =>
      let (found, notices) := detectIn line rest
      (found, .detectorFailed p.name d.type :: notices)

/-- The first contributed kind whose detector accepts the line. -/
def detect (r : PluginRegistry υ) (line : String) :
    Option (Plugin υ × DiagramPlugin υ) × List Notice :=
  detectIn line r.diagrams

end PluginRegistry

end DiagramText
