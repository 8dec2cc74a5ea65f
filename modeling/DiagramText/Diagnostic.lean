/-!
# Diagnostics

A problem found while reading a diagram never stops the reading; it becomes a `Diagnostic` at a
line and, where one is known, a column.

1. `Diagnostic` and its one-line `text`.
2. `Log`, a list of diagnostics that only grows.
3. `Report`, a problem of one dialect together with its place; `Describe` says how the problems of a
   dialect are worded, and `Report.toDiagnostic` puts the two together.
-/

namespace DiagramText

/-- How grave a problem is. -/
inductive Severity where
  | error
  | warning
deriving Repr, DecidableEq

/-- The word for a severity. -/
def Severity.name : Severity → String
  | .error => "error"
  | .warning => "warning"

/-- A problem in words, at a line and possibly a column, both counted from one. -/
structure Diagnostic where
  severity : Severity
  message : String
  line : Int
  column : Option Int := none
  suggestions : List String := []
deriving Repr, DecidableEq

namespace Diagnostic

/-- The diagnostic on one line. -/
def text (d : Diagnostic) : String := s!"line {d.line}: {d.severity.name}: {d.message}"

/-- Whether the diagnostic is an error. -/
def isError (d : Diagnostic) : Bool := d.severity == .error

/-- Whether the diagnostic is a warning. -/
def isWarning (d : Diagnostic) : Bool := d.severity == .warning

end Diagnostic

/-! ## Logs -/

/-- The diagnostics recorded so far, in order of recording. -/
structure Log where
  items : List Diagnostic := []
deriving Repr, DecidableEq

namespace Log

/-- Records one diagnostic. -/
def add (l : Log) (d : Diagnostic) : Log := ⟨l.items ++ [d]⟩

/-- Records several diagnostics. -/
def extend (l : Log) (ds : List Diagnostic) : Log := ⟨l.items ++ ds⟩

/-- The number of recorded diagnostics. -/
def size (l : Log) : Nat := l.items.length

end Log

/-! ## Reports -/

/-- The wording of the problems of a dialect. -/
class Describe (π : Type) where
  severity : π → Severity
  message : π → String
  suggestions : π → List String

/-- A problem and where it was found. -/
structure Report (π : Type) where
  problem : π
  line : Int
  column : Option Int := none
deriving Repr, DecidableEq

/-- The report in words. -/
def Report.toDiagnostic {π : Type} [Describe π] (r : Report π) : Diagnostic :=
  { severity := Describe.severity r.problem
    message := Describe.message r.problem
    line := r.line
    column := r.column
    suggestions := Describe.suggestions r.problem }

end DiagramText
