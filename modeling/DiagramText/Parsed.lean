import DiagramText.Diagnostic

/-!
# What reading a diagram gives

Every dialect turns logical lines into a diagram and the problems it found on the way.
-/

namespace DiagramText

/-- A diagram and the diagnostics recorded while it was read. -/
structure Parsed (δ : Type) where
  diagram : δ
  diagnostics : List Diagnostic
deriving Repr

/-- A diagram with its reports put into words. -/
def Parsed.ofReports {δ π : Type} [Describe π] (diagram : δ) (reports : List (Report π)) :
    Parsed δ :=
  ⟨diagram, reports.map Report.toDiagnostic⟩

/-- Changes the diagram and keeps the diagnostics. -/
def Parsed.map {δ ε : Type} (f : δ → ε) (p : Parsed δ) : Parsed ε := ⟨f p.diagram, p.diagnostics⟩

end DiagramText
