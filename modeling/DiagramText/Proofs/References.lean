import DiagramText.Proofs.Classes.References
import DiagramText.Proofs.Dispatch
import DiagramText.Proofs.Er.References
import DiagramText.Proofs.ScopeGraph.References
import DiagramText.Proofs.Sequence.References

/-!
# Closed references

In every diagram that is returned, whatever is referred to by its id is part of the diagram.
-/

namespace DiagramText

/-- All references inside a diagram are to parts of the diagram.  Pie charts, Gantt charts and mind
maps have no references. -/
def Diagram.Closed : Diagram → Prop
  | .graph g => g.Closed
  | .sequence d => d.Closed
  | .classes d => d.Closed
  | .er d => d.Closed
  | .pie _ | .gantt _ | .mindmap _ => True

theorem Diagram.closed_of_parse {kind : DiagramKind} {direction : String} {ls : List Source.Line}
    {p : Parsed Diagram} (h : Diagram.parse kind direction ls = .ok p) : p.diagram.Closed := by
  cases kind with
  | flowchart =>
    obtain ⟨p', hp, rfl⟩ := map_eq_ok_iff.1 h
    exact ScopeGraph.closed_of_flowchart hp
  | state =>
    obtain ⟨p', hp, rfl⟩ := map_eq_ok_iff.1 h
    exact ScopeGraph.closed_of_stateChart hp
  | sequence =>
    obtain ⟨p', hp, rfl⟩ := map_eq_ok_iff.1 h
    exact Sequence.closed_of_parse hp
  | classes =>
    cases h
    exact Classes.closed_parse ls
  | er =>
    cases h
    exact Er.closed_parse ls
  | pie =>
    obtain ⟨p', hp, rfl⟩ := map_eq_ok_iff.1 h
    exact trivial
  | gantt =>
    cases h
    exact trivial
  | mindmap =>
    cases h
    exact trivial

/-- **Closed references.** Whatever the source is and whatever loads its front matter, all
references inside a diagram that a built-in reader returns are to parts of that diagram. -/
theorem closed_references {υ : Type} {registry : PluginRegistry υ} {o : Options} {source : String}
    {load : Yaml.Loader} {r : Result υ} {d : Diagram}
    (hb : registry.plugins = [] ∨ (DiagramKind.detect? source).isSome)
    (h : (dispatch registry o source load).result = .ok r) (hd : r.ast = some (.builtin d)) :
    d.Closed := by
  obtain ⟨kind, p, -, hp, rfl⟩ := exists_parse_of_dispatch hb h hd
  exact Diagram.closed_of_parse hp

/-- The graph in an answer that is one. -/
def Ast.graph? {υ : Type} : Ast υ → Option ScopeGraph.Graph
  | .builtin (.graph g) => some g
  | _ => none

theorem Ast.eq_of_graph? {υ : Type} {a : Ast υ} {g : ScopeGraph.Graph} (h : a.graph? = some g) :
    a = .builtin (.graph g) := by
  unfold Ast.graph? at h
  split at h
  · cases h
    rfl
  · cases h

/-- A chain that breaks off behind an arrow, in a subgraph that is never closed. -/
def brokenChain : String := "graph TD\nsubgraph s\na --> b -->"

theorem closed_references_brokenChain :
    ∃ (r : Result Unit) (g : ScopeGraph.Graph), (dispatch {} {} brokenChain).result = .ok r ∧
      r.ast = some (.builtin (.graph g)) ∧
      (g.edges.map (·.target), g.allSubgraphs.map (·.value.nodeIds)) = (["b"], [["a", "b"]]) ∧
      Diagram.Closed (.graph g) := by
  have hrun : ((dispatch ({} : PluginRegistry Unit) {} brokenChain).result.toOption.map fun r =>
      (r.ast.bind Ast.graph?).map fun g =>
        (g.edges.map (·.target), g.allSubgraphs.map (·.value.nodeIds))) =
      some (some (["b"], [["a", "b"]])) := by
    decide +kernel
  obtain ⟨r, hr, hparts⟩ := exists_ok_of_toOption hrun
  obtain ⟨g, hg, hparts⟩ := Option.map_eq_some_iff.1 hparts
  obtain ⟨a, ha, hg⟩ := Option.bind_eq_some_iff.1 hg
  rw [Ast.eq_of_graph? hg] at ha
  exact ⟨r, g, hr, ha, hparts, closed_references (.inl rfl) hr ha⟩

end DiagramText
