import DiagramText.Proofs.ScopeGraph.Columns

/-!
# Reports behind reports

Reports are only ever added behind those that are there.

1. `Appends`, for what a step adds: the reports so far stay in front, and all new ones are of a
   given sort.
2. The steps that flowcharts and state diagrams have in common, for any sort of reports.
-/

namespace DiagramText

open Source (Line)

section

variable {π σ α : Type}

/-- The second list is the first one and, behind it, reports of a given sort. -/
def Appends (P : Report π → Prop) (rs rs' : List (Report π)) : Prop :=
  ∃ new, rs' = rs ++ new ∧ ∀ r ∈ new, P r

namespace Appends

variable {P : Report π → Prop} {rs rs' rs'' : List (Report π)}

theorem refl (rs : List (Report π)) : Appends P rs rs :=
  ⟨[], (List.append_nil rs).symm, List.forall_mem_nil _⟩

theorem trans (h : Appends P rs rs') (h' : Appends P rs' rs'') : Appends P rs rs'' := by
  obtain ⟨new, rfl, hnew⟩ := h
  obtain ⟨more, rfl, hmore⟩ := h'
  refine ⟨new ++ more, List.append_assoc rs new more, ?_⟩
  intro r hr
  exact (List.mem_append.1 hr).elim (hnew r) (hmore r)

theorem append {more : List (Report π)} (h : ∀ r ∈ more, P r) : Appends P rs (rs ++ more) :=
  ⟨more, rfl, h⟩

theorem concat {r : Report π} (h : P r) : Appends P rs (rs ++ [r]) :=
  append (List.forall_mem_singleton.2 h)

/-- Steps that each append reports of a sort append such reports together. -/
theorem foldl (reports : σ → List (Report π)) {f : σ → α → σ}
    (hf : ∀ st a, Appends P (reports st) (reports (f st a))) (as : List α) (st : σ) :
    Appends P (reports st) (reports (as.foldl f st)) := by
  induction as generalizing st with
  | nil => exact refl _
  | cons a as ih => exact (hf st a).trans (ih (f st a))

end Appends

end

namespace ScopeGraph.State

variable {P : Report Problem → Prop} (st : State) (l : Line)

theorem appends_closeOrReport {family : Family} (h : P (l.report (.strayClose family))) :
    Appends P st.reports (st.closeOrReport family l).reports := by
  unfold closeOrReport
  split
  · exact .concat h
  · rw [reports_closeScope]
    exact .refl _

/-- A directive is reported if it is malformed or defines a class without properties. -/
theorem appends_applyDirective {d : Directive} (hempty : P (l.report .emptyClassDef))
    (hmalformed : d = .malformed → P (l.report (.malformedDirective l.text))) :
    Appends P st.reports (st.applyDirective l d).reports := by
  cases d with
  | classDef names properties =>
    have hreport : Appends P st.reports
        (if properties.entries.isEmpty then st.report l .emptyClassDef else st).reports := by
      split
      · exact .concat hempty
      · exact .refl _
    refine hreport.trans (.foldl reports ?_ names _)
    intro st name
    exact .refl _
  | assign ids className =>
    refine .foldl reports ?_ ids st
    intro st id
    exact .refl _
  | style ids properties =>
    refine .foldl reports ?_ ids st
    intro st id
    exact .refl _
  | linkStyle targets properties =>
    refine .foldl reports ?_ targets st
    intro st t
    rw [reports_noteLink]
    exact .refl _
  | malformed => exact .concat (hmalformed rfl)

theorem appends_declare {id label : String} {shape : Shape} {line : Int}
    (h : ∀ first, P ⟨.redeclared id first, line, none⟩) :
    Appends P st.reports (st.declare id label shape line).reports := by
  unfold declare
  dsimp only
  rw [reports_claim]
  split
  · exact .refl _
  · split
    · exact .refl _
    · split
      · exact .refl _
      · exact .concat (h _)

/-- What is reported at the end: scopes left open, and targets of styles that do not exist. -/
theorem appends_finish (family : Family)
    (hunclosed : ∀ id line, P ⟨.unclosed family id, line, none⟩)
    (htarget : ∀ id line, P ⟨.undeclaredTarget id, line, none⟩)
    (hlink : ∀ index edges line, P ⟨.linkRange index edges, line, none⟩) :
    Appends P st.reports ((st.closeAll family).reports ++
      (st.closeAll family).undeclaredTargets ++ (st.closeAll family).missingLinks) := by
  have hscopes : Appends P st.reports (st.closeAll family).reports := by
    rw [reports_closeAll]
    apply Appends.append
    intro r hr
    obtain ⟨f, -, rfl⟩ := List.mem_map.1 hr
    exact hunclosed _ _
  have htargets : ∀ r ∈ (st.closeAll family).undeclaredTargets, P r := by
    intro r hr
    obtain ⟨e, -, rfl⟩ := List.mem_map.1 hr
    exact htarget _ _
  have hlinks : ∀ r ∈ (st.closeAll family).missingLinks, P r := by
    intro r hr
    obtain ⟨e, -, rfl⟩ := List.mem_map.1 hr
    exact hlink _ _ _
  exact (hscopes.trans (.append htargets)).trans (.append hlinks)

end ScopeGraph.State

end DiagramText
