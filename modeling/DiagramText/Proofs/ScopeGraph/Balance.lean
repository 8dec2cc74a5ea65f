import DiagramText.Proofs.Balance
import DiagramText.Proofs.ScopeGraph.Nesting

/-!
# Balance of scopes

Subgraphs and composite states are closed by their closers or by the end of the source.
-/

namespace DiagramText.ScopeGraph

open Source (Line)

/-- The open scopes, and the warnings about those that the end has closed. -/
def State.tally (family : Family) (st : State) : Tally Unit :=
  { isOpen := st.scopes.map fun f => ((), f.value.line)
    warned := (unclosedReports family st.reports).map (·.line) }

/-- What a bracket does to the blocks. -/
def Bracket.mark : Bracket → BlockMark Unit
  | .opening _ => .opening ()
  | .closing => .closer

theorem SameScopes.tally {st st' : State} (h : SameScopes st st') (family : Family) :
    st'.tally family = st.tally family := by
  have hscopes := h.map_scopes (g := fun s => ((), s.line)) fun _ => rfl
  unfold State.tally
  rw [hscopes, h.unclosed family]

theorem Turn.tally {family : Family} {l : Line} {b : Option Bracket} {st st' : State}
    (h : Turn family l b st st') :
    st'.tally family = (b.toList.map Bracket.mark).foldl (Tally.enter l.number) (st.tally family) := by
  cases h with
  | aside hs => exact hs.tally family
  | @opening _ st₀ given id label hs hid =>
    have hopen : (st₀.openScope l id label).tally family =
        (st₀.tally family).enter l.number (.opening ()) := rfl
    rw [hopen, hs.tally family]
    rfl
  | closing =>
    unfold State.closeOrReport
    split
    · rename_i hempty
      have hreport := SameScopes.addReport st
        (r := l.report (Problem.strayClose family)) fun _ => rfl
      have hnone : (st.tally family).isOpen = [] := by
        unfold State.tally
        rw [List.isEmpty_iff.1 hempty]
        rfl
      refine (hreport.tally family).trans ?_
      show st.tally family = { st.tally family with isOpen := (st.tally family).isOpen.tail }
      rw [hnone, List.tail_nil, ← hnone]
    · have hclose := st.map_scopes_closeScope fun s => ((), s.line)
      unfold State.tally
      rw [hclose, State.reports_closeScope]
      rfl

theorem stray_closeOrReport (st : State) (family : Family) (l : Line)
    (h : (st.tally family).isOpen = []) :
    st.closeOrReport family l = st.report l (.strayClose family) := by
  have hscopes : st.scopes = [] := List.map_eq_nil_iff.1 h
  unfold State.closeOrReport
  rw [hscopes]
  rfl

/-- The blocks of a flowchart are its subgraphs. -/
def flowchartBlocks : BlockReader State (Line × Flowchart.Statement) Unit Problem where
  step := Flowchart.step
  line := Prod.fst
  marks _ x :=
    match x.2 with
    | .openSubgraph _ => [.opening ()]
    | .close => [.closer]
    | _ => []
  tally := State.tally .flowchart
  report := State.report

theorem lawful_flowchartBlocks : flowchartBlocks.Lawful where
  tally_step := by
    rintro st ⟨l, s⟩
    have hmarks : ∀ kinds, flowchartBlocks.marks kinds (l, s) =
        (s.bracket? l).toList.map Bracket.mark := by
      intro kinds
      cases s with
      | openSubgraph head => cases head <;> rfl
      | _ => rfl
    rw [hmarks]
    exact (Flowchart.turn_step st l s).tally
  stray := by
    rintro st ⟨l, s⟩ hopen hcloser
    cases s with
    | close => exact ⟨.strayClose .flowchart, rfl, stray_closeOrReport st .flowchart l hopen⟩
    | openSubgraph head => simp [flowchartBlocks] at hcloser
    | _ => cases hcloser

/-- The blocks of a state diagram are its composite states. -/
def stateBlocks : BlockReader State (Line × StateChart.Statement) Unit Problem where
  step := StateChart.step
  line := Prod.fst
  marks _ x :=
    match x.2 with
    | .openComposite _ _ => [.opening ()]
    | .close => [.closer]
    | _ => []
  tally := State.tally .state
  report := State.report

theorem lawful_stateBlocks : stateBlocks.Lawful where
  tally_step := by
    rintro st ⟨l, s⟩
    have hmarks : ∀ kinds, stateBlocks.marks kinds (l, s) =
        (s.bracket? l).toList.map Bracket.mark := by
      intro kinds
      cases s <;> rfl
    rw [hmarks]
    exact (StateChart.turn_step st l s).tally
  stray := by
    rintro st ⟨l, s⟩ hopen hcloser
    cases s with
    | close => exact ⟨.strayClose .state, rfl, stray_closeOrReport st .state l hopen⟩
    | openComposite id label => simp [stateBlocks] at hcloser
    | _ => cases hcloser

/-! ## Graphs -/

/-- The warnings of a graph stand at the lines that the tally before the end says. -/
theorem lines_filter_warns_finish (st : State) (family : Family) :
    ((st.finish family).diagnostics.filter (·.warns family.unclosedWords)).map (·.line) =
      (st.tally family).warned ++ (st.tally family).isOpen.map (·.2) := by
  rw [State.filter_warns_finish]
  unfold State.tally
  rw [List.map_append, List.map_map, List.map_map, List.map_map]
  rfl

theorem balanced_of_flowchart {ls : List Line} {direction : String} {p : Parsed Graph}
    (h : Flowchart.parse ls direction = .ok p) :
    ∃ xs, Flowchart.statements ls.tail = .ok xs ∧
      flowchartBlocks.Balanced (Flowchart.start ls direction) xs
        ((p.diagnostics.filter (·.warns (Family.unclosedWords .flowchart))).map (·.line)) := by
  obtain ⟨xs, hx, h⟩ := bind_eq_ok_iff.1 h
  cases h
  have hstart : (Flowchart.start ls direction).tally .flowchart = {} :=
    (Flowchart.sameScopes_start ls direction).tally .flowchart
  exact ⟨xs, hx, lawful_flowchartBlocks.balanced hstart xs (lines_filter_warns_finish _ .flowchart)⟩

theorem balanced_of_stateChart {ls : List Line} {p : Parsed Graph} (h : StateChart.parse ls = .ok p) :
    ∃ xs, StateChart.statements (StateChart.outsideNotes false ls.tail).1 = .ok xs ∧
      stateBlocks.Balanced { direction := Direction.topDown.name } xs
        ((p.diagnostics.filter (·.warns (Family.unclosedWords .state))).map (·.line)) := by
  obtain ⟨xs, hx, h⟩ := bind_eq_ok_iff.1 h
  cases h
  have hnote := (StateChart.sameScopes_reportOpenNote
    (xs.foldl StateChart.step { direction := Direction.topDown.name })
    (StateChart.outsideNotes false ls.tail).2 ls).tally .state
  refine ⟨xs, hx, lawful_stateBlocks.balanced rfl xs ?_⟩
  refine (lines_filter_warns_finish _ .state).trans ?_
  rw [hnote]
  rfl

end DiagramText.ScopeGraph
