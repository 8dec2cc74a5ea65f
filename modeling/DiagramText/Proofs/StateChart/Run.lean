import DiagramText.Proofs.Faults
import DiagramText.Proofs.ScopeGraph.Moves
import DiagramText.StateChart.Parse

/-!
# Runs of the state diagram reader

Reading a state diagram makes moves only: both ends of a transition are registered before the edge
is added.

1. `moves_readSource`, `moves_readTarget`: the ends of a transition.
2. `moves_step`, for every statement.
3. `Reachable`, the states that reading passes through, and `Reachable.moves`.
-/

namespace DiagramText.StateChart

open Source (Line)
open ScopeGraph (State Moves SameGraph)

/-! ## Steps are moves -/

theorem moves_readSource (st : State) (l : Line) (e : Endpoint) :
    Moves st (readSource st l e).1 ∧ (readSource st l e).2 ∈ (readSource st l e).1.nodes.keys := by
  cases e with
  | star =>
    refine ⟨.head (.aside ?_) (.single (.declare ..)), State.mem_keys_declare.2 (.inr rfl)⟩
    exact ⟨rfl, rfl, rfl, rfl, rfl, rfl⟩
  | state id => exact ⟨.single (.mention ..), State.mem_keys_mention.2 (.inr rfl)⟩

theorem moves_readTarget (st : State) (l : Line) (e : Endpoint) :
    Moves st (readTarget st l e).1 ∧ (readTarget st l e).2 ∈ (readTarget st l e).1.nodes.keys := by
  cases e with
  | star =>
    refine ⟨.head (.aside ?_) (.single (.declare ..)), State.mem_keys_declare.2 (.inr rfl)⟩
    exact ⟨rfl, rfl, rfl, rfl, rfl, rfl⟩
  | state id => exact ⟨.single (.mention ..), State.mem_keys_mention.2 (.inr rfl)⟩

theorem moves_addTransition (st : State) (l : Line) (source target : Endpoint)
    (label : Option String) : Moves st (addTransition st l source target label) := by
  obtain ⟨hsource, hs⟩ := moves_readSource st l source
  obtain ⟨htarget, ht⟩ := moves_readTarget (readSource st l source).1 l target
  refine (hsource.trans htarget).tail (.join _ _ ?_)
  intro e he
  obtain rfl := List.mem_singleton.1 he
  exact ⟨htarget.keys_subset _ hs, ht⟩

theorem moves_step (st : State) (l : Line) (s : Statement) : Moves st (step st (l, s)) := by
  cases s with
  | directive d => exact (st.sameGraph_applyDirective l d).moves
  | direction d => exact .single (.setDirection st d)
  | openComposite id label => exact .single (.openScope ..)
  | close => exact st.moves_closeOrReport .state l
  | separator => exact .refl
  | note kind => exact .refl
  | declare id label shape => exact .single (.declare ..)
  | transition source target label => exact moves_addTransition st l source target label
  | mention id => exact .single (.mention ..)
  | unrecognised => exact SameGraph.moves ⟨rfl, rfl, rfl, rfl, rfl, rfl⟩

/-! ## Reachable states -/

/-- The states that reading a state diagram passes through: at the start, behind every line, behind
either end of a transition, and while notes and scopes left open are closed. -/
inductive Reachable : State → Prop
  | start : Reachable { direction := Direction.topDown.name }
  | step {st : State} (l : Line) (s : Statement) (h : Reachable st) : Reachable (step st (l, s))
  | source {st : State} (l : Line) (e : Endpoint) (h : Reachable st) :
      Reachable (readSource st l e).1
  | target {st : State} (l : Line) (e : Endpoint) (h : Reachable st) :
      Reachable (readTarget st l e).1
  | note {st : State} (isOpen : Bool) (ls : List Line) (h : Reachable st) :
      Reachable (reportOpenNote st isOpen ls)
  | unwind {st : State} (f : Frame ScopeGraph.Scope) (h : Reachable st) :
      Reachable (State.closeUnclosed .state st f)

theorem sameGraph_reportOpenNote (st : State) (isOpen : Bool) (ls : List Line) :
    SameGraph st (reportOpenNote st isOpen ls) := by
  unfold reportOpenNote
  split
  · exact ⟨rfl, rfl, rfl, rfl, rfl, rfl⟩
  · exact .refl st

/-- Every reachable state is reached by moves from an empty graph. -/
theorem Reachable.moves {st : State} (h : Reachable st) :
    Moves { direction := Direction.topDown.name } st := by
  induction h with
  | start => exact .refl
  | step l s _ ih => exact ih.trans (moves_step _ l s)
  | source l e _ ih => exact ih.trans (moves_readSource _ l e).1
  | target l e _ ih => exact ih.trans (moves_readTarget _ l e).1
  | note isOpen ls _ ih => exact ih.trans (sameGraph_reportOpenNote _ isOpen ls).moves
  | unwind f _ ih => exact ih.trans (State.moves_closeUnclosed .state _ f)

theorem Reachable.foldl_step {st : State} (h : Reachable st) (xs : List (Line × Statement)) :
    Reachable (xs.foldl StateChart.step st) := by
  refine List.foldlRecOn xs _ h ?_
  intro st' h' x _
  exact h'.step x.1 x.2

theorem Reachable.closeAll {st : State} (h : Reachable st) : Reachable (st.closeAll .state) := by
  refine List.foldlRecOn st.scopes _ h ?_
  intro st' h' f _
  exact h'.unwind f

/-- A state diagram that has been read is the graph of a reachable state without open scopes. -/
theorem exists_reachable_of_parse {ls : List Line} {p : Parsed ScopeGraph.Graph}
    (h : parse ls = .ok p) :
    ∃ st, Reachable st ∧ st.scopes = [] ∧ p.diagram.nodes = st.nodes ∧
      p.diagram.edges = st.edges ∧ p.diagram.subgraphs = st.finished := by
  obtain ⟨xs, -, h⟩ := bind_eq_ok_iff.1 h
  cases h
  have hr := (Reachable.start.foldl_step xs).note (outsideNotes false ls.tail).2 ls
  exact ⟨_, hr.closeAll, State.scopes_closeAll _ .state, rfl, rfl, rfl⟩

end DiagramText.StateChart
