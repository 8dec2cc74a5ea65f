import DiagramText.Proofs.ScopeGraph.Ownership

/-!
# References inside a graph

Edges join registered nodes, and subgraphs list registered nodes.

1. `Registered`, the invariant: the ends of the edges and the nodes with an owner are registered.  A
   node is registered before it is claimed, and a registered node stays so.
2. `Graph.Closed`, for the graph that is returned.
-/

namespace DiagramText.ScopeGraph

open Source (Line)

/-- The ends of all edges, and all nodes that have an owner, are registered. -/
structure Registered (st : State) : Prop where
  edges : ∀ e ∈ st.edges, e.source ∈ st.nodes.keys ∧ e.target ∈ st.nodes.keys
  owned : ∀ n k, st.owners.get? n = some k → n ∈ st.nodes.keys

namespace Registered

variable {st st' : State}

theorem init (direction : String) : Registered { direction } where
  edges := by
    intro e he
    cases he
  owned := by
    intro n k hk
    cases hk

/-- Registering more nodes keeps what is registered. -/
theorem mono (h : Registered st) (hedges : st'.edges = st.edges) (howners : st'.owners = st.owners)
    (hkeys : ∀ n ∈ st.nodes.keys, n ∈ st'.nodes.keys) : Registered st' where
  edges := by
    rw [hedges]
    intro e he
    obtain ⟨hs, ht⟩ := h.edges e he
    exact ⟨hkeys _ hs, hkeys _ ht⟩
  owned := by
    rw [howners]
    intro n k hk
    exact hkeys n (h.owned n k hk)

/-- A registered node may be claimed. -/
theorem claim (h : Registered st) {id : String} (hid : id ∈ st.nodes.keys) :
    Registered (st.claim id) := by
  obtain hc | ⟨f, fs, rest, -, -, hc⟩ := st.claim_cases id
  · rw [hc]
    exact h
  · rw [hc]
    refine ⟨h.edges, ?_⟩
    intro n k hk
    by_cases hn : n = id
    · rw [hn]
      exact hid
    · replace hk : (st.owners.insert id f.value.serial).get? n = some k := hk
      rw [OrderedMap.get?_insert_of_ne _ _ hn] at hk
      exact h.owned n k hk

theorem move (hm : Move st st') (h : Registered st) : Registered st' := by
  have hkeys := hm.keys_subset
  cases hm with
  | aside hg => exact h.mono hg.edges hg.owners hkeys
  | setDirection d =>
    refine h.mono ?_ ?_ hkeys <;>
      · unfold State.setDirection
        split <;> rfl
  | openScope l id label => exact h.mono rfl rfl hkeys
  | closeScope =>
    refine h.mono ?_ ?_ hkeys <;>
      · unfold State.closeScope
        split <;> rfl
  | mention id shape line =>
    unfold State.mention
    refine Registered.claim ?_ ?_
    · refine h.mono rfl rfl ?_
      intro n hn
      exact Registry.mem_keys_ensure.2 (.inl hn)
    · exact Registry.mem_keys_ensure.2 (.inr rfl)
  | declare id label shape line =>
    obtain ⟨nodes, reports, hnodes, hd⟩ := st.declare_eq_claim id label shape line
    rw [hd]
    refine Registered.claim ?_ ?_
    · refine h.mono rfl rfl ?_
      intro n hn
      exact (hnodes n).2 (.inl hn)
    · exact (hnodes id).2 (.inr rfl)
  | join es hes =>
    refine ⟨?_, h.owned⟩
    intro e he
    exact (List.mem_append.1 he).elim (h.edges e) (hes e)

theorem of_moves {direction : String} (h : Moves { direction } st) : Registered st :=
  h.keep move (init direction)

end Registered

/-! ## Returned graphs -/

/-- All references of a graph are to its own nodes. -/
structure Graph.Closed (g : Graph) : Prop where
  edges : ∀ e ∈ g.edges, e.source ∈ g.nodes.keys ∧ e.target ∈ g.nodes.keys
  members : ∀ t ∈ g.allSubgraphs, ∀ n ∈ t.value.nodeIds, n ∈ g.nodes.keys

/-- The graph of a state without open scopes is closed. -/
theorem Graph.closed_of_moves {direction : String} {st : State} {g : Graph}
    (hm : Moves { direction } st) (hscopes : st.scopes = []) (hnodes : g.nodes = st.nodes)
    (hedges : g.edges = st.edges) (hsub : g.subgraphs = st.finished) : g.Closed := by
  have hreg := Registered.of_moves hm
  refine ⟨?_, ?_⟩
  · rw [hnodes, hedges]
    exact hreg.edges
  · intro t ht n hn
    have hs : t.value ∈ st.allScopes := by
      unfold State.allScopes
      rw [hscopes, Frame.spineValues_nil, List.append_nil, ← Tree.map_value_walk, ← hsub]
      exact List.mem_map_of_mem ht
    rw [hnodes]
    exact hreg.owned n _ (((SingleOwner.of_moves hm).mem_iff hs n).1 hn)

theorem closed_of_flowchart {ls : List Line} {direction : String} {p : Parsed Graph}
    (h : Flowchart.parse ls direction = .ok p) : p.diagram.Closed := by
  obtain ⟨st, hst, hscopes, hnodes, hedges, hsub⟩ := Flowchart.exists_reachable_of_parse h
  obtain ⟨direction, hmoves⟩ := hst.moves
  exact Graph.closed_of_moves hmoves hscopes hnodes hedges hsub

theorem closed_of_stateChart {ls : List Line} {p : Parsed Graph} (h : StateChart.parse ls = .ok p) :
    p.diagram.Closed := by
  obtain ⟨st, hst, hscopes, hnodes, hedges, hsub⟩ := StateChart.exists_reachable_of_parse h
  exact Graph.closed_of_moves hst.moves hscopes hnodes hedges hsub

end DiagramText.ScopeGraph
