import DiagramText.Proofs.Flowchart.Run
import DiagramText.Proofs.ScopeGraph.Moves
import DiagramText.Proofs.StateChart.Run
import Mathlib.Data.List.Nodup

/-!
# Single ownership

`SingleOwner` says that the list of nodes of every scope, open or complete, agrees with the map of
owners: a scope lists a node once if it owns it, and not at all otherwise.

1. `State.allScopes_claim`: a claim changes the listing of all scopes by `transfer`.
2. `SingleOwner.claim`, the one step at which nodes change hands.
3. `SingleOwner.move` and `SingleOwner.of_moves`.
4. `single_ownership`, for every state that reading a flowchart or a state diagram passes through,
   and for the graph that it returns.
-/

namespace DiagramText.ScopeGraph

/-- Every scope has its own number, and lists exactly the nodes that it owns, each once. -/
structure SingleOwner (st : State) : Prop where
  /-- The scopes are numbered in the order in which they were opened. -/
  serials : st.allScopes.map (·.serial) = List.range st.serial
  /-- Every owner is a scope. -/
  owner_lt : ∀ n k, st.owners.get? n = some k → k < st.serial
  count : ∀ s ∈ st.allScopes, ∀ n,
    s.nodeIds.count n = if st.owners.get? n = some s.serial then 1 else 0

/-! ## Claims as transfers -/

/-- Gives the node `id` to the scope `target` and takes it from the scope `source`. -/
def transfer (id : String) (source : Option Nat) (target : Nat) (s : Scope) : Scope :=
  if s.serial = target then { s with nodeIds := s.nodeIds ++ [id] }
  else if source = some s.serial then { s with nodeIds := s.nodeIds.erase id }
  else s

@[simp]
theorem serial_transfer (id : String) (source : Option Nat) (target : Nat) (s : Scope) :
    (transfer id source target s).serial = s.serial := by
  unfold transfer
  split
  · rfl
  · split <;> rfl

theorem transfer_of_ne {id : String} {source : Option Nat} {target : Nat} {s : Scope}
    (ht : s.serial ≠ target) (hs : source ≠ some s.serial) : transfer id source target s = s := by
  unfold transfer
  rw [if_neg ht, if_neg hs]

/-- A transfer leaves the new owner as the only one of the two that lists the node. -/
theorem count_transfer_self {id : String} {source : Option Nat} {target : Nat} {s : Scope}
    (hcount : s.nodeIds.count id = if source = some s.serial then 1 else 0)
    (hne : source ≠ some target) :
    (transfer id source target s).nodeIds.count id = if target = s.serial then 1 else 0 := by
  unfold transfer
  by_cases ht : s.serial = target
  · have hs : source ≠ some s.serial := by rwa [ht]
    rw [if_neg hs] at hcount
    rw [if_pos ht, if_pos ht.symm, List.count_append, hcount]
    simp
  · rw [if_neg ht, if_neg (Ne.symm ht)]
    by_cases hs : source = some s.serial
    · rw [if_pos hs] at hcount
      rw [if_pos hs]
      simp [hcount]
    · rw [if_neg hs] at hcount
      rw [if_neg hs]
      exact hcount

theorem count_transfer_of_ne {id n : String} (hn : n ≠ id) (source : Option Nat) (target : Nat)
    (s : Scope) : (transfer id source target s).nodeIds.count n = s.nodeIds.count n := by
  unfold transfer
  split
  · simp [Ne.symm hn]
  · split
    · exact List.count_erase_of_ne hn
    · rfl

namespace State

/-- The scopes that are complete. -/
def closedScopes (st : State) : List Scope :=
  Tree.forestValues st.finished ++ st.scopes.flatMap fun f => Tree.forestValues f.children

theorem allScopes_perm (st : State) :
    st.allScopes.Perm (st.closedScopes ++ st.scopes.map (·.value)) := by
  unfold allScopes closedScopes
  rw [List.append_assoc]
  exact (Frame.spineValues_perm st.scopes).append_left _

/-- The numbers of the open scopes differ from each other and from those of the complete ones. -/
theorem serials_split {st : State} (h : (st.allScopes.map (·.serial)).Nodup) :
    (st.scopes.map (·.value.serial)).Nodup ∧
      ∀ s ∈ st.closedScopes, ∀ f ∈ st.scopes, s.serial ≠ f.value.serial := by
  have hp := (st.allScopes_perm.map (·.serial)).nodup_iff.1 h
  rw [List.map_append, List.map_map] at hp
  obtain ⟨-, ho, hd⟩ := List.nodup_append.1 hp
  refine ⟨ho, fun s hs f hf => ?_⟩
  exact hd _ (List.mem_map_of_mem hs) _ (List.mem_map_of_mem hf)

theorem allScopes_map {st : State} {g : Scope → Scope} (hg : ∀ s ∈ st.closedScopes, g s = s) :
    allScopes { st with scopes := st.scopes.map (Frame.map g) } = st.allScopes.map g := by
  obtain ⟨hfin, hopen⟩ := List.forall_mem_append.1 hg
  have hchildren : ∀ f ∈ st.scopes, ∀ s ∈ Tree.forestValues f.children, g s = s := by
    intro f hf s hs
    exact hopen s (List.mem_flatMap.2 ⟨f, hf, hs⟩)
  unfold allScopes
  rw [Frame.spineValues_map g hchildren, List.map_append, List.map_congr_left hfin, List.map_id']

/-- What a claim does to the open scopes is a transfer, because their numbers differ. -/
theorem scopes_transfer {st : State} {id : String} {f : Frame Scope} {fs rest : List (Frame Scope)}
    (hs : st.scopes = f :: fs) (hn : (st.scopes.map (·.value.serial)).Nodup)
    (hrest : (st.owners.get? id = none ∧ rest = fs) ∨
      ∃ k, st.owners.get? id = some k ∧ k ≠ f.value.serial ∧ (∃ g ∈ fs, g.value.serial = k) ∧
        rest = fs.map (release k id)) :
    f.map (fun s => { s with nodeIds := s.nodeIds ++ [id] }) :: rest =
      st.scopes.map (Frame.map (transfer id (st.owners.get? id) f.value.serial)) := by
  rw [hs, List.map_cons] at hn
  have hne : ∀ g ∈ fs, g.value.serial ≠ f.value.serial := by
    intro g hg he
    exact (List.nodup_cons.1 hn).1 (List.mem_map.2 ⟨g, hg, he⟩)
  rw [hs, List.map_cons]
  congr 1
  · unfold Frame.map transfer
    rw [if_pos rfl]
  · rcases hrest with ⟨ho, rfl⟩ | ⟨k, ho, -, -, rfl⟩
    · have hid : ∀ g ∈ rest, g.map (transfer id (st.owners.get? id) f.value.serial) = g := by
        intro g hg
        unfold Frame.map
        rw [transfer_of_ne (hne g hg) (by rw [ho]; nofun)]
      rw [List.map_congr_left hid, List.map_id']
    · refine List.map_congr_left fun g hg => ?_
      unfold release Frame.map transfer
      rw [if_neg (hne g hg), ho]
      by_cases hk : g.value.serial = k
      · rw [if_pos hk, if_pos (by rw [hk])]
      · rw [if_neg hk, if_neg (by simpa using Ne.symm hk)]

/-- **Claims.** A claim changes nothing, or it transfers the node from its owner, which is open if
there is one, to the innermost open scope. -/
theorem allScopes_claim {st : State} (h : (st.allScopes.map (·.serial)).Nodup) (id : String) :
    st.claim id = st ∨
      ∃ f ∈ st.scopes, st.owners.get? id ≠ some f.value.serial ∧
        (st.claim id).allScopes =
          st.allScopes.map (transfer id (st.owners.get? id) f.value.serial) ∧
        (st.claim id).owners = st.owners.insert id f.value.serial ∧
        (st.claim id).serial = st.serial := by
  obtain hc | ⟨f, fs, rest, hs, hrest, hc⟩ := st.claim_cases id
  · exact .inl hc
  obtain ⟨hopen, hclosed⟩ := serials_split h
  have hf : f ∈ st.scopes := by rw [hs]; exact List.mem_cons_self
  have howner : ∀ s ∈ st.closedScopes, st.owners.get? id ≠ some s.serial := by
    intro s hsc
    rcases hrest with ⟨ho, -⟩ | ⟨k, ho, -, ⟨g, hg, rfl⟩, -⟩
    · rw [ho]; nofun
    · rw [ho]
      intro he
      exact hclosed s hsc g (by rw [hs]; exact List.mem_cons_of_mem _ hg) (Option.some.inj he).symm
  refine .inr ⟨f, hf, ?_, ?_, ?_, ?_⟩
  · rcases hrest with ⟨ho, -⟩ | ⟨k, ho, hk, -, -⟩
    · rw [ho]; nofun
    · rw [ho]; exact fun he => hk (Option.some.inj he)
  · rw [hc, scopes_transfer hs hopen hrest]
    exact allScopes_map fun s hsc => transfer_of_ne (hclosed s hsc f hf) (howner s hsc)
  · rw [hc]
  · rw [hc]

end State

/-! ## What moves keep -/

namespace SingleOwner

variable {st st' : State}

theorem nodup (h : SingleOwner st) : (st.allScopes.map (·.serial)).Nodup := by
  rw [h.serials]
  exact List.nodup_range

/-- Only the numbers and the nodes of the scopes matter. -/
theorem congr (h : SingleOwner st)
    (hscopes : st'.allScopes.map (fun s => (s.serial, s.nodeIds)) =
      st.allScopes.map fun s => (s.serial, s.nodeIds))
    (hserial : st'.serial = st.serial) (howners : st'.owners = st.owners) : SingleOwner st' where
  serials := by
    have hs := congrArg (List.map Prod.fst) hscopes
    rw [List.map_map, List.map_map] at hs
    rw [hserial]
    exact hs.trans h.serials
  owner_lt := by
    rw [howners, hserial]
    exact h.owner_lt
  count := by
    intro s hs n
    have hm : (s.serial, s.nodeIds) ∈ st'.allScopes.map fun s => (s.serial, s.nodeIds) :=
      List.mem_map.2 ⟨s, hs, rfl⟩
    rw [hscopes] at hm
    obtain ⟨s₀, hs₀, he⟩ := List.mem_map.1 hm
    obtain ⟨hserial₀, hids⟩ := Prod.mk.inj he
    rw [howners, ← hserial₀, ← hids]
    exact h.count s₀ hs₀ n

theorem init (direction : String) : SingleOwner { direction } where
  serials := rfl
  owner_lt := by
    intro n k h
    cases h
  count := by
    intro s hs
    cases hs

theorem openScope (h : SingleOwner st) (l : Source.Line) (id label : String) :
    SingleOwner (st.openScope l id label) where
  serials := by
    rw [State.allScopes_openScope, List.map_append, h.serials]
    exact List.range_succ.symm
  owner_lt := fun n k hk => Nat.lt_succ_of_lt (h.owner_lt n k hk)
  count := by
    intro s hs n
    show s.nodeIds.count n = if st.owners.get? n = some s.serial then 1 else 0
    rw [State.allScopes_openScope] at hs
    rcases List.mem_append.1 hs with hs | hs
    · exact h.count s hs n
    · obtain rfl := List.mem_singleton.1 hs
      rw [if_neg fun hk => Nat.lt_irrefl _ (h.owner_lt n _ hk)]
      rfl

/-- The one step at which a node changes hands. -/
theorem claim (h : SingleOwner st) (id : String) : SingleOwner (st.claim id) := by
  obtain hc | ⟨f, hf, hne, hscopes, howners, hserial⟩ := State.allScopes_claim h.nodup id
  · rw [hc]; exact h
  have hlt : f.value.serial < st.serial := by
    have hm : f.value.serial ∈ st.allScopes.map (·.serial) := by
      refine List.mem_map.2 ⟨f.value, st.allScopes_perm.mem_iff.2 ?_, rfl⟩
      exact List.mem_append_right _ (List.mem_map_of_mem hf)
    rw [h.serials] at hm
    exact List.mem_range.1 hm
  refine ⟨?_, ?_, ?_⟩
  · rw [hscopes, hserial, List.map_map]
    exact (List.map_congr_left fun s _ => serial_transfer id _ _ s).trans h.serials
  · intro n k hk
    rw [howners] at hk
    rw [hserial]
    by_cases hn : n = id
    · subst hn
      rw [OrderedMap.get?_insert_self] at hk
      exact Option.some.inj hk ▸ hlt
    · rw [OrderedMap.get?_insert_of_ne _ _ hn] at hk
      exact h.owner_lt n k hk
  · -- Only the lists of the old and the new owner change, and only in the node `id`.
    intro s' hs' n
    rw [hscopes] at hs'
    obtain ⟨s, hs, rfl⟩ := List.mem_map.1 hs'
    rw [howners, serial_transfer]
    by_cases hn : n = id
    · subst hn
      rw [OrderedMap.get?_insert_self, count_transfer_self (h.count s hs n) hne]
      simp
    · rw [OrderedMap.get?_insert_of_ne _ _ hn, count_transfer_of_ne hn]
      exact h.count s hs n

/-- Every move keeps the ownership. -/
theorem move (hm : Move st st') (h : SingleOwner st) : SingleOwner st' := by
  cases hm with
  | aside hg => exact h.congr (by rw [hg.allScopes]) hg.serial hg.owners
  | setDirection d =>
    refine h.congr (st.allScopes_setDirection d) ?_ ?_ <;>
      · unfold State.setDirection
        split <;> rfl
  | openScope l id label => exact h.openScope l id label
  | closeScope =>
    refine h.congr (by rw [st.allScopes_closeScope]) ?_ ?_ <;>
      · unfold State.closeScope
        split <;> rfl
  | mention id shape line =>
    unfold State.mention
    refine SingleOwner.claim ?_ id
    exact h.congr rfl rfl rfl
  | declare id label shape line =>
    obtain ⟨nodes, reports, -, hd⟩ := st.declare_eq_claim id label shape line
    rw [hd]
    refine SingleOwner.claim ?_ id
    exact h.congr rfl rfl rfl
  | join es _ => exact h.congr rfl rfl rfl

theorem of_moves {direction : String} (h : Moves { direction } st) : SingleOwner st :=
  h.keep move (init direction)

theorem mem_iff (h : SingleOwner st) {s : Scope} (hs : s ∈ st.allScopes) (n : String) :
    n ∈ s.nodeIds ↔ st.owners.get? n = some s.serial := by
  rw [← List.count_pos_iff, h.count s hs n]
  split <;> simp [*]

/-- No node is listed twice, not even by two scopes. -/
theorem nodup_nodeIds (h : SingleOwner st) : (st.allScopes.flatMap (·.nodeIds)).Nodup := by
  refine List.nodup_flatMap.2 ⟨fun s hs => ?_, ?_⟩
  · refine List.nodup_iff_count_le_one.2 fun n => ?_
    rw [h.count s hs n]
    split <;> simp
  · -- Two scopes that list one node would both be its owner.
    refine (List.pairwise_map.1 h.nodup).imp_of_mem fun {s t} hs ht hne => ?_
    intro n hns hnt
    have howner := ((h.mem_iff hs n).1 hns).symm.trans ((h.mem_iff ht n).1 hnt)
    exact hne (Option.some.inj howner)

theorem nodup_of_finished (h : SingleOwner st) (hs : st.scopes = []) :
    ((Tree.walk st.finished).flatMap (·.value.nodeIds)).Nodup := by
  have hall : st.allScopes = (Tree.walk st.finished).map Tree.value := by
    unfold State.allScopes
    rw [hs, Tree.map_value_walk, Frame.spineValues_nil, List.append_nil]
  have hn := h.nodup_nodeIds
  rwa [hall, List.flatMap_map] at hn

theorem of_reachable (h : Flowchart.Reachable st ∨ StateChart.Reachable st) : SingleOwner st := by
  rcases h with h | h
  · obtain ⟨direction, hmoves⟩ := h.moves
    exact of_moves hmoves
  · exact of_moves h.moves

end SingleOwner

/-! ## Flowcharts and state diagrams -/

open Source (Line)

/-- **Single ownership.** While a flowchart or a state diagram is read, a scope lists a node exactly
if it is the owner, and then once; the numbers by which owners are known tell all scopes apart.  In
the graph that is returned no node is listed twice. -/
theorem single_ownership :
    (∀ st : State, Flowchart.Reachable st ∨ StateChart.Reachable st →
      (st.allScopes.map (·.serial)).Nodup ∧
        ∀ s ∈ st.allScopes, ∀ n,
          (n ∈ s.nodeIds ↔ st.owners.get? n = some s.serial) ∧
            (n ∈ s.nodeIds → s.nodeIds.count n = 1)) ∧
      (∀ (ls : List Line) (direction : String) (p : Parsed Graph),
        Flowchart.parse ls direction = .ok p ∨ StateChart.parse ls = .ok p →
          (p.diagram.allSubgraphs.flatMap (·.value.nodeIds)).Nodup) := by
  refine ⟨?_, ?_⟩
  · intro st h
    have ho := SingleOwner.of_reachable h
    refine ⟨ho.nodup, fun s hs n => ⟨ho.mem_iff hs n, fun hn => ?_⟩⟩
    rw [ho.count s hs n, if_pos ((ho.mem_iff hs n).1 hn)]
  · rintro ls direction p (h | h)
    · obtain ⟨st, hst, hs, -, -, hsub⟩ := Flowchart.exists_reachable_of_parse h
      unfold Graph.allSubgraphs
      rw [hsub]
      exact (SingleOwner.of_reachable (.inl hst)).nodup_of_finished hs
    · obtain ⟨st, hst, hs, -, -, hsub⟩ := StateChart.exists_reachable_of_parse h
      unfold Graph.allSubgraphs
      rw [hsub]
      exact (SingleOwner.of_reachable (.inr hst)).nodup_of_finished hs

/-- A flowchart in which the inner subgraph takes a node over from the outer one. -/
def takenOver : List Line :=
  [⟨1, "graph TD", 0, 1⟩, ⟨2, "subgraph outer", 0, 1⟩, ⟨3, "x --> y", 0, 1⟩,
   ⟨4, "subgraph inner", 0, 1⟩, ⟨5, "x", 0, 1⟩, ⟨6, "end", 0, 1⟩, ⟨7, "x", 0, 1⟩]

theorem single_ownership_takenOver :
    (∃ p, Flowchart.parse takenOver "TD" = .ok p ∧
      p.diagram.allSubgraphs.map (·.value.nodeIds) = [["y"], ["x"]] ∧
      (p.diagram.allSubgraphs.flatMap (·.value.nodeIds)).Nodup) ∧
    ((Flowchart.start takenOver "TD").allScopes.map (·.serial)).Nodup := by
  have hrun : ((Flowchart.parse takenOver "TD").toOption.map
      fun p => p.diagram.allSubgraphs.map (·.value.nodeIds)) = some [["y"], ["x"]] := by
    decide +kernel
  obtain ⟨p, hp, hids⟩ := exists_ok_of_toOption hrun
  exact ⟨⟨p, hp, hids, single_ownership.2 takenOver "TD" p (.inl hp)⟩,
    (single_ownership.1 _ (.inl (.start takenOver "TD"))).1⟩

end DiagramText.ScopeGraph
