import DiagramText.Proofs.OrderedMap
import DiagramText.Proofs.Tree
import DiagramText.ScopeGraph.Build
import Mathlib.Logic.Relation

/-!
# The moves by which a graph is built

Flowcharts and state diagrams change the graph being built by a few moves.  Whatever every move
keeps, every run keeps, so an invariant of both families is proved once, by cases on `Move`.

1. `State.allScopes`, the scopes in the order in which they were opened: opening a scope appends to
   the listing, and closing one keeps it.
2. What a mention and a declaration leave alone, and that they register the node.
3. `Move` and `Moves`.  An edge may be added only between registered nodes.
4. Style directives and the closing of a scope at the end are moves; in the end no scope is open.
-/

namespace DiagramText.ScopeGraph

open Source (Line)

namespace State

/-! ## All scopes -/

/-- All scopes, open or complete, in the order in which they were opened. -/
def allScopes (st : State) : List Scope :=
  Tree.forestValues st.finished ++ Frame.spineValues st.scopes

theorem allScopes_openScope (st : State) (l : Line) (id label : String) :
    (st.openScope l id label).allScopes =
      st.allScopes ++
        [{ serial := st.serial, id, label, parent := st.scopes.head?.map (·.value.id),
           line := l.number }] := by
  unfold allScopes
  show Tree.forestValues st.finished ++ Frame.spineValues (_ :: st.scopes) = _
  rw [Frame.spineValues_cons, List.append_assoc]
  rfl

theorem allScopes_closeScope (st : State) : st.closeScope.allScopes = st.allScopes := by
  unfold closeScope
  split
  · rfl
  · rename_i f h
    unfold allScopes
    rw [h, Tree.forestValues_append, Frame.forestValues_close, Frame.spineValues_cons]
    simp
  · rename_i f g fs h
    unfold allScopes
    rw [h, Frame.spineValues_adopt_close]

/-- Setting a direction changes neither the numbers of the scopes nor their nodes. -/
theorem allScopes_setDirection (st : State) (d : Direction) :
    (st.setDirection d).allScopes.map (fun s => (s.serial, s.nodeIds)) =
      st.allScopes.map fun s => (s.serial, s.nodeIds) := by
  unfold setDirection
  split
  · rfl
  · rename_i f fs h
    unfold allScopes
    rw [h, Frame.spineValues_cons, Frame.spineValues_cons]
    simp [Frame.values, Frame.map]

/-! ## Mentions and declarations -/

/-- A claim changes nothing, or the innermost open scope takes the node: it had no owner before, or
its owner is an open scope further out, which releases it. -/
theorem claim_cases (st : State) (id : String) :
    st.claim id = st ∨
      ∃ f fs rest, st.scopes = f :: fs ∧
        ((st.owners.get? id = none ∧ rest = fs) ∨
          ∃ k, st.owners.get? id = some k ∧ k ≠ f.value.serial ∧ (∃ g ∈ fs, g.value.serial = k) ∧
            rest = fs.map (release k id)) ∧
        st.claim id =
          { st with
            scopes := f.map (fun s => { s with nodeIds := s.nodeIds ++ [id] }) :: rest
            owners := st.owners.insert id f.value.serial } := by
  unfold claim
  split
  · exact .inl rfl
  · rename_i f fs hs
    dsimp only
    split
    · rename_i ho
      exact .inr ⟨f, fs, fs, hs, .inl ⟨ho, rfl⟩, rfl⟩
    · rename_i k ho
      by_cases hk : k = f.value.serial
      · rw [if_pos hk]
        exact .inl rfl
      · rw [if_neg hk]
        by_cases hany : fs.any fun g => g.value.serial == k
        · rw [if_pos hany]
          have hopen : ∃ g ∈ fs, g.value.serial = k := by simpa using hany
          exact .inr ⟨f, fs, _, hs, .inr ⟨k, ho, hk, hopen, rfl⟩, rfl⟩
        · rw [if_neg hany]
          exact .inl rfl

@[simp]
theorem nodes_claim (st : State) (id : String) : (st.claim id).nodes = st.nodes := by
  obtain h | ⟨f, fs, rest, -, -, h⟩ := st.claim_cases id <;> rw [h]

/-- A declaration changes the nodes, and possibly the reports, and claims the node. -/
theorem declare_eq_claim (st : State) (id label : String) (shape : Shape) (line : Int) :
    ∃ nodes reports, (∀ n, n ∈ nodes.keys ↔ n ∈ st.nodes.keys ∨ n = id) ∧
      st.declare id label shape line = claim { st with nodes, reports } id := by
  unfold declare
  cases h : st.nodes.get? id with
  | none =>
    exact ⟨_, st.reports, fun n => OrderedMap.mem_keys_insert, rfl⟩
  | some n =>
    have hid : id ∈ st.nodes.keys := OrderedMap.mem_keys_iff.2 ⟨n, h⟩
    have hkeys : ∀ m, m ∈ st.nodes.keys ↔ m ∈ st.nodes.keys ∨ m = id := fun m =>
      ⟨Or.inl, fun hm => hm.elim (fun hm => hm) fun hm => hm ▸ hid⟩
    dsimp only
    split
    · refine ⟨st.nodes.modify id _, st.reports, fun m => ?_, rfl⟩
      rw [OrderedMap.keys_modify]
      exact hkeys m
    · split
      · exact ⟨st.nodes, st.reports, hkeys, rfl⟩
      · exact ⟨st.nodes, _, hkeys, rfl⟩

theorem mem_keys_mention {st : State} {id n : String} {shape : Shape} {line : Int} :
    n ∈ (st.mention id shape line).nodes.keys ↔ n ∈ st.nodes.keys ∨ n = id := by
  unfold mention
  rw [nodes_claim]
  exact Registry.mem_keys_ensure

theorem mem_keys_declare {st : State} {id label n : String} {shape : Shape} {line : Int} :
    n ∈ (st.declare id label shape line).nodes.keys ↔ n ∈ st.nodes.keys ∨ n = id := by
  obtain ⟨nodes, reports, hkeys, h⟩ := st.declare_eq_claim id label shape line
  rw [h, nodes_claim]
  exact hkeys n

end State

/-! ## Moves -/

/-- Two states that differ at most in the direction of the graph, styles, counters and reports. -/
structure SameGraph (st st' : State) : Prop where
  nodes : st'.nodes = st.nodes
  edges : st'.edges = st.edges
  finished : st'.finished = st.finished
  scopes : st'.scopes = st.scopes
  serial : st'.serial = st.serial
  owners : st'.owners = st.owners

namespace SameGraph

theorem refl (st : State) : SameGraph st st := ⟨rfl, rfl, rfl, rfl, rfl, rfl⟩

theorem trans {st st' st'' : State} (h : SameGraph st st') (h' : SameGraph st' st'') :
    SameGraph st st'' where
  nodes := h'.nodes.trans h.nodes
  edges := h'.edges.trans h.edges
  finished := h'.finished.trans h.finished
  scopes := h'.scopes.trans h.scopes
  serial := h'.serial.trans h.serial
  owners := h'.owners.trans h.owners

theorem allScopes {st st' : State} (h : SameGraph st st') : st'.allScopes = st.allScopes := by
  unfold State.allScopes
  rw [h.finished, h.scopes]

theorem foldl {α : Type} {f : State → α → State} (hf : ∀ st a, SameGraph st (f st a))
    (as : List α) (st : State) : SameGraph st (as.foldl f st) := by
  refine List.foldlRecOn as f (refl st) ?_
  intro st' h a _
  exact h.trans (hf st' a)

end SameGraph

/-- One change of a graph being built. -/
inductive Move : State → State → Prop
  | aside {st st' : State} (h : SameGraph st st') : Move st st'
  | setDirection (st : State) (d : Direction) : Move st (st.setDirection d)
  | openScope (st : State) (l : Line) (id label : String) : Move st (st.openScope l id label)
  | closeScope (st : State) : Move st st.closeScope
  | mention (st : State) (id : String) (shape : Shape) (line : Int) :
      Move st (st.mention id shape line)
  | declare (st : State) (id label : String) (shape : Shape) (line : Int) :
      Move st (st.declare id label shape line)
  | join (st : State) (es : List Edge)
      (h : ∀ e ∈ es, e.source ∈ st.nodes.keys ∧ e.target ∈ st.nodes.keys) :
      Move st { st with edges := st.edges ++ es }

/-- Any number of changes. -/
abbrev Moves : State → State → Prop := Relation.ReflTransGen Move

theorem SameGraph.moves {st st' : State} (h : SameGraph st st') : Moves st st' := .single (.aside h)

/-- What every move keeps, a run keeps. -/
theorem Moves.keep {inv : State → Prop} (step : ∀ {st st'}, Move st st' → inv st → inv st')
    {st st' : State} (h : Moves st st') (hst : inv st) : inv st' := by
  induction h with
  | refl => exact hst
  | tail _ hm ih => exact step hm ih

theorem Move.keys_subset {st st' : State} (h : Move st st') :
    ∀ n ∈ st.nodes.keys, n ∈ st'.nodes.keys := by
  intro n hn
  cases h with
  | aside h => rwa [h.nodes]
  | setDirection d => unfold State.setDirection; split <;> exact hn
  | openScope => exact hn
  | closeScope => unfold State.closeScope; split <;> exact hn
  | mention => exact State.mem_keys_mention.2 (.inl hn)
  | declare => exact State.mem_keys_declare.2 (.inl hn)
  | join => exact hn

/-- A registered node stays registered. -/
theorem Moves.keys_subset {st st' : State} (h : Moves st st') :
    ∀ n ∈ st.nodes.keys, n ∈ st'.nodes.keys := by
  intro n
  exact h.keep fun hm hn => hm.keys_subset n hn

/-! ## Directives and the end -/

namespace State

theorem sameGraph_noteLink (st : State) (l : Line) (t : LinkTarget) :
    SameGraph st (st.noteLink l t) := by
  cases t with
  | default => exact .refl st
  | index n =>
    show SameGraph st (if st.linkLines.contains n then st else { st with linkLines := _ })
    by_cases h : st.linkLines.contains n
    · rw [if_pos h]
      exact .refl st
    · rw [if_neg h]
      exact ⟨rfl, rfl, rfl, rfl, rfl, rfl⟩

/-- A style directive changes no node, no edge and no scope. -/
theorem sameGraph_applyDirective (st : State) (l : Line) (d : Directive) :
    SameGraph st (st.applyDirective l d) := by
  cases d with
  | classDef names properties =>
    have hreport : SameGraph st
        (if properties.entries.isEmpty then st.report l .emptyClassDef else st) := by
      split
      · exact ⟨rfl, rfl, rfl, rfl, rfl, rfl⟩
      · exact .refl st
    refine hreport.trans (SameGraph.foldl ?_ names _)
    intro st name
    exact ⟨rfl, rfl, rfl, rfl, rfl, rfl⟩
  | assign ids className =>
    refine SameGraph.foldl ?_ ids st
    intro st id
    exact ⟨rfl, rfl, rfl, rfl, rfl, rfl⟩
  | style ids properties =>
    refine SameGraph.foldl ?_ ids st
    intro st id
    exact ⟨rfl, rfl, rfl, rfl, rfl, rfl⟩
  | linkStyle targets properties =>
    refine SameGraph.foldl ?_ targets st
    intro st t
    refine SameGraph.trans ?_ (sameGraph_noteLink _ l t)
    exact ⟨rfl, rfl, rfl, rfl, rfl, rfl⟩
  | malformed => exact ⟨rfl, rfl, rfl, rfl, rfl, rfl⟩

theorem moves_closeOrReport (st : State) (family : Family) (l : Line) :
    Moves st (st.closeOrReport family l) := by
  unfold closeOrReport
  split
  · exact SameGraph.moves ⟨rfl, rfl, rfl, rfl, rfl, rfl⟩
  · exact .single (.closeScope st)

theorem moves_closeUnclosed (family : Family) (st : State) (f : Frame Scope) :
    Moves st (closeUnclosed family st f) := by
  refine Relation.ReflTransGen.tail (SameGraph.moves ?_) (.closeScope _)
  exact ⟨rfl, rfl, rfl, rfl, rfl, rfl⟩

theorem length_scopes_closeScope (st : State) :
    st.closeScope.scopes.length = st.scopes.length - 1 := by
  unfold closeScope
  match h : st.scopes with
  | [] => simp [h]
  | [f] => rfl
  | f :: g :: fs => simp

/-- After the end no scope is open. -/
theorem scopes_closeAll (st : State) (family : Family) : (st.closeAll family).scopes = [] := by
  -- The list that is folded over is the spine at the start, so it only counts the open scopes.
  have key : ∀ (fs : List (Frame Scope)) (st : State), st.scopes.length = fs.length →
      (fs.foldl (closeUnclosed family) st).scopes = [] := by
    intro fs
    induction fs with
    | nil => intro st h; exact List.length_eq_zero_iff.1 h
    | cons f fs ih =>
      intro st h
      refine ih _ ?_
      show (State.closeScope _).scopes.length = _
      rw [length_scopes_closeScope]
      show st.scopes.length - 1 = _
      rw [h, List.length_cons, Nat.add_sub_cancel]
  exact key st.scopes st rfl

end State

end DiagramText.ScopeGraph
