import DiagramText.Proofs.ScopeGraph.Claims
import DiagramText.Proofs.ScopeGraph.Nesting
import Mathlib.Data.List.Chain

/-!
# Ownership only moves deeper

1. `Course`, a run as the states behind its lines, and `Course.Lawful`, what holds line by line.
2. The history of the owner of a node follows from these laws by induction on the lines.
3. Reading statements one after the other is such a run (`Course.lawful`).
4. A scope that was opened inside another one stands in its subtree (`NestsAs.exists_outer`), so the
   history can be seen in the forest.
5. `ownership_moves_deeper`, for both families.
-/

namespace DiagramText

open Source (Line)

/-! ## Runs as courses -/

namespace ScopeGraph

/-- A run: the state behind its first lines, and the nodes that the next line names. -/
structure Course where
  state : Nat → State
  names : Nat → List String

/-- One scope was opened directly inside another one. -/
def StandsIn (around : List (Option Nat)) (inner outer : Nat) : Prop :=
  around[inner]? = some (some outer)

namespace Course

/-- The run that reads statements one after the other. -/
def ofStatements {σ : Type} (step : State → Line × σ → State) (names : State → σ → List String)
    (start : State) (xs : List (Line × σ)) : Course where
  state i := (xs.take i).foldl step start
  names i := (xs[i]?).elim [] fun x => names ((xs.take i).foldl step start) x.2

/-- The owner of a node behind the first `i` lines. -/
def owner (c : Course) (i : Nat) (id : String) : Option Nat := (c.state i).owners.get? id

/-- The scopes that are open behind the first `i` lines, innermost first. -/
def opened (c : Course) (i : Nat) : List Nat := (c.state i).openSerials

/-- The line behind the first `i` ones names a node, and `k` is the innermost open scope there. -/
def NamedIn (c : Course) (i : Nat) (id : String) (k : Nat) : Prop :=
  id ∈ c.names i ∧ (c.opened i).head? = some k

/-- The same, and no line above names the node inside a scope. -/
structure FirstNamedIn (c : Course) (i : Nat) (id : String) (k : Nat) : Prop where
  named : c.NamedIn i id k
  first : ∀ j < i, ∀ k', ¬ c.NamedIn j id k'

/-- What holds along a run, line by line. -/
structure Lawful (c : Course) (around : List (Option Nat)) : Prop where
  unowned : ∀ id, c.owner 0 id = none
  settles : ∀ i, SettlesOwners (c.state i) (c.names i) (c.state (i + 1))
  /-- The open scopes have been numbered. -/
  numbered : ∀ i, ∀ k ∈ c.opened i, k < (c.state i).serial
  counts : ∀ i, (c.state i).serial ≤ (c.state (i + 1)).serial
  /-- A scope that is open was open before or is new. -/
  opens : ∀ i, ∀ k ∈ c.opened (i + 1), k ∈ c.opened i ∨ (c.state i).serial ≤ k
  nested : ∀ i, (c.opened i).IsChain (StandsIn around)

namespace Lawful

variable {c : Course} {around : List (Option Nat)} {i j k : Nat} {id : String}

/-- What a line does to the owner of a node. -/
theorem owner_succ (h : c.Lawful around) (i : Nat) (id : String) :
    c.owner (i + 1) id =
      if id ∈ c.names i then settle (c.opened i) (c.owner i id) else c.owner i id :=
  h.settles i id

theorem owner_lt (h : c.Lawful around) (hk : c.owner i id = some k) : k < (c.state i).serial := by
  induction i generalizing k with
  | zero =>
    rw [h.unowned] at hk
    cases hk
  | succ i ih =>
    refine Nat.lt_of_lt_of_le ?_ (h.counts i)
    rw [h.owner_succ] at hk
    split at hk
    · cases ho : c.owner i id with
      | none =>
        rw [ho, settle_none] at hk
        exact h.numbered i k (List.mem_of_head? hk)
      | some owner =>
        rw [ho] at hk
        by_cases hmem : owner ∈ c.opened i
        · rw [settle_of_mem hmem] at hk
          exact h.numbered i k (List.mem_of_head? hk)
        · rw [settle_of_not_mem hmem, ← ho] at hk
          exact ih hk
    · exact ih hk

/-- A node that no line has named inside a scope has no owner. -/
theorem owner_eq_none (h : c.Lawful around) (hnot : ∀ j < i, ∀ k, ¬ c.NamedIn j id k) :
    c.owner i id = none := by
  induction i with
  | zero => exact h.unowned id
  | succ i ih =>
    have hi : c.owner i id = none := ih fun j hj => hnot j (Nat.lt_succ_of_lt hj)
    rw [h.owner_succ, hi]
    split
    · rename_i hnames
      rw [settle_none]
      cases hhead : (c.opened i).head? with
      | none => rfl
      | some k => exact absurd ⟨hnames, hhead⟩ (hnot i (Nat.lt_succ_self i) k)
    · rfl

/-- The owner changes only where a line names the node while the owner is open, and then the
innermost open scope takes the node. -/
theorem owner_succ_of_ne (h : c.Lawful around) (hk : c.owner i id = some k)
    (hne : c.owner (i + 1) id ≠ some k) :
    id ∈ c.names i ∧ k ∈ c.opened i ∧ c.owner (i + 1) id = (c.opened i).head? := by
  rw [h.owner_succ, hk] at hne ⊢
  by_cases hnames : id ∈ c.names i
  · rw [if_pos hnames] at hne ⊢
    by_cases hmem : k ∈ c.opened i
    · exact ⟨hnames, hmem, settle_of_mem hmem⟩
    · exact absurd (settle_of_not_mem hmem) hne
  · rw [if_neg hnames] at hne
    exact absurd rfl hne

/-- The owner moves to the innermost open scope, which stands further in than the owner before. -/
theorem owner_moves (h : c.Lawful around) (hk : c.owner i id = some k)
    (hne : c.owner (i + 1) id ≠ some k) :
    ∃ k' outer, c.NamedIn i id k' ∧ c.opened i = k' :: outer ∧ k ∈ outer ∧
      c.owner (i + 1) id = some k' := by
  obtain ⟨hnames, hmem, hnext⟩ := h.owner_succ_of_ne hk hne
  obtain ⟨k', outer, hopened⟩ := List.exists_cons_of_ne_nil (List.ne_nil_of_mem hmem)
  have hhead : (c.opened i).head? = some k' := by
    rw [hopened]
    rfl
  have hne' : k ≠ k' := by
    rintro rfl
    exact hne (hnext.trans hhead)
  rw [hopened] at hmem
  exact ⟨k', outer, ⟨hnames, hhead⟩, hopened, List.mem_of_ne_of_mem hne' hmem, hnext.trans hhead⟩

/-- An owner that is closed stays closed, and the owner. -/
theorem owner_of_closed (h : c.Lawful around) (hk : c.owner i id = some k)
    (hclosed : k ∉ c.opened i) (hij : i ≤ j) : c.owner j id = some k := by
  have key : c.owner j id = some k ∧ k ∉ c.opened j := by
    induction j, hij using Nat.le_induction with
    | base => exact ⟨hk, hclosed⟩
    | succ j _ ih =>
      obtain ⟨howner, hnot⟩ := ih
      refine ⟨?_, fun hopen => ?_⟩
      · by_contra hne
        exact hnot (h.owner_succ_of_ne howner hne).2.1
      · -- A scope that is opened only now gets a higher number than any owner.
        rcases h.opens j k hopen with hopen | hnew
        · exact hnot hopen
        · exact Nat.not_le_of_lt (h.owner_lt howner) hnew
  exact key.1

/-- The open scopes stand inside each other. -/
theorem standsIn_of_mem (h : c.Lawful around) {k' : Nat} (hhead : (c.opened i).head? = some k')
    (hk : k ∈ c.opened i) : Relation.ReflTransGen (StandsIn around) k' k := by
  have hchain : (c.opened i).IsChain (Relation.ReflTransGen (StandsIn around)) :=
    (h.nested i).imp fun _ _ => .single
  obtain ⟨ks, hks⟩ := List.head?_eq_some_iff.1 hhead
  rw [hks] at hk hchain
  rcases List.mem_cons.1 hk with rfl | hk
  · exact .refl
  · exact (List.pairwise_cons.1 hchain.pairwise).1 k hk

/-- Behind the first line that names it inside a scope, a node is owned by a scope in the depths of
that one, which was the innermost one where the node was named. -/
theorem exists_owner (h : c.Lawful around) (hfirst : c.FirstNamedIn i id k) (hij : i < j) :
    ∃ k', c.owner j id = some k' ∧ Relation.ReflTransGen (StandsIn around) k' k ∧
      ∃ m, c.NamedIn m id k' := by
  induction j, hij using Nat.le_induction with
  | base =>
    refine ⟨k, ?_, .refl, i, hfirst.named⟩
    rw [Nat.succ_eq_add_one, h.owner_succ, if_pos hfirst.named.1, h.owner_eq_none hfirst.first,
      settle_none]
    exact hfirst.named.2
  | succ j _ ih =>
    obtain ⟨k', howner, hdeep, hnamed⟩ := ih
    by_cases hsame : c.owner (j + 1) id = some k'
    · exact ⟨k', hsame, hdeep, hnamed⟩
    · obtain ⟨k'', outer, hnames, hopened, hmem, hnext⟩ := h.owner_moves howner hsame
      have hopen : k' ∈ c.opened j := by
        rw [hopened]
        exact List.mem_cons_of_mem _ hmem
      exact ⟨k'', hnext, (h.standsIn_of_mem hnames.2 hopen).trans hdeep, j, hnames⟩

end Lawful

end Course

/-! ## The runs of the readers -/

theorem Follows.lt_of_mem_openSerials {family : Family} {bs : List Bracket} {st : State}
    (h : Follows family bs st) {k : Nat} (hk : k ∈ st.openSerials) : k < st.serial := by
  obtain ⟨f, hf, rfl⟩ := List.mem_map.1 hk
  have hmem : f.value ∈ st.allScopes :=
    st.allScopes_perm.mem_iff.2 (List.mem_append_right _ (List.mem_map_of_mem hf))
  have hserial : f.value.serial ∈ st.allScopes.map (·.serial) := List.mem_map_of_mem hmem
  rw [h.serials] at hserial
  exact List.mem_range.1 hserial

/-- Further brackets add to the nesting of those before. -/
theorem around_prefix {bs bs' : List Bracket} (h : bs <+: bs') :
    (outline bs).around <+: (outline bs').around := by
  obtain ⟨more, rfl⟩ := h
  induction more using List.reverseRecOn with
  | nil => rw [List.append_nil]
  | append_singleton more b ih =>
    rw [← List.append_assoc, outline_concat]
    cases b with
    | opening o => exact ih.trans (List.prefix_append _ _)
    | closing => exact ih

theorem Chained.isChain {around : List (Option Nat)} {fs : List (Frame Scope)}
    (h : Chained (Inside around) fs) :
    (fs.map (·.value.serial)).IsChain (StandsIn around) := by
  induction fs with
  | nil => exact .nil
  | cons f fs ih =>
    obtain ⟨hinside, -, hfs⟩ := h
    cases fs with
    | nil => exact .singleton _
    | cons g fs => exact .cons_cons hinside.2 (ih hfs)

namespace Turn

variable {family : Family} {l : Line} {b : Option Bracket} {st st' : State}

theorem serial_le (h : Turn family l b st st') : st.serial ≤ st'.serial := by
  cases h with
  | aside h => exact Nat.le_of_eq h.serial.symm
  | opening label h _ =>
    show st.serial ≤ _ + 1
    rw [h.serial]
    exact Nat.le_succ _
  | closing =>
    unfold State.closeOrReport
    split
    · exact Nat.le_refl _
    · exact Nat.le_of_eq st.serial_closeScope.symm

theorem mem_openSerials (h : Turn family l b st st') {k : Nat} (hk : k ∈ st'.openSerials) :
    k ∈ st.openSerials ∨ st.serial ≤ k := by
  cases h with
  | aside h => exact .inl (h.openSerials ▸ hk)
  | opening label h _ =>
    rcases List.mem_cons.1 hk with rfl | hk
    · exact .inr (Nat.le_of_eq h.serial.symm)
    · exact .inl (h.openSerials ▸ hk)
  | closing =>
    refine .inl ?_
    unfold State.closeOrReport at hk
    split at hk
    · exact hk
    · unfold State.openSerials at hk
      rw [State.map_scopes_closeScope] at hk
      exact List.mem_of_mem_tail hk

end Turn

/-- Reading statements one after the other is lawful, if each of them is a turn for the scopes and
decides on the nodes that it names. -/
theorem Course.lawful {σ : Type} {family : Family} {step : State → Line × σ → State}
    {bracket? : Line → σ → Option Bracket} {names : State → σ → List String}
    (hturn : ∀ st l s, Turn family l (bracket? l s) st (step st (l, s)))
    (hsettles : ∀ st l s, SettlesOwners st (names st s) (step st (l, s)))
    {start : State} (hstart : Follows family [] start) (howners : start.owners = {})
    (xs : List (Line × σ)) :
    (Course.ofStatements step names start xs).Lawful
      (outline (xs.filterMap fun x => bracket? x.1 x.2)).around := by
  have hfollows (i : Nat) := hstart.foldl hturn (xs.take i)
  -- Behind the last line nothing happens any more.
  have hnext (i : Nat) : xs[i]? = none ∧
        (xs.take (i + 1)).foldl step start = (xs.take i).foldl step start ∨
      ∃ l s, xs[i]? = some (l, s) ∧
        (xs.take (i + 1)).foldl step start = step ((xs.take i).foldl step start) (l, s) := by
    rw [List.take_add_one, List.foldl_append]
    cases xs[i]? with
    | none => exact .inl ⟨rfl, rfl⟩
    | some x => exact .inr ⟨x.1, x.2, rfl, rfl⟩
  refine ⟨fun id => ?_, fun i => ?_, fun i k hk => ?_, fun i => ?_, fun i k hk => ?_, fun i => ?_⟩
  · show start.owners.get? id = none
    rw [howners]
    rfl
  · show SettlesOwners _ ((xs[i]?).elim [] _) _
    rcases hnext i with ⟨hnone, hsame⟩ | ⟨l, s, hsome, hstep⟩
    · rw [hnone]
      exact settlesOwners_nil (congrArg State.owners hsame)
    · rw [hsome]
      show SettlesOwners _ _ ((xs.take (i + 1)).foldl step start)
      rw [hstep]
      exact hsettles _ l s
  · exact (hfollows i).lt_of_mem_openSerials hk
  · show ((xs.take i).foldl step start).serial ≤ ((xs.take (i + 1)).foldl step start).serial
    rcases hnext i with ⟨-, hsame⟩ | ⟨l, s, -, hstep⟩
    · rw [hsame]
    · rw [hstep]
      exact (hturn _ l s).serial_le
  · change k ∈ ((xs.take (i + 1)).foldl step start).openSerials at hk
    rcases hnext i with ⟨-, hsame⟩ | ⟨l, s, -, hstep⟩
    · rw [hsame] at hk
      exact .inl hk
    · rw [hstep] at hk
      exact (hturn _ l s).mem_openSerials hk
  · have hprefix : [] ++ (xs.take i).filterMap (fun x => bracket? x.1 x.2) <+:
        xs.filterMap fun x => bracket? x.1 x.2 := (List.take_prefix i xs).filterMap _
    obtain ⟨more, hmore⟩ := around_prefix hprefix
    rw [← hmore]
    exact ((hfollows i).placed.append more).spine.isChain

/-! ## The forest -/

/-- A subgraph whose scope was opened inside another one stands in the subtree of that one. -/
theorem NestsAs.exists_outer {family : Family} {bs : List Bracket} {p : Parsed Graph}
    (h : NestsAs family bs p) {u : Subgraph} (hu : u ∈ p.diagram.allSubgraphs) {k : Nat}
    (hk : Relation.ReflTransGen (StandsIn (outline bs).around) u.value.serial k) :
    ∃ t ∈ p.diagram.allSubgraphs, t.value.serial = k ∧ u ∈ t.subtrees := by
  induction hk with
  | refl => exact ⟨u, hu, rfl, u.mem_subtrees_self⟩
  | @tail _ k _ hout ih =>
    obtain ⟨c, hc, rfl, huc⟩ := ih
    unfold StandsIn at hout
    rcases Tree.mem_or_exists_parent_of_mem_walk hc with hroot | ⟨t, ht, hct⟩
    · rw [(h.top c hroot).2] at hout
      cases hout
    · rw [(h.inner t ht c hct).2] at hout
      exact ⟨t, ht, Option.some.inj (Option.some.inj hout),
        Tree.mem_subtrees_of_mem_children hct huc⟩

/-- The history of the owners of nodes: where a node gets its first owner, when the owner changes,
when it cannot change any more, and what the graph shows in the end. -/
structure Course.Deepens (c : Course) (g : Graph) : Prop where
  /-- The first owner is the innermost open scope. -/
  first : ∀ i id k, c.FirstNamedIn i id k → c.owner i id = none ∧ c.owner (i + 1) id = some k
  /-- A later owner is the innermost open scope, which stands inside the owner before. -/
  later : ∀ i id k, c.owner i id = some k → c.owner (i + 1) id ≠ some k →
    ∃ k' outer, c.NamedIn i id k' ∧ c.opened i = k' :: outer ∧ k ∈ outer ∧
      c.owner (i + 1) id = some k'
  /-- A closed owner is the last one. -/
  closed : ∀ i j id k, c.owner i id = some k → k ∉ c.opened i → i ≤ j → c.owner j id = some k
  /-- In the end just the last owner lists the node.  It is a subgraph in the subtree of the first
  one, and the node has been named where it was the innermost one. -/
  settled : ∀ i id k, c.FirstNamedIn i id k →
    ∃ t ∈ g.allSubgraphs, t.value.serial = k ∧ ∃ u ∈ t.subtrees,
      id ∈ u.value.nodeIds ∧
      (∀ v ∈ g.allSubgraphs, id ∈ v.value.nodeIds → v.value.serial = u.value.serial) ∧
      (∃ n, ∀ j, n ≤ j → c.owner j id = some u.value.serial) ∧
      ∃ j, c.NamedIn j id u.value.serial

theorem Course.Lawful.deepens {c : Course} {family : Family} {bs : List Bracket} {st : State}
    (h : c.Lawful (outline bs).around) (n : Nat)
    (hend : ∀ j, n ≤ j → (c.state j).owners = st.owners)
    (hnests : NestsAs family bs (st.finish family)) (hsingle : SingleOwner (st.closeAll family)) :
    c.Deepens (st.finish family).diagram := by
  refine ⟨fun i id k hfirst => ?_, fun i id k hk hne => h.owner_moves hk hne,
    fun i j id k hk hclosed hij => h.owner_of_closed hk hclosed hij, fun i id k hfirst => ?_⟩
  · have hnone := h.owner_eq_none hfirst.first
    refine ⟨hnone, ?_⟩
    rw [h.owner_succ, if_pos hfirst.named.1, hnone, settle_none]
    exact hfirst.named.2
  · -- Behind the last line the owner is the one that the graph shows.
    obtain ⟨k', howner, hdeep, hnamed⟩ :=
      h.exists_owner hfirst (Nat.lt_of_lt_of_le (Nat.lt_succ_self i) (Nat.le_max_left (i + 1) n))
    have hfinal : st.owners.get? id = some k' := by
      rw [← hend _ (Nat.le_max_right (i + 1) n)]
      exact howner
    have hclosed : (st.closeAll family).owners.get? id = some k' := by
      rw [State.owners_closeAll]
      exact hfinal
    have hvalues := values_allSubgraphs_finish st family
    have hlists {v : Subgraph} (hv : v ∈ (st.finish family).diagram.allSubgraphs) :
        id ∈ v.value.nodeIds ↔ some k' = some v.value.serial := by
      rw [hsingle.mem_iff (hvalues ▸ List.mem_map_of_mem hv), hclosed]
    obtain ⟨u, hu, rfl⟩ : ∃ u ∈ (st.finish family).diagram.allSubgraphs, u.value.serial = k' := by
      have hmem : k' ∈ (st.closeAll family).allScopes.map (·.serial) := by
        rw [hsingle.serials]
        exact List.mem_range.2 (hsingle.owner_lt id k' hclosed)
      rw [← hvalues, List.map_map] at hmem
      exact List.mem_map.1 hmem
    obtain ⟨t, ht, hserial, hsub⟩ := hnests.exists_outer hu hdeep
    refine ⟨t, ht, hserial, u, hsub, (hlists hu).2 rfl, fun v hv hid => ?_, ⟨n, fun j hj => ?_⟩,
      hnamed⟩
    · exact (Option.some.inj ((hlists hv).1 hid)).symm
    · show (c.state j).owners.get? id = _
      rw [hend j hj]
      exact hfinal

end ScopeGraph

open ScopeGraph (Course Follows)

/-! ## Flowcharts and state diagrams -/

namespace Flowchart

/-- The run that reads the statements `xs` below the header of `ls`. -/
def course (ls : List Line) (direction : String) (xs : List (Line × Statement)) : Course :=
  .ofStatements step (fun _ s => s.names) (start ls direction) xs

theorem deepens_of_parse {ls : List Line} {direction : String} {p : Parsed ScopeGraph.Graph}
    (h : parse ls direction = .ok p) :
    ∃ xs, statements ls.tail = .ok xs ∧ (course ls direction xs).Deepens p.diagram := by
  have hnests := ScopeGraph.nestsAs_of_flowchart h
  obtain ⟨xs, hx, h⟩ := bind_eq_ok_iff.1 h
  cases h
  have hstart : Follows .flowchart [] (start ls direction) :=
    (Follows.init direction).sameScopes (sameScopes_start ls direction)
  have hlawful : (course ls direction xs).Lawful _ :=
    Course.lawful turn_step settlesOwners_step hstart (sameGraph_start ls direction).owners xs
  have hbrackets : xs.filterMap (fun x => x.2.bracket? x.1) = ScopeGraph.flowchartBrackets ls := by
    refine ScopeGraph.filterMap_of_readLines ?_ hx
    intro l s hs
    rw [lineBracket?, hs]
  rw [hbrackets] at hlawful
  have hreached := (Reachable.start ls direction).foldl_step (readLines_eq_ok_iff.1 hx)
  refine ⟨xs, hx, hlawful.deepens xs.length (fun j hj => ?_) hnests
    (.of_reachable (.inl hreached.closeAll))⟩
  show ((xs.take j).foldl step (start ls direction)).owners = _
  rw [List.take_of_length_le hj]

end Flowchart

namespace StateChart

/-- The run that reads the statements `xs` outside notes. -/
def course (xs : List (Line × Statement)) : Course :=
  .ofStatements step (fun st s => s.names st.starts st.ends)
    { direction := Direction.topDown.name } xs

theorem deepens_of_parse {ls : List Line} {p : Parsed ScopeGraph.Graph} (h : parse ls = .ok p) :
    ∃ xs, statements (outsideNotes false ls.tail).1 = .ok xs ∧
      (course xs).Deepens p.diagram := by
  have hnests := ScopeGraph.nestsAs_of_stateChart h
  obtain ⟨xs, hx, h⟩ := bind_eq_ok_iff.1 h
  cases h
  have hlawful : (course xs).Lawful _ :=
    Course.lawful turn_step settlesOwners_step (Follows.init Direction.topDown.name) rfl xs
  have hbrackets : xs.filterMap (fun x => x.2.bracket? x.1) = ScopeGraph.stateBrackets ls := by
    refine ScopeGraph.filterMap_of_readLines ?_ hx
    intro l s hs
    rw [lineBracket?, hs]
  rw [hbrackets] at hlawful
  have hreached := (Reachable.start.foldl_step xs).note (outsideNotes false ls.tail).2 ls
  refine ⟨xs, hx, hlawful.deepens xs.length (fun j hj => ?_) hnests
    (.of_reachable (.inr hreached.closeAll))⟩
  show ((xs.take j).foldl step { direction := Direction.topDown.name }).owners = _
  rw [List.take_of_length_le hj]
  exact (sameGraph_reportOpenNote _ _ ls).owners.symm

end StateChart

/-- **Ownership only moves deeper.** The first owner of a node is the innermost scope that is open
where the node is first named inside a scope.  A later line changes the owner only if it names the
node while the owner is open, and then the innermost open scope, which stands inside that owner,
takes the node; a closed owner is the last one.  So the graph shows the node in the subtree of its
first owner, in a subgraph that was the innermost open one where the node was named. -/
theorem ownership_moves_deeper :
    (∀ ls direction p, Flowchart.parse ls direction = .ok p →
      ∃ xs, Flowchart.statements ls.tail = .ok xs ∧
        (Flowchart.course ls direction xs).Deepens p.diagram) ∧
    ∀ ls p, StateChart.parse ls = .ok p →
      ∃ xs, StateChart.statements (StateChart.outsideNotes false ls.tail).1 = .ok xs ∧
        (StateChart.course xs).Deepens p.diagram :=
  ⟨fun _ _ _ => Flowchart.deepens_of_parse, fun _ _ => StateChart.deepens_of_parse⟩

/-- A node that moves into an inner subgraph and stays there when it is named further out, and in a
subgraph that is opened later. -/
def settledNode : List Line :=
  [⟨1, "graph TD", 0, 1⟩, ⟨2, "subgraph outer", 0, 1⟩, ⟨3, "x --> y", 0, 1⟩,
   ⟨4, "subgraph inner", 0, 1⟩, ⟨5, "y --> x", 0, 1⟩, ⟨6, "end", 0, 1⟩, ⟨7, "x", 0, 1⟩,
   ⟨8, "end", 0, 1⟩, ⟨9, "subgraph inner", 0, 1⟩, ⟨10, "x", 0, 1⟩]

/-- A composite state that takes a state over from the one around it. -/
def settledState : List Line :=
  [⟨1, "stateDiagram", 0, 1⟩, ⟨2, "state Outer \x7b", 0, 1⟩, ⟨3, "[*] --> Idle", 0, 1⟩,
   ⟨4, "state Inner \x7b", 0, 1⟩, ⟨5, "Idle : at rest", 0, 1⟩, ⟨6, "\x7d", 0, 1⟩,
   ⟨7, "Idle --> [*]", 0, 1⟩]

theorem ownership_moves_deeper_settled :
    (∃ p xs, Flowchart.parse settledNode "TD" = .ok p ∧
      ((List.range 10).map fun i => (Flowchart.course settledNode "TD" xs).owner i "x") =
        [none, none, some 0, some 0, some 1, some 1, some 1, some 1, some 1, some 1] ∧
      (Flowchart.course settledNode "TD" xs).Deepens p.diagram) ∧
    ∃ p xs, StateChart.parse settledState = .ok p ∧
      ((List.range 7).map fun i => (StateChart.course xs).owner i "Idle") =
        [none, none, some 0, some 0, some 1, some 1, some 1] ∧
      (StateChart.course xs).Deepens p.diagram := by
  have hflowchart : (Flowchart.parse settledNode "TD").toOption.map (·.diagram.edges.length) =
      some 2 := by
    decide +kernel
  have howners : ((Flowchart.statements settledNode.tail).toOption.map fun xs =>
      (List.range 10).map fun i => (Flowchart.course settledNode "TD" xs).owner i "x") =
      some [none, none, some 0, some 0, some 1, some 1, some 1, some 1, some 1, some 1] := by
    decide +kernel
  have hstate : (StateChart.parse settledState).toOption.map (·.diagram.edges.length) =
      some 2 := by
    decide +kernel
  have howners' : ((StateChart.statements
        (StateChart.outsideNotes false settledState.tail).1).toOption.map
      fun xs => (List.range 7).map fun i => (StateChart.course xs).owner i "Idle") =
      some [none, none, some 0, some 0, some 1, some 1, some 1] := by
    decide +kernel
  obtain ⟨p, hp, -⟩ := exists_ok_of_toOption hflowchart
  obtain ⟨q, hq, -⟩ := exists_ok_of_toOption hstate
  obtain ⟨xs, hxs, hdeep⟩ := ownership_moves_deeper.1 _ _ _ hp
  obtain ⟨ys, hys, hdeep'⟩ := ownership_moves_deeper.2 _ _ hq
  rw [hxs] at howners
  rw [hys] at howners'
  exact ⟨⟨p, xs, hp, Option.some.inj howners, hdeep⟩,
    ⟨q, ys, hq, Option.some.inj howners', hdeep'⟩⟩

end DiagramText
