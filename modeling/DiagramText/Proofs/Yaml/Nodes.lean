import DiagramText.FrontMatter
import DiagramText.Proofs.Yaml.Tokens

/-!
# Failures are marked inside the text

Nodes carry the lines of their tokens, so a failure while nodes are made or given their values is
marked on a line of the text as well.

1. `Keeps I N P m`: the steps `m` keep the invariant `I`, their failures are inside, and their
   result satisfies `P`.
2. Nodes from tokens; the invariant is `Composition.Within`.
3. Merging, typed scalars and documents; the invariant is `NodeGraph.Within`.
4. `Loader.MarksLines`, what a caller of a loader relies on, and `marksLines_load`.
-/

namespace DiagramText.Yaml

variable {N : Nat} {α β σ : Type}

/-! ## Steps with a state -/

/-- Steps that keep the invariant `I` of the state, fail inside the first lines only and have a
result that satisfies `P`. -/
def Keeps (I : σ → Prop) (N : Nat) (P : α → Prop) (m : StateT σ (Except Failure) α) : Prop :=
  ∀ s, I s → Stays N (fun r => P r.1 ∧ I r.2) (m s)

namespace Keeps

variable {I : σ → Prop} {P : α → Prop} {Q : β → Prop}

theorem pure {a : α} (h : P a) : Keeps I N P (Pure.pure a) := fun _ hs => .ok ⟨h, hs⟩

theorem bind {m : StateT σ (Except Failure) α} {k : α → StateT σ (Except Failure) β}
    (hm : Keeps I N P m) (hk : ∀ a, P a → Keeps I N Q (k a)) : Keeps I N Q (m >>= k) := by
  intro s hs
  refine Stays.bind (hm s hs) ?_
  rintro ⟨a, s'⟩ ⟨ha, hs'⟩
  exact hk a ha s' hs'

theorem get : Keeps I N I (MonadState.get : StateT σ (Except Failure) σ) :=
  fun _ hs => .ok ⟨hs, hs⟩

theorem modify {g : σ → σ} (hg : ∀ s, I s → I (g s)) :
    Keeps I N (fun _ => True) (modify g : StateT σ (Except Failure) PUnit) :=
  fun s hs => .ok ⟨trivial, hg s hs⟩

theorem throw {e : Failure} (he : e.Within N) :
    Keeps I N P (MonadExcept.throw e : StateT σ (Except Failure) α) := fun _ _ => .error he

/-- Steps that do not look at the state. -/
theorem lift {x : Except Failure α} (hx : Stays N P x) :
    Keeps I N P (liftM x : StateT σ (Except Failure) α) := by
  intro s hs
  refine Stays.bind hx fun a ha => ?_
  exact .ok ⟨ha, hs⟩

theorem forM {k : β → StateT σ (Except Failure) PUnit}
    (hk : ∀ b, Keeps I N (fun _ => True) (k b)) (bs : List β) :
    Keeps I N (fun _ => True) (bs.forM k) := by
  induction bs with
  | nil => exact .pure trivial
  | cons b bs ih =>
    show Keeps I N _ (k b >>= fun _ => bs.forM k)
    exact .bind (hk b) fun _ _ => ih

theorem mapM {k : β → StateT σ (Except Failure) α} (hk : ∀ b, Keeps I N (fun _ => True) (k b))
    (bs : List β) : Keeps I N (fun _ => True) (bs.mapM k) := by
  induction bs with
  | nil =>
    rw [List.mapM_nil]
    exact .pure trivial
  | cons b bs ih =>
    rw [List.mapM_cons]
    exact .bind (hk b) fun _ _ => .bind ih fun _ _ => .pure trivial

theorem foldlM {k : α → β → StateT σ (Except Failure) α}
    (hk : ∀ a b, Keeps I N (fun _ => True) (k a b)) (a : α) (bs : List β) :
    Keeps I N (fun _ => True) (bs.foldlM k a) := by
  induction bs generalizing a with
  | nil => exact .pure trivial
  | cons b bs ih =>
    rw [List.foldlM_cons]
    exact .bind (hk a b) fun a' _ => ih a'

end Keeps

/-! ## Graphs of nodes -/

namespace NodeGraph

/-- A graph whose nodes are on the lines `0` to `N`. -/
def Within (N : Nat) (g : NodeGraph) : Prop := ∀ n, g.line n ≤ N

variable {g : NodeGraph}

theorem within_empty : Within N {} := by
  intro n
  exact Nat.zero_le N

theorem Within.add (h : g.Within N) {node : Node} (hnode : node.line ≤ N) :
    (g.add node).Within N := by
  intro n
  have hn := h n
  unfold line NodeGraph.node at hn ⊢
  unfold NodeGraph.add
  rw [Array.getD_eq_getD_getElem?] at hn ⊢
  rw [Array.getElem?_push]
  split
  · exact hnode
  · exact hn

theorem line_modify (n m : NodeId) {u : Node → Node} (hu : ∀ node : Node, (u node).line = node.line) :
    line ⟨g.nodes.modify n u⟩ m = g.line m := by
  unfold line NodeGraph.node
  rw [Array.getD_eq_getD_getElem?, Array.getD_eq_getD_getElem?, Array.getElem?_modify]
  split
  · cases g.nodes[m]? with
    | none => rfl
    | some node => exact hu node
  · rfl

theorem Within.setContent (h : g.Within N) (n : NodeId) (content : Content) :
    (g.setContent n content).Within N := by
  intro m
  have hline : (g.setContent n content).line m = g.line m := line_modify n m fun _ => rfl
  rw [hline]
  exact h m

theorem Within.setTag (h : g.Within N) (n : NodeId) (tag : Tag) : (g.setTag n tag).Within N := by
  intro m
  have hline : (g.setTag n tag).line m = g.line m := line_modify n m fun _ => rfl
  rw [hline]
  exact h m

theorem Within.fail {P : α → Prop} (h : g.Within N) (n : NodeId) (problem : String) :
    Stays N P (g.fail n problem) := .error (h n)

end NodeGraph

/-! ## Nodes from tokens -/

/-- A state between two nodes whose tokens, failure and nodes are on the lines `0` to `N`. -/
structure Composition.Within (N : Nat) (s : Composition) : Prop where
  stream : s.stream.Within N
  graph : s.graph.Within N

namespace Compose

/-- Steps that stay on the lines `0` to `N`. -/
abbrev Inside (N : Nat) (P : α → Prop) (m : Compose α) : Prop := Keeps (Composition.Within N) N P m

/-- Steps of which only the failures matter. -/
abbrev Safe (N : Nat) (m : Compose α) : Prop := Inside N (fun _ => True) m

theorem inside_peek : Inside N (fun t => t.line ≤ N) peek := by
  refine .bind .get fun s hs => ?_
  obtain ⟨⟨tokens, failure⟩, graph, anchors, handles⟩ := s
  cases tokens with
  | cons t ts => exact .pure (hs.stream.tokens t List.mem_cons_self)
  | nil =>
    cases failure with
    | some f => exact .throw (hs.stream.failure f rfl)
    | none => exact .pure (Nat.zero_le N)

theorem safe_skip : Safe N skip :=
  .modify fun _ hs => ⟨⟨fun t ht => hs.stream.tokens t (List.mem_of_mem_tail ht),
    hs.stream.failure⟩, hs.graph⟩

theorem safe_atAny (kinds : List TokenKind) : Safe N (atAny kinds) :=
  .bind inside_peek fun _ _ => .pure trivial

theorem inside_fail {P : α → Prop} (problem : String) {line : Nat} (h : line ≤ N) :
    Inside N P (fail problem line) := .throw h

theorem inside_tokenFail {P : α → Prop} {t : Token} (h : t.line ≤ N) (expected : String) :
    Inside N P (liftM (t.fail (α := α) expected) : Compose α) := .lift (.error h)

theorem safe_expand (handle : Option String) (suffix : String) {line : Nat} (h : line ≤ N) :
    Safe N (expand handle suffix line) := by
  unfold expand
  cases handle with
  | none => exact .pure trivial
  | some name =>
    refine .bind .get fun s _ => ?_
    split
    · exact .pure trivial
    · exact inside_fail _ h

/-- The line of the properties of a node, if there are any, is inside. -/
def Properties.Within (N : Nat) (p : Properties) : Prop := ∀ line ∈ p.line, line ≤ N

theorem inside_properties : Inside N (Properties.Within N) properties := by
  have hline {n : Nat} (h : n ≤ N) : ∀ m ∈ some n, m ≤ N := by
    rintro m ⟨rfl⟩
    exact h
  unfold properties
  refine .bind inside_peek fun t ht => ?_
  split
  · refine .bind safe_skip fun _ _ => .bind inside_peek fun u hu => ?_
    split
    · refine .bind safe_skip fun _ _ => .bind (safe_expand _ _ hu) fun _ _ => ?_
      exact .pure (hline ht)
    · exact .pure (hline ht)
  · refine .bind safe_skip fun _ _ => .bind inside_peek fun u hu => ?_
    split
    · refine .bind safe_skip fun _ _ => .bind (safe_expand _ _ ht) fun _ _ => ?_
      exact .pure (hline ht)
    · exact .bind (safe_expand _ _ ht) fun _ _ => .pure (hline ht)
  · exact .pure nofun

theorem safe_add {node : Node} (h : node.line ≤ N) : Safe N (add node) :=
  .bind .get fun _ _ => .bind (.modify fun _ hs => ⟨hs.stream, hs.graph.add h⟩) fun _ _ =>
    .pure trivial

theorem safe_addWith (p : Properties) {node : Node} (h : node.line ≤ N) :
    Safe N (addWith p node) := by
  unfold addWith
  split
  · exact safe_add h
  · refine .bind .get fun s _ => ?_
    split
    · exact inside_fail _ h
    · refine .bind (safe_add h) fun n _ => ?_
      exact .bind (.modify fun _ hs => ⟨hs.stream, hs.graph⟩) fun _ _ => .pure trivial

theorem safe_addCollection (p : Properties) {node : Node} (h : node.line ≤ N)
    {content : Compose Content} (hc : Safe N content) : Safe N (addCollection p node content) :=
  .bind (safe_addWith p h) fun _ _ => .bind hc fun _ _ =>
    .bind (.modify fun _ hs => ⟨hs.stream, hs.graph.setContent _ _⟩) fun _ _ => .pure trivial

theorem safe_resolve (name : String) {line : Nat} (h : line ≤ N) : Safe N (resolve name line) := by
  unfold resolve
  refine .bind .get fun s _ => ?_
  split
  · exact .pure trivial
  · exact inside_fail _ h

theorem inside_exhausted {P : α → Prop} : Inside N P (throw exhausted : Compose α) :=
  .throw (Nat.zero_le N)

/-- All readers of nodes are safe with the given bound on the number of steps. -/
structure SafeWithin (N fuel : Nat) : Prop where
  node : ∀ block indentless, Safe N (node block indentless fuel)
  nodeUnless : ∀ ends block indentless {line : Nat}, line ≤ N →
    Safe N (nodeUnless ends block indentless line fuel)
  valueUnless : ∀ ends block indentless, Safe N (valueUnless ends block indentless fuel)
  blockItems : Safe N (blockItems fuel)
  indentlessItems : Safe N (indentlessItems fuel)
  blockPairs : Safe N (blockPairs fuel)
  flowItems : ∀ first, Safe N (flowItems first fuel)
  flowPairs : ∀ first, Safe N (flowPairs first fuel)

section

variable {fuel : Nat} (h : SafeWithin N fuel)

include h

theorem safe_node_succ (block indentless : Bool) : Safe N (node block indentless (fuel + 1)) := by
  unfold node
  refine .bind inside_peek fun t ht => ?_
  split
  · exact .bind safe_skip fun _ _ => safe_resolve _ ht
  · refine .bind inside_properties fun p hp => .bind inside_peek fun u hu => ?_
    have hline : p.line.getD u.line ≤ N := by
      cases hl : p.line with
      | none => exact hu
      | some line => exact hp line hl
    have hsequence {items : Compose (List NodeId)} (hitems : Safe N items) : Safe N
        (addCollection p ⟨p.line.getD u.line, collectionTag p.tag .seq, .sequence []⟩
          (return .sequence (← items))) :=
      safe_addCollection p hline (.bind hitems fun _ _ => .pure trivial)
    have hmapping {pairs : Compose (List (NodeId × NodeId))} (hpairs : Safe N pairs) : Safe N
        (addCollection p ⟨p.line.getD u.line, collectionTag p.tag .map, .mapping []⟩
          (return .mapping (← pairs))) :=
      safe_addCollection p hline (.bind hpairs fun _ _ => .pure trivial)
    dsimp only
    split
    · exact .bind safe_skip fun _ _ => safe_addWith p hline
    · exact hsequence (.bind safe_skip fun _ _ => h.flowItems true)
    · exact hmapping (.bind safe_skip fun _ _ => h.flowPairs true)
    · exact hsequence (.bind safe_skip fun _ _ => h.blockItems)
    · exact hmapping (.bind safe_skip fun _ _ => h.blockPairs)
    · split
      · exact hsequence h.indentlessItems
      · split
        · exact safe_addWith p hline
        · exact inside_tokenFail hu _

theorem safe_nodeUnless_succ (ends : List TokenKind) (block indentless : Bool) {line : Nat}
    (hline : line ≤ N) : Safe N (nodeUnless ends block indentless line (fuel + 1)) := by
  unfold nodeUnless
  refine .bind (safe_atAny ends) fun found _ => ?_
  split
  · exact safe_add hline
  · exact h.node block indentless

theorem safe_valueUnless_succ (ends : List TokenKind) (block indentless : Bool) :
    Safe N (valueUnless ends block indentless (fuel + 1)) := by
  unfold valueUnless
  refine .bind inside_peek fun t ht => ?_
  split
  · exact .bind safe_skip fun _ _ => h.nodeUnless ends block indentless ht
  · exact safe_add ht

theorem safe_blockItems_succ : Safe N (blockItems (fuel + 1)) := by
  unfold blockItems
  refine .bind inside_peek fun t ht => ?_
  split
  · refine .bind safe_skip fun _ _ => .bind (h.nodeUnless _ true false ht) fun _ _ => ?_
    exact .bind h.blockItems fun _ _ => .pure trivial
  · exact .bind safe_skip fun _ _ => .pure trivial
  · exact inside_tokenFail ht _

theorem safe_indentlessItems_succ : Safe N (indentlessItems (fuel + 1)) := by
  unfold indentlessItems
  refine .bind inside_peek fun t ht => ?_
  split
  · refine .bind safe_skip fun _ _ => .bind (h.nodeUnless _ true false ht) fun _ _ => ?_
    exact .bind h.indentlessItems fun _ _ => .pure trivial
  · exact .pure trivial

theorem safe_blockPairs_succ : Safe N (blockPairs (fuel + 1)) := by
  unfold blockPairs
  refine .bind inside_peek fun t ht => ?_
  split
  · refine .bind safe_skip fun _ _ => .bind (h.nodeUnless _ true true ht) fun _ _ => ?_
    refine .bind (h.valueUnless _ true true) fun _ _ => ?_
    exact .bind h.blockPairs fun _ _ => .pure trivial
  · exact .bind safe_skip fun _ _ => .pure trivial
  · exact inside_tokenFail ht _

theorem safe_flowItems_succ (first : Bool) : Safe N (flowItems first (fuel + 1)) := by
  unfold flowItems
  refine .bind inside_peek fun t ht => ?_
  split
  · exact .bind safe_skip fun _ _ => .pure trivial
  · -- What follows a comma, or the bracket when the item is the first one.
    extract_lets item
    have hitem : Safe N (item ()) := by
      refine .bind inside_peek fun t ht => ?_
      split
      · exact .bind safe_skip fun _ _ => .pure trivial
      · refine .bind safe_skip fun _ _ => .bind (safe_addCollection {} ht ?_) fun _ _ => ?_
        · refine .bind (h.nodeUnless _ false false ht) fun _ _ => ?_
          exact .bind (h.valueUnless _ false false) fun _ _ => .pure trivial
        · exact .bind (h.flowItems false) fun _ _ => .pure trivial
      · refine .bind (h.node false false) fun _ _ => ?_
        exact .bind (h.flowItems false) fun _ _ => .pure trivial
    split
    · split
      · exact .bind safe_skip fun _ _ => hitem
      · exact .bind (inside_tokenFail (P := fun _ => True) ht _) fun _ _ => hitem
    · exact hitem

theorem safe_flowPairs_succ (first : Bool) : Safe N (flowPairs first (fuel + 1)) := by
  unfold flowPairs
  refine .bind inside_peek fun t ht => ?_
  split
  · exact .bind safe_skip fun _ _ => .pure trivial
  · extract_lets pair
    have hpair : Safe N (pair ()) := by
      refine .bind inside_peek fun t ht => ?_
      split
      · exact .bind safe_skip fun _ _ => .pure trivial
      · refine .bind safe_skip fun _ _ => .bind (h.nodeUnless _ false false ht) fun _ _ => ?_
        refine .bind (h.valueUnless _ false false) fun _ _ => ?_
        exact .bind (h.flowPairs false) fun _ _ => .pure trivial
      · refine .bind (h.node false false) fun _ _ => .bind inside_peek fun u hu => ?_
        refine .bind (safe_add hu) fun _ _ => ?_
        exact .bind (h.flowPairs false) fun _ _ => .pure trivial
    split
    · split
      · exact .bind safe_skip fun _ _ => hpair
      · exact .bind (inside_tokenFail (P := fun _ => True) ht _) fun _ _ => hpair
    · exact hpair

end

/-- Reading nodes is safe, however many steps it takes. -/
theorem safeWithin (fuel : Nat) : SafeWithin N fuel := by
  induction fuel with
  | zero =>
    exact ⟨fun _ _ => inside_exhausted, fun _ _ _ _ _ => inside_exhausted,
      fun _ _ _ => inside_exhausted, inside_exhausted, inside_exhausted, inside_exhausted,
      fun _ => inside_exhausted, fun _ => inside_exhausted⟩
  | succ fuel ih =>
    exact ⟨safe_node_succ ih, safe_nodeUnless_succ ih, safe_valueUnless_succ ih,
      safe_blockItems_succ ih, safe_indentlessItems_succ ih, safe_blockPairs_succ ih,
      safe_flowItems_succ ih, safe_flowPairs_succ ih⟩

theorem stays_readDirectives (versioned : Bool) (handles : List (String × String))
    {ts : List Token} (h : ∀ t ∈ ts, t.line ≤ N) :
    Stays N (fun _ => True) (readDirectives versioned handles ts) := by
  fun_induction readDirectives versioned handles ts with
  | case1 => exact .ok trivial
  | case2 => exact .error (h _ List.mem_cons_self)
  | case3 => exact .error (h _ List.mem_cons_self)
  | case4 _ _ _ _ _ _ _ _ ih => exact ih fun t ht => h t (List.mem_cons_of_mem _ ht)
  | case5 => exact .error (h _ List.mem_cons_self)
  | case6 _ _ _ _ _ _ _ ih => exact ih fun t ht => h t (List.mem_cons_of_mem _ ht)
  | case7 _ _ _ _ _ _ ih => exact ih fun t ht => h t (List.mem_cons_of_mem _ ht)

theorem safe_documentStart : Safe N documentStart := by
  unfold documentStart
  refine .bind .get fun s hs => ?_
  dsimp only
  refine .bind (.lift (stays_readDirectives _ _ fun t ht => ?_)) fun handles _ => ?_
  · exact hs.stream.tokens t (List.takeWhile_subset _ ht)
  · refine .bind (.modify fun s' hs' => ?_) fun _ _ => .bind inside_peek fun t ht => ?_
    · refine ⟨⟨fun t ht => ?_, hs'.stream.failure⟩, hs'.graph⟩
      exact hs.stream.tokens t ((List.dropWhile_suffix _).subset ht)
    · split
      · exact safe_skip
      · exact inside_tokenFail ht _

theorem safe_document (fuel : Nat) : Safe N (document fuel) := by
  have hnode := (safeWithin (N := N) fuel).node true false
  unfold document
  refine .bind inside_peek fun t _ => ?_
  split
  case h_1 => exact .pure trivial
  case h_2 | h_3 =>
    -- A document that is announced may be empty.
    refine .bind safe_documentStart fun _ _ => .bind inside_peek fun t ht => ?_
    split
    case h_5 => exact .bind hnode fun _ _ => .pure trivial
    all_goals exact .bind (safe_add ht) fun _ _ => .pure trivial
  case h_4 =>
    refine .bind (.modify fun _ hs => ⟨hs.stream, hs.graph⟩) fun _ _ => ?_
    exact .bind hnode fun _ _ => .pure trivial

theorem safe_streamEnd : Safe N streamEnd := by
  unfold streamEnd
  refine .bind (.modify fun s hs => ?_) fun _ _ => .bind inside_peek fun t ht => ?_
  · refine ⟨⟨fun t ht => ?_, hs.stream.failure⟩, hs.graph⟩
    exact hs.stream.tokens t ((List.dropWhile_suffix _).subset ht)
  · split
    · exact .bind safe_documentStart fun _ _ => inside_fail _ ht
    · exact .pure trivial

end Compose

theorem NodeGraph.stays_ofTokens {stream : TokenStream} (h : stream.Within N) :
    Stays N (fun r => r.1.Within N) (NodeGraph.ofTokens stream) := by
  have hcompose : Compose.Safe N (do
      let root ← Compose.document (4 * stream.tokens.length + 4)
      if root.isSome then Compose.streamEnd
      return root) := by
    refine .bind (Compose.safe_document _) fun root _ => ?_
    split
    · exact .bind Compose.safe_streamEnd fun _ _ => .pure trivial
    · exact .pure trivial
  exact Stays.map (hcompose { stream } ⟨h, NodeGraph.within_empty⟩) fun r hr => hr.2.graph

/-! ## Merging -/

namespace NodeGraph

variable {g : NodeGraph}

theorem stays_flattenItems {flatten : NodeGraph → NodeId → Flattened}
    (hflatten : ∀ {g : NodeGraph} (n : NodeId), g.Within N → Stays N (Within N) (flatten g n))
    (h : g.Within N) (ns : List NodeId) :
    Stays N (fun r => r.1.Within N) (flattenItems flatten g ns) := by
  induction ns generalizing g with
  | nil => exact .ok h
  | cons n ns ih =>
    unfold flattenItems
    split
    · refine Stays.bind (hflatten n h) fun g' hg' => ?_
      exact Stays.bind (ih hg') fun r hr => .ok hr
    · exact h.fail _ _

theorem stays_flattenSource {flatten : NodeGraph → NodeId → Flattened}
    (hflatten : ∀ {g : NodeGraph} (n : NodeId), g.Within N → Stays N (Within N) (flatten g n))
    (h : g.Within N) (n : NodeId) :
    Stays N (fun r => r.1.Within N) (flattenSource flatten g n) := by
  unfold flattenSource
  split
  · exact Stays.bind (hflatten n h) fun g' hg' => .ok hg'
  · exact stays_flattenItems hflatten h _
  · exact h.fail _ _

theorem Within.nameDefaults (h : g.Within N) (n : NodeId) : (g.nameDefaults n).Within N := by
  refine List.foldlRecOn (g.pairs n) _ h fun g' hg' p _ => ?_
  split
  · exact hg'.setTag _ _
  · exact hg'

theorem stays_flattenWithin (fuel : Nat) (h : g.Within N) (n : NodeId) :
    Stays N (Within N) (flattenWithin fuel g n) := by
  induction fuel generalizing g n with
  | zero => exact .ok h
  | succ fuel ih =>
    unfold flattenWithin
    dsimp only
    split
    · exact .ok (h.nameDefaults n)
    · refine Stays.bind (stays_flattenSource (fun n h => ih h n) (h.setContent _ _) _) ?_
      rintro ⟨g', merged⟩ hg'
      refine Stays.bind (ih hg' n) fun g'' hg'' => ?_
      exact .ok (hg''.setContent _ _)

theorem stays_flatten (h : g.Within N) (n : NodeId) : Stays N (Within N) (g.flatten n) :=
  stays_flattenWithin _ h n

/-! ## Typed scalars -/

theorem stays_textWithin (h : g.Within N) (fuel : Nat) (n : NodeId) :
    Stays N (fun _ => True) (g.textWithin fuel n) := by
  induction fuel generalizing n with
  | zero => exact .error trivial
  | succ fuel ih =>
    unfold textWithin
    split
    · exact .ok trivial
    · split
      · exact ih _
      · exact h.fail _ _
    · exact h.fail _ _

theorem stays_bytesValue (h : g.Within N) (n : NodeId) (text : String) :
    Stays N (fun _ => True) (g.bytesValue n text) := by
  unfold bytesValue
  split
  · exact .ok trivial
  · exact h.fail _ _

theorem stays_scalarValue (h : g.Within N) (n : NodeId) :
    Stays N (fun _ => True) (g.scalarValue n) := by
  have htyped (value : String → Except Fault Value) : Stays N (fun _ => True) (do
      ((value (← g.scalarText n)).mapError .fault : Except Failure Value)) := by
    refine Stays.bind (stays_textWithin h _ n) fun text _ => ?_
    cases value text with
    | ok v => exact .ok trivial
    | error fault => exact .error trivial
  unfold scalarValue
  dsimp only
  split
  · exact htyped _
  · exact htyped _
  · exact htyped _
  · exact htyped _
  · exact htyped _
  · exact htyped _
  · exact Stays.bind (stays_textWithin h _ n) fun text _ => stays_bytesValue h n text
  · exact h.fail _ _

end NodeGraph

/-! ## Documents -/

namespace Making

/-- Steps that keep all nodes on the lines `0` to `N`. -/
abbrev Safe (N : Nat) (m : Make α) : Prop :=
  Keeps (fun s => s.graph.Within N) N (fun _ => True) m

theorem safe_setCell (n : NodeId) (c : Cell) : Safe N (setCell n c) := .modify fun _ hs => hs

theorem safe_meet (n : NodeId) : Safe N (meet n) := by
  unfold meet
  refine .bind .get fun m hm => ?_
  split
  · exact .pure trivial
  · split
    · refine .bind (.modify fun _ hs => hs) fun _ _ => ?_
      exact .bind (safe_setCell _ _) fun _ _ => .pure trivial
    · refine .bind (.lift (NodeGraph.stays_scalarValue hm n)) fun v _ => ?_
      exact .bind (safe_setCell _ _) fun _ _ => .pure trivial

theorem safe_fail (n : NodeId) (problem : String) : Safe N (fail n problem : Make α) :=
  .bind .get fun _ hm => .lift (hm.fail n problem)

theorem safe_discard_meet (n : NodeId) : Safe N (discard (meet n)) :=
  .bind (safe_meet n) fun _ _ => .pure trivial

theorem safe_meetKey (n : NodeId) : Safe N (meetKey n) := by
  unfold meetKey
  refine .bind (safe_meet n) fun c _ => ?_
  split
  · exact .pure trivial
  · exact safe_fail _ _

theorem safe_items (n : NodeId) : Safe N (items n) := by
  unfold items
  refine .bind .get fun m _ => ?_
  split
  · exact .bind (.forM safe_discard_meet _) fun _ _ => .pure trivial
  · exact safe_fail _ _

theorem safe_meetEntry (found : OrderedMap Key NodeId) (pair : NodeId × NodeId) :
    Safe N (meetEntry found pair) := by
  unfold meetEntry
  refine .bind (safe_meetKey _) fun key _ => ?_
  exact .bind (safe_discard_meet _) fun _ _ => .pure trivial

theorem safe_entries (n : NodeId) : Safe N (entries n) := by
  unfold entries
  refine .bind .get fun m _ => ?_
  split
  · refine .bind .get fun m' hm' => ?_
    refine .bind (.lift (NodeGraph.stays_flatten hm' n)) fun graph hgraph => ?_
    refine .bind (.modify fun _ _ => hgraph) fun _ _ => ?_
    exact .bind (.foldlM safe_meetEntry _ _) fun _ _ => .pure trivial
  · exact safe_fail _ _

theorem safe_singlePair (n : NodeId) : Safe N (singlePair n) := by
  unfold singlePair
  refine .bind .get fun m _ => ?_
  split
  · refine .bind (safe_discard_meet _) fun _ _ => ?_
    exact .bind (safe_discard_meet _) fun _ _ => .pure trivial
  · exact safe_fail _ _
  · exact safe_fail _ _

theorem safe_singlePairs (n : NodeId) : Safe N (singlePairs n) := by
  unfold singlePairs
  refine .bind .get fun m _ => ?_
  split
  · exact .mapM safe_singlePair _
  · exact safe_fail _ _

theorem safe_fill (n : NodeId) : Safe N (fill n) := by
  unfold fill
  refine .bind .get fun m _ => ?_
  split
  · exact .bind (safe_items n) fun _ _ => safe_setCell _ _
  · exact .bind (safe_singlePairs n) fun _ _ => safe_setCell _ _
  · exact .bind (safe_singlePairs n) fun _ _ => safe_setCell _ _
  · exact .bind (safe_entries n) fun _ _ => safe_setCell _ _
  · exact .bind (safe_entries n) fun _ _ => safe_setCell _ _
  · exact .pure trivial

theorem safe_fillPending (fuel : Nat) : Safe N (fillPending fuel) := by
  induction fuel with
  | zero => exact .pure trivial
  | succ fuel ih =>
    unfold fillPending
    refine .bind .get fun m _ => ?_
    dsimp only
    split
    · exact .pure trivial
    · refine .bind (.modify fun _ hs => hs) fun _ _ => ?_
      exact .bind (.forM safe_fill _) fun _ _ => ih

end Making

theorem Document.stays_ofGraph {g : NodeGraph} (h : g.Within N) (root : NodeId) :
    Stays N (fun _ => True) (Document.ofGraph g root) := by
  have hmake : Making.Safe N (do
      discard (Making.meet root)
      Making.fillPending (g.size + 1)) :=
    .bind (Making.safe_discard_meet root) fun _ _ => Making.safe_fillPending _
  unfold Document.ofGraph
  exact Stays.bind (hmake { graph := g, cells := Array.replicate g.size none } h) fun _ _ =>
    .ok trivial

/-- A loader that marks every failure on one of the lines of the text. -/
def Loader.MarksLines (load : Loader) : Prop :=
  ∀ text failure, load text = .error failure → failure.Within (text.count '\n')

theorem stays_load (text : List Char) :
    Stays (text.count '\n') (fun _ => True) (load text) := by
  unfold load
  split
  · exact .error (Nat.zero_le _)
  · refine Stays.bind (NodeGraph.stays_ofTokens (TokenStream.within_ofText text)) ?_
    rintro ⟨graph, root⟩ hgraph
    cases root with
    | none => exact .ok trivial
    | some n => exact Stays.map (Document.stays_ofGraph hgraph n) fun _ _ => trivial

/-- **Marks.** A failure of a text is marked on one of its lines. -/
theorem marksLines_load : Loader.MarksLines load := by
  intro text failure hfailure
  have hstays := stays_load text
  rw [hfailure] at hstays
  cases hstays with
  | error hline => exact hline

end DiagramText.Yaml
