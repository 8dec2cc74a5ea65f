import DiagramText.Proofs.ScopeGraph.Brackets
import DiagramText.Proofs.ScopeGraph.Ownership

/-!
# The subgraph forest is the nesting of the source

1. `Outline` reads off from brackets alone which opening stands inside which, and which ones are
   left open.
2. `Below` and `Chained`: in a forest and along a spine of open frames, every value stands in a given
   relation to the value around it.  Closing a frame keeps this.
3. `Follows`, the invariant: the scopes of a state are what the outline of the brackets says.
4. `subgraphs_follow_brackets`, for both families.
-/

namespace DiagramText.ScopeGraph

open Source (Line)

/-! ## Outlines -/

/-- The nesting of brackets.  Openings are told by their number. -/
structure Outline where
  /-- For each opening, the innermost one that was open when it was read. -/
  around : List (Option Nat) := []
  /-- The openings that are open, innermost first. -/
  stack : List Nat := []
deriving Repr, DecidableEq

/-- Reads a bracket.  A closing bracket has no effect if nothing is open. -/
def Outline.step (o : Outline) : Bracket → Outline
  | .opening _ => { around := o.around ++ [o.stack.head?], stack := o.around.length :: o.stack }
  | .closing => { o with stack := o.stack.tail }

/-- The outline of a list of brackets. -/
def outline (bs : List Bracket) : Outline := bs.foldl Outline.step {}

theorem outline_concat (bs : List Bracket) (b : Bracket) :
    outline (bs ++ [b]) = (outline bs).step b := by
  unfold outline
  rw [List.foldl_append]
  rfl

/-! ## Values and the values around them -/

section

variable {α β : Type} {R R' : Option α → α → Prop}

open DiagramText.Tree (forest)

/-- Below the roots of a forest, every value is related to the value around it. -/
def Below (R : Option α → α → Prop) (ts : List (Tree α)) : Prop :=
  ∀ t ∈ forest ts, ∀ c ∈ t.children, R (some t.value) c.value

theorem below_nil : Below R [] := by
  intro t ht
  cases ht

theorem Below.append {ss ts : List (Tree α)} (hs : Below R ss) (ht : Below R ts) :
    Below R (ss ++ ts) := by
  intro t htmem
  rw [Tree.forest_append] at htmem
  rcases List.mem_append.1 htmem with h | h
  · exact hs t h
  · exact ht t h

theorem below_close_iff {f : Frame α} :
    Below R [f.close] ↔ (∀ c ∈ f.children, R (some f.value) c.value) ∧ Below R f.children := by
  have hforest : forest [f.close] = f.close :: forest f.children := by
    simp [forest, Frame.close, Tree.subtrees]
  unfold Below
  rw [hforest, List.forall_mem_cons]
  exact Iff.rfl

theorem Below.adopt {f : Frame α} {t : Tree α} (hf : Below R [f.close]) (ht : Below R [t])
    (hr : R (some f.value) t.value) : Below R [(f.adopt t).close] := by
  obtain ⟨hchildren, hbelow⟩ := below_close_iff.1 hf
  refine below_close_iff.2 ⟨?_, hbelow.append ht⟩
  intro c hc
  rcases List.mem_append.1 hc with hc | hc
  · exact hchildren c hc
  · obtain rfl := List.mem_singleton.1 hc
    exact hr

/-- Along a spine, every value is related to the value around it, and so are those below. -/
def Chained (R : Option α → α → Prop) : List (Frame α) → Prop
  | [] => True
  | f :: fs => R (fs.head?.map (·.value)) f.value ∧ Below R [f.close] ∧ Chained R fs

theorem Below.mono (hR : ∀ c v, R c v → R' c v) {ts : List (Tree α)} (h : Below R ts) :
    Below R' ts := fun t ht c hc => hR _ _ (h t ht c hc)

theorem Chained.mono (hR : ∀ c v, R c v → R' c v) {fs : List (Frame α)} (h : Chained R fs) :
    Chained R' fs := by
  induction fs with
  | nil => exact trivial
  | cons f fs ih => exact ⟨hR _ _ h.1, h.2.1.mono hR, ih h.2.2⟩

/-- A relation that sees of each value a key only does not see a change that keeps the keys. -/
theorem Chained.congr {key : α → β} {Q : Option β → β → Prop} {fs fs' : List (Frame α)}
    (hfs : List.Forall₂ (fun f f' => key f'.value = key f.value ∧ f'.children = f.children) fs fs')
    (h : Chained (fun c v => Q (c.map key) (key v)) fs) :
    Chained (fun c v => Q (c.map key) (key v)) fs' := by
  induction hfs with
  | nil => exact trivial
  | @cons f f' fs fs' hf hrest ih =>
    obtain ⟨hkey, hchildren⟩ := hf
    obtain ⟨haround, hbelow, hchained⟩ := h
    have hhead : (fs'.head?.map (·.value)).map key = (fs.head?.map (·.value)).map key := by
      cases hrest with
      | nil => rfl
      | cons hg _ => exact congrArg some hg.1
    refine ⟨?_, ?_, ih hchained⟩
    · show Q ((fs'.head?.map (·.value)).map key) (key f'.value)
      rw [hhead, hkey]
      exact haround
    · obtain ⟨hinner, hdeeper⟩ := below_close_iff.1 hbelow
      refine below_close_iff.2 ?_
      rw [hchildren]
      refine ⟨?_, hdeeper⟩
      intro c hc
      have hc' := hinner c hc
      rw [Option.map_some] at hc' ⊢
      rwa [hkey]

end

/-! ## The scopes of a state -/

/-- A scope names the scope around it, and that is the one that the numbers `around` say. -/
def Inside (around : List (Option Nat)) (c : Option Scope) (s : Scope) : Prop :=
  s.parent = c.map (·.id) ∧ around[s.serial]? = some (c.map (·.serial))

theorem Inside.append {around : List (Option Nat)} {c : Option Scope} {s : Scope}
    (h : Inside around c s) (more : List (Option Nat)) : Inside (around ++ more) c s := by
  obtain ⟨hparent, haround⟩ := h
  obtain ⟨hlt, -⟩ := List.getElem?_eq_some_iff.1 haround
  refine ⟨hparent, ?_⟩
  rw [List.getElem?_append_left hlt]
  exact haround

/-- All scopes of a state, complete or open, stand where the numbers `around` say. -/
structure Placed (around : List (Option Nat)) (st : State) : Prop where
  top : ∀ t ∈ st.finished, Inside around none t.value
  below : Below (Inside around) st.finished
  spine : Chained (Inside around) st.scopes

namespace Placed

variable {around : List (Option Nat)} {st st' : State}

theorem append (h : Placed around st) (more : List (Option Nat)) : Placed (around ++ more) st where
  top := fun t ht => (h.top t ht).append more
  below := h.below.mono fun _ _ hi => hi.append more
  spine := h.spine.mono fun _ _ hi => hi.append more

theorem sameScopes (hs : SameScopes st st') (h : Placed around st) : Placed around st' where
  top := by
    rw [hs.finished]
    exact h.top
  below := by
    rw [hs.finished]
    exact h.below
  spine := by
    -- The place of a scope does not depend on what is entered into it.
    have hinside : Inside around = fun c s =>
        (fun (c : Option Scope) (s : Scope) => Inside around c s) (c.map Scope.bare) s.bare := by
      funext c s
      cases c <;> rfl
    have hspine := h.spine
    rw [hinside] at hspine ⊢
    exact hspine.congr (hs.scopes.imp fun f f' hf => ⟨hf.bare, hf.children⟩)

theorem closeScope (h : Placed around st) : Placed around st.closeScope := by
  unfold State.closeScope
  split
  · exact h
  · rename_i f hs
    obtain ⟨haround, hbelow, -⟩ : Chained (Inside around) [f] := hs ▸ h.spine
    refine ⟨?_, h.below.append hbelow, trivial⟩
    intro t ht
    rcases List.mem_append.1 ht with ht | ht
    · exact h.top t ht
    · obtain rfl := List.mem_singleton.1 ht
      exact haround
  · rename_i f g fs hs
    obtain ⟨haround, hbelow, hg, hgbelow, hrest⟩ : Chained (Inside around) (f :: g :: fs) :=
      hs ▸ h.spine
    exact ⟨h.top, h.below, hg, hgbelow.adopt hbelow haround, hrest⟩

end Placed

/-! ## Brackets and scopes -/

namespace SameScopes

variable {st st' : State}

theorem map_bare_allScopes (h : SameScopes st st') :
    st'.allScopes.map Scope.bare = st.allScopes.map Scope.bare := by
  have hspine : (Frame.spineValues st'.scopes).map Scope.bare =
      (Frame.spineValues st.scopes).map Scope.bare := by
    have hscopes := h.scopes
    revert hscopes
    generalize st.scopes = fs, st'.scopes = fs'
    intro hscopes
    induction hscopes with
    | nil => rfl
    | @cons f f' fs fs' hf _ ih =>
      have hvalues : f'.values.map Scope.bare = f.values.map Scope.bare := by
        unfold Frame.values
        rw [List.map_cons, List.map_cons, hf.bare, hf.children]
      rw [Frame.spineValues_cons, Frame.spineValues_cons, List.map_append, List.map_append, ih,
        hvalues]
  unfold State.allScopes
  rw [List.map_append, List.map_append, h.finished, hspine]

/-- Whatever does not depend on what is entered into a scope is the same for all scopes. -/
theorem map_allScopes (h : SameScopes st st') {β : Type} {g : Scope → β}
    (hg : ∀ s, g s.bare = g s) : st'.allScopes.map g = st.allScopes.map g := by
  have hcomp : g = g ∘ Scope.bare := by
    funext s
    exact (hg s).symm
  rw [hcomp, ← List.map_map, h.map_bare_allScopes, List.map_map]

end SameScopes

theorem Opening.Fits.bare_iff {o : Opening} {s : Scope} : o.Fits s.bare ↔ o.Fits s :=
  ⟨fun h => ⟨h.line, h.label, h.id⟩, fun h => ⟨h.line, h.label, h.id⟩⟩

/-- The scopes of a state are what brackets say: one for each opening, in order and numbered, inside
the innermost one that was open at that point; and none has been closed for want of a bracket. -/
structure Follows (family : Family) (bs : List Bracket) (st : State) : Prop where
  opened : List.Forall₂ Opening.Fits (bs.filterMap Bracket.opening?) st.allScopes
  serials : st.allScopes.map (·.serial) = List.range st.serial
  serial : st.serial = (outline bs).around.length
  stack : st.scopes.map (·.value.serial) = (outline bs).stack
  placed : Placed (outline bs).around st
  unclosed : unclosedReports family st.reports = []

namespace Follows

variable {family : Family} {bs : List Bracket} {st st' : State}

theorem init (direction : String) : Follows family [] { direction } where
  opened := .nil
  serials := rfl
  serial := rfl
  stack := rfl
  placed := ⟨fun _ ht => (List.not_mem_nil ht).elim, below_nil, trivial⟩
  unclosed := rfl

theorem sameScopes (hs : SameScopes st st') (h : Follows family bs st) : Follows family bs st' where
  opened := by
    -- Only line, label and id of a scope matter for fitting.
    have hbare : List.Forall₂ Opening.Fits (bs.filterMap Bracket.opening?)
        (st.allScopes.map Scope.bare) :=
      List.forall₂_map_right_iff.2 (h.opened.imp fun _ _ => Opening.Fits.bare_iff.2)
    rw [← hs.map_bare_allScopes] at hbare
    exact (List.forall₂_map_right_iff.1 hbare).imp fun _ _ => Opening.Fits.bare_iff.1
  serials := by
    rw [hs.map_allScopes fun _ => rfl, hs.serial]
    exact h.serials
  serial := hs.serial.trans h.serial
  stack := by
    rw [hs.map_scopes fun _ => rfl]
    exact h.stack
  placed := h.placed.sameScopes hs
  unclosed := (hs.unclosed family).trans h.unclosed

theorem openScope (h : Follows family bs st) {l : Line} {given : Option String} {id : String}
    (label : String) (hid : ∀ id', given = some id' → id = id') :
    Follows family (bs ++ [.opening ⟨l.number, given, label⟩]) (st.openScope l id label) where
  opened := by
    rw [List.filterMap_append, State.allScopes_openScope]
    exact List.rel_append h.opened (.cons ⟨rfl, rfl, hid⟩ .nil)
  serials := by
    rw [State.allScopes_openScope, List.map_append, h.serials]
    exact List.range_succ.symm
  serial := by
    rw [outline_concat]
    show st.serial + 1 = ((outline bs).around ++ [(outline bs).stack.head?]).length
    rw [List.length_append, h.serial]
    rfl
  stack := by
    rw [outline_concat]
    show st.serial :: st.scopes.map (·.value.serial) = _
    rw [h.stack, h.serial]
    rfl
  placed := by
    rw [outline_concat]
    have hplaced := h.placed.append [(outline bs).stack.head?]
    refine ⟨hplaced.top, hplaced.below, ⟨?_, ?_⟩, ?_, hplaced.spine⟩
    · show st.scopes.head?.map (·.value.id) = (st.scopes.head?.map (·.value)).map (·.id)
      rw [Option.map_map]
      rfl
    · show ((outline bs).around ++ [(outline bs).stack.head?])[st.serial]? = _
      rw [h.serial, List.getElem?_concat_length, ← h.stack, List.head?_map, Option.map_map]
      rfl
    · exact below_close_iff.2 ⟨fun _ hc => (List.not_mem_nil hc).elim, below_nil⟩
  unclosed := h.unclosed

theorem closeScope (h : Follows family bs st) : Follows family (bs ++ [.closing]) st.closeScope where
  opened := by
    rw [List.filterMap_append, State.allScopes_closeScope]
    exact (List.append_nil _).symm ▸ h.opened
  serials := by
    rw [State.allScopes_closeScope, State.serial_closeScope]
    exact h.serials
  serial := by
    rw [outline_concat, State.serial_closeScope]
    exact h.serial
  stack := by
    rw [outline_concat, State.map_scopes_closeScope, h.stack]
    rfl
  placed := by
    rw [outline_concat]
    exact h.placed.closeScope
  unclosed := by
    rw [State.reports_closeScope]
    exact h.unclosed

/-- A stray closing bracket is no bracket. -/
theorem stray (h : Follows family bs st) (hs : st.scopes = []) :
    Follows family (bs ++ [.closing]) st := by
  have hclosed := h.closeScope
  have hsame : st.closeScope = st := by
    unfold State.closeScope
    rw [hs]
  rwa [hsame] at hclosed

theorem turn {l : Line} {b : Option Bracket} (ht : Turn family l b st st')
    (h : Follows family bs st) : Follows family (bs ++ b.toList) st' := by
  cases ht with
  | aside hs =>
    rw [Option.toList_none, List.append_nil]
    exact h.sameScopes hs
  | opening label hs hid => exact (h.sameScopes hs).openScope label hid
  | closing =>
    unfold State.closeOrReport
    split
    · rename_i hs
      refine (h.stray (List.isEmpty_iff.1 hs)).sameScopes ?_
      exact .addReport st fun _ => rfl
    · exact h.closeScope

/-- Reading statements follows their brackets. -/
theorem foldl {σ : Type} {step : State → Line × σ → State} {bracket? : Line → σ → Option Bracket}
    (hstep : ∀ st l s, Turn family l (bracket? l s) st (step st (l, s))) (xs : List (Line × σ))
    (h : Follows family bs st) :
    Follows family (bs ++ xs.filterMap fun x => bracket? x.1 x.2) (xs.foldl step st) := by
  induction xs generalizing bs st with
  | nil =>
    rw [List.filterMap_nil, List.append_nil]
    exact h
  | cons x xs ih =>
    have hrest := ih (h.turn (hstep st x.1 x.2))
    rw [List.append_assoc] at hrest
    rw [List.filterMap_cons]
    cases hb : bracket? x.1 x.2 with
    | none =>
      rw [hb] at hrest
      exact hrest
    | some b =>
      rw [hb] at hrest
      exact hrest

end Follows

/-! ## The end -/

namespace State

/-- The report on a scope that is open at the end. -/
def unclosedReport (family : Family) (s : Scope) : Report Problem :=
  ⟨.unclosed family s.id, s.line, none⟩

theorem reports_closeAll (st : State) (family : Family) :
    (st.closeAll family).reports =
      st.reports ++ st.scopes.map fun f => unclosedReport family f.value := by
  -- The list that is folded over is the spine at the start, innermost scope first.
  have key : ∀ (fs : List (Frame Scope)) (st : State),
      (fs.foldl (closeUnclosed family) st).reports =
        st.reports ++ fs.map fun f => unclosedReport family f.value := by
    intro fs
    induction fs with
    | nil =>
      intro st
      exact (List.append_nil _).symm
    | cons f fs ih =>
      intro st
      have hone : (closeUnclosed family st f).reports =
          st.reports ++ [unclosedReport family f.value] := by
        unfold closeUnclosed
        rw [reports_closeScope]
        rfl
      rw [List.foldl_cons, ih, hone, List.append_assoc]
      rfl
  exact key st.scopes st

theorem allScopes_closeAll (st : State) (family : Family) :
    (st.closeAll family).allScopes = st.allScopes := by
  refine List.foldlRecOn (motive := fun st' : State => st'.allScopes = st.allScopes) st.scopes _ rfl ?_
  intro st' h f _
  exact (allScopes_closeScope _).trans h

end State

theorem Placed.closeAll {around : List (Option Nat)} {st : State} (h : Placed around st)
    (family : Family) : Placed around (st.closeAll family) := by
  refine List.foldlRecOn st.scopes _ h ?_
  intro st' h' f _
  refine Placed.closeScope ?_
  exact ⟨h'.top, h'.below, h'.spine⟩

/-- Where values are numbered in order, a value stands at its number. -/
theorem getElem?_serial {ss : List Scope} {n : Nat} (h : ss.map (·.serial) = List.range n)
    {s : Scope} (hs : s ∈ ss) : ss[s.serial]? = some s := by
  obtain ⟨i, hi, rfl⟩ := List.mem_iff_getElem.1 hs
  have hserial : (ss.map (·.serial))[i]? = some ss[i].serial := by
    rw [List.getElem?_map, List.getElem?_eq_getElem hi]
    rfl
  rw [h] at hserial
  obtain ⟨hlt, hval⟩ := List.getElem?_eq_some_iff.1 hserial
  rw [List.getElem_range] at hval
  rw [← hval, List.getElem?_eq_getElem hi]

/-! ## Graphs -/

/-- The subgraphs of a graph are what brackets say.  Those left open have been closed innermost
first, as the order of the warnings tells. -/
structure NestsAs (family : Family) (bs : List Bracket) (p : Parsed Graph) : Prop where
  /-- One subgraph for each opening, in order. -/
  opened : List.Forall₂ Opening.Fits (bs.filterMap Bracket.opening?)
    (p.diagram.allSubgraphs.map Tree.value)
  /-- Subgraphs are told by their number. -/
  serials : p.diagram.allSubgraphs.map (·.value.serial) = List.range p.diagram.allSubgraphs.length
  top : ∀ t ∈ p.diagram.subgraphs,
    t.value.parent = none ∧ (outline bs).around[t.value.serial]? = some none
  inner : ∀ t ∈ p.diagram.allSubgraphs, ∀ c ∈ t.children,
    c.value.parent = some t.value.id ∧
      (outline bs).around[c.value.serial]? = some (some t.value.serial)
  leftOpen : List.Forall₂
    (fun i d => ∃ t, p.diagram.allSubgraphs[i]? = some t ∧
      d = (State.unclosedReport family t.value).toDiagnostic)
    (outline bs).stack (p.diagnostics.filter (·.warns family.unclosedWords))

namespace State

theorem unclosed_undeclaredTargets (st : State) (family : Family) :
    unclosedReports family st.undeclaredTargets = [] := by
  refine List.filter_eq_nil_iff.2 ?_
  intro r hr
  obtain ⟨e, -, rfl⟩ := List.mem_map.1 hr
  exact Bool.false_ne_true

theorem unclosed_missingLinks (st : State) (family : Family) :
    unclosedReports family st.missingLinks = [] := by
  refine List.filter_eq_nil_iff.2 ?_
  intro r hr
  obtain ⟨e, -, rfl⟩ := List.mem_map.1 hr
  exact Bool.false_ne_true

/-- The warnings about unclosed scopes, in order. -/
theorem filter_warns_finish (st : State) (family : Family) :
    (st.finish family).diagnostics.filter (·.warns family.unclosedWords) =
      (unclosedReports family st.reports).map Report.toDiagnostic ++
        st.scopes.map fun f => (unclosedReport family f.value).toDiagnostic := by
  have hall : ∀ f ∈ st.scopes.map fun f => unclosedReport family f.value,
      f.problem.closesBlock family = true := by
    intro r hr
    obtain ⟨f, -, rfl⟩ := List.mem_map.1 hr
    exact beq_self_eq_true family
  have htargets := unclosed_undeclaredTargets (st.closeAll family) family
  have hlinks := unclosed_missingLinks (st.closeAll family) family
  unfold unclosedReports at htargets hlinks ⊢
  show List.filter _ (List.map _ _) = _
  rw [filter_warns (warns_toDiagnostic family), List.filter_append, List.filter_append, htargets,
    hlinks, List.append_nil, List.append_nil, reports_closeAll, List.filter_append,
    List.filter_eq_self.2 hall, List.map_append, List.map_map]
  rfl

end State

/-- The subgraphs of the finished graph are the scopes that are left when all have been closed. -/
theorem values_allSubgraphs_finish (st : State) (family : Family) :
    (st.finish family).diagram.allSubgraphs.map Tree.value = (st.closeAll family).allScopes := by
  unfold State.allScopes
  rw [State.scopes_closeAll, Frame.spineValues_nil, List.append_nil]
  exact Tree.map_value_walk _

theorem Follows.nestsAs {family : Family} {bs : List Bracket} {st : State}
    (h : Follows family bs st) : NestsAs family bs (st.finish family) := by
  have hvalues := values_allSubgraphs_finish st family
  rw [State.allScopes_closeAll] at hvalues
  have hplaced := h.placed.closeAll family
  refine ⟨?_, ?_, hplaced.top, ?_, ?_⟩
  · rw [hvalues]
    exact h.opened
  · have hserials := h.serials
    have hlength := congrArg List.length hserials
    rw [List.length_map, List.length_range, ← hvalues, List.length_map] at hlength
    rw [← hvalues, List.map_map, ← hlength] at hserials
    exact hserials
  · intro t ht
    have hforest : t ∈ Tree.forest (st.closeAll family).finished := by
      rw [← Tree.walk_eq_forest]
      exact ht
    exact hplaced.below t hforest
  · rw [State.filter_warns_finish, h.unclosed, List.map_nil, List.nil_append, ← h.stack]
    refine List.forall₂_map_left_iff.2 (List.forall₂_map_right_iff.2 (List.forall₂_same.2 ?_))
    intro f hf
    -- An open scope is the subgraph at its number.
    have hmem : f.value ∈ st.allScopes := by
      refine st.allScopes_perm.mem_iff.2 (List.mem_append_right _ ?_)
      exact List.mem_map_of_mem hf
    have hat := getElem?_serial h.serials hmem
    rw [← hvalues, List.getElem?_map] at hat
    obtain ⟨t, ht, hvalue⟩ := Option.map_eq_some_iff.1 hat
    exact ⟨t, ht, by rw [hvalue]⟩

/-! ## Flowcharts and state diagrams -/

/-- What lines are in terms of their statements, if that can be told from each line on its own. -/
theorem filterMap_of_readLines {σ β : Type} {read : String → Except Fault σ}
    {f : Line → σ → Option β} {g : Line → Option β} {ls : List Line} {xs : List (Line × σ)}
    (hg : ∀ l s, read l.text = .ok s → g l = f l s) (hx : readLines read ls = .ok xs) :
    xs.filterMap (fun x => f x.1 x.2) = ls.filterMap g := by
  have hlines := readLines_eq_ok_iff.1 hx
  clear hx
  induction hlines with
  | nil => rfl
  | @cons l x ls xs hl _ ih =>
    obtain ⟨rfl, hs⟩ := hl
    rw [List.filterMap_cons, List.filterMap_cons, ih, hg x.1 x.2 hs]

/-- The brackets in the lines below the header of a flowchart. -/
def flowchartBrackets (ls : List Line) : List Bracket := ls.tail.filterMap Flowchart.lineBracket?

/-- The brackets in the lines below the header of a state diagram; those of a note block are none. -/
def stateBrackets (ls : List Line) : List Bracket :=
  (StateChart.outsideNotes false ls.tail).1.filterMap StateChart.lineBracket?

theorem nestsAs_of_flowchart {ls : List Line} {direction : String} {p : Parsed Graph}
    (h : Flowchart.parse ls direction = .ok p) : NestsAs .flowchart (flowchartBrackets ls) p := by
  obtain ⟨xs, hx, h⟩ := bind_eq_ok_iff.1 h
  cases h
  have hstart : Follows .flowchart [] (Flowchart.start ls direction) :=
    (Follows.init direction).sameScopes (Flowchart.sameScopes_start ls direction)
  have hrun := hstart.foldl Flowchart.turn_step xs
  have hbrackets : xs.filterMap (fun x => x.2.bracket? x.1) = flowchartBrackets ls := by
    refine filterMap_of_readLines ?_ hx
    intro l s hs
    rw [Flowchart.lineBracket?, hs]
  rw [List.nil_append, hbrackets] at hrun
  exact hrun.nestsAs

theorem nestsAs_of_stateChart {ls : List Line} {p : Parsed Graph} (h : StateChart.parse ls = .ok p) :
    NestsAs .state (stateBrackets ls) p := by
  obtain ⟨xs, hx, h⟩ := bind_eq_ok_iff.1 h
  cases h
  have hrun := (Follows.init Direction.topDown.name).foldl StateChart.turn_step xs
  have hbrackets : xs.filterMap (fun x => x.2.bracket? x.1) = stateBrackets ls := by
    refine filterMap_of_readLines ?_ hx
    intro l s hs
    rw [StateChart.lineBracket?, hs]
  rw [List.nil_append, hbrackets] at hrun
  have hnote := StateChart.sameScopes_reportOpenNote
    (xs.foldl StateChart.step { direction := Direction.topDown.name })
    (StateChart.outsideNotes false ls.tail).2 ls
  exact (hrun.sameScopes hnote).nestsAs

/-- **Nesting.** The subgraphs of a flowchart or a state diagram are the scopes that its lines open,
one for each opening line and in order, each inside the innermost scope that was open then.  Scopes
left open are closed innermost first. -/
theorem subgraphs_follow_brackets (ls : List Line) (p : Parsed Graph) :
    (∀ direction, Flowchart.parse ls direction = .ok p →
      NestsAs .flowchart (flowchartBrackets ls) p) ∧
    (StateChart.parse ls = .ok p → NestsAs .state (stateBrackets ls) p) :=
  ⟨fun _ h => nestsAs_of_flowchart h, fun h => nestsAs_of_stateChart h⟩

/-- Two subgraphs inside one that is never closed, the second of them not closed either. -/
def openSubgraphs : List Line :=
  [⟨1, "graph TD", 0, 1⟩, ⟨2, "subgraph a", 0, 1⟩, ⟨3, "subgraph b", 0, 1⟩, ⟨4, "end", 0, 1⟩,
   ⟨5, "subgraph c", 0, 1⟩]

/-- A composite state inside another one, and a stray closer. -/
def closedComposites : List Line :=
  [⟨1, "stateDiagram", 0, 1⟩, ⟨2, "state a \x7b", 0, 1⟩, ⟨3, "state b \x7b", 0, 1⟩,
   ⟨4, "\x7d", 0, 1⟩, ⟨5, "\x7d", 0, 1⟩, ⟨6, "\x7d", 0, 1⟩]

theorem subgraphs_follow_brackets_openSubgraphs :
    (outline (flowchartBrackets openSubgraphs) = ⟨[none, some 0, some 0], [2, 0]⟩ ∧
      ∃ p, Flowchart.parse openSubgraphs "TD" = .ok p ∧
        p.diagram.allSubgraphs.map (fun t => (t.value.id, t.value.parent)) =
          [("a", none), ("b", some "a"), ("c", some "a")] ∧
        NestsAs .flowchart (flowchartBrackets openSubgraphs) p) ∧
    (outline (stateBrackets closedComposites) = ⟨[none, some 0], []⟩ ∧
      ∃ p, StateChart.parse closedComposites = .ok p ∧
        p.diagram.allSubgraphs.map (fun t => (t.value.id, t.value.parent)) =
          [("a", none), ("b", some "a")] ∧
        NestsAs .state (stateBrackets closedComposites) p) := by
  have hflowchart : ((Flowchart.parse openSubgraphs "TD").toOption.map fun p =>
      p.diagram.allSubgraphs.map fun t => (t.value.id, t.value.parent)) =
      some [("a", none), ("b", some "a"), ("c", some "a")] := by
    decide +kernel
  have hstate : ((StateChart.parse closedComposites).toOption.map fun p =>
      p.diagram.allSubgraphs.map fun t => (t.value.id, t.value.parent)) =
      some [("a", none), ("b", some "a")] := by
    decide +kernel
  obtain ⟨p, hp, hids⟩ := exists_ok_of_toOption hflowchart
  obtain ⟨q, hq, hids'⟩ := exists_ok_of_toOption hstate
  refine ⟨⟨by decide +kernel, p, hp, hids, ?_⟩, ⟨by decide +kernel, q, hq, hids', ?_⟩⟩
  · exact (subgraphs_follow_brackets openSubgraphs p).1 "TD" hp
  · exact (subgraphs_follow_brackets closedComposites q).2 hq

end DiagramText.ScopeGraph
