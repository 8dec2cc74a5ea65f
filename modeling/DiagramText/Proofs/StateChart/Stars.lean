import DiagramText.Proofs.Growth
import DiagramText.Proofs.ScopeGraph.FirstDeclaration
import DiagramText.Proofs.ScopeGraph.References

/-!
# Stars

A star in a transition stands for a state without a name, and is meant to have a node of its own.
The id of the node tells the side of the transition and the number of the star on that side, so two
stars never share an id.  Nothing keeps the id apart from those that the source writes, though: a
state that is written with it shares the node, and decides its shape if it is declared first.

1. `Side` and the ids of stars, which are injective (`Side.starId_inj`).
2. The stars among some statements, and the ids that the source writes.
3. What a step and a run do to the ends of the edges (`step_ends`, `foldl_step_ends`).
4. The places that declare the id of a star before it are written declarations.
5. `stars_apart_iff`: just the sources that write the id of a star mix it up with a state.
-/

namespace DiagramText.StateChart

open Source (Line)
open ScopeGraph (Shape State Naming declarations SameCounters)

/-! ## Ids of stars -/

/-- The sides of a transition. -/
inductive Side where
  | source
  | target
deriving Repr, DecidableEq

namespace Side

/-- What belongs to a side. -/
def pick {α : Type} : Side → α × α → α
  | .source, ends => ends.1
  | .target, ends => ends.2

/-- The role of a star on a side. -/
def role : Side → String
  | .source => "start"
  | .target => "end"

/-- The shape of the node of a star on a side. -/
def shape : Side → Shape
  | .source => .stateStart
  | .target => .stateEnd

/-- The id of a star behind `n` stars on the same side. -/
def starId (side : Side) (n : Nat) : String := starName side.role (n + 1)

end Side

theorem toList_starName (role : String) (n : Nat) :
    (starName role n).toList =
      '_' :: role.toList ++ if 1 < n then (toString n).toList else [] := by
  unfold starName
  split
  · simp [String.toList_append, toString]
  · simp [String.toList_append, toString]

theorem starName_succ_inj {role : String} {m n : Nat}
    (h : starName role (m + 1) = starName role (n + 1)) : m = n := by
  have hdigits := congrArg String.toList h
  rw [toList_starName, toList_starName, List.append_cancel_left_eq] at hdigits
  have hsome (k : Nat) : (toString (k + 1)).toList ≠ [] := by
    rw [Nat.toString_eq_ofList_toDigits, String.toList_ofList]
    exact Nat.toDigits_ne_nil
  split at hdigits <;> split at hdigits
  · exact Nat.succ_inj.1 (Text.toString_nat_injective (String.ext hdigits))
  · exact absurd hdigits (hsome m)
  · exact absurd hdigits.symm (hsome n)
  · omega

theorem Side.starId_inj {side side' : Side} {m n : Nat} :
    side.starId m = side'.starId n ↔ side = side' ∧ m = n := by
  constructor
  · intro h
    -- The second character tells the side.
    have hsecond := congrArg (fun s : String => s.toList[1]?) h
    simp only [starId, toList_starName] at hsecond
    cases side <;> cases side'
    · exact ⟨rfl, starName_succ_inj h⟩
    · cases hsecond
    · cases hsecond
    · exact ⟨rfl, starName_succ_inj h⟩
  · rintro ⟨rfl, rfl⟩
    rfl

/-! ## Stars among statements -/

/-- The statement on a line. -/
def lineStatement? (l : Line) : Option Statement := (Statement.recognise l.text).toOption

/-- The statements on the lines below the header, without those of note blocks. -/
def statementsOf (ls : List Line) : List Statement :=
  (outsideNotes false ls.tail).1.filterMap lineStatement?

/-- The ends of a transition. -/
def Statement.ends? : Statement → Option (Endpoint × Endpoint)
  | .transition source target _ => some (source, target)
  | _ => none

/-- What stands on a side of the transitions among some statements. -/
def Side.ends (side : Side) (ss : List Statement) : List Endpoint :=
  (ss.filterMap Statement.ends?).map side.pick

/-- The number of stars on a side among some statements. -/
def Side.stars (side : Side) (ss : List Statement) : Nat := (side.ends ss).count .star

/-- A star stands on a side of the statement with the given index. -/
def StarAt (ss : List Statement) (k : Nat) (side : Side) : Prop :=
  (ss[k]?.bind Statement.ends?).map side.pick = some .star

instance (ss : List Statement) (k : Nat) (side : Side) : Decidable (StarAt ss k side) :=
  inferInstanceAs (Decidable (_ = _))

/-- The ids of the states that some statements declare. -/
def declaredIds (ss : List Statement) : List String :=
  ss.flatMap fun
    | .declare id _ _ => [id]
    | _ => []

/-- The ids of the states that some statements declare, mention or open. -/
def writtenIds (ss : List Statement) : List String :=
  ss.flatMap fun
    | .openComposite id _ => [id]
    | s => s.ids

theorem mem_writtenIds_of_mem_declaredIds_take {ss : List Statement} {k : Nat} {id : String}
    (h : id ∈ declaredIds (ss.take k)) : id ∈ writtenIds ss := by
  obtain ⟨s, hs, hid⟩ := List.mem_flatMap.1 h
  refine List.mem_flatMap.2 ⟨s, List.mem_of_mem_take hs, ?_⟩
  cases s with
  | declare => exact hid
  | _ => cases hid

theorem Side.stars_append (side : Side) (ss ss' : List Statement) :
    side.stars (ss ++ ss') = side.stars ss + side.stars ss' := by
  simp only [stars, ends, List.filterMap_append, List.map_append, List.count_append]

theorem Side.stars_cons (side : Side) (s : Statement) (ss : List Statement) :
    side.stars (s :: ss) = (if StarAt [s] 0 side then 1 else 0) + side.stars ss := by
  rw [← List.singleton_append, stars_append]
  congr 1
  unfold stars ends StarAt
  cases hs : s.ends? with
  | none => simp [hs]
  | some ends => simp [hs, List.count_singleton]

/-- A star splits the statements into those before it, its own one and the others. -/
theorem StarAt.exists_split {ss : List Statement} {k : Nat} {side : Side} (h : StarAt ss k side) :
    ∃ source target label after, side.pick (source, target) = .star ∧
      ss = ss.take k ++ .transition source target label :: after := by
  obtain ⟨ends, hends, hstar⟩ := Option.map_eq_some_iff.1 h
  obtain ⟨s, hs, hends⟩ := Option.bind_eq_some_iff.1 hends
  obtain ⟨hk, hs⟩ := List.getElem?_eq_some_iff.1 hs
  have hsplit : ss = ss.take k ++ s :: ss.drop (k + 1) := by
    rw [← hs, ← List.drop_eq_getElem_cons hk, List.take_append_drop]
  cases s with
  | transition source target label =>
    cases hends
    exact ⟨source, target, label, _, hstar, hsplit⟩
  | _ => cases hends

theorem StarAt.stars_take_lt {ss : List Statement} {k : Nat} {side : Side} (h : StarAt ss k side) :
    side.stars (ss.take k) < side.stars ss := by
  obtain ⟨source, target, label, after, hstar, hsplit⟩ := h.exists_split
  have hcount := congrArg side.stars hsplit
  have hself : StarAt [.transition source target label] 0 side := congrArg some hstar
  rw [Side.stars_append, Side.stars_cons, if_pos hself] at hcount
  omega

/-- Stars on the same side are told apart by the number of those before them. -/
theorem StarAt.eq_of_stars_eq {ss : List Statement} {k k' : Nat} {side : Side}
    (h : StarAt ss k side) (h' : StarAt ss k' side)
    (hcount : side.stars (ss.take k) = side.stars (ss.take k')) : k = k' := by
  have before {i j : Nat} (hi : StarAt ss i side) (hij : i < j) :
      side.stars (ss.take i) < side.stars (ss.take j) := by
    have hstar : StarAt (ss.take j) i side := by
      unfold StarAt
      rw [List.getElem?_take_of_lt hij]
      exact hi
    have hlt := hstar.stars_take_lt
    rwa [List.take_take, Nat.min_eq_left (Nat.le_of_lt hij)] at hlt
  rcases Nat.lt_trichotomy k k' with hlt | heq | hlt
  · exact absurd hcount (Nat.ne_of_lt (before h hlt))
  · exact heq
  · exact absurd hcount.symm (Nat.ne_of_lt (before h' hlt))

/-- The stars on a side are numbered without gaps. -/
theorem exists_starAt {side : Side} {n : Nat} {ss : List Statement} (h : n < side.stars ss) :
    ∃ k, StarAt ss k side ∧ side.stars (ss.take k) = n := by
  induction ss generalizing n with
  | nil => cases h
  | cons s ss ih =>
    rw [Side.stars_cons] at h
    by_cases hstar : StarAt [s] 0 side
    · rw [if_pos hstar] at h
      cases n with
      | zero => exact ⟨0, hstar, rfl⟩
      | succ n =>
        have hrest : n < side.stars ss := by omega
        obtain ⟨k, hk, hcount⟩ := ih hrest
        refine ⟨k + 1, hk, ?_⟩
        rw [List.take_succ_cons, Side.stars_cons, if_pos hstar, hcount, Nat.add_comm]
    · rw [if_neg hstar, Nat.zero_add] at h
      obtain ⟨k, hk, hcount⟩ := ih h
      refine ⟨k + 1, hk, ?_⟩
      rw [List.take_succ_cons, Side.stars_cons, if_neg hstar, hcount, Nat.zero_add]

/-! ## Ends of edges -/

/-- The ids of ends on a side, behind `n` stars on that side. -/
def Side.idsFrom (side : Side) : (n : Nat) → List Endpoint → List String :=
  mapCounting .star fun n e => e.idAfter side.role n

/-- The ids on a side of edges. -/
def Side.edgeIds (side : Side) (es : List ScopeGraph.Edge) : List String :=
  es.map fun e => side.pick (e.source, e.target)

/-- The number of stars on a side so far. -/
def Side.counter (side : Side) (st : State) : Nat := side.pick (st.starts, st.ends)

theorem edges_readSource (st : State) (l : Line) (e : Endpoint) :
    (readSource st l e).1.edges = st.edges := by
  cases e with
  | star => exact State.edges_declare { st with starts := st.starts + 1 } _ _ _ _
  | state id => exact st.edges_mention id _ _

theorem edges_readTarget (st : State) (l : Line) (e : Endpoint) :
    (readTarget st l e).1.edges = st.edges := by
  cases e with
  | star => exact State.edges_declare { st with ends := st.ends + 1 } _ _ _ _
  | state id => exact st.edges_mention id _ _

theorem readSource_snd (st : State) (l : Line) (e : Endpoint) :
    (readSource st l e).2 = e.idAfter "start" st.starts := by
  cases e <;> rfl

theorem readTarget_snd (st : State) (l : Line) (e : Endpoint) :
    (readTarget st l e).2 = e.idAfter "end" st.ends := by
  cases e <;> rfl

theorem Endpoint.stars_eq_count (e : Endpoint) : e.stars = [e].count .star := by
  cases e <;> rfl

/-- What a statement does to the ids on a side of the edges and to the number of stars there. -/
theorem step_ends (side : Side) (st : State) (l : Line) (s : Statement) :
    side.edgeIds (step st (l, s)).edges =
        side.edgeIds st.edges ++ side.idsFrom (side.counter st) (side.ends [s]) ∧
      side.counter (step st (l, s)) = side.counter st + side.stars [s] := by
  -- Only a transition adds an edge.
  have plain {st' : State} (hedges : st'.edges = st.edges) (hcounters : SameCounters st st') :
      side.edgeIds st'.edges = side.edgeIds st.edges ++ [] ∧
        side.counter st' = side.counter st + 0 := by
    unfold Side.counter
    rw [hedges, hcounters.starts, hcounters.ends, List.append_nil]
    exact ⟨rfl, rfl⟩
  cases s with
  | directive d => exact plain (st.sameGraph_applyDirective l d).edges (.applyDirective st l d)
  | direction d => exact plain (st.edges_setDirection d) (.setDirection st d)
  | openComposite id label => exact plain rfl ⟨rfl, rfl, rfl⟩
  | close => exact plain (st.edges_closeOrReport .state l) (.closeOrReport st .state l)
  | separator => exact plain rfl (.refl st)
  | note kind => exact plain rfl (.refl st)
  | declare id label shape =>
    exact plain (st.edges_declare id label shape l.number) (.declare st id label shape l.number)
  | transition source target label =>
    obtain ⟨-, hstarts, hends⟩ := enrols_readSource st l source
    obtain ⟨-, hstarts', hends'⟩ := enrols_readTarget (readSource st l source).1 l target
    have hedges : (step st (l, .transition source target label)).edges =
        st.edges ++ [⟨source.idAfter "start" st.starts, target.idAfter "end" st.ends, .solidArrow,
          label, .solid, false, true, l.number⟩] := by
      have hkept := (edges_readTarget (readSource st l source).1 l target).trans
        (edges_readSource st l source)
      have htarget := readTarget_snd (readSource st l source).1 l target
      rw [hends] at htarget
      show (readTarget (readSource st l source).1 l target).1.edges ++
        [⟨(readSource st l source).2, (readTarget (readSource st l source).1 l target).2,
          .solidArrow, label, .solid, false, true, l.number⟩] = _
      rw [hkept, readSource_snd, htarget]
    have hcounters : (step st (l, .transition source target label)).starts =
          st.starts + [source].count .star ∧
        (step st (l, .transition source target label)).ends = st.ends + [target].count .star := by
      rw [← Endpoint.stars_eq_count, ← Endpoint.stars_eq_count, ← hends]
      exact ⟨hstarts'.trans hstarts, hends'⟩
    unfold Side.counter Side.edgeIds
    rw [hedges, hcounters.1, hcounters.2, List.map_append]
    cases side <;> exact ⟨rfl, rfl⟩
  | mention id =>
    exact plain (st.edges_mention id .rounded l.number) (.mention st id .rounded l.number)
  | unrecognised => exact plain rfl ⟨rfl, rfl, rfl⟩

theorem foldl_step_ends (side : Side) (xs : List (Line × Statement)) (st : State) :
    side.edgeIds (xs.foldl step st).edges =
      side.edgeIds st.edges ++ side.idsFrom (side.counter st) (side.ends (xs.map (·.2))) := by
  induction xs generalizing st with
  | nil => exact (List.append_nil _).symm
  | cons x xs ih =>
    obtain ⟨hids, hcounter⟩ := step_ends side st x.1 x.2
    have hends : side.ends ((x :: xs).map (·.2)) = side.ends [x.2] ++ side.ends (xs.map (·.2)) := by
      unfold Side.ends
      rw [← List.map_append, ← List.filterMap_append]
      rfl
    rw [List.foldl_cons, ih, hids, hcounter, hends, Side.idsFrom, mapCounting_append, List.append_assoc]
    rfl

theorem ends_of_parse (side : Side) {ls : List Line} {p : Parsed ScopeGraph.Graph}
    (h : parse ls = .ok p) :
    side.edgeIds p.diagram.edges = side.idsFrom 0 (side.ends (statementsOf ls)) := by
  obtain ⟨xs, hx, h⟩ := bind_eq_ok_iff.1 h
  cases h
  have hstatements : xs.map (·.2) = statementsOf ls := by
    rw [← List.filterMap_eq_map]
    refine ScopeGraph.filterMap_of_readLines (f := fun _ s => some s) ?_ hx
    intro l s hs
    rw [lineStatement?, hs]
    rfl
  have hids := foldl_step_ends side xs { direction := Direction.topDown.name }
  have hnote := (sameGraph_reportOpenNote (xs.foldl step { direction := Direction.topDown.name })
    (outsideNotes false ls.tail).2 ls).edges
  show side.edgeIds (State.closeAll _ _).edges = _
  rw [State.edges_closeAll, hnote, hids, hstatements]
  cases side <;> rfl

/-! ## Places that declare -/

theorem shape_of_pseudo? {s id : List Char} {shape : Shape} (h : pseudo? s = some (id, shape)) :
    ∀ side : Side, shape ≠ side.shape := by
  simp only [pseudo?, Option.bind_eq_bind, Option.bind_eq_some_iff] at h
  obtain ⟨_, -, _, -, _, -, _, -, h⟩ := h
  obtain ⟨⟨word, shape'⟩, hword, h⟩ := List.exists_of_findSome?_eq_some h
  simp only [Option.bind_eq_some_iff, Option.ite_none_right_eq_some, Option.some.injEq,
    Prod.mk.injEq] at h
  obtain ⟨_, -, _, -, -, -, rfl⟩ := h
  have hshape : shape' = .decision ∨ shape' = .rectangle := by
    simp only [List.mem_cons, Prod.mk.injEq, List.not_mem_nil, or_false] at hword
    tauto
  rintro (_ | _) rfl <;> rcases hshape with h | h <;> cases h

/-- A state that is declared has neither of the shapes of stars. -/
def Statement.DeclaresNoStar (s : Statement) : Prop :=
  ∀ id label shape, s = .declare id label shape → ∀ side : Side, shape ≠ side.shape

theorem declaresNoStar_of_plain? (s : List Char) :
    ∀ t, Statement.plain? s = some t → t.DeclaresNoStar := by
  have rounded (id label : String) : (Statement.declare id label .rounded).DeclaresNoStar := by
    rintro _ _ _ heq (_ | _) rfl <;> cases heq
  unfold Statement.plain?
  repeat' apply forall_of_orElse
  · exact forall_of_map fun _ _ _ _ _ heq => by cases heq
  · exact forall_of_map fun _ _ _ _ _ heq => by cases heq
  · intro t ht _ _ _ heq
    split at ht <;> cases ht
    cases heq
  · intro t ht _ _ _ heq
    split at ht <;> cases ht
    cases heq
  · exact forall_of_map fun _ _ _ _ _ heq => by cases heq
  · exact forall_of_map fun _ _ => rounded _ _
  · refine forall_of_map fun _ h _ _ _ heq => ?_
    cases heq
    exact shape_of_pseudo? h
  · exact forall_of_map fun _ _ _ _ _ heq => by cases heq
  · exact forall_of_map fun _ _ => rounded _ _
  · exact forall_of_map fun _ _ _ _ _ heq => by cases heq

theorem declaresNoStar_of_recognise {text : String} {s : Statement}
    (h : Statement.recognise text = .ok s) : s.DeclaresNoStar := by
  obtain ⟨d, -, h⟩ := bind_eq_ok_iff.1 h
  cases d with
  | some d =>
    cases h
    intro _ _ _ heq
    cases heq
  | none =>
    cases h
    cases hplain : Statement.plain? text.toList with
    | none =>
      intro _ _ _ heq
      cases heq
    | some t => exact declaresNoStar_of_plain? _ t hplain

theorem lineStatement?_of_recognise {l : Line} {s : Statement}
    (h : Statement.recognise l.text = .ok s) : lineStatement? l = some s := by
  rw [lineStatement?, h]
  rfl

theorem recognise_of_lineStatement? {l : Line} {s : Statement} (h : lineStatement? l = some s) :
    Statement.recognise l.text = .ok s := by
  unfold lineStatement? at h
  cases hs : Statement.recognise l.text with
  | error fault =>
    rw [hs] at h
    cases h
  | ok s' =>
    rw [hs] at h
    cases h
    rfl

theorem filterMap_lineStatement?_cons (l : Line) (ls : List Line) :
    (l :: ls).filterMap lineStatement? =
      (lineStatement? l).toList ++ ls.filterMap lineStatement? := by
  rw [List.filterMap_cons]
  cases lineStatement? l <;> rfl

/-- If a place declares, then it is a written declaration, or a star that comes behind fewer stars
than there are. -/
def Accounted (counts : Nat × Nat) (ss : List Statement) (x : Naming) : Prop :=
  ∀ f, x.form = some f →
    (x.id ∈ declaredIds ss ∧ ∀ side : Side, f.2 ≠ side.shape) ∨
      ∃ (side : Side) (n : Nat), x.id = side.starId n ∧ n < side.pick counts + side.stars ss

theorem Accounted.append {counts counts' : Nat × Nat} {ss : List Statement} {x : Naming}
    (h : Accounted counts' ss x) {ss' : List Statement}
    (hcounts : ∀ side : Side, side.pick counts' ≤ side.pick counts + side.stars ss') :
    Accounted counts (ss' ++ ss) x := by
  intro f hf
  rcases h f hf with ⟨hid, hshape⟩ | ⟨side, n, hid, hn⟩
  · refine .inl ⟨?_, hshape⟩
    unfold declaredIds at hid ⊢
    rw [List.flatMap_append]
    exact List.mem_append_right _ hid
  · refine .inr ⟨side, n, hid, ?_⟩
    have hcount := hcounts side
    rw [Side.stars_append]
    omega

/-- The star at an end of a transition comes behind those counted before. -/
theorem accounted_naming {counts : Nat × Nat} {source target : Endpoint} {label : Option String}
    (side : Side) (line : Int) (ss : List Statement) :
    Accounted counts (.transition source target label :: ss)
      ((side.pick (source, target)).naming side.role side.shape (side.pick counts) line) := by
  intro f hf
  have hend : side.pick (source, target) = .star := by
    cases hend : side.pick (source, target) with
    | star => rfl
    | state id =>
      rw [hend] at hf
      cases hf
  have hstar : StarAt [.transition source target label] 0 side := congrArg some hend
  refine .inr ⟨side, side.pick counts, ?_, ?_⟩
  · rw [hend]
    rfl
  · rw [Side.stars_cons, if_pos hstar]
    omega

theorem accounted_of_mem_namingsFrom {starts ends : Nat} {ls : List Line} {x : Naming}
    (hx : x ∈ namingsFrom starts ends ls) :
    Accounted (starts, ends) (ls.filterMap lineStatement?) x := by
  fun_induction namingsFrom starts ends ls with
  | case1 => cases hx
  | case2 starts ends l ls id label shape hs ih =>
    rw [filterMap_lineStatement?_cons]
    rcases List.mem_cons.1 hx with rfl | hx
    · intro f hf
      cases hf
      rw [lineStatement?_of_recognise hs]
      exact .inl ⟨List.mem_cons_self, declaresNoStar_of_recognise hs _ _ _ rfl⟩
    · exact (ih hx).append fun _ => Nat.le_add_right _ _
  | case3 starts ends l ls id hs ih =>
    rw [filterMap_lineStatement?_cons]
    rcases List.mem_cons.1 hx with rfl | hx
    · intro f hf
      cases hf
    · exact (ih hx).append fun _ => Nat.le_add_right _ _
  | case4 starts ends l ls source target label hs ih =>
    rw [filterMap_lineStatement?_cons, lineStatement?_of_recognise hs]
    rcases List.mem_cons.1 hx with rfl | hx
    · exact accounted_naming .source _ _
    · rcases List.mem_cons.1 hx with rfl | hx
      · exact accounted_naming .target _ _
      · refine (ih hx).append fun side => ?_
        rw [Endpoint.stars_eq_count, Endpoint.stars_eq_count]
        cases side <;> exact Nat.le_refl _
  | case5 starts ends l ls _ _ _ ih =>
    rw [filterMap_lineStatement?_cons]
    exact (ih hx).append fun _ => Nat.le_add_right _ _

/-- Every written declaration is a place that declares. -/
theorem exists_mem_namingsFrom {starts ends : Nat} {ls : List Line} {id : String}
    (h : id ∈ declaredIds (ls.filterMap lineStatement?)) :
    ∃ x ∈ namingsFrom starts ends ls, x.id = id ∧ x.form.isSome := by
  fun_induction namingsFrom starts ends ls with
  | case1 => cases h
  | case2 starts ends l ls id' label shape hs ih =>
    rw [filterMap_lineStatement?_cons, lineStatement?_of_recognise hs] at h
    rcases List.mem_cons.1 h with rfl | h
    · exact ⟨_, List.mem_cons_self, rfl, rfl⟩
    · obtain ⟨x, hx, hid⟩ := ih h
      exact ⟨x, List.mem_cons_of_mem _ hx, hid⟩
  | case3 starts ends l ls id' hs ih =>
    rw [filterMap_lineStatement?_cons, lineStatement?_of_recognise hs] at h
    obtain ⟨x, hx, hid⟩ := ih h
    exact ⟨x, List.mem_cons_of_mem _ hx, hid⟩
  | case4 starts ends l ls source target label hs ih =>
    rw [filterMap_lineStatement?_cons, lineStatement?_of_recognise hs] at h
    obtain ⟨x, hx, hid⟩ := ih h
    exact ⟨x, List.mem_cons_of_mem _ (List.mem_cons_of_mem _ hx), hid⟩
  | case5 starts ends l ls hdeclare hmention htransition ih =>
    apply ih
    rw [filterMap_lineStatement?_cons] at h
    cases hs : Statement.recognise l.text with
    | error fault =>
      rw [lineStatement?, hs] at h
      exact h
    | ok s =>
      rw [lineStatement?_of_recognise hs] at h
      cases s with
      | declare id label shape => exact (hdeclare id label shape hs).elim
      | _ => exact h

/-- The lines behind others name states behind the stars of those. -/
theorem namingsFrom_append (starts ends : Nat) (ls more : List Line) :
    namingsFrom starts ends (ls ++ more) = namingsFrom starts ends ls ++
      namingsFrom (starts + Side.source.stars (ls.filterMap lineStatement?))
        (ends + Side.target.stars (ls.filterMap lineStatement?)) more := by
  induction ls generalizing starts ends with
  | nil => rfl
  | cons l ls ih =>
    rw [filterMap_lineStatement?_cons, Side.stars_append, Side.stars_append, ← Nat.add_assoc,
      ← Nat.add_assoc, List.cons_append, namingsFrom, namingsFrom]
    cases hs : Statement.recognise l.text with
    | error fault =>
      have hline : lineStatement? l = none := by rw [lineStatement?, hs]; rfl
      rw [hline]
      exact ih starts ends
    | ok s =>
      rw [lineStatement?_of_recognise hs]
      cases s with
      | declare id label shape => exact congrArg (List.cons _) (ih starts ends)
      | mention id => exact congrArg (List.cons _) (ih starts ends)
      | transition source target label =>
        dsimp only
        rw [Endpoint.stars_eq_count, Endpoint.stars_eq_count]
        exact congrArg (List.cons _) (congrArg (List.cons _) (ih _ _))
      | _ => exact ih starts ends

/-- A star is one of the places where states are named.  The places before it that declare its id
are written declarations, and there are some if it is declared before. -/
theorem StarAt.exists_naming {ls : List Line} {k : Nat} {side : Side}
    (h : StarAt (statementsOf ls) k side) :
    let ss := (statementsOf ls).take k
    let id := side.starId (side.stars ss)
    ∃ before line after,
      namings ls = before ++ ⟨id, some ("", side.shape), line⟩ :: after ∧
        (∀ x ∈ before, x.id = id → ∀ f, x.form = some f →
          id ∈ declaredIds ss ∧ f.2 ≠ side.shape) ∧
        (id ∈ declaredIds ss → ∃ x ∈ before, x.id = id ∧ x.form.isSome) := by
  obtain ⟨source, target, label, after, hstar, hsplit⟩ := h.exists_split
  obtain ⟨lines, rest, hlines, hbefore, hrest⟩ := List.filterMap_eq_append_iff.1 hsplit
  obtain ⟨skipped, l, rest, rfl, hskipped, hl, -⟩ := List.filterMap_eq_cons_iff.1 hrest
  have hstatements : (lines ++ skipped).filterMap lineStatement? = (statementsOf ls).take k := by
    rw [List.filterMap_append, hbefore, List.filterMap_eq_nil_iff.2 hskipped, List.append_nil]
  have hs : Statement.recognise l.text = .ok (.transition source target label) :=
    recognise_of_lineStatement? hl
  have hnamings := namingsFrom_append 0 0 (lines ++ skipped) (l :: rest)
  rw [hstatements, List.append_assoc, ← hlines, namingsFrom, hs, Nat.zero_add, Nat.zero_add]
    at hnamings
  generalize hss : (statementsOf ls).take k = ss at hstatements hnamings
  have hfront : ∀ x ∈ namingsFrom 0 0 (lines ++ skipped), x.id = side.starId (side.stars ss) →
      ∀ f, x.form = some f → side.starId (side.stars ss) ∈ declaredIds ss ∧ f.2 ≠ side.shape := by
    intro x hx hid f hf
    rcases accounted_of_mem_namingsFrom hx f hf with ⟨hdeclared, hshape⟩ | ⟨side', n, hid', hn⟩
    · rw [hstatements, hid] at hdeclared
      exact ⟨hdeclared, hshape side⟩
    · obtain ⟨rfl, rfl⟩ := Side.starId_inj.1 (hid.symm.trans hid')
      have hzero : side.pick (0, 0) = 0 := by cases side <;> rfl
      rw [hstatements, hzero, Nat.zero_add] at hn
      exact (Nat.lt_irrefl _ hn).elim
  have hplace (hdeclared : side.starId (side.stars ss) ∈ declaredIds ss) :
      ∃ x ∈ namingsFrom 0 0 (lines ++ skipped),
        x.id = side.starId (side.stars ss) ∧ x.form.isSome := by
    apply exists_mem_namingsFrom
    rw [hstatements]
    exact hdeclared
  cases side with
  | source =>
    cases hstar
    exact ⟨_, _, _, hnamings, hfront, hplace⟩
  | target =>
    cases hstar
    -- The source of the same transition is named between, and declares nothing of this id.
    dsimp only at hnamings
    rw [List.append_cons] at hnamings
    refine ⟨_, _, _, hnamings, ?_, ?_⟩
    · intro x hx hid f hf
      rcases List.mem_append.1 hx with hx | hx
      · exact hfront x hx hid f hf
      · rw [List.mem_singleton.1 hx] at hid hf
        cases source with
        | star =>
          replace hid : Side.source.starId _ = Side.target.starId _ := hid
          cases (Side.starId_inj.1 hid).1
        | state id => cases hf
    · intro hdeclared
      obtain ⟨x, hx, hid⟩ := hplace hdeclared
      exact ⟨x, List.mem_append_left _ hx, hid⟩

/-- The node of a star has the shape of its side just if no declaration before it has its id. -/
theorem StarAt.shape_eq_iff {ls : List Line} {k : Nat} {side : Side}
    (h : StarAt (statementsOf ls) k side) {id : String}
    (hid : id = side.starId (side.stars ((statementsOf ls).take k))) {n : ScopeGraph.Node}
    {warned : List Int} (hn : n.FirstWins .rounded warned ((namings ls).filter (·.id == id))) :
    n.shape = side.shape ↔ id ∉ declaredIds ((statementsOf ls).take k) := by
  obtain ⟨before, line, after, hnamings, hbefore, hplace⟩ := h.exists_naming
  rw [← hid] at hnamings hbefore hplace
  have hdeclarations : declarations ((namings ls).filter (·.id == id)) =
      declarations (before.filter (·.id == id)) ++
        ⟨"", side.shape, line⟩ :: declarations (after.filter (·.id == id)) := by
    have hself : (id == id) = true := beq_self_eq_true id
    simp only [declarations, hnamings, List.filter_append, List.filter_cons, hself, if_true,
      List.filterMap_append, List.filterMap_cons, Option.map_some]
  have hform := hn.form
  rw [hdeclarations] at hform
  cases hfront : declarations (before.filter (·.id == id)) with
  | nil =>
    rw [hfront] at hform
    refine ⟨fun _ hdeclared => ?_, fun _ => hform.2.1⟩
    obtain ⟨x, hx, hxid, hsome⟩ := hplace hdeclared
    obtain ⟨f, hf⟩ := Option.isSome_iff_exists.1 hsome
    have hnone := List.filterMap_eq_nil_iff.1 hfront x
      (List.mem_filter.2 ⟨hx, beq_iff_eq.2 hxid⟩)
    rw [hf] at hnone
    cases hnone
  | cons d later =>
    rw [hfront] at hform
    obtain ⟨x, hx, hd⟩ := List.mem_filterMap.1 (hfront ▸ List.mem_cons_self : d ∈ _)
    obtain ⟨hx, hxid⟩ := List.mem_filter.1 hx
    obtain ⟨f, hf, rfl⟩ := Option.map_eq_some_iff.1 hd
    obtain ⟨hdeclared, hshape⟩ := hbefore x hx (beq_iff_eq.1 hxid) f hf
    exact ⟨fun h => absurd (hform.2.1.symm.trans h) hshape, fun h => absurd hdeclared h⟩

/-! ## The law -/

/-- The id on a side of the edge of the statement with the given index. -/
def endId? (ss : List Statement) (g : ScopeGraph.Graph) (k : Nat) (side : Side) : Option String :=
  (g.edges[((ss.take k).filterMap Statement.ends?).length]?).map fun e =>
    side.pick (e.source, e.target)

/-- Every star has an id of its own, which no state of the source has, and its node has the shape of
its side. -/
structure StarsApart (ss : List Statement) (g : ScopeGraph.Graph) : Prop where
  distinct : ∀ k k' side side', StarAt ss k side → StarAt ss k' side' →
    endId? ss g k side = endId? ss g k' side' → k = k' ∧ side = side'
  unwritten : ∀ k side id, StarAt ss k side → endId? ss g k side = some id → id ∉ writtenIds ss
  shaped : ∀ k side, StarAt ss k side →
    ∃ id n, endId? ss g k side = some id ∧ g.nodes.get? id = some n ∧ n.shape = side.shape

section

variable {ls : List Line} {p : Parsed ScopeGraph.Graph} {k k' : Nat} {side side' : Side}

theorem StarAt.endId?_eq (hstar : StarAt (statementsOf ls) k side) (h : parse ls = .ok p) :
    endId? (statementsOf ls) p.diagram k side =
      some (side.starId (side.stars ((statementsOf ls).take k))) := by
  obtain ⟨source, target, label, after, hend, hsplit⟩ := hstar.exists_split
  have hends : side.ends (statementsOf ls) =
      side.ends ((statementsOf ls).take k) ++ .star :: side.ends after := by
    conv_lhs => rw [hsplit]
    simp [Side.ends, Statement.ends?, hend]
  have hlength : (((statementsOf ls).take k).filterMap Statement.ends?).length =
      (side.ends ((statementsOf ls).take k)).length := by
    rw [Side.ends, List.length_map]
  unfold endId?
  rw [← List.getElem?_map]
  show (side.edgeIds p.diagram.edges)[_]? = _
  rw [ends_of_parse side h, Side.idsFrom, getElem?_mapCounting, hlength, hends,
    List.getElem?_append_right (Nat.le_refl _), Nat.sub_self, List.take_left, Nat.zero_add]
  rfl

theorem exists_mem_edges_of_endId? {ss : List Statement} {g : ScopeGraph.Graph} {id : String}
    (h : endId? ss g k side = some id) : ∃ e ∈ g.edges, side.pick (e.source, e.target) = id := by
  obtain ⟨e, he, hid⟩ := Option.map_eq_some_iff.1 h
  exact ⟨e, List.mem_of_getElem? he, hid⟩

theorem StarAt.exists_node (hstar : StarAt (statementsOf ls) k side) (h : parse ls = .ok p) :
    ∃ n, p.diagram.nodes.get? (side.starId (side.stars ((statementsOf ls).take k))) = some n ∧
      (n.shape = side.shape ↔ side.starId (side.stars ((statementsOf ls).take k)) ∉
        declaredIds ((statementsOf ls).take k)) := by
  obtain ⟨e, he, hid⟩ := exists_mem_edges_of_endId? (hstar.endId?_eq h)
  obtain ⟨hsource, htarget⟩ := (ScopeGraph.closed_of_stateChart h).edges e he
  have hkey : side.pick (e.source, e.target) ∈ p.diagram.nodes.keys := by
    cases side with
    | source => exact hsource
    | target => exact htarget
  rw [hid] at hkey
  obtain ⟨n, hn⟩ := OrderedMap.mem_keys_iff.1 hkey
  exact ⟨n, hn, hstar.shape_eq_iff rfl (namesFirst_of_parse h _ n hn).2⟩

theorem StarAt.eq_of_endId?_eq (hstar : StarAt (statementsOf ls) k side)
    (hstar' : StarAt (statementsOf ls) k' side') (h : parse ls = .ok p)
    (hid : endId? (statementsOf ls) p.diagram k side =
      endId? (statementsOf ls) p.diagram k' side') : k = k' ∧ side = side' := by
  rw [hstar.endId?_eq h, hstar'.endId?_eq h, Option.some.injEq] at hid
  obtain ⟨rfl, hcount⟩ := Side.starId_inj.1 hid
  exact ⟨hstar.eq_of_stars_eq hstar' hcount, rfl⟩

/-- **Stars.** A star of a state diagram has an id that tells its side and its number there, so all
stars have different ids.  Its node has the shape of its side unless a declaration before it has the
same id.  All in all the stars are kept apart from each other and from the states of the source just
if the source writes no id of a star. -/
theorem stars_apart_iff (h : parse ls = .ok p) :
    let ss := statementsOf ls
    let g := p.diagram
    g.edges.length = (ss.filterMap Statement.ends?).length ∧
      (∀ k side, StarAt ss k side →
        endId? ss g k side = some (side.starId (side.stars (ss.take k))) ∧
          ∃ n, g.nodes.get? (side.starId (side.stars (ss.take k))) = some n ∧
            (n.shape = side.shape ↔
              side.starId (side.stars (ss.take k)) ∉ declaredIds (ss.take k))) ∧
      (∀ k k' side side', StarAt ss k side → StarAt ss k' side' →
        endId? ss g k side = endId? ss g k' side' → k = k' ∧ side = side') ∧
      (StarsApart ss g ↔
        ∀ (side : Side) (n : Nat), n < side.stars ss → side.starId n ∉ writtenIds ss) := by
  dsimp only
  have hdistinct : ∀ k k' side side', StarAt (statementsOf ls) k side →
      StarAt (statementsOf ls) k' side' →
      endId? (statementsOf ls) p.diagram k side = endId? (statementsOf ls) p.diagram k' side' →
      k = k' ∧ side = side' :=
    fun _ _ _ _ hstar hstar' hid => hstar.eq_of_endId?_eq hstar' h hid
  refine ⟨?_, fun k side hstar => ⟨hstar.endId?_eq h, hstar.exists_node h⟩, hdistinct, ?_⟩
  · have hlength := congrArg List.length (ends_of_parse .source h)
    rwa [Side.idsFrom, length_mapCounting, Side.ends, Side.edgeIds, List.length_map, List.length_map]
      at hlength
  · constructor
    · intro hapart side n hn
      obtain ⟨k, hstar, rfl⟩ := exists_starAt hn
      exact hapart.unwritten k side _ hstar (hstar.endId?_eq h)
    · intro hunwritten
      refine ⟨hdistinct, ?_, ?_⟩
      · intro k side id hstar hid
        rw [hstar.endId?_eq h] at hid
        cases hid
        exact hunwritten side _ hstar.stars_take_lt
      · intro k side hstar
        obtain ⟨n, hn, hshape⟩ := hstar.exists_node h
        refine ⟨_, n, hstar.endId?_eq h, hn, hshape.2 fun hdeclared => ?_⟩
        exact hunwritten side _ hstar.stars_take_lt
          (mem_writtenIds_of_mem_declaredIds_take hdeclared)

end

/-- A chart with stars on both sides, which writes the id of a start that it does not have. -/
def shuttle : List Line :=
  [⟨1, "stateDiagram", 0, 1⟩, ⟨2, "[*] --> _start2", 0, 1⟩, ⟨3, "_start2 --> [*]", 0, 1⟩,
   ⟨4, "Idle --> [*]", 0, 1⟩]

theorem stars_apart_iff_shuttle :
    ∃ p, parse shuttle = .ok p ∧ StarsApart (statementsOf shuttle) p.diagram ∧
      endId? (statementsOf shuttle) p.diagram 2 .target = some "_end2" := by
  have hrun : ((parse shuttle).toOption.map fun _ => ()) = some () := by decide +kernel
  obtain ⟨p, hp, -⟩ := exists_ok_of_toOption hrun
  obtain ⟨-, hstars, -, hapart⟩ := stars_apart_iff hp
  have hfree : ∀ side ∈ [Side.source, Side.target], ∀ n < side.stars (statementsOf shuttle),
      side.starId n ∉ writtenIds (statementsOf shuttle) := by
    decide +kernel
  refine ⟨p, hp, hapart.2 fun side => hfree side (by cases side <;> decide), ?_⟩
  exact (hstars 2 .target (by decide +kernel)).1

/-- A state that has the id of a start, and is described before the start stands. -/
def warmUp : List Line :=
  [⟨1, "stateDiagram", 0, 1⟩, ⟨2, "_start : Warming up", 0, 1⟩, ⟨3, "[*] --> Idle", 0, 1⟩]

/-- Not in every state diagram does each star have a node of its own. -/
theorem warmUp_shares_start :
    ¬ ∀ ls p, parse ls = .ok p → StarsApart (statementsOf ls) p.diagram := by
  intro hall
  have hrun : ((parse warmUp).toOption.map fun p =>
      endId? (statementsOf warmUp) p.diagram 1 .source) = some (some "_start") := by
    decide +kernel
  obtain ⟨p, hp, hid⟩ := exists_ok_of_toOption hrun
  refine (hall warmUp p hp).unwritten 1 .source "_start" (by decide +kernel) hid ?_
  decide +kernel

end DiagramText.StateChart
