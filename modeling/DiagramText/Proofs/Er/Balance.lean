import DiagramText.Proofs.Balance
import DiagramText.Proofs.Wording

/-!
# Balance of entity bodies

The body of an entity ends at its closer, at a relationship, or at the end of the source.
-/

namespace DiagramText.Er

open Source (Line)

/-- What a statement does to the blocks, if a body is open or not. -/
def Statement.marks (inBody : Bool) : Statement → List (BlockMark Unit)
  | .close => [.closer]
  | .relationship _ => if inBody then [.implicit] else []
  | .entity d => if !inBody && d.opens then [.opening ()] else []
  | .invalidRelationship | .unrecognised => []

namespace State

/-- The open body, and the warnings about unclosed ones. -/
def tally (st : State) : Tally Unit :=
  { isOpen := st.body.toList.map fun b => ((), b.line)
    warned := reportLines Problem.closesBlock st.reports }

theorem tally_reportAll (st : State) (l : Line) {ps : List Problem}
    (h : ∀ p ∈ ps, p.closesBlock = false) : (st.reportAll l ps).tally = st.tally := by
  have hlines : reportLines Problem.closesBlock (ps.map l.report) = [] := by
    refine reportLines_of_false ?_
    intro r hr
    obtain ⟨p, hp, rfl⟩ := List.mem_map.1 hr
    exact h p hp
  unfold tally reportAll
  rw [reportLines_append, hlines, List.append_nil]

theorem closesBlock_linkProblems (k : Link) : ∀ p ∈ linkProblems k, p.closesBlock = false := by
  obtain ⟨entity1, entity2, mark1, mark2, identifying, label⟩ := k
  cases mark1 <;> cases mark2 <;> cases label <;> simp [linkProblems, Problem.closesBlock]

theorem tally_relate (st : State) (l : Line) (k : Link) : (st.relate l k).tally = st.tally :=
  st.tally_reportAll l (closesBlock_linkProblems k)

theorem tally_addAttribute (st : State) (l : Line) (id : String) :
    (st.addAttribute l id).tally = st.tally := by
  unfold addAttribute
  split
  · refine st.tally_reportAll l ?_
    intro p hp
    obtain rfl := List.mem_singleton.1 hp
    rfl
  · refine st.tally_reportAll l ?_
    intro p hp
    obtain ⟨w, -, rfl⟩ := List.mem_map.1 hp
    rfl

theorem tally_declare (st : State) (l : Line) (d : Declaration) (h : st.body = none) :
    (st.declare l d).tally =
      (if !false && d.opens then [.opening ()] else []).foldl (Tally.enter l.number) st.tally := by
  have hbody : (st.declare l d).body = if d.opens then some ⟨d.id, l.number⟩ else none := by
    show (if d.opens then _ else st.body) = _
    rw [h]
  unfold tally
  rw [hbody, h]
  cases d.opens <;> rfl

theorem tally_step (st : State) (l : Line) :
    (st.step l).tally = ((Statement.recognise l.text).marks st.body.isSome).foldl
      (Tally.enter l.number) st.tally := by
  unfold step
  cases hb : st.body with
  | none =>
    have hnone : st.tally.isOpen = [] := by
      unfold tally
      rw [hb]
      rfl
    have hreport (p : Problem) (hp : p.closesBlock = false) :
        (st.reportAll l [p]).tally = st.tally :=
      st.tally_reportAll l (by simpa using hp)
    cases Statement.recognise l.text with
    | close =>
      refine (hreport .strayClose rfl).trans ?_
      show st.tally = { st.tally with isOpen := st.tally.isOpen.tail }
      rw [hnone, List.tail_nil, ← hnone]
    | relationship k => exact st.tally_relate l k
    | entity d => exact st.tally_declare l d hb
    | invalidRelationship => exact hreport (.invalidRelationship l.text) rfl
    | unrecognised => exact hreport (.unrecognised l.text) rfl
  | some b =>
    have hopen : st.tally.isOpen = [((), b.line)] := by
      unfold tally
      rw [hb]
      rfl
    cases Statement.recognise l.text with
    | close =>
      show Tally.mk _ _ = { st.tally with isOpen := st.tally.isOpen.tail }
      rw [hopen]
      rfl
    | relationship k =>
      refine (tally_relate _ l k).trans ?_
      show Tally.mk _ _ = st.tally.enter l.number .implicit
      unfold Tally.enter
      rw [hopen]
      dsimp only
      congr 1
      exact reportLines_append _ _
    | entity d => exact st.tally_addAttribute l b.id
    | invalidRelationship => exact st.tally_addAttribute l b.id
    | unrecognised => exact st.tally_addAttribute l b.id

end State

/-- The blocks of an entity-relationship diagram are the bodies of its entities. -/
def blocks : BlockReader State Line Unit Problem where
  step := State.step
  line := id
  marks kinds l := (Statement.recognise l.text).marks !kinds.isEmpty
  tally := State.tally
  report st l p := st.reportAll l [p]

theorem lawful_blocks : blocks.Lawful where
  tally_step := by
    intro st l
    have hkinds : (!(st.tally.isOpen.map (·.1)).isEmpty) = st.body.isSome := by
      unfold State.tally
      cases st.body <;> rfl
    refine (st.tally_step l).trans ?_
    rw [← hkinds]
    rfl
  stray := by
    intro st l hopen hcloser
    have hbody : st.body = none := by
      cases hb : st.body with
      | none => rfl
      | some b => simp [blocks, State.tally, hb] at hopen
    refine ⟨.strayClose, rfl, ?_⟩
    show st.step l = st.reportAll l [.strayClose]
    replace hcloser : BlockMark.closer ∈ (Statement.recognise l.text).marks false := hcloser
    unfold State.step
    rw [hbody]
    cases hs : Statement.recognise l.text with
    | close => rfl
    | entity d =>
      rw [hs, Statement.marks] at hcloser
      split at hcloser <;> simp at hcloser
    | _ => simp [hs, Statement.marks] at hcloser

theorem balanced_parse (ls : List Line) :
    blocks.Balanced {} ls.tail
      (((parse ls).diagnostics.filter (·.warns unclosedWords)).map (·.line)) := by
  refine lawful_blocks.balanced rfl ls.tail ?_
  refine (lines_filter_warns warns_toDiagnostic _).trans ?_
  rw [reportLines_append]
  congr 1
  show reportLines Problem.closesBlock (ls.tail.foldl State.step {}).openEnd =
    ((ls.tail.foldl State.step {}).tally.isOpen.map (·.2))
  unfold State.openEnd State.tally
  cases (ls.tail.foldl State.step {}).body <;> rfl

end DiagramText.Er
