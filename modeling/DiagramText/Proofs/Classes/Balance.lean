import DiagramText.Proofs.Balance
import DiagramText.Proofs.Wording

/-!
# Balance of class bodies and namespaces

A body is inside the open namespace, if there is one.  Three things but a closer can end a block: a
line that starts another class ends a body, a namespace ends the namespace before it, and the end of
the source ends what is left.
-/

namespace DiagramText.Classes

open Source (Line)

/-- What a closing brace can close. -/
inductive BlockSort where
  | body
  | group
deriving Repr, DecidableEq

/-- What a statement outside a body does to the blocks. -/
def Statement.marks (kinds : List BlockSort) : Statement → List (BlockMark BlockSort)
  | .openGroup _ => if kinds.isEmpty then [.opening .group] else [.implicit, .opening .group]
  | .close => [.closer]
  | .declare d => if d.tail = .body then [.opening .body] else []
  | _ => []

/-- What a line does to the blocks.  In a body only a brace and the start of a class count. -/
def lineMarks (kinds : List BlockSort) (l : Line) : List (BlockMark BlockSort) :=
  match kinds with
  | .body :: outer =>
    if l.text = "\x7d" then [.closer]
    else if (Text.literal? "class ".toList l.text.toList).isSome then
      .implicit :: (Statement.recognise l.text).marks outer
    else []
  | _ => (Statement.recognise l.text).marks kinds

namespace State

/-- The open body and the open namespace around it, and the warnings about unclosed ones. -/
def tally (st : State) : Tally BlockSort :=
  { isOpen := (st.body.toList.map fun b => (.body, b.line)) ++
      st.group.toList.map fun g => (.group, g.line)
    warned := reportLines Problem.closesBlock st.reports }

/-- The kinds of the open blocks. -/
def kinds (st : State) : List BlockSort := st.tally.isOpen.map (·.1)

theorem kinds_of_body_none {st : State} (h : st.body = none) :
    st.kinds = st.group.toList.map fun _ => .group := by
  unfold kinds tally
  rw [h]
  simp [Function.comp_def]

theorem tally_addReport (st : State) {r : Report Problem} (h : r.problem.closesBlock = false) :
    tally { st with reports := st.reports ++ [r] } = st.tally := by
  unfold tally
  rw [reportLines_concat_of_false st.reports h]

/-! ## Statements -/

theorem tally_declareName (st : State) (n : ClassName) : (st.declareName n).tally = st.tally := by
  -- Membership of the open namespace changes, its line does not.
  have hgroup (group : Option OpenGroup) (f : OpenGroup → OpenGroup)
      (hf : ∀ g, (f g).line = g.line) :
      ((group.map f).toList.map fun g => (BlockSort.group, g.line)) =
        group.toList.map fun g => (BlockSort.group, g.line) := by
    cases group with
    | none => rfl
    | some g => simp [hf]
  unfold declareName tally
  dsimp only
  rw [hgroup]
  · rfl
  · intro g
    rfl

theorem tally_addBodyLine (st : State) (l : Line) (id : String) (b : BodyLine) :
    (st.addBodyLine l id b).tally = st.tally := by
  cases b with
  | stereotype t => rfl
  | member m => rfl
  | nameless t => exact st.tally_addReport rfl

theorem tally_readTail (st : State) (l : Line) (id : String) (t : Tail) (h : st.body = none) :
    (st.readTail l id t).tally =
      (if t = .body then [.opening .body] else []).foldl (Tally.enter l.number) st.tally := by
  cases t with
  | nothing => rfl
  | body =>
    rw [if_pos rfl]
    show Tally.mk _ _ = Tally.mk _ _
    unfold tally
    rw [h]
    rfl
  | inline parts =>
    rw [if_neg (by nofun)]
    refine List.foldlRecOn (motive := fun st' : State => st'.tally = st.tally) parts _ rfl ?_
    intro st' hst' p _
    exact (st'.tally_addBodyLine l id _).trans hst'
  | unexpected t =>
    rw [if_neg (by nofun)]
    exact st.tally_addReport rfl

theorem tally_declare (st : State) (l : Line) (d : Declaration) (h : st.body = none) :
    (st.declare l d).tally =
      (if d.tail = .body then [.opening .body] else []).foldl (Tally.enter l.number) st.tally := by
  have hname := st.tally_declareName d.name
  unfold declare
  dsimp only
  rw [tally_readTail]
  · exact congrArg (List.foldl _ · _) hname
  · exact h

theorem tally_openGroup (st : State) (l : Line) (name : String) (h : st.body = none) :
    (st.openGroup l name).tally =
      (if st.kinds.isEmpty then [.opening .group] else [.implicit, .opening .group]).foldl
        (Tally.enter l.number) st.tally := by
  rw [kinds_of_body_none h]
  unfold openGroup
  cases hg : st.group with
  | none =>
    show Tally.mk _ _ = Tally.mk _ _
    unfold tally
    rw [h, hg]
    rfl
  | some g =>
    have hopen : st.tally.isOpen = [(.group, g.line)] := by
      unfold tally
      rw [h, hg]
      rfl
    have hmarks : (if ((some g).toList.map fun _ => BlockSort.group).isEmpty
        then [BlockMark.opening BlockSort.group] else [.implicit, .opening .group]) =
        [.implicit, .opening .group] := rfl
    rw [hmarks, List.foldl_cons, Tally.enter, hopen]
    refine Tally.ext ?_ ?_
    · show st.body.toList.map _ ++ [(BlockSort.group, l.number)] = [(BlockSort.group, l.number)]
      rw [h]
      rfl
    · exact reportLines_concat_of_true st.reports rfl

theorem tally_closeStatement (st : State) (l : Line) (h : st.body = none) :
    (if st.group.isSome then st.closeGroup else st.report l .strayClose).tally =
      st.tally.enter l.number .closer := by
  cases hg : st.group with
  | some g =>
    show st.closeGroup.tally = st.tally.enter l.number .closer
    unfold closeGroup tally
    dsimp only
    rw [h, hg]
    rfl
  | none =>
    have hnone : st.tally.isOpen = [] := by
      unfold tally
      rw [h, hg]
      rfl
    refine (st.tally_addReport (r := l.report .strayClose) rfl).trans ?_
    show st.tally = { st.tally with isOpen := st.tally.isOpen.tail }
    rw [hnone, List.tail_nil, ← hnone]

theorem tally_stepOutside (st : State) (l : Line) (h : st.body = none) :
    (st.stepOutside l).tally =
      ((Statement.recognise l.text).marks st.kinds).foldl (Tally.enter l.number) st.tally := by
  unfold stepOutside
  cases Statement.recognise l.text with
  | openGroup name => exact st.tally_openGroup l name h
  | close => exact st.tally_closeStatement l h
  | declare d => exact st.tally_declare l d h
  | stereotype t n => exact st.tally_declareName n
  | direction d => rfl
  | note classId text => cases classId <;> rfl
  | relate r => rfl
  | unknownConnector token => exact st.tally_addReport rfl
  | malformedRelationship => exact st.tally_addReport rfl
  | member id b => exact tally_addBodyLine _ l id b
  | unrecognised => exact st.tally_addReport rfl

theorem tally_step (st : State) (l : Line) :
    (st.step l).tally = (lineMarks st.kinds l).foldl (Tally.enter l.number) st.tally := by
  unfold step
  cases hb : st.body with
  | none =>
    have hmarks : lineMarks st.kinds l = (Statement.recognise l.text).marks st.kinds := by
      rw [kinds_of_body_none hb]
      cases st.group <;> rfl
    rw [hmarks]
    exact st.tally_stepOutside l hb
  | some b =>
    have hopen : st.tally.isOpen =
        (.body, b.line) :: st.group.toList.map fun g => (.group, g.line) := by
      unfold tally
      rw [hb]
      rfl
    have hkinds : st.kinds = .body :: st.group.toList.map fun _ => .group := by
      unfold kinds
      rw [hopen]
      simp [Function.comp_def]
    rw [hkinds, lineMarks]
    dsimp only
    by_cases hclose : l.text = "\x7d"
    · rw [if_pos hclose, if_pos hclose]
      show Tally.mk _ _ = { st.tally with isOpen := st.tally.isOpen.tail }
      rw [hopen]
      rfl
    · rw [if_neg hclose, if_neg hclose]
      by_cases hclass : (Text.literal? "class ".toList l.text.toList).isSome
      · rw [if_pos hclass, if_pos hclass]
        -- The body ends with a warning, and the line is read again without it.
        have hwarning : tally { st.report l (.bodyBeforeClass b.id) with body := none } =
            st.tally.enter l.number .implicit := by
          unfold Tally.enter
          rw [hopen]
          refine Tally.ext rfl ?_
          exact reportLines_concat_of_true st.reports rfl
        have hrest := tally_stepOutside { st.report l (.bodyBeforeClass b.id) with body := none } l
          rfl
        have hgroup : kinds { st.report l (.bodyBeforeClass b.id) with body := none } =
            st.group.toList.map fun _ => .group := kinds_of_body_none rfl
        rw [hrest, hgroup, hwarning]
        rfl
      · rw [if_neg hclass, if_neg hclass]
        exact st.tally_addBodyLine l b.id _

end State

/-- The blocks of a class diagram are its class bodies and namespaces. -/
def blocks : BlockReader State Line BlockSort Problem where
  step := State.step
  line := id
  marks := lineMarks
  tally := State.tally
  report := State.report

theorem lawful_blocks : blocks.Lawful where
  tally_step := State.tally_step
  stray := by
    intro st l hopen hcloser
    have hbody : st.body = none := by
      cases hb : st.body with
      | none => rfl
      | some b => simp [blocks, State.tally, hb] at hopen
    have hgroup : st.group = none := by
      cases hg : st.group with
      | none => rfl
      | some g => simp [blocks, State.tally, hg] at hopen
    refine ⟨.strayClose, rfl, ?_⟩
    show st.step l = st.report l .strayClose
    replace hcloser : BlockMark.closer ∈ (Statement.recognise l.text).marks [] := hcloser
    unfold State.step State.stepOutside
    rw [hbody]
    dsimp only
    cases hs : Statement.recognise l.text with
    | close =>
      rw [hgroup]
      rfl
    | openGroup name => simp [hs, Statement.marks] at hcloser
    | declare d =>
      rw [hs, Statement.marks] at hcloser
      split at hcloser <;> simp at hcloser
    | _ => simp [hs, Statement.marks] at hcloser

/-! ## The end -/

/-- At the end, everything that is open is reported, the body before the namespace. -/
theorem State.reportLines_finish (st : State) :
    reportLines Problem.closesBlock st.finishBody.finishGroup.reports =
      st.tally.warned ++ st.tally.isOpen.map (·.2) := by
  have hbody : reportLines Problem.closesBlock st.finishBody.reports =
      st.tally.warned ++ st.body.toList.map (·.line) := by
    unfold finishBody
    cases st.body with
    | none => exact (List.append_nil _).symm
    | some b => exact reportLines_append _ _
  have hgroup : st.finishBody.group = st.group := by
    unfold finishBody
    split <;> rfl
  have hopen : st.tally.isOpen.map (·.2) =
      st.body.toList.map (·.line) ++ st.group.toList.map (·.line) := by
    unfold tally
    rw [List.map_append, List.map_map, List.map_map]
    rfl
  rw [hopen, ← List.append_assoc, ← hbody]
  unfold finishGroup
  rw [hgroup]
  cases st.group with
  | none => exact (List.append_nil _).symm
  | some g => exact reportLines_append _ _

theorem balanced_parse (ls : List Line) :
    blocks.Balanced {} ls.tail
      (((parse ls).diagnostics.filter (·.warns unclosedWords)).map (·.line)) := by
  refine lawful_blocks.balanced rfl ls.tail ?_
  exact (lines_filter_warns warns_toDiagnostic _).trans (State.reportLines_finish _)

end DiagramText.Classes
