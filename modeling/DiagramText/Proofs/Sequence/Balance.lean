import DiagramText.Proofs.Balance
import DiagramText.Proofs.Faults
import DiagramText.Proofs.Wording

/-!
# Balance of blocks and boxes

A box can only be opened when nothing is open, so that it is around all blocks.  The same closer is
for both; it closes the innermost block, and the box when no block is open.
-/

namespace DiagramText.Sequence

open Source (Line)

/-- What `end` can close. -/
inductive BlockSort where
  | block
  | box
deriving Repr, DecidableEq

namespace State

/-- The open blocks and the open box around them, and the warnings about unclosed ones. -/
def tally (st : State) : Tally BlockSort :=
  { isOpen := st.blocks.map (fun f => (.block, f.head.line)) ++
      st.box.toList.map fun b => (.box, b.line)
    warned := reportLines Problem.closesBlock st.reports }

/-! ## Operations that leave the blocks open -/

theorem tally_addReport (st : State) {r : Report Problem} (h : r.problem.closesBlock = false) :
    tally { st with reports := st.reports ++ [r] } = st.tally := by
  unfold tally
  rw [reportLines_concat_of_false st.reports h]

theorem tally_reportIf (st : State) (c : Bool) (l : Line) {p : Problem}
    (h : p.closesBlock = false) : (st.reportIf c l p).tally = st.tally := by
  unfold reportIf
  split
  · exact st.tally_addReport h
  · rfl

theorem tally_addItem (st : State) (i : Item) : (st.addItem i).tally = st.tally := by
  unfold addItem
  split
  · rfl
  · rename_i f fs hs
    unfold tally
    rw [hs]
    rfl

theorem tally_foldl_mention (st : State) (ids : List String) :
    (ids.foldl mention st).tally = st.tally := by
  refine List.foldlRecOn (motive := fun st' : State => st'.tally = st.tally) ids _ rfl ?_
  intro st' h id _
  exact h

theorem tally_declare (st : State) (l : Line) (role : Role) (id label : String) :
    (st.declare l role id label).tally = st.tally := by
  -- Membership of the open box changes, its line does not.
  have hbox (box : Option Box) (f : Box → Box) (hf : ∀ b, (f b).line = b.line) :
      ((box.map f).toList.map fun b => (BlockSort.box, b.line)) =
        box.toList.map fun b => (BlockSort.box, b.line) := by
    cases box with
    | none => rfl
    | some b => simp [hf]
  have hreport := st.tally_reportIf ((st.participants.get? id).any (!·.implicit)) l
    (p := .redeclared id) rfl
  rw [← hreport]
  unfold declare tally
  dsimp only
  rw [hbox]
  · rfl
  · intro b
    rfl

theorem tally_addNote (st : State) (l : Line) (position : Position) (spelled : String)
    (ids : List String) (text : String) :
    (st.addNote l position spelled ids text).tally = st.tally := by
  unfold addNote
  dsimp only
  rw [tally_addItem, tally_foldl_mention, tally_reportIf _ _ _ rfl, tally_reportIf _ _ _ rfl]

theorem tally_addMessage (st : State) (l : Line) (m : MessageText) :
    (st.addMessage l m).tally = st.tally := by
  unfold addMessage
  dsimp only
  rw [tally_addItem]
  exact st.tally_reportIf m.text.isNone l rfl

theorem tally_divide (st : State) (l : Line) (divider : Divider) (label : String) :
    (st.divide l divider label).tally = st.tally := by
  unfold divide
  split
  · exact st.tally_addReport rfl
  · rename_i f fs hs
    have hreport := st.tally_reportIf (f.head.kind != divider.home) l
      (p := .misplacedDivider divider f.head.kind) rfl
    have hblocks : (st.reportIf (f.head.kind != divider.home) l
        (.misplacedDivider divider f.head.kind)).blocks = f :: fs := by
      unfold reportIf
      split <;> exact hs
    rw [← hreport]
    unfold tally
    dsimp only
    rw [hblocks]
    rfl

/-! ## Opening and closing -/

theorem isOpen_tally_eq_nil {st : State} :
    st.tally.isOpen = [] ↔ st.blocks = [] ∧ st.box = none := by
  unfold tally
  cases st.box <;> simp

theorem tally_openBox (st : State) (l : Line) (label : String) :
    (st.openBox l label).tally =
      if st.tally.isOpen.isEmpty then st.tally.enter l.number (.opening .box) else st.tally := by
  have hguard : (st.box.isSome || !st.blocks.isEmpty) = !st.tally.isOpen.isEmpty := by
    rw [Bool.eq_iff_iff]
    simp only [Bool.or_eq_true, Bool.not_eq_true', List.isEmpty_eq_false_iff, ne_eq,
      isOpen_tally_eq_nil, Option.isSome_iff_ne_none]
    tauto
  unfold openBox
  rw [hguard]
  by_cases hempty : st.tally.isOpen.isEmpty
  · obtain ⟨hblocks, -⟩ := isOpen_tally_eq_nil.1 (List.isEmpty_iff.1 hempty)
    rw [if_neg (by simp [hempty]), if_pos hempty]
    have hnone := List.isEmpty_iff.1 hempty
    show Tally.mk _ _ = Tally.mk _ _
    rw [hnone, hblocks]
    rfl
  · rw [if_pos (by simp [hempty]), if_neg hempty]
    exact st.tally_addReport rfl

theorem tally_closeBlock {st : State} {f : OpenBlock} {fs : List OpenBlock}
    (h : st.blocks = f :: fs) :
    st.closeBlock.tally = { st.tally with isOpen := st.tally.isOpen.tail } := by
  unfold closeBlock
  rw [h]
  dsimp only
  rw [tally_addItem]
  unfold tally
  rw [h]
  rfl

theorem tally_close (st : State) (l : Line) :
    (st.close l).tally = st.tally.enter l.number .closer := by
  unfold close
  cases hs : st.blocks with
  | cons f fs => exact tally_closeBlock hs
  | nil =>
    cases hb : st.box with
    | some b =>
      show st.closeBox.tally = st.tally.enter l.number .closer
      unfold closeBox tally
      dsimp only
      rw [hs, hb]
      rfl
    | none =>
      have hnone := isOpen_tally_eq_nil.2 ⟨hs, hb⟩
      refine (st.tally_addReport (r := l.report .strayEnd) rfl).trans ?_
      show st.tally = { st.tally with isOpen := st.tally.isOpen.tail }
      rw [hnone, List.tail_nil, ← hnone]

end State

/-- The blocks of a sequence diagram are its blocks and boxes. -/
def blocks : BlockReader State (Line × Statement) BlockSort Problem where
  step := State.step
  line := Prod.fst
  marks kinds x :=
    match x.2 with
    | .block _ _ => [.opening .block]
    | .box _ => if kinds.isEmpty then [.opening .box] else []
    | .close => [.closer]
    | _ => []
  tally := State.tally
  report := State.report

theorem lawful_blocks : blocks.Lawful where
  tally_step := by
    rintro st ⟨l, s⟩
    cases s with
    | declare role id label => exact st.tally_declare l role id label
    | note position spelled ids text => exact st.tally_addNote l position spelled ids text
    | box label =>
      refine (st.tally_openBox l label).trans ?_
      show _ = List.foldl _ st.tally (if (st.tally.isOpen.map (·.1)).isEmpty then _ else _)
      rw [List.isEmpty_map]
      split <;> rfl
    | block kind label => rfl
    | divide divider label => exact st.tally_divide l divider label
    | close => exact st.tally_close l
    | autonumber => rfl
    | title text => rfl
    | activation id => rfl
    | message m => exact st.tally_addMessage l m
    | invalidMessage => exact st.tally_addReport rfl
    | unrecognised => exact st.tally_addReport rfl
  stray := by
    rintro st ⟨l, s⟩ hopen hcloser
    cases s with
    | close =>
      obtain ⟨hblocks, hbox⟩ := State.isOpen_tally_eq_nil.1 hopen
      refine ⟨.strayEnd, rfl, ?_⟩
      show st.close l = st.report l .strayEnd
      unfold State.close
      rw [hblocks, hbox]
      rfl
    | box label => simp [blocks] at hcloser
    | block kind label => simp [blocks] at hcloser
    | _ => cases hcloser

/-! ## The end -/

namespace State

theorem reports_foldl_closeUnclosed (fs : List OpenBlock) (st : State) :
    (fs.foldl closeUnclosed st).reports =
        st.reports ++ fs.map (fun f => ⟨.unclosedBlock f.head.kind, f.head.line, none⟩) ∧
      (fs.foldl closeUnclosed st).box = st.box := by
  induction fs generalizing st with
  | nil => exact ⟨(List.append_nil _).symm, rfl⟩
  | cons f fs ih =>
    have hone : (closeUnclosed st f).reports =
          st.reports ++ [⟨.unclosedBlock f.head.kind, f.head.line, none⟩] ∧
        (closeUnclosed st f).box = st.box := by
      unfold closeUnclosed closeBlock
      split
      · exact ⟨rfl, rfl⟩
      · unfold addItem
        split <;> exact ⟨rfl, rfl⟩
    obtain ⟨hreports, hbox⟩ := ih (closeUnclosed st f)
    rw [List.foldl_cons, hreports, hbox, hone.1, hone.2, List.append_assoc]
    exact ⟨rfl, rfl⟩

/-- At the end, everything that is open is reported, blocks before the box. -/
theorem reports_finish (st : State) : st.finish.reports = st.reports ++
    st.blocks.map (fun f => ⟨.unclosedBlock f.head.kind, f.head.line, none⟩) ++
    st.box.toList.map (fun b => ⟨.unclosedBox, b.line, none⟩) := by
  obtain ⟨hreports, hbox⟩ := reports_foldl_closeUnclosed st.blocks st
  unfold finish
  dsimp only
  rw [hbox, ← hreports]
  cases st.box with
  | none => exact (List.append_nil _).symm
  | some b => rfl

theorem reportLines_finish (st : State) :
    reportLines Problem.closesBlock st.finish.reports =
      st.tally.warned ++ st.tally.isOpen.map (·.2) := by
  have hblocks : reportLines Problem.closesBlock (st.blocks.map fun f =>
      (⟨.unclosedBlock f.head.kind, f.head.line, none⟩ : Report Problem)) =
      st.blocks.map fun f => f.head.line := by
    rw [reportLines_of_true, List.map_map]
    · rfl
    · intro r hr
      obtain ⟨f, -, rfl⟩ := List.mem_map.1 hr
      rfl
  have hbox : reportLines Problem.closesBlock (st.box.toList.map fun b =>
      (⟨.unclosedBox, b.line, none⟩ : Report Problem)) = st.box.toList.map fun b => b.line := by
    cases st.box <;> rfl
  rw [reports_finish, reportLines_append, reportLines_append, hblocks, hbox]
  unfold tally
  rw [List.map_append, List.map_map, List.map_map, List.append_assoc]
  rfl

end State

theorem balanced_of_parse {ls : List Line} {p : Parsed Diagram} (h : parse ls = .ok p) :
    ∃ xs, statements ls.tail = .ok xs ∧
      blocks.Balanced {} xs ((p.diagnostics.filter (·.warns unclosedWords)).map (·.line)) := by
  obtain ⟨xs, hx, h⟩ := bind_eq_ok_iff.1 h
  cases h
  refine ⟨xs, hx, lawful_blocks.balanced rfl xs ?_⟩
  exact (lines_filter_warns warns_toDiagnostic _).trans (State.reportLines_finish _)

end DiagramText.Sequence
