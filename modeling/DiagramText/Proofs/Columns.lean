import DiagramText.Diagram
import DiagramText.Proofs.Faults

/-!
# The columns of reports

A report with a column is about a text inside one of the lines that are read: its line is the number
of that line, and its column is one of the columns of that text.

1. `Report.Within` and `Adds`, for the reports that a step adds.
2. What one step adds, for the dialects that report about whole lines only.  Flowcharts look into
   their lines, so graphs have a module of their own.
-/

namespace DiagramText

open Source (Line)

/-! ## Reports inside lines -/

section

variable {π σ α : Type}

/-- A report that has a column is about the text of one of some lines, from an offset on. -/
def Report.Within (ls : List Line) (r : Report π) : Prop :=
  ∀ c, r.column = some c → ∃ l ∈ ls, r.line = l.number ∧
    ∃ k : Nat, c = l.column + k ∧ (k = 0 ∨ k < l.text.toList.length)

theorem Report.Within.mono {ls ls' : List Line} {r : Report π} (h : r.Within ls)
    (hsub : ls ⊆ ls') : r.Within ls' := by
  intro c hc
  obtain ⟨l, hl, hplace⟩ := h c hc
  exact ⟨l, hsub hl, hplace⟩

theorem Source.Line.within_report (l : Line) (p : π) : (l.report p).Within [l] := by
  intro c hc
  cases hc
  exact ⟨l, List.mem_singleton_self l, rfl, 0, by simp, .inl rfl⟩

theorem Report.within_of_none {r : Report π} (h : r.column = none) (ls : List Line) :
    r.Within ls := by
  intro c hc
  rw [h] at hc
  cases hc

/-- All reports of the second list are in the first one or of a given sort. -/
def Adds (P : Report π → Prop) (rs rs' : List (Report π)) : Prop := ∀ r ∈ rs', r ∈ rs ∨ P r

namespace Adds

variable {P Q : Report π → Prop} {rs rs' rs'' : List (Report π)}

theorem refl (rs : List (Report π)) : Adds P rs rs := fun _ hr => .inl hr

theorem trans (h : Adds P rs rs') (h' : Adds P rs' rs'') : Adds P rs rs'' := by
  intro r hr
  rcases h' r hr with hr | hr
  · exact h r hr
  · exact .inr hr

theorem append {more : List (Report π)} (h : ∀ r ∈ more, P r) : Adds P rs (rs ++ more) := by
  intro r hr
  rcases List.mem_append.1 hr with hr | hr
  · exact .inl hr
  · exact .inr (h r hr)

theorem mono (h : Adds P rs rs') (hPQ : ∀ r, P r → Q r) : Adds Q rs rs' := by
  intro r hr
  exact (h r hr).imp_right (hPQ r)

theorem report (l : Line) (p : π) : Adds (Report.Within [l]) rs (rs ++ [l.report p]) :=
  append (List.forall_mem_singleton.2 (l.within_report p))

theorem reportAt {ls : List Line} (line : Int) (p : π) :
    Adds (Report.Within ls) rs (rs ++ [⟨p, line, none⟩]) :=
  append (List.forall_mem_singleton.2 (Report.within_of_none rfl ls))

/-- Steps that each add reports of a sort add such reports together. -/
theorem foldl (reports : σ → List (Report π)) {f : σ → α → σ} {as : List α}
    (hf : ∀ st, ∀ a ∈ as, Adds P (reports st) (reports (f st a))) (st : σ) :
    Adds P (reports st) (reports (as.foldl f st)) := by
  induction as generalizing st with
  | nil => exact refl _
  | cons a as ih =>
    obtain ⟨ha, has⟩ := List.forall_mem_cons.1 (fun a ha st => hf st a ha)
    exact (ha st).trans (ih (fun st a ha => has a ha st) (f st a))

/-- Steps that read one line each report about the lines read. -/
theorem lines (P : List Line → Report π → Prop)
    (hP : ∀ {ls ls' r}, P ls r → ls ⊆ ls' → P ls' r) (reports : σ → List (Report π))
    {f : σ → α → σ} (line : α → Line) {as : List α} {ls : List Line}
    (hf : ∀ st, ∀ a ∈ as, Adds (P [line a]) (reports st) (reports (f st a)))
    (hls : ∀ a ∈ as, line a ∈ ls) (st : σ) :
    Adds (P ls) (reports st) (reports (as.foldl f st)) := by
  apply foldl reports
  intro st' a ha
  refine (hf st' a ha).mono fun r hr => hP hr ?_
  intro l hl
  rw [List.mem_singleton.1 hl]
  exact hls a ha

/-- What starts without reports has only reports of the sort. -/
theorem all (h : Adds P [] rs) : ∀ r ∈ rs, P r := by
  intro r hr
  exact (h r hr).resolve_left List.not_mem_nil

end Adds

end

/-! ## Pie charts -/

theorem Pie.adds_step (st : Pie.State) (l : Line) :
    Adds (Report.Within [l]) st.reports (st.step l).reports := by
  unfold Pie.State.step
  cases Pie.Statement.recognise l.text with
  | showData => exact .refl _
  | title t => exact .refl _
  | slice label value => exact .refl _
  | badValue raw => exact .report l _
  | unrecognised => exact .report l _

theorem Pie.adds_ofHeader (l : Line) :
    Adds (Report.Within [l]) [] (Pie.State.ofHeader l).reports := by
  unfold Pie.State.ofHeader
  cases Pie.Header.recognise? l.text with
  | some h => exact .refl _
  | none => exact .report l _

/-! ## Gantt charts -/

namespace Gantt

theorem reports_addTask (st : State) (t : Task) : (st.addTask t).reports = st.reports := by
  unfold State.addTask
  dsimp only
  split <;> split <;> rfl

theorem adds_step (st : State) (l : Line) :
    Adds (Report.Within [l]) st.reports (st.step l).reports := by
  unfold State.step
  cases Statement.recognise l.text with
  | task label metadata =>
    dsimp only
    cases Task.ofMetadata? label metadata l.number with
    | some t =>
      dsimp only
      rw [reports_addTask]
      exact .refl _
    | none => exact .report l _
  | invalid => exact .report l _
  | title _ | dateFormat _ | axisFormat _ | excludes _ | includes _ | enter _ | setting _ _ =>
    exact .refl _

end Gantt

/-! ## Mind maps -/

namespace Mindmap

theorem reports_decorate (st : State) (g : Topic → Topic) :
    (st.decorate g).reports = st.reports := by
  unfold State.decorate
  split <;> rfl

theorem adds_step (st : State) (l : Line) :
    Adds (Report.Within [l]) st.reports (st.step l).reports := by
  unfold State.step
  cases Statement.recognise l.text with
  | icon text =>
    dsimp only
    split
    · exact .report l _
    · rw [reports_decorate]
      exact .refl _
  | classes names =>
    dsimp only
    split
    · exact .report l _
    · rw [reports_decorate]
      exact .refl _
  | emptyLabel => exact .report l _
  | topic shape label =>
    dsimp only
    split
    · exact .refl _
    · exact .report l _

end Mindmap

/-! ## Entity-relationship diagrams -/

namespace Er

theorem adds_reportAll {rs : List (Report Problem)} (l : Line) (ps : List Problem) :
    Adds (Report.Within [l]) rs (rs ++ ps.map l.report) := by
  apply Adds.append
  intro r hr
  obtain ⟨p, -, rfl⟩ := List.mem_map.1 hr
  exact l.within_report p

theorem adds_relate (st : State) (l : Line) (k : Link) :
    Adds (Report.Within [l]) st.reports (st.relate l k).reports := adds_reportAll l _

theorem adds_addAttribute (st : State) (l : Line) (id : String) :
    Adds (Report.Within [l]) st.reports (st.addAttribute l id).reports := by
  unfold State.addAttribute
  split
  · exact adds_reportAll l _
  · exact adds_reportAll l _

theorem adds_step (st : State) (l : Line) :
    Adds (Report.Within [l]) st.reports (st.step l).reports := by
  unfold State.step
  split
  · exact .refl _
  · exact (adds_reportAll l _).trans (adds_relate _ l _)
  · exact adds_addAttribute st l _
  · exact adds_reportAll l _
  · exact adds_relate st l _
  · exact .refl _
  · exact adds_reportAll l _
  · exact adds_reportAll l _

theorem within_openEnd (st : State) (ls : List Line) : ∀ r ∈ st.openEnd, r.Within ls := by
  intro r hr
  unfold State.openEnd at hr
  split at hr
  · rw [List.mem_singleton.1 hr]
    exact Report.within_of_none rfl ls
  · cases hr

end Er

/-! ## Class diagrams -/

namespace Classes

theorem adds_addBodyLine (st : State) (l : Line) (id : String) (b : BodyLine) :
    Adds (Report.Within [l]) st.reports (st.addBodyLine l id b).reports := by
  cases b with
  | stereotype t => exact .refl _
  | member m => exact .refl _
  | nameless t => exact .report l _

theorem adds_readTail (st : State) (l : Line) (id : String) (t : Tail) :
    Adds (Report.Within [l]) st.reports (st.readTail l id t).reports := by
  cases t with
  | nothing => exact .refl _
  | body => exact .refl _
  | inline parts =>
    exact .foldl State.reports (fun st p _ => adds_addBodyLine st l id (.recognise p)) st
  | unexpected t => exact .report l _

theorem adds_declare (st : State) (l : Line) (d : Declaration) :
    Adds (Report.Within [l]) st.reports (st.declare l d).reports := adds_readTail _ l _ d.tail

theorem adds_openGroup (st : State) (l : Line) (name : String) :
    Adds (Report.Within [l]) st.reports (st.openGroup l name).reports := by
  unfold State.openGroup
  cases st.group with
  | some g => exact .report l _
  | none => exact .refl _

theorem reports_addNote (st : State) (l : Line) (classId : Option String) (text : String) :
    (st.addNote l classId text).reports = st.reports := by
  cases classId <;> rfl

theorem adds_stepOutside (st : State) (l : Line) :
    Adds (Report.Within [l]) st.reports (st.stepOutside l).reports := by
  unfold State.stepOutside
  cases Statement.recognise l.text with
  | openGroup name => exact adds_openGroup st l name
  | close =>
    dsimp only
    split
    · exact .refl _
    · exact .report l _
  | declare d => exact adds_declare st l d
  | stereotype t n => exact .refl _
  | direction d => exact .refl _
  | note classId text =>
    dsimp only
    rw [reports_addNote]
    exact .refl _
  | relate r => exact .refl _
  | unknownConnector token => exact .report l _
  | malformedRelationship => exact .report l _
  | member id b => exact adds_addBodyLine _ l id b
  | unrecognised => exact .report l _

theorem adds_step (st : State) (l : Line) :
    Adds (Report.Within [l]) st.reports (st.step l).reports := by
  unfold State.step
  split
  · exact adds_stepOutside st l
  · split
    · exact .refl _
    · split
      · exact (Adds.report l _).trans (adds_stepOutside _ l)
      · exact adds_addBodyLine st l _ _

theorem adds_finish (st : State) (ls : List Line) :
    Adds (Report.Within ls) st.reports st.finishBody.finishGroup.reports := by
  have hbody : Adds (Report.Within ls) st.reports st.finishBody.reports := by
    unfold State.finishBody
    split
    · exact .reportAt _ _
    · exact .refl _
  refine hbody.trans ?_
  unfold State.finishGroup
  split
  · exact .reportAt _ _
  · exact .refl _

end Classes

/-! ## Sequence diagrams -/

namespace Sequence

theorem reports_addItem (st : State) (i : Item) : (st.addItem i).reports = st.reports := by
  unfold State.addItem
  split <;> rfl

theorem reports_closeBlock (st : State) : st.closeBlock.reports = st.reports := by
  unfold State.closeBlock
  split
  · rfl
  · exact reports_addItem _ _

theorem reports_foldl_mention (ids : List String) (st : State) :
    (ids.foldl State.mention st).reports = st.reports := by
  induction ids generalizing st with
  | nil => rfl
  | cons id ids ih => exact ih (st.mention id)

theorem adds_reportIf (st : State) (c : Bool) (l : Line) (p : Problem) :
    Adds (Report.Within [l]) st.reports (st.reportIf c l p).reports := by
  unfold State.reportIf
  split
  · exact .report l p
  · exact .refl _

theorem adds_addNote (st : State) (l : Line) (position : Position) (spelled : String)
    (ids : List String) (text : String) :
    Adds (Report.Within [l]) st.reports (st.addNote l position spelled ids text).reports := by
  unfold State.addNote
  dsimp only
  rw [reports_addItem, reports_foldl_mention]
  exact (adds_reportIf st _ l _).trans (adds_reportIf _ _ l _)

theorem adds_addMessage (st : State) (l : Line) (m : MessageText) :
    Adds (Report.Within [l]) st.reports (st.addMessage l m).reports := by
  unfold State.addMessage
  dsimp only
  rw [reports_addItem]
  exact adds_reportIf st _ l _

theorem adds_divide (st : State) (l : Line) (divider : Divider) (label : String) :
    Adds (Report.Within [l]) st.reports (st.divide l divider label).reports := by
  unfold State.divide
  split
  · exact .report l _
  · exact adds_reportIf st _ l _

theorem adds_close (st : State) (l : Line) :
    Adds (Report.Within [l]) st.reports (st.close l).reports := by
  unfold State.close
  split
  · rw [reports_closeBlock]
    exact .refl _
  · split
    · exact .refl _
    · exact .report l _

theorem adds_step (st : State) (l : Line) (s : Statement) :
    Adds (Report.Within [l]) st.reports (st.step (l, s)).reports := by
  cases s with
  | declare role id label => exact adds_reportIf st _ l _
  | note position spelled ids text => exact adds_addNote st l position spelled ids text
  | box label =>
    show Adds _ _ (st.openBox l label).reports
    unfold State.openBox
    split
    · exact .report l _
    · exact .refl _
  | divide divider label => exact adds_divide st l divider label
  | close => exact adds_close st l
  | message m => exact adds_addMessage st l m
  | invalidMessage => exact .report l _
  | unrecognised => exact .report l _
  | block _ _ | autonumber | title _ | activation _ => exact .refl _

theorem adds_finish (st : State) (ls : List Line) :
    Adds (Report.Within ls) st.reports st.finish.reports := by
  have hblocks : Adds (Report.Within ls) st.reports
      (st.blocks.foldl State.closeUnclosed st).reports := by
    apply Adds.foldl State.reports
    intro st f _
    unfold State.closeUnclosed
    rw [reports_closeBlock]
    exact .reportAt _ _
  refine hblocks.trans ?_
  unfold State.finish
  dsimp only
  split
  · exact .reportAt _ _
  · exact .refl _

end Sequence

end DiagramText
