import DiagramText.Diagram
import DiagramText.Proofs.Classes.Renumber
import DiagramText.Proofs.Er.Renumber
import DiagramText.Proofs.ScopeGraph.Renumber
import DiagramText.Proofs.Sequence.Renumber

/-!
# Diagrams of all kinds on lines with other numbers

1. Pie charts, gantt charts and mindmaps.
2. `Diagram.renumber` and `Diagram.parse_renumber`: the same texts on lines with other numbers are
   read as the same diagram at those lines, with the same problems.
-/

namespace DiagramText

open Source (Line)

variable {f : Int → Int}

/-! ## Pie charts -/

namespace Pie

/-- The slice at another line. -/
def Slice.renumber (f : Int → Int) (s : Slice) : Slice := { s with line := f s.line }

/-- The chart at other lines. -/
def Chart.renumber (f : Int → Int) (c : Chart) : Chart :=
  { c with slices := c.slices.map (Slice.renumber f) }

/-- The chart being read, at other lines. -/
def State.renumber (f : Int → Int) (st : State) : State :=
  ⟨st.chart.renumber f, st.reports.map (Report.renumber f)⟩

theorem State.report_renumber (st : State) (l : Line) (p : Problem) :
    (st.renumber f).report (l.renumber f) p = (st.report l p).renumber f := by
  unfold State.report State.renumber
  rw [List.map_append]
  rfl

theorem State.ofHeader_renumber (l : Line) :
    State.ofHeader (l.renumber f) = (State.ofHeader l).renumber f := by
  have htext : (l.renumber f).text = l.text := rfl
  unfold State.ofHeader
  rw [htext]
  cases Header.recognise? l.text with
  | none => exact State.report_renumber {} l (.header l.text)
  | some h => rfl

theorem State.step_renumber (st : State) (l : Line) :
    (st.renumber f).step (l.renumber f) = (st.step l).renumber f := by
  have htext : (l.renumber f).text = l.text := rfl
  unfold State.step
  rw [htext]
  cases Statement.recognise l.text with
  | showData => rfl
  | title t => rfl
  | slice label value =>
    unfold State.renumber Chart.renumber
    dsimp only
    rw [List.map_append]
    rfl
  | badValue raw => exact st.report_renumber l (.badValue raw)
  | unrecognised => exact st.report_renumber l (.unrecognised l.text)

theorem quotesNoLine_message (p : Problem) : QuotesNoLine (Describe.message p) := by
  refine quotesNoLine_of_start ?_
  cases p <;>
    simp only [Describe.message, toString, String.toList_append, List.append_assoc] <;>
    rfl

theorem parse_renumber (ls : List Line) :
    SameOutcome (Parsed.Renumbered f (Chart.renumber f)) (parse ls)
      (parse (ls.map (Line.renumber f))) := by
  cases ls with
  | nil => exact .error _
  | cons header body =>
    have hend : (body.map (Line.renumber f)).foldl State.step (State.ofHeader (header.renumber f)) =
        (body.foldl State.step (State.ofHeader header)).renumber f := by
      rw [List.foldl_map, State.ofHeader_renumber]
      exact List.foldl_hom (State.renumber f) State.step_renumber
    rw [List.map_cons, parse, parse, hend]
    exact .ok (Parsed.renumbered_ofReports quotesNoLine_message _ _)

end Pie

/-! ## Gantt charts -/

namespace Gantt

/-- The task at another line. -/
def Task.renumber (f : Int → Int) (t : Task) : Task := { t with line := f t.line }

/-- The chart at other lines. -/
def Chart.renumber (f : Int → Int) (c : Chart) : Chart :=
  { c with sections := c.sections.mapValues (List.map (Task.renumber f)) }

/-- The chart being read, at other lines. -/
def State.renumber (f : Int → Int) (st : State) : State :=
  { st with chart := st.chart.renumber f, reports := st.reports.map (Report.renumber f) }

theorem Task.withStart_renumber (t : Task) (part : List Char) :
    (t.renumber f).withStart part = (t.withStart part).renumber f := by
  unfold Task.withStart
  cases after? part with
  | some ids => rfl
  | none => rfl

theorem Task.withFinish_renumber (t : Task) (part : List Char) :
    (t.renumber f).withFinish part = (t.withFinish part).renumber f := by
  unfold Task.withFinish
  cases after? part with
  | some ids => rfl
  | none =>
    dsimp only
    split
    · rfl
    · rfl

theorem Task.ofMetadata?_renumber (label metadata : List Char) (line : Int) :
    Task.ofMetadata? label metadata (f line) =
      (Task.ofMetadata? label metadata line).map (Task.renumber f) := by
  unfold Task.ofMetadata?
  dsimp only
  split
  · split
    · rfl
    · rfl
  · rw [Option.map_some, ← Task.withFinish_renumber]
    rfl
  · rw [Option.map_some, ← Task.withFinish_renumber, ← Task.withStart_renumber]
    rfl
  · rw [Option.map_some, ← Task.withFinish_renumber, ← Task.withStart_renumber]
    rfl
  · rfl

theorem State.report_renumber (st : State) (l : Line) (p : Problem) :
    (st.renumber f).report (l.renumber f) p = (st.report l p).renumber f := by
  unfold State.report State.renumber
  rw [List.map_append]
  rfl

theorem State.enter_renumber (st : State) (name : String) :
    (st.renumber f).enter name = (st.enter name).renumber f := by
  unfold State.enter State.renumber Chart.renumber
  dsimp only
  rw [Registry.ensure_mapValues (g := List.map (Task.renumber f))]
  intro n
  rfl

theorem State.addTask_renumber (st : State) (t : Task) :
    (st.renumber f).addTask (t.renumber f) = (st.addTask t).renumber f := by
  have hadd (st : State) (name : String) :
      (st.renumber f).chart.sections.modify name (· ++ [t.renumber f]) =
        (st.chart.sections.modify name (· ++ [t])).mapValues (List.map (Task.renumber f)) := by
    refine OrderedMap.modify_mapValues _ name fun ts => ?_
    rw [List.map_append]
    rfl
  have hcurrent (st : State) : (st.renumber f).current = st.current := rfl
  unfold State.addTask
  rw [hcurrent]
  cases hc : st.current with
  | some name =>
    simp only [Option.isSome_some, if_true, hcurrent, hc, hadd]
    rfl
  | none =>
    simp only [Option.isSome_none, Bool.false_eq_true, if_false, State.enter_renumber, hcurrent,
      hadd]
    rfl

theorem State.step_renumber (st : State) (l : Line) :
    (st.renumber f).step (l.renumber f) = (st.step l).renumber f := by
  have htext : (l.renumber f).text = l.text := rfl
  have hnumber : (l.renumber f).number = f l.number := rfl
  unfold State.step
  rw [htext, hnumber]
  cases Statement.recognise l.text with
  | title text => rfl
  | dateFormat text => rfl
  | axisFormat text => rfl
  | excludes days => rfl
  | includes days => rfl
  | enter name => exact st.enter_renumber name
  | setting name value => rfl
  | task label metadata =>
    dsimp only
    rw [Task.ofMetadata?_renumber]
    cases Task.ofMetadata? label metadata l.number with
    | some t => exact st.addTask_renumber t
    | none => exact st.report_renumber l _
  | invalid => exact st.report_renumber l (.taskSyntax l.text)

theorem quotesNoLine_message (p : Problem) : QuotesNoLine (Describe.message p) := by
  refine quotesNoLine_of_start ?_
  cases p <;>
    simp only [Describe.message, toString, String.toList_append, List.append_assoc] <;>
    rfl

theorem parse_renumber (ls : List Line) :
    (parse ls).Renumbered f (Chart.renumber f) (parse (ls.map (Line.renumber f))) := by
  have hsteps (ls : List Line) (st : State) : (ls.map (Line.renumber f)).foldl State.step
      (st.renumber f) = (ls.foldl State.step st).renumber f := by
    rw [List.foldl_map]
    exact List.foldl_hom (State.renumber f) State.step_renumber
  have hend : (ls.map (Line.renumber f)).tail.foldl State.step {} =
      (ls.tail.foldl State.step {}).renumber f := by
    rw [← hsteps, ← List.map_tail]
    rfl
  unfold parse
  rw [hend]
  exact Parsed.renumbered_ofReports quotesNoLine_message _ _

end Gantt

/-! ## Mindmaps -/

namespace Mindmap

/-- The topic at another line. -/
def Topic.renumber (f : Int → Int) (t : Topic) : Topic := { t with line := f t.line }

/-- The mindmap at other lines. -/
def Map.renumber (f : Int → Int) (m : Map) : Map := ⟨m.root.map (Tree.relabel (Topic.renumber f))⟩

/-- The open topic at other lines. -/
def Level.renumber (f : Int → Int) (v : Level) : Level :=
  { v with frame := v.frame.relabel (Topic.renumber f) }

/-- The mindmap being read, at other lines. -/
def State.renumber (f : Int → Int) (st : State) : State :=
  { st with
    spine := st.spine.map (Level.renumber f)
    reports := st.reports.map (Report.renumber f) }

theorem State.report_renumber (st : State) (l : Line) (p : Problem) :
    (st.renumber f).report (l.renumber f) p = (st.report l p).renumber f := by
  unfold State.report State.renumber
  rw [List.map_append]
  rfl

theorem settle_renumber (indent : Int) (v : Level) (vs : List Level) :
    settle indent (v.renumber f) (vs.map (Level.renumber f)) =
      ((settle indent v vs).1.map (Level.renumber f), (settle indent v vs).2) := by
  have hindent (v : Level) : (v.renumber f).indent = v.indent := rfl
  induction vs generalizing v with
  | nil => rfl
  | cons w vs ih =>
    rw [List.map_cons, settle, settle, hindent]
    by_cases hv : v.indent < indent
    · rw [if_pos hv, if_pos hv]
      rfl
    · rw [if_neg hv, if_neg hv, ← ih]
      unfold Level.renumber
      dsimp only
      rw [Frame.relabel_adopt]
      rfl

theorem attach_renumber (topic : Topic) (indent : Int) (vs : List Level) :
    attach (topic.renumber f) indent (vs.map (Level.renumber f)) =
      ((attach topic indent vs).1.map (Level.renumber f), (attach topic indent vs).2) := by
  cases vs with
  | nil => rfl
  | cons v vs =>
    rw [List.map_cons, attach, attach, settle_renumber]
    rfl

theorem finish_renumber (vs : List Level) :
    finish (vs.map (Level.renumber f)) = (finish vs).map (Tree.relabel (Topic.renumber f)) := by
  cases vs with
  | nil => rfl
  | cons v vs =>
    have hframes : (vs.map (Level.renumber f)).map (·.frame) =
        (vs.map (·.frame)).map (Frame.relabel (Topic.renumber f)) := by
      rw [List.map_map, List.map_map]
      rfl
    rw [List.map_cons, finish, finish, hframes, Option.map_some, Frame.relabel_closeAll]
    rfl

theorem State.decorate_renumber (st : State) {u : Topic → Topic}
    (h : ∀ t : Topic, (u t).renumber f = u (t.renumber f)) :
    (st.renumber f).decorate u = (st.decorate u).renumber f := by
  unfold State.decorate
  rcases hs : st.spine with _ | ⟨v, vs⟩
  · simp only [State.renumber, hs, List.map_nil]
  · simp only [State.renumber, hs, List.map_cons, Level.renumber, Frame.relabel_map h]

theorem State.step_renumber (st : State) (l : Line) :
    (st.renumber f).step (l.renumber f) = (st.step l).renumber f := by
  have htext : (l.renumber f).text = l.text := rfl
  have hspine : (st.renumber f).spine.isEmpty = st.spine.isEmpty := List.isEmpty_map
  unfold State.step
  rw [htext]
  cases Statement.recognise l.text with
  | icon text =>
    dsimp only
    rw [hspine]
    split
    · exact st.report_renumber l .strayIcon
    · exact st.decorate_renumber fun t => rfl
  | classes names =>
    dsimp only
    rw [hspine]
    split
    · exact st.report_renumber l .strayClasses
    · exact st.decorate_renumber fun t => rfl
  | emptyLabel => exact st.report_renumber l (.emptyLabel l.text)
  | topic shape label =>
    have hattach : attach
        { id := s!"node-{(st.renumber f).count}", label, shape, line := (l.renumber f).number }
        (l.renumber f).indent (st.renumber f).spine = _ :=
      attach_renumber { id := s!"node-{st.count}", label, shape, line := l.number } l.indent
        st.spine
    dsimp only
    rw [hattach]
    dsimp only
    split
    · rfl
    · rw [← State.report_renumber]
      rfl

theorem quotesNoLine_message (p : Problem) : QuotesNoLine (Describe.message p) := by
  cases p with
  | notBelowRoot label =>
    -- This message starts like the one about a second declaration and ends in another way.
    have hend : "' is not indented below the root; attaching it to the root".toList =
        "' is not indented below the root; attaching it to the roo".toList ++ ['t'] := by
      decide +kernel
    refine quotesNoLine_of_end ?_
    simp only [Describe.message, toString, String.toList_append, hend, ← List.append_assoc]
    rw [List.getLast?_concat]
    decide
  | _ =>
    refine quotesNoLine_of_start ?_
    simp only [Describe.message, toString, String.toList_append]
    rfl

/-- The missing root is reported at the header, so there has to be one. -/
theorem parse_renumber {ls : List Line} (hls : ls ≠ []) :
    (parse ls).Renumbered f (Map.renumber f) (parse (ls.map (Line.renumber f))) := by
  have hsteps (ls : List Line) (st : State) : (ls.map (Line.renumber f)).foldl State.step
      (st.renumber f) = (ls.foldl State.step st).renumber f := by
    rw [List.foldl_map]
    exact List.foldl_hom (State.renumber f) State.step_renumber
  obtain ⟨header, body, rfl⟩ := List.exists_cons_of_ne_nil hls
  have hend : (body.map (Line.renumber f)).foldl State.step {} =
      (body.foldl State.step {}).renumber f := hsteps body {}
  have hreports (st : State) : (st.renumber f).reports = st.reports.map (Report.renumber f) := rfl
  have hspine (st : State) : (st.renumber f).spine = st.spine.map (Level.renumber f) := rfl
  simp only [parse, List.map_cons, List.tail_cons, hend, hreports, hspine, finish_renumber]
  obtain hroot | ⟨root, hroot⟩ := (finish (body.foldl State.step {}).spine).eq_none_or_eq_some
  · simp only [hroot, Option.map_none, Option.isSome_none, Bool.false_eq_true, if_false]
    have hlog : Parsed.Renumbered f (Map.renumber f) _ _ :=
      Parsed.renumbered_ofReports quotesNoLine_message ⟨none⟩
        ((body.foldl State.step {}).reports ++ [{ problem := .noRoot, line := header.number }])
    rw [List.map_append] at hlog
    exact hlog
  · simp only [hroot, Option.map_some, Option.isSome_some, if_true, List.append_nil]
    exact Parsed.renumbered_ofReports quotesNoLine_message _ _

end Mindmap

/-! ## All kinds -/

/-- The diagram at other lines. -/
def Diagram.renumber (f : Int → Int) : Diagram → Diagram
  | .graph g => .graph (g.renumber f)
  | .sequence d => .sequence (d.renumber f)
  | .classes d => .classes (d.renumber f)
  | .er d => .er (d.renumber f)
  | .pie c => .pie (c.renumber f)
  | .gantt c => .gantt (c.renumber f)
  | .mindmap m => .mindmap (m.renumber f)

theorem Parsed.Renumbered.map {δ : Type} {r : δ → δ} {p p' : Parsed δ} {g : δ → Diagram}
    (h : p.Renumbered f r p') (hg : ∀ d, g (r d) = (g d).renumber f) :
    (p.map g).Renumbered f (Diagram.renumber f) (p'.map g) where
  diagram := (congrArg g h.diagram).trans (hg p.diagram)
  diagnostics := h.diagnostics

/-- **Line numbers.** Lines with other numbers are read as the same diagram at those lines, with the
same problems, or they have the same fault. -/
theorem Diagram.parse_renumber (kind : DiagramKind) (direction : String) {ls : List Line}
    (hls : ls ≠ []) :
    SameOutcome (Parsed.Renumbered f (Diagram.renumber f)) (Diagram.parse kind direction ls)
      (Diagram.parse kind direction (ls.map (Line.renumber f))) := by
  cases kind with
  | flowchart => exact (Flowchart.parse_renumber ls direction).map fun _ _ h => h.map fun _ => rfl
  | state => exact (StateChart.parse_renumber ls).map fun _ _ h => h.map fun _ => rfl
  | sequence => exact (Sequence.parse_renumber ls).map fun _ _ h => h.map fun _ => rfl
  | classes => exact .ok ((Classes.parse_renumber ls).map fun _ => rfl)
  | er => exact .ok ((Er.parse_renumber ls).map fun _ => rfl)
  | pie => exact (Pie.parse_renumber ls).map fun _ _ h => h.map fun _ => rfl
  | gantt => exact .ok ((Gantt.parse_renumber ls).map fun _ => rfl)
  | mindmap => exact .ok ((Mindmap.parse_renumber hls).map fun _ => rfl)

end DiagramText
