import DiagramText.Gantt.Parse
import DiagramText.Pie.Parse
import DiagramText.Proofs.Reports
import DiagramText.Proofs.ScopeGraph.DirectiveLines
import DiagramText.Proofs.Wording

/-!
# Rejected lines

A reader rejects a line with an error, or with a warning that it skips the line.  Whatever it has
read so far, a rejected line leaves no trace but that report.

1. `Diagnostic.rejects` tells by the words of a diagnostic that a line is rejected.  For each
   dialect, `Problem.rejects` singles out the problems that are worded so.
2. `Journal.SparesRejected`, what is claimed of one step of a reader.
3. One lemma for each dialect: a step reports why it rejects a line and does nothing else, or it
   reports nothing that rejects a line.
-/

namespace DiagramText

open Source (Line)

/-! ## Rejections -/

/-- Whether a diagnostic says that a line is rejected.  A relationship with an unknown cardinality
is an error, but it is not rejected. -/
def Diagnostic.rejects (d : Diagnostic) : Bool :=
  (d.isError && !"Unknown cardinality '".toList.isPrefixOf d.message.toList) ||
    d.warns ["Skipping unrecognized line: "]

theorem Report.rejects_toDiagnostic {π : Type} [Describe π] (r : Report π) :
    r.toDiagnostic.rejects =
      match Describe.severity r.problem with
      | .error => !"Unknown cardinality '".toList.isPrefixOf (Describe.message r.problem).toList
      | .warning =>
        "Skipping unrecognized line: ".toList.isPrefixOf (Describe.message r.problem).toList := by
  obtain ⟨problem, line, column⟩ := r
  unfold Diagnostic.rejects Diagnostic.warns Diagnostic.isError Diagnostic.isWarning toDiagnostic
  dsimp only
  cases Describe.severity problem with
  | error => exact Bool.or_false _
  | warning => exact Bool.or_false _

/-- Where a reader keeps its reports, and which problems are that a line is rejected. -/
structure Journal (σ π : Type) [Describe π] where
  reports : σ → List (Report π)
  put : σ → List (Report π) → σ
  reports_put : ∀ st rs, reports (put st rs) = rs
  rejects : π → Bool
  rejects_problem : ∀ r : Report π, r.toDiagnostic.rejects = rejects r.problem

namespace Journal

variable {σ π : Type} [Describe π] {J : Journal σ π} {st st' : σ}

/-- A step has added reports behind the others, and if one of them says that a line is rejected, it
has changed nothing else. -/
def SparesRejected (J : Journal σ π) (st st' : σ) : Prop :=
  ∃ new, J.reports st' = J.reports st ++ new ∧
    ((∃ r ∈ new, r.toDiagnostic.rejects = true) → st' = J.put st (J.reports st ++ new))

/-- A step that does nothing but report. -/
theorem sparesRejected_put (new : List (Report π)) :
    J.SparesRejected st (J.put st (J.reports st ++ new)) :=
  ⟨new, J.reports_put st _, fun _ => rfl⟩

/-- A step that reports nothing to reject a line may do anything else. -/
theorem sparesRejected_of_appends
    (h : Appends (fun r => J.rejects r.problem = false) (J.reports st) (J.reports st')) :
    J.SparesRejected st st' := by
  obtain ⟨new, hnew, hnone⟩ := h
  refine ⟨new, hnew, ?_⟩
  rintro ⟨r, hr, hrejects⟩
  rw [J.rejects_problem r, hnone r hr] at hrejects
  cases hrejects

/-- A step without reports. -/
theorem sparesRejected_of_eq (h : J.reports st' = J.reports st) : J.SparesRejected st st' :=
  sparesRejected_of_appends (h ▸ .refl _)

end Journal

/-! ## Pie charts -/

namespace Pie

/-- Whether a problem is that a line is rejected. -/
def Problem.rejects : Problem → Bool
  | .badValue _ | .unrecognised _ => true
  | .header _ => false

theorem rejects_toDiagnostic (r : Report Problem) :
    r.toDiagnostic.rejects = r.problem.rejects := by
  obtain ⟨problem, line, column⟩ := r
  rw [Report.rejects_toDiagnostic]
  cases problem <;>
    simp only [Describe.message, Describe.severity, Problem.rejects, toString,
      String.toList_append, List.append_assoc, isPrefixOf_self_append] <;>
    rfl

def journal : Journal State Problem where
  reports := State.reports
  put st rs := { st with reports := rs }
  reports_put _ _ := rfl
  rejects := Problem.rejects
  rejects_problem := rejects_toDiagnostic

theorem sparesRejected_report (st : State) (l : Line) (p : Problem) :
    journal.SparesRejected st (st.report l p) := Journal.sparesRejected_put [l.report p]

theorem sparesRejected_step (st : State) (l : Line) : journal.SparesRejected st (st.step l) := by
  unfold State.step
  cases Statement.recognise l.text with
  | showData => exact Journal.sparesRejected_of_eq rfl
  | title t => exact Journal.sparesRejected_of_eq rfl
  | slice label value => exact Journal.sparesRejected_of_eq rfl
  | badValue raw => exact sparesRejected_report st l _
  | unrecognised => exact sparesRejected_report st l _

end Pie

/-! ## Gantt charts -/

namespace Gantt

theorem rejects_toDiagnostic (r : Report Problem) : r.toDiagnostic.rejects = true := by
  obtain ⟨problem, line, column⟩ := r
  rw [Report.rejects_toDiagnostic]
  cases problem <;>
    simp only [Describe.message, Describe.severity, toString, String.toList_append] <;>
    rfl

def journal : Journal State Problem where
  reports := State.reports
  put st rs := { st with reports := rs }
  reports_put _ _ := rfl
  rejects _ := true
  rejects_problem := rejects_toDiagnostic

theorem sparesRejected_report (st : State) (l : Line) (p : Problem) :
    journal.SparesRejected st (st.report l p) := Journal.sparesRejected_put [l.report p]

theorem sparesRejected_step (st : State) (l : Line) : journal.SparesRejected st (st.step l) := by
  unfold State.step
  cases Statement.recognise l.text with
  | task label metadata =>
    dsimp only
    cases Task.ofMetadata? label metadata l.number with
    | some t => exact Journal.sparesRejected_of_eq (reports_addTask st t)
    | none => exact sparesRejected_report st l _
  | invalid => exact sparesRejected_report st l _
  | title _ | dateFormat _ | axisFormat _ | excludes _ | includes _ | enter _ | setting _ _ =>
    exact Journal.sparesRejected_of_eq rfl

end Gantt

/-! ## Entity-relationship diagrams -/

namespace Er

/-- Whether a problem is that a line is rejected. -/
def Problem.rejects : Problem → Bool
  | .strayClose | .unnamedAttribute _ | .invalidRelationship _ | .unrecognised _ => true
  | _ => false

theorem rejects_toDiagnostic (r : Report Problem) :
    r.toDiagnostic.rejects = r.problem.rejects := by
  obtain ⟨problem, line, column⟩ := r
  rw [Report.rejects_toDiagnostic]
  cases problem <;>
    simp only [Describe.message, Describe.severity, Problem.rejects, toString,
      String.toList_append, List.append_assoc, isPrefixOf_self_append] <;>
    rfl

def journal : Journal State Problem where
  reports := State.reports
  put st rs := { st with reports := rs }
  reports_put _ _ := rfl
  rejects := Problem.rejects
  rejects_problem := rejects_toDiagnostic

theorem sparesRejected_reportAll (st : State) (l : Line) (ps : List Problem) :
    journal.SparesRejected st (st.reportAll l ps) := Journal.sparesRejected_put (ps.map l.report)

theorem appends_reportAll {rs : List (Report Problem)} (l : Line) {ps : List Problem}
    (hps : ∀ p ∈ ps, p.rejects = false) :
    Appends (fun r => r.problem.rejects = false) rs (rs ++ ps.map l.report) := by
  apply Appends.append
  intro r hr
  obtain ⟨p, hp, rfl⟩ := List.mem_map.1 hr
  exact hps p hp

/-- A relationship is kept, whatever there is to say about it. -/
theorem rejects_of_mem_linkProblems {k : Link} {p : Problem} (h : p ∈ State.linkProblems k) :
    p.rejects = false := by
  unfold State.linkProblems at h
  rcases List.mem_append.1 h with h | h
  · rcases List.mem_append.1 h with h | h <;>
    · dsimp only at h
      split at h
      · cases h
      · rw [List.mem_singleton.1 h]
        rfl
  · split at h
    · rw [List.mem_singleton.1 h]
      rfl
    · cases h

theorem appends_relate (st : State) (l : Line) (k : Link) :
    Appends (fun r => r.problem.rejects = false) st.reports (st.relate l k).reports :=
  appends_reportAll l fun _ => rejects_of_mem_linkProblems

theorem sparesRejected_addAttribute (st : State) (l : Line) (id : String) :
    journal.SparesRejected st (st.addAttribute l id) := by
  unfold State.addAttribute
  split
  · exact sparesRejected_reportAll st l _
  · apply Journal.sparesRejected_of_appends
    apply appends_reportAll
    intro p hp
    obtain ⟨w, -, rfl⟩ := List.mem_map.1 hp
    rfl

theorem sparesRejected_step (st : State) (l : Line) : journal.SparesRejected st (st.step l) := by
  unfold State.step
  split
  · exact Journal.sparesRejected_of_eq rfl
  · apply Journal.sparesRejected_of_appends
    rename_i b k _ _
    have hbody : Appends (fun r => r.problem.rejects = false) st.reports
        (st.reportAll l [.bodyBeforeRelationship b.id]).reports :=
      appends_reportAll l (List.forall_mem_singleton.2 rfl)
    exact hbody.trans (appends_relate _ l k)
  · exact sparesRejected_addAttribute st l _
  · exact sparesRejected_reportAll st l _
  · exact Journal.sparesRejected_of_appends (appends_relate st l _)
  · exact Journal.sparesRejected_of_eq rfl
  · exact sparesRejected_reportAll st l _
  · exact sparesRejected_reportAll st l _

end Er

/-! ## Sequence diagrams -/

namespace Sequence

/-- Whether a problem is that a line is rejected. -/
def Problem.rejects : Problem → Bool
  | .nestedBox | .strayEnd | .strayDivider _ | .invalidMessage _ | .unrecognised _ => true
  | _ => false

theorem rejects_toDiagnostic (r : Report Problem) :
    r.toDiagnostic.rejects = r.problem.rejects := by
  obtain ⟨problem, line, column⟩ := r
  rw [Report.rejects_toDiagnostic]
  cases problem <;>
    simp only [Describe.message, Describe.severity, Problem.rejects, toString,
      String.toList_append, List.append_assoc, isPrefixOf_self_append] <;>
    rfl

def journal : Journal State Problem where
  reports := State.reports
  put st rs := { st with reports := rs }
  reports_put _ _ := rfl
  rejects := Problem.rejects
  rejects_problem := rejects_toDiagnostic

theorem sparesRejected_report (st : State) (l : Line) (p : Problem) :
    journal.SparesRejected st (st.report l p) := Journal.sparesRejected_put [l.report p]

theorem appends_reportIf (st : State) (c : Bool) (l : Line) {p : Problem}
    (hp : p.rejects = false) :
    Appends (fun r => r.problem.rejects = false) st.reports (st.reportIf c l p).reports := by
  unfold State.reportIf
  split
  · exact .concat hp
  · exact .refl _

theorem appends_addNote (st : State) (l : Line) (position : Position) (spelled : String)
    (ids : List String) (text : String) :
    Appends (fun r => r.problem.rejects = false) st.reports
      (st.addNote l position spelled ids text).reports := by
  unfold State.addNote
  dsimp only
  rw [reports_addItem, reports_foldl_mention]
  exact (appends_reportIf st _ l rfl).trans (appends_reportIf _ _ l rfl)

theorem appends_addMessage (st : State) (l : Line) (m : MessageText) :
    Appends (fun r => r.problem.rejects = false) st.reports (st.addMessage l m).reports := by
  unfold State.addMessage
  dsimp only
  rw [reports_addItem]
  exact appends_reportIf st _ l rfl

theorem sparesRejected_step (st : State) (l : Line) (s : Statement) :
    journal.SparesRejected st (st.step (l, s)) := by
  cases s with
  | declare role id label =>
    exact Journal.sparesRejected_of_appends (appends_reportIf st _ l rfl)
  | note position spelled ids text =>
    exact Journal.sparesRejected_of_appends (appends_addNote st l position spelled ids text)
  | box label =>
    show journal.SparesRejected st (st.openBox l label)
    unfold State.openBox
    split
    · exact sparesRejected_report st l _
    · exact Journal.sparesRejected_of_eq rfl
  | divide divider label =>
    show journal.SparesRejected st (st.divide l divider label)
    unfold State.divide
    split
    · exact sparesRejected_report st l _
    · exact Journal.sparesRejected_of_appends (appends_reportIf st _ l rfl)
  | close =>
    show journal.SparesRejected st (st.close l)
    unfold State.close
    split
    · exact Journal.sparesRejected_of_eq (reports_closeBlock st)
    · split
      · exact Journal.sparesRejected_of_eq rfl
      · exact sparesRejected_report st l _
  | message m => exact Journal.sparesRejected_of_appends (appends_addMessage st l m)
  | invalidMessage => exact sparesRejected_report st l _
  | unrecognised => exact sparesRejected_report st l _
  | block _ _ | autonumber | title _ | activation _ => exact Journal.sparesRejected_of_eq rfl

end Sequence

/-! ## Class diagrams -/

namespace Classes

/-- Whether a problem is that a line is rejected. -/
def Problem.rejects : Problem → Bool
  | .strayClose | .unknownConnector _ | .malformedRelationship _ | .unrecognised _ => true
  | _ => false

theorem rejects_toDiagnostic (r : Report Problem) :
    r.toDiagnostic.rejects = r.problem.rejects := by
  obtain ⟨problem, line, column⟩ := r
  rw [Report.rejects_toDiagnostic]
  cases problem <;>
    simp only [Describe.message, Describe.severity, Problem.rejects, toString,
      String.toList_append, List.append_assoc, isPrefixOf_self_append] <;>
    rfl

def journal : Journal State Problem where
  reports := State.reports
  put st rs := { st with reports := rs }
  reports_put _ _ := rfl
  rejects := Problem.rejects
  rejects_problem := rejects_toDiagnostic

theorem sparesRejected_report (st : State) (l : Line) (p : Problem) :
    journal.SparesRejected st (st.report l p) := Journal.sparesRejected_put [l.report p]

theorem appends_addBodyLine (st : State) (l : Line) (id : String) (b : BodyLine) :
    Appends (fun r => r.problem.rejects = false) st.reports (st.addBodyLine l id b).reports := by
  cases b with
  | stereotype t => exact .refl _
  | member m => exact .refl _
  | nameless t => exact .concat rfl

theorem appends_declare (st : State) (l : Line) (d : Declaration) :
    Appends (fun r => r.problem.rejects = false) st.reports (st.declare l d).reports := by
  unfold State.declare
  dsimp only
  cases d.tail with
  | nothing => exact .refl _
  | body => exact .refl _
  | inline parts =>
    exact .foldl State.reports (fun st p => appends_addBodyLine st l _ (.recognise p)) parts _
  | unexpected t => exact .concat rfl

theorem appends_openGroup (st : State) (l : Line) (name : String) :
    Appends (fun r => r.problem.rejects = false) st.reports (st.openGroup l name).reports := by
  unfold State.openGroup
  cases st.group with
  | some g => exact .concat rfl
  | none => exact .refl _

theorem sparesRejected_stepOutside (st : State) (l : Line) :
    journal.SparesRejected st (st.stepOutside l) := by
  unfold State.stepOutside
  cases Statement.recognise l.text with
  | openGroup name => exact Journal.sparesRejected_of_appends (appends_openGroup st l name)
  | close =>
    dsimp only
    split
    · exact Journal.sparesRejected_of_eq rfl
    · exact sparesRejected_report st l _
  | declare d => exact Journal.sparesRejected_of_appends (appends_declare st l d)
  | note classId text => exact Journal.sparesRejected_of_eq (reports_addNote st l classId text)
  | unknownConnector token => exact sparesRejected_report st l _
  | malformedRelationship => exact sparesRejected_report st l _
  | member id b =>
    exact Journal.sparesRejected_of_appends (appends_addBodyLine (st.mention id) l id b)
  | unrecognised => exact sparesRejected_report st l _
  | stereotype _ _ | direction _ | relate _ => exact Journal.sparesRejected_of_eq rfl

/-- A line that starts a class closes the open body, and then it may be rejected. -/
def ClosesBody (l : Line) (st st' : State) : Prop :=
  ∃ b, st.body = some b ∧
    st' = { st with body := none, reports := st.reports ++ [l.report (.bodyBeforeClass b.id)] }

/-- A line is spared as it is, or behind the body that it closes. -/
theorem sparesRejected_step (st : State) (l : Line) :
    journal.SparesRejected st (st.step l) ∨
      ∃ closed, ClosesBody l st closed ∧ journal.SparesRejected closed (st.step l) := by
  unfold State.step
  split
  · exact .inl (sparesRejected_stepOutside st l)
  · rename_i b hb
    split
    · exact .inl (Journal.sparesRejected_of_eq rfl)
    · split
      · exact .inr ⟨_, ⟨b, hb, rfl⟩, sparesRejected_stepOutside _ l⟩
      · exact .inl (Journal.sparesRejected_of_appends (appends_addBodyLine st l b.id _))

end Classes

/-! ## State diagrams -/

namespace ScopeGraph

/-- Whether a problem is that a line is rejected. -/
def Problem.rejects : Problem → Bool
  | .missingId | .strayClose _ | .malformedDirective _ | .missingTarget _ => true
  | .unrecognisedLine _ => true
  | _ => false

theorem rejects_toDiagnostic (r : Report Problem) :
    r.toDiagnostic.rejects = r.problem.rejects := by
  obtain ⟨problem, line, column⟩ := r
  rw [Report.rejects_toDiagnostic]
  cases problem with
  | strayClose family =>
    cases family <;>
      simp only [Describe.message, Describe.severity, Problem.rejects] <;>
      rfl
  | unclosed family id =>
    cases family <;>
      simp only [Describe.message, Describe.severity, Problem.rejects, toString,
        String.toList_append, List.append_assoc] <;>
      rfl
  | _ =>
    simp only [Describe.message, Describe.severity, Problem.rejects, toString,
      String.toList_append, List.append_assoc, isPrefixOf_self_append] <;>
    rfl

end ScopeGraph

namespace StateChart

open ScopeGraph (State)

/-- The reports of a state diagram being read, in the state behind some lines; with the state comes
whether a note block is open. -/
def journal : Journal (State × Bool) ScopeGraph.Problem where
  reports x := x.1.reports
  put x rs := ({ x.1 with reports := rs }, x.2)
  reports_put _ _ := rfl
  rejects := ScopeGraph.Problem.rejects
  rejects_problem := ScopeGraph.rejects_toDiagnostic

/-- Whether a statement is rejected in a state. -/
def Statement.isRejected (st : State) : Statement → Bool
  | .directive .malformed | .unrecognised => true
  | .close => st.scopes.isEmpty
  | _ => false

theorem plain?_ne_unrecognised (s : List Char) : Statement.plain? s ≠ some .unrecognised := by
  unfold Statement.plain?
  repeat' apply orElse_ne_some
  · exact map_ne_some (by nofun)
  · exact map_ne_some (by nofun)
  · split <;> nofun
  · split <;> nofun
  all_goals exact map_ne_some (by nofun)

theorem note?_of_plain?_eq_none {s : List Char} (h : Statement.plain? s = none) :
    note? s = none := by
  unfold Statement.plain? at h
  simp only [Option.orElse_eq_orElse, Option.orElse_eq_or, Option.or_eq_none_iff,
    Option.map_eq_none_iff] at h
  exact h.2.2.2.2.1

/-- A line that is rejected opens no note block. -/
theorem note?_of_isRejected {st : State} {l : Line} {s : Statement}
    (hs : Statement.recognise l.text = .ok s) (h : s.isRejected st = true) :
    note? l.text.toList = none := by
  have hdirective := Statement.directive?_of_recognise hs
  cases s with
  | directive d =>
    have hl : ScopeGraph.isDirective l = true := ScopeGraph.isDirective_of_recognise? hdirective
    exact (not_note_of_isDirective hl).1
  | close =>
    rw [recognise_eq_close_iff.1 hs]
    rfl
  | unrecognised =>
    obtain ⟨d, hd, hs⟩ := bind_eq_ok_iff.1 hs
    cases d with
    | some d => cases hs
    | none =>
      have hplain : (Statement.plain? l.text.toList).getD .unrecognised = .unrecognised :=
        Except.ok.inj hs
      cases hopt : Statement.plain? l.text.toList with
      | none => exact note?_of_plain?_eq_none hopt
      | some t =>
        rw [hopt] at hplain
        exact absurd (hopt.trans (congrArg some hplain)) (plain?_ne_unrecognised _)
  | direction _ | openComposite _ _ | separator | note _ | declare _ _ _ | transition _ _ _
  | mention _ => cases h

theorem step_of_isRejected {st : State} {l : Line} {s : Statement} (h : s.isRejected st = true) :
    ∃ p, step st (l, s) = st.report l p := by
  cases s with
  | directive d =>
    cases d with
    | malformed => exact ⟨_, rfl⟩
    | classDef _ _ | assign _ _ | style _ _ | linkStyle _ _ => cases h
  | close => exact ⟨.strayClose .state, if_pos h⟩
  | unrecognised => exact ⟨_, rfl⟩
  | direction _ | openComposite _ _ | separator | note _ | declare _ _ _ | transition _ _ _
  | mention _ => cases h

theorem appends_readSource (st : State) (l : Line) (e : Endpoint) :
    Appends (fun r => r.problem.rejects = false) st.reports (readSource st l e).1.reports := by
  cases e with
  | star => exact State.appends_declare { st with starts := st.starts + 1 } fun _ => rfl
  | state id =>
    show Appends _ _ (st.mention id .rounded l.number).reports
    rw [State.reports_mention]
    exact .refl _

theorem appends_readTarget (st : State) (l : Line) (e : Endpoint) :
    Appends (fun r => r.problem.rejects = false) st.reports (readTarget st l e).1.reports := by
  cases e with
  | star => exact State.appends_declare { st with ends := st.ends + 1 } fun _ => rfl
  | state id =>
    show Appends _ _ (st.mention id .rounded l.number).reports
    rw [State.reports_mention]
    exact .refl _

theorem appends_step {st : State} {l : Line} {s : Statement} (h : s.isRejected st = false) :
    Appends (fun r => r.problem.rejects = false) st.reports (step st (l, s)).reports := by
  cases s with
  | directive d =>
    refine st.appends_applyDirective l rfl ?_
    rintro rfl
    cases h
  | direction d =>
    show Appends _ _ (st.setDirection d).reports
    rw [State.reports_setDirection]
    exact .refl _
  | close =>
    have hclose : st.closeOrReport .state l = st.closeScope := if_neg (Bool.eq_false_iff.1 h)
    show Appends _ _ (st.closeOrReport .state l).reports
    rw [hclose, State.reports_closeScope]
    exact .refl _
  | declare id label shape => exact st.appends_declare fun _ => rfl
  | transition source target label =>
    exact (appends_readSource st l source).trans (appends_readTarget _ l target)
  | mention id =>
    show Appends _ _ (st.mention id .rounded l.number).reports
    rw [State.reports_mention]
    exact .refl _
  | unrecognised => cases h
  | openComposite _ _ | separator | note _ => exact .refl _

theorem outsideNotes_concat (inNote : Bool) (ls : List Line) (l : Line) :
    outsideNotes inNote (ls ++ [l]) =
      if (outsideNotes inNote ls).2 then ((outsideNotes inNote ls).1, !isNoteEnd l.text)
      else ((outsideNotes inNote ls).1 ++ [l], note? l.text.toList == some .block) := by
  induction ls generalizing inNote with
  | nil => cases inNote <;> rfl
  | cons l' ls ih =>
    cases inNote with
    | true => exact ih _
    | false =>
      show (l' :: (outsideNotes _ (ls ++ [l])).1, (outsideNotes _ (ls ++ [l])).2) = _
      rw [ih]
      show _ = if (outsideNotes (note? l'.text.toList == some .block) ls).2 then (l' :: _, _) else
        (l' :: _ ++ [l], _)
      split <;> rfl

/-- The state behind some lines below the header, and whether a note block is open there. -/
def stateAfter (ls : List Line) : Except Fault (State × Bool) := do
  let (body, isOpen) := outsideNotes false ls
  return ((← statements body).foldl step { direction := Direction.topDown.name }, isOpen)

theorem stateAfter_eq_ok_iff {ls : List Line} {x : State × Bool} :
    stateAfter ls = .ok x ↔ ∃ xs, statements (outsideNotes false ls).1 = .ok xs ∧
      x = (xs.foldl step { direction := Direction.topDown.name }, (outsideNotes false ls).2) := by
  refine bind_eq_ok_iff.trans ?_
  simp only [pure, Except.pure, Except.ok.injEq, eq_comm]

theorem parse_eq_stateAfter (ls : List Line) :
    parse ls = (stateAfter ls.tail).map fun x => (reportOpenNote x.1 x.2 ls).finish .state := by
  unfold parse stateAfter
  obtain ⟨body, isOpen⟩ := outsideNotes false ls.tail
  dsimp only
  cases statements body <;> rfl

/-- The next line is passed over in a note block, and read elsewhere. -/
theorem sparesRejected_next {ls : List Line} {l : Line} {x y : State × Bool}
    (hx : stateAfter ls = .ok x) (hy : stateAfter (ls ++ [l]) = .ok y) :
    journal.SparesRejected x y := by
  obtain ⟨xs, hxs, rfl⟩ := stateAfter_eq_ok_iff.1 hx
  obtain ⟨ys, hys, rfl⟩ := stateAfter_eq_ok_iff.1 hy
  rw [outsideNotes_concat] at hys ⊢
  split at hys
  · obtain rfl : xs = ys := Except.ok.inj (hxs.symm.trans hys)
    exact Journal.sparesRejected_of_eq rfl
  · rename_i hopen
    obtain ⟨rest, hrest, rfl⟩ := exists_append_of_readLines hxs hys
    obtain ⟨s, hs, rfl⟩ : ∃ s, Statement.recognise l.text = .ok s ∧ rest = [(l, s)] := by
      obtain ⟨⟨l', s⟩, u, ⟨hl, hread⟩, hnil, rfl⟩ :=
        List.forall₂_cons_left_iff.1 (readLines_eq_ok_iff.1 hrest)
      cases hl
      cases hnil
      exact ⟨s, hread, rfl⟩
    have hclosed : (outsideNotes false ls).2 = false := Bool.eq_false_iff.2 hopen
    rw [List.foldl_append, if_neg hopen, hclosed]
    generalize xs.foldl step { direction := Direction.topDown.name } = st
    show journal.SparesRejected _ (step st (l, s), _)
    cases hrejected : s.isRejected st with
    | true =>
      obtain ⟨p, hp⟩ := step_of_isRejected (l := l) hrejected
      rw [hp, note?_of_isRejected hs hrejected]
      exact Journal.sparesRejected_put [l.report p]
    | false => exact Journal.sparesRejected_of_appends (appends_step hrejected)

end StateChart

/-! ## Rejected lines -/

/-- **A rejected line changes nothing.**  If a line is answered with an error, or with a warning
that it is skipped, then everything but the reports is as it was before that line: what has been
built, what is registered, and what is open.  In a class diagram, a line that starts a class closes
the body that is open before it is looked at. -/
theorem rejected_lines_change_nothing :
    (∀ ls l x y, StateChart.stateAfter ls = .ok x → StateChart.stateAfter (ls ++ [l]) = .ok y →
      StateChart.journal.SparesRejected x y) ∧
    (∀ ls, StateChart.parse ls = (StateChart.stateAfter ls.tail).map fun x =>
      (StateChart.reportOpenNote x.1 x.2 ls).finish .state) ∧
    (∀ st l s, Sequence.journal.SparesRejected st (st.step (l, s))) ∧
    (∀ st l, Classes.journal.SparesRejected st (st.step l) ∨
      ∃ closed, Classes.ClosesBody l st closed ∧
        Classes.journal.SparesRejected closed (st.step l)) ∧
    (∀ st l, Er.journal.SparesRejected st (st.step l)) ∧
    (∀ st l, Gantt.journal.SparesRejected st (st.step l)) ∧
    ∀ st l, Pie.journal.SparesRejected st (st.step l) :=
  ⟨fun _ _ _ _ => StateChart.sparesRejected_next, StateChart.parse_eq_stateAfter,
    Sequence.sparesRejected_step, Classes.sparesRejected_step, Er.sparesRejected_step,
    Gantt.sparesRejected_step, Pie.sparesRejected_step⟩

/-- A composite state that is still open, and in it two states. -/
def openYard : List Line := [⟨2, "state Yard \x7b", 0, 1⟩, ⟨3, "Idle --> Busy", 0, 1⟩]

theorem rejected_lines_change_nothing_openYard :
    ∃ x y, StateChart.stateAfter openYard = .ok x ∧
      StateChart.stateAfter (openYard ++ [⟨4, "Idle ==> Busy", 0, 1⟩]) = .ok y ∧
      x.1.scopes.length = 1 ∧ y.1.reports = [⟨.unrecognisedLine "Idle ==> Busy", 4, some 1⟩] ∧
      y = StateChart.journal.put x y.1.reports := by
  have hopen : ((StateChart.stateAfter openYard).toOption.map fun x =>
      (x.1.scopes.length, x.1.reports)) = some (1, []) := by
    decide +kernel
  have hnext : ((StateChart.stateAfter (openYard ++ [⟨4, "Idle ==> Busy", 0, 1⟩])).toOption.map
      fun y => y.1.reports) = some [⟨.unrecognisedLine "Idle ==> Busy", 4, some 1⟩] := by
    decide +kernel
  obtain ⟨x, hx, hscopes⟩ := exists_ok_of_toOption hopen
  obtain ⟨y, hy, hreports⟩ := exists_ok_of_toOption hnext
  obtain ⟨hlength, hnone⟩ := Prod.mk.inj hscopes
  obtain ⟨new, hnew, hspared⟩ := rejected_lines_change_nothing.1 _ _ x y hx hy
  have hall : y.1.reports = x.1.reports ++ new := hnew
  rw [hnone, List.nil_append] at hall
  refine ⟨x, y, hx, hy, hlength, hreports, ?_⟩
  have hrejected : ∃ r ∈ new, r.toDiagnostic.rejects = true := by
    rw [← hall, hreports]
    exact ⟨_, List.mem_singleton_self _, by decide +kernel⟩
  exact (hspared hrejected).trans (by rw [← hnew]; rfl)

end DiagramText
