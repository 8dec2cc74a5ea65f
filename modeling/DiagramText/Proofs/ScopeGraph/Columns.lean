import DiagramText.Proofs.Columns
import DiagramText.Proofs.Flowchart.Chain
import DiagramText.Proofs.ScopeGraph.LinkIndex
import DiagramText.Proofs.ScopeGraph.Nesting

/-!
# The columns of reports on graphs

Most reports on flowcharts and state diagrams are about whole lines or have no column.  Two kinds of
reports quote a part of a chain, and that part stands in the line from the column of the report on.

1. `Points`: a report has a place inside a line, and a quoted text stands at that place.
2. The reports that the steps of both families add, and those of the end.
3. Flowcharts and state diagrams.
-/

namespace DiagramText.ScopeGraph

open Source (Line)

/-! ## Reports that point into lines -/

/-- The part of a line that a report quotes to say where it stands. -/
def Problem.quoted? : Problem → Option String
  | .unknownArrow text | .unrecognisedText text => some text
  | _ => none

/-- The place of a report is inside one of some lines, and a quoted part of a line stands there. -/
structure Points (ls : List Line) (r : Report Problem) : Prop where
  within : r.Within ls
  quoted : ∀ t, r.problem.quoted? = some t → ∃ l ∈ ls, r.line = l.number ∧
    ∃ k : Nat, r.column = some (l.column + k) ∧ t.toList <+: l.text.toList.drop k

namespace Points

variable {ls ls' : List Line} {r : Report Problem}

theorem mono (h : Points ls r) (hsub : ls ⊆ ls') : Points ls' r where
  within := h.within.mono hsub
  quoted := by
    intro t ht
    obtain ⟨l, hl, hplace⟩ := h.quoted t ht
    exact ⟨l, hsub hl, hplace⟩

theorem of_whole (hr : r.Within ls) (hquoted : r.problem.quoted? = none) : Points ls r where
  within := hr
  quoted := by
    intro t ht
    rw [hquoted] at ht
    cases ht

end Points

variable {rs : List (Report Problem)}

theorem adds_report (l : Line) {p : Problem} (hp : p.quoted? = none) :
    Adds (Points [l]) rs (rs ++ [l.report p]) := by
  apply Adds.append
  exact List.forall_mem_singleton.2 (.of_whole (l.within_report p) hp)

theorem adds_of_none {ls : List Line} {more : List (Report Problem)}
    (h : ∀ r ∈ more, r.column = none ∧ r.problem.quoted? = none) :
    Adds (Points ls) rs (rs ++ more) := by
  apply Adds.append
  intro r hr
  obtain ⟨hcolumn, hquoted⟩ := h r hr
  exact .of_whole (Report.within_of_none hcolumn ls) hquoted

/-! ## Steps of both families -/

namespace State

variable (st : State) (l : Line) {ls : List Line}

theorem reports_claim (id : String) : (st.claim id).reports = st.reports := by
  obtain h | ⟨f, fs, rest, -, -, h⟩ := st.claim_cases id <;> rw [h]

theorem reports_mention (id : String) (shape : Shape) (line : Int) :
    (st.mention id shape line).reports = st.reports := reports_claim _ id

theorem adds_declare (id label : String) (shape : Shape) (line : Int) :
    Adds (Points ls) st.reports (st.declare id label shape line).reports := by
  unfold declare
  dsimp only
  rw [reports_claim]
  split
  · exact .refl _
  · split
    · exact .refl _
    · split
      · exact .refl _
      · exact adds_of_none (List.forall_mem_singleton.2 ⟨rfl, rfl⟩)

theorem reports_setDirection (d : Direction) : (st.setDirection d).reports = st.reports := by
  unfold setDirection
  split <;> rfl

theorem adds_closeOrReport (family : Family) :
    Adds (Points [l]) st.reports (st.closeOrReport family l).reports := by
  unfold closeOrReport
  split
  · exact adds_report l rfl
  · rw [reports_closeScope]
    exact .refl _

theorem reports_noteLink (t : LinkTarget) : (st.noteLink l t).reports = st.reports := by
  cases t with
  | default => rfl
  | index n =>
    unfold noteLink
    dsimp only
    split <;> rfl

theorem adds_applyDirective (d : Directive) :
    Adds (Points [l]) st.reports (st.applyDirective l d).reports := by
  cases d with
  | classDef names properties =>
    have hempty : Adds (Points [l]) st.reports
        (if properties.entries.isEmpty then st.report l .emptyClassDef else st).reports := by
      split
      · exact adds_report l rfl
      · exact .refl _
    refine hempty.trans (.foldl reports ?_ _)
    intro st name _
    exact .refl _
  | assign ids className =>
    refine .foldl reports ?_ st
    intro st id _
    exact .refl _
  | style ids properties =>
    refine .foldl reports ?_ st
    intro st id _
    exact .refl _
  | linkStyle targets properties =>
    refine .foldl reports ?_ st
    intro st t _
    rw [reports_noteLink]
    exact .refl _
  | malformed => exact adds_report l rfl

/-- The reports of the end have no columns. -/
theorem adds_finish (family : Family) :
    Adds (Points ls) st.reports ((st.closeAll family).reports ++
      (st.closeAll family).undeclaredTargets ++ (st.closeAll family).missingLinks) := by
  rw [List.append_assoc, reports_closeAll, List.append_assoc]
  apply adds_of_none
  intro r hr
  rcases List.mem_append.1 hr with hr | hr
  · obtain ⟨f, -, rfl⟩ := List.mem_map.1 hr
    exact ⟨rfl, rfl⟩
  · rcases List.mem_append.1 hr with hr | hr
    · obtain ⟨e, -, rfl⟩ := List.mem_map.1 hr
      exact ⟨rfl, rfl⟩
    · obtain ⟨e, -, rfl⟩ := List.mem_map.1 hr
      exact ⟨rfl, rfl⟩

end State

end DiagramText.ScopeGraph

namespace DiagramText

open Source (Line)
open ScopeGraph (State Points)

/-! ## Flowcharts -/

namespace Flowchart

theorem adds_mention (st : State) (l : Line) (m : Mention) :
    Adds (Points [l]) st.reports (mention st l m).reports := by
  obtain ⟨id, form, className⟩ := m
  have hform : Adds (Points [l]) st.reports (mention st l ⟨id, form, none⟩).reports := by
    cases form with
    | none =>
      show Adds _ _ (st.mention id .rectangle l.number).reports
      rw [State.reports_mention]
      exact .refl _
    | some form => exact st.adds_declare id form.1 form.2 l.number
  cases className with
  | none => exact hform
  | some c => exact hform

/-- A part of a line that is quoted with its offset stands where the report says. -/
theorem adds_reportWithin (st : State) (l : Line) {text : String} {offset : Nat}
    {p : ScopeGraph.Problem} (hp : p.quoted? = some text)
    (h : text.toList ≠ [] ∧ text.toList <+: l.text.toList.drop offset) :
    Adds (Points [l]) st.reports (reportWithin st l offset p).reports := by
  obtain ⟨hne, hpre⟩ := h
  have hlt : offset < l.text.toList.length := by
    by_contra hge
    rw [List.drop_eq_nil_of_le (Nat.le_of_not_lt hge)] at hpre
    exact hne (List.prefix_nil.1 hpre)
  apply Adds.append
  refine List.forall_mem_singleton.2 ⟨?_, ?_⟩
  · intro c hc
    cases hc
    exact ⟨l, List.mem_singleton_self l, rfl, offset, rfl, .inr hlt⟩
  · intro t ht
    rw [hp] at ht
    cases ht
    exact ⟨l, List.mem_singleton_self l, rfl, offset, rfl, hpre⟩

theorem adds_takeStep (l : Line) (st : State) {s : Step} (h : s.Quotes l.text.toList) :
    Adds (Points [l]) st.reports (takeStep l st s).reports := by
  cases s with
  | mention m => exact adds_mention st l m
  | join sources targets a => exact .refl _
  | unknownArrow token offset => exact adds_reportWithin st l rfl h
  | missingTarget => exact ScopeGraph.adds_report l rfl
  | unrecognisedText text offset => exact adds_reportWithin st l rfl h
  | unrecognisedLine => exact ScopeGraph.adds_report l rfl

theorem adds_step (st : State) {l : Line} {s : Statement}
    (hline : Text.trimEnd l.text.toList = l.text.toList)
    (hs : Statement.recognise l.text = .ok s) :
    Adds (Points [l]) st.reports (step st (l, s)).reports := by
  cases s with
  | directive d => exact st.adds_applyDirective l d
  | direction d =>
    show Adds _ _ (st.setDirection d).reports
    rw [State.reports_setDirection]
    exact .refl _
  | openSubgraph head =>
    cases head with
    | unnamed => exact ScopeGraph.adds_report l rfl
    | named id label => exact .refl _
    | labelled label => exact .refl _
  | close => exact st.adds_closeOrReport l .flowchart
  | interaction => exact ScopeGraph.adds_report l rfl
  | chain steps =>
    obtain rfl := eq_chain_of_recognise hs
    exact .foldl State.reports (fun st s hs => adds_takeStep l st (quotes_chain hline s hs)) st

theorem adds_readHeader (l : Line) (direction : String) :
    Adds (Points [l]) [] (readHeader { direction } l).reports := by
  unfold readHeader
  split
  · exact ScopeGraph.adds_report l rfl
  · exact .refl _
  · split
    · exact .refl _
    · exact ScopeGraph.adds_report l rfl

/-- Every report on a flowchart points into a line, if no line has blanks at its end. -/
theorem points_of_parse {ls : List Line} {direction : String} {p : Parsed ScopeGraph.Graph}
    (hls : ∀ l ∈ ls, Text.trimEnd l.text.toList = l.text.toList)
    (h : parse ls direction = .ok p) :
    ∃ rs : List (Report ScopeGraph.Problem),
      p.diagnostics = rs.map Report.toDiagnostic ∧ ∀ r ∈ rs, Points ls r := by
  obtain ⟨xs, hx, h⟩ := bind_eq_ok_iff.1 h
  cases h
  refine ⟨_, rfl, Adds.all ?_⟩
  have hmem := mem_of_readLines hx
  have hstart : Adds (Points ls) [] (start ls direction).reports := by
    cases ls with
    | nil => exact .refl _
    | cons l ls =>
      refine (adds_readHeader l direction).mono fun r hr => hr.mono ?_
      exact List.cons_subset_cons l (List.nil_subset ls)
  have hbody : Adds (Points ls) (start ls direction).reports
      (xs.foldl step (start ls direction)).reports := by
    refine Adds.lines Points Points.mono State.reports Prod.fst ?_ ?_ _
    · intro st x hxs
      obtain ⟨hl, hread⟩ := hmem x hxs
      exact adds_step st (hls _ (List.mem_of_mem_tail hl)) hread
    · intro x hxs
      exact List.mem_of_mem_tail (hmem x hxs).1
  exact (hstart.trans hbody).trans (State.adds_finish _ .flowchart)

end Flowchart

/-! ## State diagrams -/

namespace StateChart

theorem adds_readSource (st : State) (l : Line) (e : Endpoint) :
    Adds (Points [l]) st.reports (readSource st l e).1.reports := by
  cases e with
  | star => exact State.adds_declare { st with starts := st.starts + 1 } _ "" .stateStart l.number
  | state id =>
    show Adds _ _ (st.mention id .rounded l.number).reports
    rw [State.reports_mention]
    exact .refl _

theorem adds_readTarget (st : State) (l : Line) (e : Endpoint) :
    Adds (Points [l]) st.reports (readTarget st l e).1.reports := by
  cases e with
  | star => exact State.adds_declare { st with ends := st.ends + 1 } _ "" .stateEnd l.number
  | state id =>
    show Adds _ _ (st.mention id .rounded l.number).reports
    rw [State.reports_mention]
    exact .refl _

theorem adds_step (st : State) (l : Line) (s : Statement) :
    Adds (Points [l]) st.reports (step st (l, s)).reports := by
  cases s with
  | directive d => exact st.adds_applyDirective l d
  | direction d =>
    show Adds _ _ (st.setDirection d).reports
    rw [State.reports_setDirection]
    exact .refl _
  | close => exact st.adds_closeOrReport l .state
  | declare id label shape => exact st.adds_declare id label shape l.number
  | transition source target label =>
    exact (adds_readSource st l source).trans (adds_readTarget _ l target)
  | mention id =>
    show Adds _ _ (st.mention id .rounded l.number).reports
    rw [State.reports_mention]
    exact .refl _
  | unrecognised => exact ScopeGraph.adds_report l rfl
  | openComposite _ _ | separator | note _ => exact .refl _

/-- Every report on a state diagram points into a line. -/
theorem points_of_parse {ls : List Line} {p : Parsed ScopeGraph.Graph} (h : parse ls = .ok p) :
    ∃ rs : List (Report ScopeGraph.Problem),
      p.diagnostics = rs.map Report.toDiagnostic ∧ ∀ r ∈ rs, Points ls r := by
  obtain ⟨xs, hx, h⟩ := bind_eq_ok_iff.1 h
  cases h
  refine ⟨_, rfl, Adds.all ?_⟩
  have hmem : ∀ x ∈ xs, x.1 ∈ ls := by
    intro x hxs
    have houtside := (outsideNotes_sublist false ls.tail).subset (mem_of_readLines hx x hxs).1
    exact List.mem_of_mem_tail houtside
  have hbody (st : State) : Adds (Points ls) st.reports (xs.foldl step st).reports :=
    Adds.lines Points Points.mono State.reports Prod.fst
      (fun st x _ => adds_step st x.1 x.2) hmem st
  have hnote (st : State) : Adds (Points ls) st.reports
      (reportOpenNote st (outsideNotes false ls.tail).2 ls).reports := by
    unfold reportOpenNote
    split
    · exact ScopeGraph.adds_of_none (List.forall_mem_singleton.2 ⟨rfl, rfl⟩)
    · exact .refl _
  exact ((hbody _).trans (hnote _)).trans (State.adds_finish _ .state)

end StateChart

end DiagramText
