import DiagramText.Er.Parse
import DiagramText.Proofs.Renumber

/-!
# Entity-relationship diagrams on lines with other numbers

Relationships store the lines they come from, and the open body stores the line that opened it.
Every step commutes with `State.renumber`.
-/

namespace DiagramText.Er

open Source (Line)

variable {f : Int → Int}

/-- The relationship at another line. -/
def Relationship.renumber (f : Int → Int) (r : Relationship) : Relationship :=
  { r with line := f r.line }

/-- The diagram at other lines. -/
def Diagram.renumber (f : Int → Int) (d : Diagram) : Diagram :=
  { d with relationships := d.relationships.map (Relationship.renumber f) }

/-- The open body at another line. -/
def Body.renumber (f : Int → Int) (b : Body) : Body := { b with line := f b.line }

/-- The diagram being read, at other lines. -/
def State.renumber (f : Int → Int) (st : State) : State :=
  { st with
    relationships := st.relationships.map (Relationship.renumber f)
    body := st.body.map (Body.renumber f)
    reports := st.reports.map (Report.renumber f) }

namespace State

variable (st : State) (l : Line)

theorem reportAll_renumber (ps : List Problem) :
    (st.renumber f).reportAll (l.renumber f) ps = (st.reportAll l ps).renumber f := by
  unfold reportAll renumber
  dsimp only
  rw [List.map_append, List.map_map]
  rfl

theorem mention_renumber (id : String) :
    (st.renumber f).mention id = (st.mention id).renumber f := rfl

theorem relate_renumber (k : Link) :
    (st.renumber f).relate (l.renumber f) k = (st.relate l k).renumber f := by
  unfold relate
  dsimp only
  rw [reportAll_renumber, mention_renumber, mention_renumber]
  unfold renumber
  dsimp only
  rw [List.map_append]
  rfl

theorem declare_renumber (d : Declaration) :
    (st.renumber f).declare (l.renumber f) d = (st.declare l d).renumber f := by
  unfold declare
  dsimp only
  rw [mention_renumber]
  cases d.opens with
  | false => rfl
  | true => rfl

theorem addAttribute_renumber (id : String) :
    (st.renumber f).addAttribute (l.renumber f) id = (st.addAttribute l id).renumber f := by
  have htext : (l.renumber f).text = l.text := rfl
  unfold addAttribute
  rw [htext]
  cases attribute? l.text with
  | none => exact reportAll_renumber st l _
  | some a =>
    dsimp only
    rw [reportAll_renumber]
    rfl

theorem step_renumber : (st.renumber f).step (l.renumber f) = (st.step l).renumber f := by
  have htext : (l.renumber f).text = l.text := rfl
  have hbody : (st.renumber f).body = st.body.map (Body.renumber f) := rfl
  unfold step
  rw [htext, hbody]
  cases st.body with
  | none =>
    cases Statement.recognise l.text with
    | close => exact reportAll_renumber st l [.strayClose]
    | relationship k => exact relate_renumber st l k
    | entity d => exact declare_renumber st l d
    | invalidRelationship => exact reportAll_renumber st l [.invalidRelationship l.text]
    | unrecognised => exact reportAll_renumber st l [.unrecognised l.text]
  | some b =>
    have hid : (b.renumber f).id = b.id := rfl
    cases Statement.recognise l.text with
    | close => rfl
    | relationship k =>
      dsimp only [Option.map_some]
      rw [hid, reportAll_renumber, ← relate_renumber]
      rfl
    | entity d => exact addAttribute_renumber st l b.id
    | invalidRelationship => exact addAttribute_renumber st l b.id
    | unrecognised => exact addAttribute_renumber st l b.id

theorem openEnd_renumber : (st.renumber f).openEnd = st.openEnd.map (Report.renumber f) := by
  have hbody : (st.renumber f).body = st.body.map (Body.renumber f) := rfl
  unfold openEnd
  rw [hbody]
  cases st.body with
  | none => rfl
  | some b => rfl

end State

theorem quotesNoLine_message (p : Problem) : QuotesNoLine (Describe.message p) := by
  refine quotesNoLine_of_start ?_
  cases p <;>
    simp only [Describe.message, toString, String.toList_append, List.append_assoc] <;>
    rfl

/-- An entity-relationship diagram on lines with other numbers is the same diagram at those
lines. -/
theorem parse_renumber (ls : List Line) :
    (parse ls).Renumbered f (Diagram.renumber f) (parse (ls.map (Line.renumber f))) := by
  have hsteps (ls : List Line) (st : State) : (ls.map (Line.renumber f)).foldl State.step
      (st.renumber f) = (ls.foldl State.step st).renumber f := by
    rw [List.foldl_map]
    exact List.foldl_hom (State.renumber f) fun st l => State.step_renumber st l
  have hend : (ls.map (Line.renumber f)).tail.foldl State.step {} =
      (ls.tail.foldl State.step {}).renumber f := by
    rw [← hsteps, ← List.map_tail]
    rfl
  unfold parse
  rw [hend]
  dsimp only
  rw [State.openEnd_renumber]
  have hreports (st : State) : (st.renumber f).reports = st.reports.map (Report.renumber f) := rfl
  rw [hreports, ← List.map_append]
  exact Parsed.renumbered_ofReports quotesNoLine_message _ _

end DiagramText.Er
