import DiagramText.Classes.Parse
import DiagramText.Proofs.Renumber

/-!
# Class diagrams on lines with other numbers

Relationships and notes store the lines they come from, the open body and the open namespace store
the lines that opened them.  Every step commutes with `State.renumber`.
-/

namespace DiagramText.Classes

open Source (Line)

variable {f : Int → Int}

/-! ## Diagrams and states -/

/-- The relationship at another line. -/
def Relationship.renumber (f : Int → Int) (r : Relationship) : Relationship :=
  { r with line := f r.line }

/-- The note at another line. -/
def Note.renumber (f : Int → Int) (n : Note) : Note := { n with line := f n.line }

/-- The diagram at other lines. -/
def Diagram.renumber (f : Int → Int) (d : Diagram) : Diagram :=
  { d with
    relationships := d.relationships.map (Relationship.renumber f)
    notes := d.notes.map (Note.renumber f) }

/-- The open body at another line. -/
def Body.renumber (f : Int → Int) (b : Body) : Body := { b with line := f b.line }

/-- The open namespace at another line. -/
def OpenGroup.renumber (f : Int → Int) (g : OpenGroup) : OpenGroup := { g with line := f g.line }

/-- The diagram being read, at other lines. -/
def State.renumber (f : Int → Int) (st : State) : State :=
  { st with
    relationships := st.relationships.map (Relationship.renumber f)
    notes := st.notes.map (Note.renumber f)
    body := st.body.map (Body.renumber f)
    group := st.group.map (OpenGroup.renumber f)
    reports := st.reports.map (Report.renumber f) }

namespace State

variable (st : State) (l : Line)

/-! ## Steps -/

theorem report_renumber (p : Problem) :
    (st.renumber f).report (l.renumber f) p = (st.report l p).renumber f := by
  unfold report renumber
  rw [List.map_append]
  rfl

theorem reportAt_renumber (line : Int) (p : Problem) :
    (st.renumber f).reportAt (f line) p = (st.reportAt line p).renumber f := by
  unfold reportAt renumber
  rw [List.map_append]
  rfl

theorem mention_renumber (id : String) :
    (st.renumber f).mention id = (st.mention id).renumber f := rfl

theorem modifyClass_renumber (id : String) (u : Entity → Entity) :
    (st.renumber f).modifyClass id u = (st.modifyClass id u).renumber f := rfl

theorem declareName_renumber (n : ClassName) :
    (st.renumber f).declareName n = (st.declareName n).renumber f := by
  unfold declareName
  dsimp only
  rw [mention_renumber, modifyClass_renumber]
  unfold renumber
  dsimp only
  rw [Option.map_map, Option.map_map]
  rfl

theorem addBodyLine_renumber (id : String) (b : BodyLine) :
    (st.renumber f).addBodyLine (l.renumber f) id b = (st.addBodyLine l id b).renumber f := by
  cases b with
  | stereotype t => rfl
  | member m => rfl
  | nameless t => exact report_renumber st l (.namelessMember id t)

theorem readTail_renumber (id : String) (t : Tail) :
    (st.renumber f).readTail (l.renumber f) id t = (st.readTail l id t).renumber f := by
  cases t with
  | nothing => rfl
  | body => rfl
  | inline parts =>
    exact List.foldl_hom (renumber f) fun st p => addBodyLine_renumber st l id (.recognise p)
  | unexpected t => exact report_renumber st l (.unexpectedText id (String.ofList t))

theorem declare_renumber (d : Declaration) :
    (st.renumber f).declare (l.renumber f) d = (st.declare l d).renumber f := by
  unfold declare
  dsimp only
  rw [declareName_renumber, modifyClass_renumber, readTail_renumber]

theorem closeGroup_renumber : (st.renumber f).closeGroup = st.closeGroup.renumber f := by
  unfold closeGroup renumber
  dsimp only
  rw [Option.map_map]
  rfl

theorem openGroup_renumber (name : String) :
    (st.renumber f).openGroup (l.renumber f) name = (st.openGroup l name).renumber f := by
  have hgroup : (st.renumber f).group = st.group.map (OpenGroup.renumber f) := rfl
  unfold openGroup
  rw [hgroup]
  cases st.group with
  | none => rfl
  | some g =>
    have hname : (g.renumber f).group.name = g.group.name := rfl
    dsimp only [Option.map_some]
    rw [hname, report_renumber, closeGroup_renumber]
    rfl

theorem relate_renumber (r : RelationText) :
    (st.renumber f).relate (l.renumber f) r = (st.relate l r).renumber f := by
  unfold relate
  dsimp only
  rw [mention_renumber, mention_renumber]
  unfold renumber
  dsimp only
  rw [List.map_append]
  rfl

theorem addNote_renumber (classId : Option String) (text : String) :
    (st.renumber f).addNote (l.renumber f) classId text =
      (st.addNote l classId text).renumber f := by
  unfold addNote
  cases classId with
  | none =>
    unfold renumber
    dsimp only
    rw [List.map_append]
    rfl
  | some id =>
    dsimp only
    rw [mention_renumber]
    unfold renumber
    dsimp only
    rw [List.map_append]
    rfl

theorem stepOutside_renumber :
    (st.renumber f).stepOutside (l.renumber f) = (st.stepOutside l).renumber f := by
  have htext : (l.renumber f).text = l.text := rfl
  have hgroup : (st.renumber f).group.isSome = st.group.isSome := Option.isSome_map
  unfold stepOutside
  rw [htext, hgroup]
  cases Statement.recognise l.text with
  | openGroup name => exact openGroup_renumber st l name
  | close =>
    dsimp only
    split
    · exact closeGroup_renumber st
    · exact report_renumber st l .strayClose
  | declare d => exact declare_renumber st l d
  | stereotype t n =>
    dsimp only
    rw [declareName_renumber, modifyClass_renumber]
  | direction d => rfl
  | note classId text => exact addNote_renumber st l classId text
  | relate r => exact relate_renumber st l r
  | unknownConnector token => exact report_renumber st l (.unknownConnector token)
  | malformedRelationship => exact report_renumber st l (.malformedRelationship l.text)
  | member id b =>
    dsimp only
    rw [mention_renumber, addBodyLine_renumber]
  | unrecognised => exact report_renumber st l (.unrecognised l.text)

theorem step_renumber : (st.renumber f).step (l.renumber f) = (st.step l).renumber f := by
  have htext : (l.renumber f).text = l.text := rfl
  have hbody : (st.renumber f).body = st.body.map (Body.renumber f) := rfl
  unfold step
  rw [htext, hbody]
  cases st.body with
  | none => exact stepOutside_renumber st l
  | some b =>
    have hid : (b.renumber f).id = b.id := rfl
    dsimp only [Option.map_some]
    rw [hid]
    split
    · rfl
    · split
      · rw [report_renumber, ← stepOutside_renumber]
        rfl
      · exact addBodyLine_renumber st l b.id _

/-! ## The end -/

theorem finishBody_renumber : (st.renumber f).finishBody = st.finishBody.renumber f := by
  have hbody : (st.renumber f).body = st.body.map (Body.renumber f) := rfl
  unfold finishBody
  rw [hbody]
  cases st.body with
  | none => rfl
  | some b =>
    have hreport := reportAt_renumber (f := f) st b.line (.unclosedBody b.id)
    dsimp only [Option.map_some, Body.renumber]
    rw [hreport]
    rfl

theorem finishGroup_renumber : (st.renumber f).finishGroup = st.finishGroup.renumber f := by
  have hgroup : (st.renumber f).group = st.group.map (OpenGroup.renumber f) := rfl
  unfold finishGroup
  rw [hgroup]
  cases st.group with
  | none => rfl
  | some g =>
    have hreport := reportAt_renumber (f := f) st g.line (.unclosedGroup g.group.name)
    dsimp only [Option.map_some, OpenGroup.renumber]
    rw [hreport, closeGroup_renumber]

end State

theorem quotesNoLine_message (p : Problem) : QuotesNoLine (Describe.message p) := by
  refine quotesNoLine_of_start ?_
  cases p <;>
    simp only [Describe.message, toString, String.toList_append, List.append_assoc] <;>
    rfl

/-- A class diagram on lines with other numbers is the same diagram at those lines. -/
theorem parse_renumber (ls : List Line) :
    (parse ls).Renumbered f (Diagram.renumber f) (parse (ls.map (Line.renumber f))) := by
  have hsteps (ls : List Line) (st : State) : (ls.map (Line.renumber f)).foldl State.step
      (st.renumber f) = (ls.foldl State.step st).renumber f := by
    rw [List.foldl_map]
    exact List.foldl_hom (State.renumber f) fun st l => State.step_renumber st l
  have hend : ((ls.map (Line.renumber f)).tail.foldl State.step {}).finishBody.finishGroup =
      ((ls.tail.foldl State.step {}).finishBody.finishGroup).renumber f := by
    rw [← State.finishGroup_renumber, ← State.finishBody_renumber, ← hsteps, ← List.map_tail]
    rfl
  unfold parse
  rw [hend]
  exact Parsed.renumbered_ofReports quotesNoLine_message _ _

end DiagramText.Classes
