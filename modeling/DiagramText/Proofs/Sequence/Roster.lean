import DiagramText.Proofs.Roster
import DiagramText.Proofs.Sequence.References

/-!
# The participants of a sequence diagram in order of first mention

Declarations, notes, messages and activations mention participants.  A declaration behind the first
mention changes label and role, but neither the place nor the number.
-/

namespace DiagramText.Sequence

open Source (Line)

/-- Mentioning ids takes the participants of one state to those of another one. -/
abbrev EnrolsCast (st : State) (ids : List String) (st' : State) : Prop :=
  Registry.Enrols Participant.id Participant.declaredOrder st.participants ids st'.participants

/-- The participants that a statement mentions, in order. -/
def Statement.mentions : Statement → List String
  | .declare _ id _ => [id]
  | .note _ _ ids _ => ids
  | .activation id => [id]
  | .message m => [String.ofList m.sender, String.ofList m.receiver]
  | _ => []

/-- The participants that a line mentions, in order. -/
def lineMentions (l : Line) : List String :=
  match Statement.recognise l.text with
  | .ok s => s.mentions
  | .error _ => []

/-- The participants that the lines below the header mention, in order. -/
def mentions (ls : List Line) : List String := ls.tail.flatMap lineMentions

theorem SameCast.enrols {st st' : State} (h : SameCast st st') : EnrolsCast st [] st' := by
  unfold EnrolsCast
  rw [h.participants]
  exact .refl _

namespace State

theorem enrols_mention (st : State) (id : String) : EnrolsCast st [id] (st.mention id) :=
  .ensure st.participants (fun _ => rfl) (fun _ => rfl)

theorem enrols_foldl_mention (st : State) (ids : List String) :
    EnrolsCast st ids (ids.foldl mention st) := by
  have hrun : EnrolsCast st (ids.flatMap fun id => [id]) (ids.foldl mention st) :=
    Registry.Enrols.foldl enrols_mention ids st
  rwa [List.flatMap_singleton'] at hrun

theorem enrols_declare (st : State) (l : Line) (role : Role) (id label : String) :
    EnrolsCast st [id] (st.declare l role id label) := by
  have hreport := (SameCast.reportIf st ((st.participants.get? id).any (!·.implicit)) l
    (.redeclared id)).enrols
  have hmention := hreport.trans (enrols_mention _ id)
  refine hmention.tail (.modify _ id ?_ ?_)
  · intro p
    split <;> rfl
  · intro p
    split <;> rfl

theorem enrols_addNote (st : State) (l : Line) (position : Position) (spelled : String)
    (ids : List String) (text : String) :
    EnrolsCast st ids (st.addNote l position spelled ids text) := by
  have hreports := (SameCast.reportIf st (2 < ids.length) l .wideNote).trans
    (SameCast.reportIf _ (position != .above && 1 < ids.length) l (.sharedNote spelled))
  exact (hreports.enrols.trans (enrols_foldl_mention _ ids)).tail (SameCast.addItem _ _).enrols

theorem enrols_addMessage (st : State) (l : Line) (m : MessageText) :
    EnrolsCast st [String.ofList m.sender, String.ofList m.receiver] (st.addMessage l m) := by
  have hreport := (SameCast.reportIf st m.text.isNone l
    (.noText (String.ofList m.sender) m.arrow (String.ofList m.receiver))).enrols
  have hsender := hreport.trans (enrols_mention _ (String.ofList m.sender))
  have hboth := hsender.trans (enrols_mention _ (String.ofList m.receiver))
  unfold addMessage
  dsimp only
  refine hboth.tail (SameCast.enrols ?_)
  refine SameCast.trans ?_ (SameCast.addItem _ _)
  exact ⟨rfl, rfl, rfl⟩

theorem participants_openBox (st : State) (l : Line) (label : String) :
    (st.openBox l label).participants = st.participants := by
  unfold openBox
  split <;> rfl

theorem participants_close (st : State) (l : Line) :
    (st.close l).participants = st.participants := by
  unfold close
  split
  · exact (SameCast.closeBlock st).participants
  · split <;> rfl

theorem participants_finish (st : State) : st.finish.participants = st.participants := by
  have hblocks := (SameCast.foldl_closeUnclosed st.blocks st).participants
  unfold finish
  dsimp only
  split <;> exact hblocks

theorem enrols_step (st : State) (l : Line) (s : Statement) :
    EnrolsCast st s.mentions (st.step (l, s)) := by
  have same {st' : State} (h : st'.participants = st.participants) : EnrolsCast st [] st' := by
    unfold EnrolsCast
    rw [h]
    exact .refl _
  cases s with
  | declare role id label => exact st.enrols_declare l role id label
  | note position spelled ids text => exact st.enrols_addNote l position spelled ids text
  | box label => exact same (st.participants_openBox l label)
  | block kind label => exact .refl _
  | divide divider label => exact (SameCast.divide st l divider label).enrols
  | close => exact same (st.participants_close l)
  | autonumber => exact .refl _
  | title text => exact .refl _
  | activation id => exact st.enrols_mention id
  | message m => exact st.enrols_addMessage l m
  | invalidMessage => exact .refl _
  | unrecognised => exact .refl _

theorem enrols_foldl_step (st : State) {ls : List Line} {xs : List (Line × Statement)}
    (hx : List.Forall₂ (fun l x => l = x.1 ∧ Statement.recognise l.text = .ok x.2) ls xs) :
    EnrolsCast st (ls.flatMap lineMentions) (xs.foldl step st) := by
  induction hx generalizing st with
  | nil => exact .refl _
  | @cons l x ls xs hl _ ih =>
    obtain ⟨rfl, hs⟩ := hl
    have hline : lineMentions x.1 = x.2.mentions := by rw [lineMentions, hs]
    rw [List.flatMap_cons, hline]
    exact (st.enrols_step x.1 x.2).trans (ih _)

end State

/-- The participants of a diagram come from a dense registry, in order of first mention. -/
theorem dense_of_parse {ls : List Line} {p : Parsed Diagram} (h : parse ls = .ok p) :
    ∃ r : Registry Participant, p.diagram.participants = r.values ∧
      Registry.Dense Participant.id Participant.declaredOrder r ∧
      r.keys = addAllNew [] (mentions ls) := by
  obtain ⟨xs, hx, h⟩ := bind_eq_ok_iff.1 h
  cases h
  have hrun := State.enrols_foldl_step {} (readLines_eq_ok_iff.1 hx)
  refine ⟨_, rfl, ?_⟩
  rw [State.participants_finish]
  exact ⟨hrun.dense .empty, hrun.keys⟩

theorem mentions_prefix {ls ls' : List Line} (h : ls <+: ls') : mentions ls <+: mentions ls' := by
  obtain ⟨more, rfl⟩ := h
  unfold mentions
  cases ls with
  | nil => exact List.nil_prefix
  | cons l ls => exact (List.prefix_append ls more).flatMap _

end DiagramText.Sequence
