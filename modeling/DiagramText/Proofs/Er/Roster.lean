import DiagramText.Er.Parse
import DiagramText.Proofs.Roster

/-!
# The entities of an entity-relationship diagram in order of first mention

Relationships and declarations mention entities.  Inside the body of an entity every line but a
relationship is read as an attribute, and a relationship ends the body.
-/

namespace DiagramText.Er

open Source (Line)

/-- Mentioning ids takes the entities of one state to those of another one. -/
abbrev EnrolsEntities (st : State) (ids : List String) (st' : State) : Prop :=
  Registry.Enrols Entity.id Entity.declaredOrder st.entities ids st'.entities

/-- The entities that a statement mentions, if a body is open in front of it or not. -/
def Statement.mentions (inBody : Bool) : Statement → List String
  | .relationship k => [k.entity1, k.entity2]
  | .entity d => if inBody then [] else [d.id]
  | _ => []

/-- Whether a body is open behind a statement. -/
def Statement.inBodyBehind (inBody : Bool) : Statement → Bool
  | .close | .relationship _ => false
  | .entity d => inBody || d.opens
  | .invalidRelationship | .unrecognised => inBody

/-- The entities that lines mention, in order, if a body is open in front of them or not. -/
def mentionsFrom : (inBody : Bool) → List Line → List String
  | _, [] => []
  | inBody, l :: ls =>
    (Statement.recognise l.text).mentions inBody ++
      mentionsFrom ((Statement.recognise l.text).inBodyBehind inBody) ls

/-- The entities that the lines below the header mention, in order. -/
def mentions (ls : List Line) : List String := mentionsFrom false ls.tail

namespace State

theorem enrols_mention (st : State) (id : String) : EnrolsEntities st [id] (st.mention id) :=
  .ensure st.entities (fun _ => rfl) (fun _ => rfl)

theorem enrols_relate (st : State) (l : Line) (k : Link) :
    EnrolsEntities st [k.entity1, k.entity2] (st.relate l k) := by
  have h1 := (st.reportAll l (linkProblems k)).enrols_mention k.entity1
  exact h1.trans (enrols_mention _ k.entity2)

theorem enrols_declare (st : State) (l : Line) (d : Declaration) :
    EnrolsEntities st [d.id] (st.declare l d) := by
  refine (st.enrols_mention d.id).tail (.modify _ d.id ?_ ?_)
  · intro e
    rfl
  · intro e
    rfl

theorem enrols_addAttribute (st : State) (l : Line) (id : String) :
    EnrolsEntities st [] (st.addAttribute l id) := by
  unfold addAttribute
  split
  · exact .refl _
  · refine .modify _ id ?_ ?_
    · intro e
      rfl
    · intro e
      rfl

theorem body_addAttribute (st : State) (l : Line) (id : String) :
    (st.addAttribute l id).body = st.body := by
  unfold addAttribute
  split <;> rfl

theorem enrols_step (st : State) (l : Line) :
    EnrolsEntities st ((Statement.recognise l.text).mentions st.body.isSome) (st.step l) := by
  unfold step
  cases st.body with
  | some b =>
    cases Statement.recognise l.text with
    | close => exact .refl _
    | relationship k => exact enrols_relate _ l k
    | entity d => exact st.enrols_addAttribute l b.id
    | invalidRelationship => exact st.enrols_addAttribute l b.id
    | unrecognised => exact st.enrols_addAttribute l b.id
  | none =>
    cases Statement.recognise l.text with
    | close => exact .refl _
    | relationship k => exact st.enrols_relate l k
    | entity d => exact st.enrols_declare l d
    | invalidRelationship => exact .refl _
    | unrecognised => exact .refl _

theorem isSome_body_step (st : State) (l : Line) :
    (st.step l).body.isSome = (Statement.recognise l.text).inBodyBehind st.body.isSome := by
  unfold step
  cases hb : st.body with
  | some b =>
    have hattribute : (st.addAttribute l b.id).body.isSome = true := by
      rw [body_addAttribute, hb]
      rfl
    cases Statement.recognise l.text with
    | close => rfl
    | relationship k => rfl
    | entity d => exact hattribute
    | invalidRelationship => exact hattribute
    | unrecognised => exact hattribute
  | none =>
    have hnone : st.body.isSome = false := by
      rw [hb]
      rfl
    cases Statement.recognise l.text with
    | close => exact hnone
    | relationship k => exact hnone
    | entity d =>
      show (if d.opens then _ else st.body : Option Body).isSome = d.opens
      cases d.opens with
      | true => rfl
      | false => exact hnone
    | invalidRelationship => exact hnone
    | unrecognised => exact hnone

theorem enrols_foldl_step (ls : List Line) (st : State) :
    EnrolsEntities st (mentionsFrom st.body.isSome ls) (ls.foldl step st) := by
  induction ls generalizing st with
  | nil => exact .refl _
  | cons l ls ih =>
    have hrest := ih (st.step l)
    rw [isSome_body_step] at hrest
    exact (st.enrols_step l).trans hrest

end State

/-- The entities of a diagram come from a dense registry, in order of first mention. -/
theorem dense_parse (ls : List Line) :
    ∃ r : Registry Entity, (parse ls).diagram.entities = r.values ∧
      Registry.Dense Entity.id Entity.declaredOrder r ∧ r.keys = addAllNew [] (mentions ls) := by
  have hrun := State.enrols_foldl_step ls.tail {}
  exact ⟨_, rfl, hrun.dense .empty, hrun.keys⟩

theorem mentionsFrom_prefix (inBody : Bool) (ls more : List Line) :
    mentionsFrom inBody ls <+: mentionsFrom inBody (ls ++ more) := by
  induction ls generalizing inBody with
  | nil => exact List.nil_prefix
  | cons l ls ih => exact (List.prefix_append_right_inj _).2 (ih _)

theorem mentions_prefix {ls ls' : List Line} (h : ls <+: ls') : mentions ls <+: mentions ls' := by
  obtain ⟨more, rfl⟩ := h
  unfold mentions
  cases ls with
  | nil => exact List.nil_prefix
  | cons l ls => exact mentionsFrom_prefix false ls more

end DiagramText.Er
