import DiagramText.Classes.Parse
import DiagramText.Proofs.Roster

/-!
# The classes of a class diagram in order of first mention

While the body of a class is open, its lines are members and mention no class; `outside` lists the
lines that are read as statements.  Five kinds of statements mention classes.
-/

namespace DiagramText.Classes

open Source (Line)

/-- Mentioning ids takes the classes of one state to those of another one. -/
abbrev EnrolsClasses (st : State) (ids : List String) (st' : State) : Prop :=
  Registry.Enrols Entity.id Entity.declaredOrder st.classes ids st'.classes

/-! ## Mentions -/

/-- Whether a statement opens the body of a class. -/
def Statement.opensBody : Statement → Bool
  | .declare d => d.tail == .body
  | _ => false

/-- The lines that are read as statements, if a body is open in front of them or not. -/
def outside : (inBody : Bool) → List Line → List Line
  | _, [] => []
  | false, l :: ls => l :: outside (Statement.recognise l.text).opensBody ls
  | true, l :: ls =>
    if l.text = "\x7d" then outside false ls
    else if (Text.literal? "class ".toList l.text.toList).isSome then
      l :: outside (Statement.recognise l.text).opensBody ls
    else outside true ls

/-- The classes that a statement mentions, in order. -/
def Statement.mentions : Statement → List String
  | .declare d => [String.ofList d.name.id]
  | .stereotype _ n => [String.ofList n.id]
  | .note classId _ => classId.toList
  | .relate r =>
    [String.ofList (ClassName.ofToken r.source).id, String.ofList (ClassName.ofToken r.target).id]
  | .member id _ => [id]
  | _ => []

/-- The classes that the lines below the header mention, in order. -/
def mentions (ls : List Line) : List String :=
  (outside false ls.tail).flatMap fun l => (Statement.recognise l.text).mentions

/-! ## Operations -/

namespace State

theorem enrols_mention (st : State) (id : String) : EnrolsClasses st [id] (st.mention id) :=
  .ensure st.classes (fun _ => rfl) (fun _ => rfl)

theorem enrols_modifyClass (st : State) (id : String) {f : Entity → Entity}
    (hid : ∀ e, (f e).id = e.id) (horder : ∀ e, (f e).declaredOrder = e.declaredOrder) :
    EnrolsClasses st [] (st.modifyClass id f) := .modify st.classes id hid horder

theorem enrols_declareName (st : State) (n : ClassName) :
    EnrolsClasses st [String.ofList n.id] (st.declareName n) :=
  (st.enrols_mention _).tail (enrols_modifyClass _ _ (fun _ => rfl) (fun _ => rfl))

theorem enrols_addBodyLine (st : State) (l : Line) (id : String) (b : BodyLine) :
    EnrolsClasses st [] (st.addBodyLine l id b) := by
  cases b with
  | stereotype t => exact st.enrols_modifyClass id (fun _ => rfl) (fun _ => rfl)
  | member m => exact st.enrols_modifyClass id (fun _ => rfl) (fun _ => rfl)
  | nameless t => exact .refl _

@[simp]
theorem body_addBodyLine (st : State) (l : Line) (id : String) (b : BodyLine) :
    (st.addBodyLine l id b).body = st.body := by
  cases b <;> rfl

theorem enrols_inline (st : State) (l : Line) (id : String) (parts : List (List Char)) :
    EnrolsClasses st []
        (parts.foldl (fun st p => st.addBodyLine l id (.recognise p)) st) ∧
      (parts.foldl (fun st p => st.addBodyLine l id (.recognise p)) st).body = st.body := by
  induction parts generalizing st with
  | nil => exact ⟨.refl _, rfl⟩
  | cons p parts ih =>
    obtain ⟨henrols, hbody⟩ := ih (st.addBodyLine l id (.recognise p))
    refine ⟨(st.enrols_addBodyLine l id _).tail henrols, ?_⟩
    rw [List.foldl_cons, hbody, body_addBodyLine]

theorem enrols_readTail (st : State) (l : Line) (id : String) (t : Tail) (h : st.body = none) :
    EnrolsClasses st [] (st.readTail l id t) ∧
      (st.readTail l id t).body.isSome = (t == .body) := by
  cases t with
  | nothing => exact ⟨.refl _, by rw [readTail, h]; rfl⟩
  | body => exact ⟨.refl _, rfl⟩
  | inline parts =>
    obtain ⟨henrols, hbody⟩ := st.enrols_inline l id parts
    exact ⟨henrols, by rw [readTail, hbody, h]; rfl⟩
  | unexpected t => exact ⟨.refl _, by rw [readTail, report, h]; rfl⟩

theorem enrols_declare (st : State) (l : Line) (d : Declaration) (h : st.body = none) :
    EnrolsClasses st [String.ofList d.name.id] (st.declare l d) ∧
      (st.declare l d).body.isSome = (d.tail == .body) := by
  have hlabel := (st.enrols_declareName d.name).tail
    (enrols_modifyClass _ (String.ofList d.name.id)
      (f := fun e => { e with label := d.label.getD e.label }) (fun _ => rfl) (fun _ => rfl))
  obtain ⟨htail, hbody⟩ := enrols_readTail
    ((st.declareName d.name).modifyClass (String.ofList d.name.id)
      fun e => { e with label := d.label.getD e.label }) l (String.ofList d.name.id) d.tail h
  exact ⟨hlabel.tail htail, hbody⟩

/-- A line outside a body enrols what its statement mentions, and opens a body if the statement
does. -/
theorem enrols_stepOutside (st : State) (l : Line) (h : st.body = none) :
    EnrolsClasses st (Statement.recognise l.text).mentions (st.stepOutside l) ∧
      (st.stepOutside l).body.isSome = (Statement.recognise l.text).opensBody := by
  have hnone : st.body.isSome = false := by rw [h]; rfl
  unfold stepOutside
  cases Statement.recognise l.text with
  | openGroup name =>
    dsimp only [openGroup]
    split <;> exact ⟨.refl _, hnone⟩
  | close =>
    dsimp only
    split <;> exact ⟨.refl _, hnone⟩
  | declare d => exact st.enrols_declare l d h
  | stereotype t n =>
    refine ⟨(st.enrols_declareName n).tail ?_, hnone⟩
    exact enrols_modifyClass _ _ (fun _ => rfl) (fun _ => rfl)
  | direction d => exact ⟨.refl _, hnone⟩
  | note classId text =>
    cases classId with
    | none => exact ⟨.refl _, hnone⟩
    | some id => exact ⟨st.enrols_mention id, hnone⟩
  | relate r => exact ⟨(st.enrols_mention _).trans (enrols_mention _ _), hnone⟩
  | unknownConnector token => exact ⟨.refl _, hnone⟩
  | malformedRelationship => exact ⟨.refl _, hnone⟩
  | member id b =>
    refine ⟨(st.enrols_mention id).tail (enrols_addBodyLine _ l id b), ?_⟩
    rw [body_addBodyLine]
    exact hnone
  | unrecognised => exact ⟨.refl _, hnone⟩

theorem enrols_foldl_step (ls : List Line) (st : State) :
    EnrolsClasses st
      ((outside st.body.isSome ls).flatMap fun l => (Statement.recognise l.text).mentions)
      (ls.foldl step st) := by
  induction ls generalizing st with
  | nil => exact .refl _
  | cons l ls ih =>
    -- A line that is read as a statement, in a state without an open body.
    have statement (st : State) (h : st.body = none) :
        EnrolsClasses st
          ((l :: outside (Statement.recognise l.text).opensBody ls).flatMap
            fun l => (Statement.recognise l.text).mentions)
          (ls.foldl step (st.stepOutside l)) := by
      obtain ⟨henrols, hbody⟩ := st.enrols_stepOutside l h
      have hrest := ih (st.stepOutside l)
      rw [hbody] at hrest
      rw [List.flatMap_cons]
      exact henrols.trans hrest
    rw [List.foldl_cons]
    cases hb : st.body with
    | none =>
      have hstep : st.step l = st.stepOutside l := by rw [step, hb]
      rw [hstep]
      exact statement st hb
    | some b =>
      have hstep : st.step l =
          if l.text = "\x7d" then { st with body := none }
          else if (Text.literal? "class ".toList l.text.toList).isSome then
            stepOutside { st.report l (.bodyBeforeClass b.id) with body := none } l
          else st.addBodyLine l b.id (.recognise l.text.toList) := by rw [step, hb]
      rw [hstep, Option.isSome_some, outside]
      split
      · exact ih { st with body := none }
      · split
        · exact statement { st.report l (.bodyBeforeClass b.id) with body := none } rfl
        · have hrest := ih (st.addBodyLine l b.id (.recognise l.text.toList))
          rw [body_addBodyLine, hb] at hrest
          exact (st.enrols_addBodyLine l b.id _).trans hrest

theorem classes_finish (st : State) : st.finishBody.finishGroup.classes = st.classes := by
  have hbody : st.finishBody.classes = st.classes := by
    unfold finishBody
    split <;> rfl
  unfold finishGroup
  split <;> exact hbody

end State

/-! ## Diagrams -/

/-- The classes of a diagram come from a dense registry, in order of first mention. -/
theorem dense_parse (ls : List Line) :
    ∃ r : Registry Entity, (parse ls).diagram.classes = r.values ∧
      Registry.Dense Entity.id Entity.declaredOrder r ∧ r.keys = addAllNew [] (mentions ls) := by
  have hrun := State.enrols_foldl_step ls.tail {}
  refine ⟨_, rfl, ?_⟩
  rw [State.classes_finish]
  exact ⟨hrun.dense .empty, hrun.keys⟩

theorem outside_prefix (inBody : Bool) (ls more : List Line) :
    outside inBody ls <+: outside inBody (ls ++ more) := by
  induction ls generalizing inBody with
  | nil => exact List.nil_prefix
  | cons l ls ih =>
    rw [List.cons_append]
    cases inBody with
    | false => exact List.cons_prefix_cons.2 ⟨rfl, ih _⟩
    | true =>
      rw [outside, outside]
      split
      · exact ih _
      · split
        · exact List.cons_prefix_cons.2 ⟨rfl, ih _⟩
        · exact ih _

theorem mentions_prefix {ls ls' : List Line} (h : ls <+: ls') : mentions ls <+: mentions ls' := by
  obtain ⟨more, rfl⟩ := h
  unfold mentions
  cases ls with
  | nil => exact List.nil_prefix
  | cons l ls =>
    have houtside := outside_prefix false ls more
    exact houtside.flatMap _

end DiagramText.Classes
