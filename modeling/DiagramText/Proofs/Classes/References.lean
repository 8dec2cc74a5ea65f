import DiagramText.Classes.Parse
import DiagramText.Proofs.OrderedMap

/-!
# References inside a class diagram

Relationships, notes and namespaces name classes of the diagram.

1. `Registered`, the invariant: every class that is named is registered, also by the namespace that
   is still open.
2. One lemma for each operation, then `Registered.step` for every line, inside or outside a body.
3. `Diagram.Closed`, for the diagram that is returned.
-/

namespace DiagramText.Classes

open Source (Line)

/-- The namespaces, the open one last. -/
def State.allGroups (st : State) : List Group := st.groups ++ (st.group.map (·.group)).toList

/-- Classes stand under their ids, and the classes that relationships, notes and namespaces name are
registered. -/
structure Registered (st : State) : Prop where
  keyed : Registry.Keyed Entity.id st.classes
  relationships : ∀ r ∈ st.relationships, r.source ∈ st.classes.keys ∧ r.target ∈ st.classes.keys
  notes : ∀ n ∈ st.notes, ∀ id ∈ n.classId, id ∈ st.classes.keys
  groups : ∀ g ∈ st.allGroups, ∀ id ∈ g.classIds, id ∈ st.classes.keys

namespace Registered

variable {st st' : State}

theorem init : Registered {} where
  keyed := .empty
  relationships := by
    intro r hr
    cases hr
  notes := by
    intro n hn
    cases hn
  groups := by
    intro g hg
    cases hg

/-- A registry with at least the same classes serves the same references. -/
theorem mono (h : Registered st) (hkeyed : Registry.Keyed Entity.id st'.classes)
    (hkeys : ∀ n ∈ st.classes.keys, n ∈ st'.classes.keys)
    (hrelationships : st'.relationships = st.relationships) (hnotes : st'.notes = st.notes)
    (hgroups : st'.allGroups = st.allGroups) : Registered st' where
  keyed := hkeyed
  relationships := by
    rw [hrelationships]
    intro r hr
    obtain ⟨hs, ht⟩ := h.relationships r hr
    exact ⟨hkeys _ hs, hkeys _ ht⟩
  notes := by
    rw [hnotes]
    intro n hn id hid
    exact hkeys id (h.notes n hn id hid)
  groups := by
    rw [hgroups]
    intro g hg id hid
    exact hkeys id (h.groups g hg id hid)

theorem report (h : Registered st) (l : Line) (p : Problem) : Registered (st.report l p) :=
  h.mono h.keyed (fun _ hn => hn) rfl rfl rfl

theorem modifyClass (h : Registered st) (id : String) {f : Entity → Entity}
    (hf : ∀ e, (f e).id = e.id) : Registered (st.modifyClass id f) := by
  refine h.mono (h.keyed.modify id hf) ?_ rfl rfl rfl
  intro n hn
  show n ∈ (st.classes.modify id f).keys
  rwa [OrderedMap.keys_modify]

theorem mem_keys_mention {id n : String} :
    n ∈ (st.mention id).classes.keys ↔ n ∈ st.classes.keys ∨ n = id := Registry.mem_keys_ensure

theorem mention (h : Registered st) (id : String) : Registered (st.mention id) := by
  refine h.mono (h.keyed.ensure fun _ => rfl) ?_ rfl rfl rfl
  intro n hn
  exact mem_keys_mention.2 (.inl hn)

/-- A registered class may join the open namespace. -/
theorem join (h : Registered st) {id : String} (hid : id ∈ st.classes.keys) :
    Registered { st with group := st.group.map fun g =>
      { g with group.classIds := addNew g.group.classIds id } } where
  keyed := h.keyed
  relationships := h.relationships
  notes := h.notes
  groups := by
    intro g hg n hn
    rcases List.mem_append.1 hg with hg | hg
    · exact h.groups g (List.mem_append_left _ hg) n hn
    · -- The open namespace lists what it listed before, and the new class.
      rw [Option.map_map, Option.mem_toList] at hg
      obtain ⟨o, ho, rfl⟩ := Option.map_eq_some_iff.1 hg
      rcases mem_addNew.1 hn with hn | rfl
      · refine h.groups o.group (List.mem_append_right _ ?_) n hn
        rw [Option.mem_toList, ho]
        rfl
      · exact hid

theorem declareName (h : Registered st) (n : ClassName) : Registered (st.declareName n) := by
  unfold State.declareName
  dsimp only
  refine join ((h.mention (String.ofList n.id)).modifyClass (String.ofList n.id) ?_) ?_
  · intro e
    rfl
  · show _ ∈ (OrderedMap.modify _ _ _).keys
    rw [OrderedMap.keys_modify]
    exact mem_keys_mention.2 (.inr rfl)

theorem addBodyLine (h : Registered st) (l : Line) (id : String) (b : BodyLine) :
    Registered (st.addBodyLine l id b) := by
  cases b with
  | stereotype t => exact h.modifyClass id fun _ => rfl
  | member m => exact h.modifyClass id fun _ => rfl
  | nameless t => exact h.report l _

theorem readTail (h : Registered st) (l : Line) (id : String) (t : Tail) :
    Registered (st.readTail l id t) := by
  cases t with
  | nothing => exact h
  | body => exact h.mono h.keyed (fun _ hn => hn) rfl rfl rfl
  | inline parts =>
    refine List.foldlRecOn parts _ h ?_
    intro st' h' p _
    exact h'.addBodyLine l id _
  | unexpected t => exact h.report l _

theorem declare (h : Registered st) (l : Line) (d : Declaration) : Registered (st.declare l d) := by
  unfold State.declare
  dsimp only
  refine readTail ((h.declareName d.name).modifyClass _ ?_) l _ d.tail
  intro e
  rfl

theorem closeGroup (h : Registered st) : Registered st.closeGroup :=
  h.mono h.keyed (fun _ hn => hn) rfl rfl (List.append_nil _)

theorem openGroup (h : Registered st) (l : Line) (name : String) :
    Registered (st.openGroup l name) := by
  -- Whether or not another namespace was open, a namespace without classes takes its place.
  have fresh : ∀ st : State, Registered st →
      Registered { st with group := some ⟨{ name }, l.number⟩ } := by
    intro st h
    refine ⟨h.keyed, h.relationships, h.notes, ?_⟩
    intro g hg n hn
    rcases List.mem_append.1 hg with hg | hg
    · exact h.groups g (List.mem_append_left _ hg) n hn
    · obtain rfl := List.mem_singleton.1 hg
      cases hn
  unfold State.openGroup
  dsimp only
  refine fresh _ ?_
  split
  · exact (h.report l _).closeGroup
  · exact h

theorem relate (h : Registered st) (l : Line) (r : RelationText) : Registered (st.relate l r) := by
  unfold State.relate
  dsimp only
  generalize String.ofList (ClassName.ofToken r.source).id = source
  generalize String.ofList (ClassName.ofToken r.target).id = target
  have hm := (h.mention source).mention target
  refine ⟨hm.keyed, ?_, hm.notes, hm.groups⟩
  intro r' hr'
  rcases List.mem_append.1 hr' with hr' | hr'
  · exact hm.relationships r' hr'
  · obtain rfl := List.mem_singleton.1 hr'
    refine ⟨mem_keys_mention.2 (.inl ?_), mem_keys_mention.2 (.inr rfl)⟩
    exact mem_keys_mention.2 (.inr rfl)

theorem addNote (h : Registered st) (l : Line) (classId : Option String) (text : String) :
    Registered (st.addNote l classId text) := by
  have add : ∀ st : State, Registered st → (∀ id ∈ classId, id ∈ st.classes.keys) →
      Registered { st with notes := st.notes ++ [{ text, classId, line := l.number }] } := by
    intro st h hid
    refine ⟨h.keyed, h.relationships, ?_, h.groups⟩
    intro n hn
    rcases List.mem_append.1 hn with hn | hn
    · exact h.notes n hn
    · obtain rfl := List.mem_singleton.1 hn
      exact hid
  unfold State.addNote
  dsimp only
  cases classId with
  | none =>
    refine add st h ?_
    intro id hid
    cases hid
  | some id =>
    refine add _ (h.mention id) ?_
    intro n hn
    exact mem_keys_mention.2 (.inr (Option.mem_some_iff.1 hn).symm)

/-- A line outside a body registers what it names. -/
theorem stepOutside (h : Registered st) (l : Line) : Registered (st.stepOutside l) := by
  unfold State.stepOutside
  cases Statement.recognise l.text with
  | openGroup name => exact h.openGroup l name
  | close =>
    dsimp only
    split
    · exact h.closeGroup
    · exact h.report l _
  | declare d => exact h.declare l d
  | stereotype t n => exact (h.declareName n).modifyClass _ fun _ => rfl
  | direction d => exact h.mono h.keyed (fun _ hn => hn) rfl rfl rfl
  | note classId text => exact h.addNote l classId text
  | relate r => exact h.relate l r
  | unknownConnector token => exact h.report l _
  | malformedRelationship => exact h.report l _
  | member id b => exact (h.mention id).addBodyLine l id b
  | unrecognised => exact h.report l _

theorem step (h : Registered st) (l : Line) : Registered (st.step l) := by
  unfold State.step
  split
  · exact h.stepOutside l
  · split
    · exact h.mono h.keyed (fun _ hn => hn) rfl rfl rfl
    · split
      · refine stepOutside ?_ l
        exact h.mono h.keyed (fun _ hn => hn) rfl rfl rfl
      · exact h.addBodyLine l _ _

theorem foldl_step (h : Registered st) (ls : List Line) : Registered (ls.foldl State.step st) := by
  refine List.foldlRecOn ls _ h ?_
  intro st' h' l _
  exact h'.step l

theorem finishBody (h : Registered st) : Registered st.finishBody := by
  unfold State.finishBody
  split
  · exact h.mono h.keyed (fun _ hn => hn) rfl rfl rfl
  · exact h

theorem finishGroup (h : Registered st) : Registered st.finishGroup := by
  unfold State.finishGroup
  split
  · refine closeGroup ?_
    exact h.mono h.keyed (fun _ hn => hn) rfl rfl rfl
  · exact h

end Registered

/-! ## Returned diagrams -/

/-- All references of a diagram are to its own classes. -/
structure Diagram.Closed (d : Diagram) : Prop where
  relationships : ∀ r ∈ d.relationships,
    r.source ∈ d.classes.map (·.id) ∧ r.target ∈ d.classes.map (·.id)
  notes : ∀ n ∈ d.notes, ∀ id ∈ n.classId, id ∈ d.classes.map (·.id)
  groups : ∀ g ∈ d.groups, ∀ id ∈ g.classIds, id ∈ d.classes.map (·.id)

theorem Registered.closed_diagram {st : State} (h : Registered st) : st.diagram.Closed := by
  have hids : st.diagram.classes.map (·.id) = st.classes.keys := h.keyed.map_values
  refine ⟨?_, ?_, ?_⟩
  · rw [hids]
    exact h.relationships
  · rw [hids]
    exact h.notes
  · rw [hids]
    intro g hg
    exact h.groups g (List.mem_append_left _ hg)

theorem closed_parse (ls : List Line) : (parse ls).diagram.Closed :=
  (Registered.init.foldl_step ls.tail).finishBody.finishGroup.closed_diagram

end DiagramText.Classes
