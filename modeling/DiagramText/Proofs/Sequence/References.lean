import DiagramText.Proofs.OrderedMap
import DiagramText.Proofs.Sequence.Order

/-!
# References inside a sequence diagram

Messages, notes and boxes name participants of the diagram.

1. `SameCast`: what an operation on items and blocks leaves alone.
2. `Registered`, the invariant: every participant that an entry or a box names is registered.
3. `Diagram.Closed`, for the diagram that is returned.
-/

namespace DiagramText.Sequence

open Source (Line)

/-- The participants that an item names itself. -/
def Item.ids : Item → List String
  | .message m => [m.sender, m.receiver]
  | .note n => n.participantIds
  | .block _ _ => []

@[simp]
theorem Item.ids_bare (i : Item) : i.bare.ids = i.ids := by
  cases i <;> rfl

/-! ## Frames -/

/-- Two states with the same participants and boxes. -/
structure SameCast (st st' : State) : Prop where
  participants : st'.participants = st.participants
  boxes : st'.boxes = st.boxes
  box : st'.box = st.box

namespace SameCast

theorem refl (st : State) : SameCast st st := ⟨rfl, rfl, rfl⟩

theorem trans {st st' st'' : State} (h : SameCast st st') (h' : SameCast st' st'') :
    SameCast st st'' :=
  ⟨h'.participants.trans h.participants, h'.boxes.trans h.boxes, h'.box.trans h.box⟩

theorem reportIf (st : State) (c : Bool) (l : Line) (p : Problem) :
    SameCast st (st.reportIf c l p) := by
  cases c
  · exact refl st
  · exact ⟨rfl, rfl, rfl⟩

theorem addItem (st : State) (i : Item) : SameCast st (st.addItem i) := by
  unfold State.addItem
  split <;> exact ⟨rfl, rfl, rfl⟩

theorem closeBlock (st : State) : SameCast st st.closeBlock := by
  unfold State.closeBlock
  split
  · exact refl st
  · refine trans ?_ (addItem _ _)
    exact ⟨rfl, rfl, rfl⟩

theorem divide (st : State) (l : Line) (divider : Divider) (label : String) :
    SameCast st (st.divide l divider label) := by
  unfold State.divide
  split
  · exact ⟨rfl, rfl, rfl⟩
  · exact (reportIf st _ l _).trans ⟨rfl, rfl, rfl⟩

theorem foldl_closeUnclosed (fs : List OpenBlock) (st : State) :
    SameCast st (fs.foldl State.closeUnclosed st) := by
  refine List.foldlRecOn fs _ (refl st) ?_
  intro st' h f _
  refine (h.trans ?_).trans (closeBlock _)
  exact ⟨rfl, rfl, rfl⟩

end SameCast

/-! ## The invariant -/

/-- Participants stand under their ids, and the participants that entries and boxes name are
registered. -/
structure Registered (st : State) : Prop where
  keyed : Registry.Keyed Participant.id st.participants
  entries : ∀ i ∈ st.entries, ∀ id ∈ i.ids, id ∈ st.participants.keys
  boxes : ∀ b ∈ st.boxes ++ st.box.toList, ∀ id ∈ b.participantIds, id ∈ st.participants.keys

namespace Registered

variable {st st' : State}

theorem init : Registered {} where
  keyed := .empty
  entries := by
    intro i hi
    cases hi
  boxes := by
    intro b hb
    cases hb

/-- New entries may name registered participants. -/
theorem extend (h : Registered st) (hs : SameCast st st') {more : List Item}
    (he : st'.entries = st.entries ++ more)
    (hm : ∀ i ∈ more, ∀ id ∈ i.ids, id ∈ st.participants.keys) : Registered st' where
  keyed := by
    rw [hs.participants]
    exact h.keyed
  entries := by
    intro i hi
    rw [he] at hi
    rw [hs.participants]
    exact (List.mem_append.1 hi).elim (h.entries i) (hm i)
  boxes := by
    rw [hs.boxes, hs.box, hs.participants]
    exact h.boxes

theorem congr (h : Registered st) (hs : SameCast st st') (he : st'.entries = st.entries) :
    Registered st' := by
  refine h.extend hs (he.trans (List.append_nil _).symm) ?_
  intro i hi
  cases hi

theorem reportIf (h : Registered st) (c : Bool) (l : Line) (p : Problem) :
    Registered (st.reportIf c l p) :=
  h.congr (.reportIf st c l p) (State.entries_congr (State.items_reportIf ..)
    (State.blocks_reportIf ..))

theorem mention (h : Registered st) (id : String) : Registered (st.mention id) where
  keyed := h.keyed.ensure fun _ => rfl
  entries := by
    intro i hi n hn
    exact Registry.mem_keys_ensure.2 (.inl (h.entries i hi n hn))
  boxes := by
    intro b hb n hn
    exact Registry.mem_keys_ensure.2 (.inl (h.boxes b hb n hn))

theorem mem_keys_mention {id n : String} :
    n ∈ (st.mention id).participants.keys ↔ n ∈ st.participants.keys ∨ n = id :=
  Registry.mem_keys_ensure

theorem foldl_mention (h : Registered st) (ids : List String) :
    Registered (ids.foldl State.mention st) ∧
      ∀ n, n ∈ st.participants.keys ∨ n ∈ ids →
        n ∈ (ids.foldl State.mention st).participants.keys := by
  induction ids generalizing st with
  | nil =>
    refine ⟨h, ?_⟩
    rintro n (hn | hn)
    · exact hn
    · cases hn
  | cons id ids ih =>
    obtain ⟨hreg, hkeys⟩ := ih (h.mention id)
    refine ⟨hreg, fun n hn => hkeys n ?_⟩
    rw [mem_keys_mention]
    rcases hn with hn | hn
    · exact .inl (.inl hn)
    · rcases List.mem_cons.1 hn with hn | hn
      · exact .inl (.inr hn)
      · exact .inr hn

theorem declare (h : Registered st) (l : Line) (role : Role) (id label : String) :
    Registered (st.declare l role id label) := by
  have hm := (h.reportIf ((st.participants.get? id).any (!·.implicit)) l
    (.redeclared id)).mention id
  unfold State.declare
  dsimp only
  refine ⟨?_, ?_, ?_⟩
  · refine hm.keyed.modify id ?_
    intro p
    split <;> rfl
  · intro i hi n hn
    rw [OrderedMap.keys_modify]
    exact hm.entries i hi n hn
  · intro b hb n hn
    rw [OrderedMap.keys_modify]
    rcases List.mem_append.1 hb with hb | hb
    · exact hm.boxes b (List.mem_append_left _ hb) n hn
    · obtain ⟨b', hb', rfl⟩ := Option.map_eq_some_iff.1 (Option.mem_toList.1 hb)
      rcases mem_addNew.1 hn with hn | rfl
      · exact hm.boxes b' (List.mem_append_right _ (Option.mem_toList.2 hb')) n hn
      · exact mem_keys_mention.2 (.inr rfl)

theorem addNote (h : Registered st) (l : Line) (position : Position) (spelled : String)
    (ids : List String) (text : String) : Registered (st.addNote l position spelled ids text) := by
  unfold State.addNote
  dsimp only
  obtain ⟨hreg, hkeys⟩ := ((h.reportIf (2 < ids.length) l .wideNote).reportIf
    (position != .above && 1 < ids.length) l (.sharedNote spelled)).foldl_mention ids
  refine hreg.extend (.addItem _ _) (State.entries_addItem _ _) ?_
  intro i hi n hn
  obtain rfl := List.mem_singleton.1 hi
  exact hkeys n (.inr hn)

theorem addMessage (h : Registered st) (l : Line) (t : MessageText) :
    Registered (st.addMessage l t) := by
  unfold State.addMessage
  dsimp only
  have hm := ((h.reportIf t.text.isNone l (.noText (String.ofList t.sender) t.arrow
    (String.ofList t.receiver))).mention (String.ofList t.sender)).mention
    (String.ofList t.receiver)
  refine Registered.extend ?_ (.addItem _ _) (State.entries_addItem _ _) ?_
  · exact hm.congr ⟨rfl, rfl, rfl⟩ rfl
  · intro i hi n hn
    obtain rfl := List.mem_singleton.1 hi
    refine mem_keys_mention.2 ?_
    rcases List.mem_cons.1 hn with rfl | hn
    · exact .inl (mem_keys_mention.2 (.inr rfl))
    · exact .inr (List.mem_singleton.1 hn)

theorem closeBox (h : Registered st) : Registered st.closeBox where
  keyed := h.keyed
  entries := h.entries
  boxes := by
    intro b hb
    refine h.boxes b ?_
    rwa [State.closeBox, Option.toList_none, List.append_nil] at hb

theorem openBox (h : Registered st) (l : Line) (label : String) :
    Registered (st.openBox l label) := by
  unfold State.openBox
  split
  · exact h.congr ⟨rfl, rfl, rfl⟩ rfl
  · refine ⟨h.keyed, h.entries, ?_⟩
    intro b hb n hn
    rcases List.mem_append.1 hb with hb | hb
    · exact h.boxes b (List.mem_append_left _ hb) n hn
    · obtain rfl := List.mem_singleton.1 hb
      cases hn

theorem close (h : Registered st) (l : Line) : Registered (st.close l) := by
  unfold State.close
  split
  · exact h.congr (.closeBlock st) st.entries_closeBlock
  · split
    · exact h.closeBox
    · exact h.congr ⟨rfl, rfl, rfl⟩ rfl

/-- Every statement registers what it names. -/
theorem step (h : Registered st) (l : Line) (s : Statement) : Registered (st.step (l, s)) := by
  cases s with
  | declare role id label => exact h.declare l role id label
  | note position spelled ids text => exact h.addNote l position spelled ids text
  | box label => exact h.openBox l label
  | block kind label =>
    refine h.extend ⟨rfl, rfl, rfl⟩ (st.entries_openBlock l kind label) ?_
    intro i hi n hn
    obtain rfl := List.mem_singleton.1 hi
    cases hn
  | divide divider label =>
    exact h.congr (.divide st l divider label) (st.entries_divide l divider label)
  | close => exact h.close l
  | autonumber => exact h.congr ⟨rfl, rfl, rfl⟩ rfl
  | title text => exact h.congr ⟨rfl, rfl, rfl⟩ rfl
  | activation id => exact h.mention id
  | message t => exact h.addMessage l t
  | invalidMessage => exact h.congr ⟨rfl, rfl, rfl⟩ rfl
  | unrecognised => exact h.congr ⟨rfl, rfl, rfl⟩ rfl

theorem foldl_step (h : Registered st) (xs : List (Line × Statement)) :
    Registered (xs.foldl State.step st) := by
  refine List.foldlRecOn xs _ h ?_
  intro st' h' x _
  exact h'.step x.1 x.2

theorem finish (h : Registered st) : Registered st.finish := by
  have hclosed := h.congr (.foldl_closeUnclosed st.blocks st)
    (State.entries_foldl_closeUnclosed st.blocks st)
  unfold State.finish
  dsimp only
  split
  · refine Registered.closeBox ?_
    exact hclosed.congr ⟨rfl, rfl, rfl⟩ rfl
  · exact hclosed

end Registered

/-! ## Returned diagrams -/

/-- All references of a diagram are to its own participants. -/
structure Diagram.Closed (d : Diagram) : Prop where
  messages : ∀ m ∈ d.messages,
    m.sender ∈ d.participants.map (·.id) ∧ m.receiver ∈ d.participants.map (·.id)
  notes : ∀ n ∈ d.notes, ∀ id ∈ n.participantIds, id ∈ d.participants.map (·.id)
  boxes : ∀ b ∈ d.boxes, ∀ id ∈ b.participantIds, id ∈ d.participants.map (·.id)

theorem Registered.closed_diagram {st : State} (h : Registered st) : st.diagram.Closed := by
  have hids : st.diagram.participants.map (·.id) = st.participants.keys := h.keyed.map_values
  have hwalk : ∀ i ∈ Item.walkAll st.items, ∀ id ∈ i.ids, id ∈ st.participants.keys := by
    intro i hi id hid
    refine h.entries i.bare ?_ id (by rwa [Item.ids_bare])
    exact List.mem_append_left _ (List.mem_map_of_mem hi)
  refine ⟨?_, ?_, ?_⟩
  · intro m hm
    obtain ⟨i, hi, him⟩ := List.mem_filterMap.1 hm
    rw [hids]
    cases i with
    | message m' =>
      cases him
      have hm' := hwalk _ hi
      exact ⟨hm' _ List.mem_cons_self, hm' _ (List.mem_cons_of_mem _ List.mem_cons_self)⟩
    | note n => cases him
    | block head bs => cases him
  · intro n hn
    obtain ⟨i, hi, hin⟩ := List.mem_filterMap.1 hn
    rw [hids]
    cases i with
    | message m => cases hin
    | note n' =>
      cases hin
      exact hwalk _ hi
    | block head bs => cases hin
  · intro b hb
    rw [hids]
    exact h.boxes b (List.mem_append_left _ hb)

theorem closed_of_parse {ls : List Line} {p : Parsed Diagram} (h : parse ls = .ok p) :
    p.diagram.Closed := by
  obtain ⟨xs, -, h⟩ := bind_eq_ok_iff.1 h
  cases h
  exact (Registered.init.foldl_step xs).finish.closed_diagram

end DiagramText.Sequence
