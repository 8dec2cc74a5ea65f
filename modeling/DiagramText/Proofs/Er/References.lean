import DiagramText.Er.Parse
import DiagramText.Proofs.OrderedMap

/-!
# References inside an entity-relationship diagram

Both ends of a relationship are entities of the diagram, also when the relationship closes a body.
-/

namespace DiagramText.Er

open Source (Line)

/-- Entities stand under their ids, and the ends of relationships are registered. -/
structure Registered (st : State) : Prop where
  keyed : Registry.Keyed Entity.id st.entities
  relationships : ∀ r ∈ st.relationships,
    r.entity1 ∈ st.entities.keys ∧ r.entity2 ∈ st.entities.keys

namespace Registered

variable {st st' : State}

theorem init : Registered {} where
  keyed := .empty
  relationships := by
    intro r hr
    cases hr

theorem mono (h : Registered st) (hkeyed : Registry.Keyed Entity.id st'.entities)
    (hkeys : ∀ n ∈ st.entities.keys, n ∈ st'.entities.keys)
    (hrelationships : st'.relationships = st.relationships) : Registered st' where
  keyed := hkeyed
  relationships := by
    rw [hrelationships]
    intro r hr
    obtain ⟨h1, h2⟩ := h.relationships r hr
    exact ⟨hkeys _ h1, hkeys _ h2⟩

theorem reportAll (h : Registered st) (l : Line) (ps : List Problem) :
    Registered (st.reportAll l ps) := h.mono h.keyed (fun _ hn => hn) rfl

theorem mem_keys_mention {id n : String} :
    n ∈ (st.mention id).entities.keys ↔ n ∈ st.entities.keys ∨ n = id := Registry.mem_keys_ensure

theorem mention (h : Registered st) (id : String) : Registered (st.mention id) := by
  refine h.mono (h.keyed.ensure fun _ => rfl) ?_ rfl
  intro n hn
  exact mem_keys_mention.2 (.inl hn)

theorem relate (h : Registered st) (l : Line) (k : Link) : Registered (st.relate l k) := by
  have hm := ((h.reportAll l (State.linkProblems k)).mention k.entity1).mention k.entity2
  refine ⟨hm.keyed, ?_⟩
  intro r hr
  rcases List.mem_append.1 hr with hr | hr
  · exact hm.relationships r hr
  · obtain rfl := List.mem_singleton.1 hr
    refine ⟨mem_keys_mention.2 (.inl ?_), mem_keys_mention.2 (.inr rfl)⟩
    exact mem_keys_mention.2 (.inr rfl)

theorem declare (h : Registered st) (l : Line) (d : Declaration) : Registered (st.declare l d) := by
  have hm := h.mention d.id
  refine hm.mono (hm.keyed.modify d.id fun _ => rfl) ?_ rfl
  intro n hn
  show n ∈ (OrderedMap.modify _ _ _).keys
  rwa [OrderedMap.keys_modify]

theorem addAttribute (h : Registered st) (l : Line) (id : String) :
    Registered (st.addAttribute l id) := by
  unfold State.addAttribute
  split
  · exact h.reportAll l _
  · refine h.mono (h.keyed.modify id fun _ => rfl) ?_ rfl
    intro n hn
    show n ∈ (OrderedMap.modify _ _ _).keys
    rwa [OrderedMap.keys_modify]

theorem step (h : Registered st) (l : Line) : Registered (st.step l) := by
  unfold State.step
  split
  · exact h.mono h.keyed (fun _ hn => hn) rfl
  · refine relate ?_ l _
    exact h.mono h.keyed (fun _ hn => hn) rfl
  · exact h.addAttribute l _
  · exact h.reportAll l _
  · exact h.relate l _
  · exact h.declare l _
  · exact h.reportAll l _
  · exact h.reportAll l _

theorem foldl_step (h : Registered st) (ls : List Line) : Registered (ls.foldl State.step st) := by
  refine List.foldlRecOn ls _ h ?_
  intro st' h' l _
  exact h'.step l

end Registered

/-- All references of a diagram are to its own entities. -/
structure Diagram.Closed (d : Diagram) : Prop where
  relationships : ∀ r ∈ d.relationships,
    r.entity1 ∈ d.entities.map (·.id) ∧ r.entity2 ∈ d.entities.map (·.id)

theorem closed_parse (ls : List Line) : (parse ls).diagram.Closed := by
  have h := Registered.init.foldl_step ls.tail
  have hids : (parse ls).diagram.entities.map (·.id) = _ := h.keyed.map_values
  refine ⟨?_⟩
  rw [hids]
  exact h.relationships

end DiagramText.Er
