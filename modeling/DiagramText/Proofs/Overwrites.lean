import DiagramText.Proofs.OrderedMap
import Mathlib.Data.List.Induction

/-!
# Writing into slots

A container of slots is written to again and again.  A write into a slot replaces what an earlier
write left there, and two writes into different slots commute as soon as one of the slots is filled;
before that, their order decides which slot comes first.  Repeating a whole list of writes then
changes nothing (`Overwrites.foldl_foldl`), however often the list writes into the same slot.

1. `Overwrites`, the laws, and `foldl_foldl`.
2. The instances: ordered maps, lists without repetition, and maps whose values are such containers.
-/

namespace DiagramText

/-- The laws of writes.  A write `w` goes into the slot `slot w`, and `filled s a` says that the slot
`a` of the container `s` has been written to. -/
structure Overwrites {σ ω α : Type} (slot : ω → α) (write : σ → ω → σ) (filled : σ → α → Prop) :
    Prop where
  again : ∀ s {w w'}, slot w = slot w' → write (write s w) w' = write s w'
  comm : ∀ s {w w'}, slot w ≠ slot w' → filled s (slot w) ∨ filled s (slot w') →
    write (write s w) w' = write (write s w') w
  fills : ∀ s w, filled (write s w) (slot w)
  keeps : ∀ s w {a}, filled s a → filled (write s w) a

namespace Overwrites

variable {σ ω α : Type} {slot : ω → α} {write : σ → ω → σ} {filled : σ → α → Prop}

theorem filled_foldl (h : Overwrites slot write filled) {a : α} {s : σ} (ha : filled s a)
    (ws : List ω) : filled (ws.foldl write s) a := by
  induction ws generalizing s with
  | nil => exact ha
  | cons w ws ih => exact ih (h.keeps s w ha)

/-- After a list of writes all their slots are filled. -/
theorem filled_of_mem (h : Overwrites slot write filled) {w : ω} {ws : List ω} (hw : w ∈ ws)
    (s : σ) : filled (ws.foldl write s) (slot w) := by
  induction ws generalizing s with
  | nil => cases hw
  | cons w' ws ih =>
    rcases List.mem_cons.1 hw with rfl | hw
    · exact h.filled_foldl (h.fills s w) ws
    · exact ih hw (write s w')

/-- A write into a filled slot is lost if a later write goes into that slot. -/
theorem foldl_write_of_mem (h : Overwrites slot write filled) {w : ω} {ws : List ω} {s : σ}
    (hs : filled s (slot w)) (hw : ∃ w' ∈ ws, slot w = slot w') :
    ws.foldl write (write s w) = ws.foldl write s := by
  induction ws generalizing s with
  | nil =>
    obtain ⟨w', hmem, -⟩ := hw
    cases hmem
  | cons v ws ih =>
    rw [List.foldl_cons, List.foldl_cons]
    by_cases hv : slot w = slot v
    · rw [h.again s hv]
    · rw [h.comm s hv (.inl hs)]
      refine ih (h.keeps s v hs) ?_
      obtain ⟨w', hmem, hw'⟩ := hw
      rcases List.mem_cons.1 hmem with rfl | hmem
      · exact absurd hw' hv
      · exact ⟨w', hmem, hw'⟩

/-- A write into another slot may as well come after writes into filled slots. -/
theorem foldl_write_of_ne (h : Overwrites slot write filled) {w : ω} {ws : List ω} {s : σ}
    (hs : ∀ w' ∈ ws, filled s (slot w')) (hw : ∀ w' ∈ ws, slot w ≠ slot w') :
    ws.foldl write (write s w) = write (ws.foldl write s) w := by
  induction ws generalizing s with
  | nil => rfl
  | cons v ws ih =>
    obtain ⟨hv, hws⟩ := List.forall_mem_cons.1 hw
    obtain ⟨hfilled, hrest⟩ := List.forall_mem_cons.1 hs
    rw [List.foldl_cons, List.foldl_cons, h.comm s hv (.inr hfilled)]
    exact ih (fun w' hw' => h.keeps s v (hrest w' hw')) hws

/-- **Repeating writes.** A list of writes that is carried out twice does what it does once. -/
theorem foldl_foldl (h : Overwrites slot write filled) (ws : List ω) (s : σ) :
    ws.foldl write (ws.foldl write s) = ws.foldl write s := by
  -- On the last write: either an earlier write goes into its slot, or it commutes with all of them.
  induction ws using List.reverseRecOn with
  | nil => rfl
  | append_singleton ws w ih =>
    rw [List.foldl_append, List.foldl_append, List.foldl_cons, List.foldl_nil, List.foldl_cons,
      List.foldl_nil]
    by_cases hw : ∃ w' ∈ ws, slot w = slot w'
    · have hfilled : filled (ws.foldl write s) (slot w) := by
        obtain ⟨w', hmem, hslot⟩ := hw
        rw [hslot]
        exact h.filled_of_mem hmem s
      rw [h.foldl_write_of_mem hfilled hw, ih]
    · have hother : ∀ w' ∈ ws, slot w ≠ slot w' := fun w' hmem hslot => hw ⟨w', hmem, hslot⟩
      rw [h.foldl_write_of_ne (fun w' hmem => h.filled_of_mem hmem s) hother, ih, h.again _ rfl]

end Overwrites

/-! ## Ordered maps -/

namespace OrderedMap

variable {κ β : Type} [BEq κ] [LawfulBEq κ]

theorem insert_insert_self (m : OrderedMap κ β) (k : κ) (v w : β) :
    (m.insert k v).insert k w = m.insert k w := by
  obtain ⟨es⟩ := m
  refine congrArg OrderedMap.mk (show insertEntry k w (insertEntry k v es) = _ from ?_)
  induction es with
  | nil => simp [insertEntry]
  | cons e es ih =>
    by_cases he : e.1 == k
    · simp [insertEntry, he]
    · simp [insertEntry, he, ih]

/-- Two entries may be stored in either order, if one of the keys is known. -/
theorem insert_comm (m : OrderedMap κ β) {j k : κ} (v w : β) (h : j ≠ k)
    (hm : j ∈ m.keys ∨ k ∈ m.keys) :
    (m.insert j v).insert k w = (m.insert k w).insert j v := by
  obtain ⟨es⟩ := m
  refine congrArg OrderedMap.mk
    (show insertEntry k w (insertEntry j v es) = insertEntry j v (insertEntry k w es) from ?_)
  replace hm : (∃ e ∈ es, e.1 = j) ∨ ∃ e ∈ es, e.1 = k := by simpa [keys] using hm
  have hjk : (j == k) = false := by simpa using h
  have hkj : (k == j) = false := by simpa using h.symm
  induction es with
  | nil => simp at hm
  | cons e es ih =>
    obtain ⟨i, u⟩ := e
    by_cases hj : i = j
    · subst hj
      simp [insertEntry, hjk]
    · by_cases hk : i = k
      · subst hk
        simp [insertEntry, hkj]
      · have hrest := ih (by simpa [hj, hk] using hm)
        simp [insertEntry, hj, hk, hrest]

theorem overwrites_insert :
    Overwrites (fun e : κ × β => e.1) (fun (m : OrderedMap κ β) e => m.insert e.1 e.2)
      fun m k => k ∈ m.keys where
  again m e e' h := by
    rw [h]
    exact insert_insert_self m _ _ _
  comm m e e' h hm := insert_comm m _ _ h hm
  fills m e := mem_keys_insert.2 (.inr rfl)
  keeps m e k hk := mem_keys_insert.2 (.inl hk)

/-- Writes into the value that is stored for a key; a value not stored yet is `b`. -/
def writeAt {ω : Type} (write : β → ω → β) (b : β) (m : OrderedMap κ β) (w : κ × ω) :
    OrderedMap κ β :=
  m.insert w.1 (write ((m.get? w.1).getD b) w.2)

variable {ω α : Type} {slot : ω → α} {write : β → ω → β} {filled : β → α → Prop}

/-- A map of containers is a container: a slot is a key and a slot of the value stored for it. -/
theorem overwrites_writeAt (h : Overwrites slot write filled) (b : β) :
    Overwrites (fun w : κ × ω => (w.1, slot w.2)) (writeAt write b)
      fun m a => ∃ v, m.get? a.1 = some v ∧ filled v a.2 where
  again m w w' hw := by
    obtain ⟨hk, hslot⟩ := Prod.mk.inj hw
    unfold writeAt
    rw [hk, get?_insert_self, Option.getD_some, h.again _ hslot, insert_insert_self]
  comm m w w' hw hm := by
    obtain ⟨k, w⟩ := w
    obtain ⟨k', w'⟩ := w'
    unfold writeAt
    by_cases hk : k = k'
    · subst hk
      have hslot : slot w ≠ slot w' := fun he => hw (congrArg (Prod.mk k) he)
      obtain ⟨v, hv, hfilled⟩ : ∃ v, m.get? k = some v ∧
          (filled v (slot w) ∨ filled v (slot w')) := by
        rcases hm with ⟨v, hv, hf⟩ | ⟨v, hv, hf⟩
        · exact ⟨v, hv, .inl hf⟩
        · exact ⟨v, hv, .inr hf⟩
      simp only [get?_insert_self, Option.getD_some, insert_insert_self, hv, h.comm v hslot hfilled]
    · have hkeys : k ∈ m.keys ∨ k' ∈ m.keys := by
        rcases hm with ⟨v, hv, -⟩ | ⟨v, hv, -⟩
        · exact .inl (mem_keys_iff.2 ⟨v, hv⟩)
        · exact .inr (mem_keys_iff.2 ⟨v, hv⟩)
      simp only [get?_insert_of_ne m _ (Ne.symm hk), get?_insert_of_ne m _ hk]
      exact insert_comm m _ _ hk hkeys
  fills m w := ⟨_, get?_insert_self m _ _, h.fills _ _⟩
  keeps m w a ha := by
    obtain ⟨v, hv, hfilled⟩ := ha
    unfold writeAt
    by_cases hk : a.1 = w.1
    · rw [hk] at hv ⊢
      exact ⟨_, get?_insert_self m _ _, by rw [hv]; exact h.keeps v w.2 hfilled⟩
    · exact ⟨v, by rw [get?_insert_of_ne m _ hk]; exact hv, hfilled⟩

end OrderedMap

/-! ## Lists without repetition -/

theorem addNew_of_mem {α : Type} [BEq α] [LawfulBEq α] {xs : List α} {x : α} (h : x ∈ xs) :
    addNew xs x = xs := by
  unfold addNew
  rw [if_pos (by simpa using h)]

theorem overwrites_addNew {α : Type} [BEq α] [LawfulBEq α] :
    Overwrites (fun x : α => x) addNew fun xs x => x ∈ xs where
  again xs x x' h := by
    rw [h]
    exact addNew_of_mem (mem_addNew.2 (.inr rfl))
  comm xs x x' _ hm := by
    rcases hm with hm | hm
    · rw [addNew_of_mem hm, addNew_of_mem (mem_addNew.2 (.inl hm))]
    · rw [addNew_of_mem hm, addNew_of_mem (mem_addNew.2 (.inl hm))]
  fills xs x := mem_addNew.2 (.inr rfl)
  keeps xs x y hy := mem_addNew.2 (.inl hy)

end DiagramText
