import DiagramText.Distinct
import DiagramText.OrderedMap

/-!
# Laws of ordered maps and registries

1. What `insert` and `modify` do to look-ups, and `insert` to the list of keys: a new key goes to
   the end.
2. `Registry.ensure` adds an id behind the others unless it is stored (`keys_ensure`).
3. `Registry.Keyed`: every entity is stored under its own id, so that the ids of the entities are
   the keys (`Keyed.map_values`).
-/

namespace DiagramText

namespace OrderedMap

variable {κ α : Type}

variable [BEq κ] [LawfulBEq κ]

theorem find?_insertEntry_self (k : κ) (v : α) (es : List (κ × α)) :
    ((insertEntry k v es).find? (·.1 == k)).map (·.2) = some v := by
  induction es with
  | nil => simp [insertEntry]
  | cons e r ih =>
    obtain ⟨k', v'⟩ := e
    rw [insertEntry]
    by_cases h : k' = k
    · subst h
      simp
    · rw [if_neg (by simpa using h), List.find?_cons_of_neg (by simpa using h)]
      exact ih

theorem find?_insertEntry_of_ne {j k : κ} (v : α) (h : j ≠ k) (es : List (κ × α)) :
    (insertEntry k v es).find? (·.1 == j) = es.find? (·.1 == j) := by
  have hkj : ¬ (k == j) = true := by simpa using h.symm
  induction es with
  | nil => simp [insertEntry, hkj]
  | cons e r ih =>
    obtain ⟨k', v'⟩ := e
    rw [insertEntry]
    by_cases hk : k' = k
    · subst hk
      rw [if_pos (by simp), List.find?_cons_of_neg (by exact hkj),
        List.find?_cons_of_neg (by exact hkj)]
    · rw [if_neg (by simpa using hk)]
      simp only [List.find?_cons]
      split
      · rfl
      · exact ih

@[simp]
theorem get?_insert_self (m : OrderedMap κ α) (k : κ) (v : α) : (m.insert k v).get? k = some v :=
  find?_insertEntry_self k v m.entries

theorem get?_insert_of_ne (m : OrderedMap κ α) {j k : κ} (v : α) (h : j ≠ k) :
    (m.insert k v).get? j = m.get? j := by
  unfold get? insert
  rw [find?_insertEntry_of_ne v h]

theorem get?_modify_self (m : OrderedMap κ α) (k : κ) (f : α → α) :
    (m.modify k f).get? k = (m.get? k).map f := by
  obtain ⟨es⟩ := m
  unfold get? modify
  dsimp only
  induction es with
  | nil => rfl
  | cons e r ih =>
    obtain ⟨k', v'⟩ := e
    rw [modifyEntry]
    by_cases hk : k' = k
    · subst hk
      simp
    · rw [if_neg (by simpa using hk), List.find?_cons_of_neg (by simpa using hk), ih,
        List.find?_cons_of_neg (by simpa using hk)]

theorem get?_modify_of_ne (m : OrderedMap κ α) {j k : κ} (f : α → α) (h : j ≠ k) :
    (m.modify k f).get? j = m.get? j := by
  obtain ⟨es⟩ := m
  unfold get? modify
  dsimp only
  induction es with
  | nil => rfl
  | cons e r ih =>
    obtain ⟨k', v'⟩ := e
    rw [modifyEntry]
    by_cases hk : k' = k
    · subst hk
      have hkj : ¬ (k' == j) = true := by simpa using h.symm
      rw [if_pos (by simp), List.find?_cons_of_neg (by exact hkj),
        List.find?_cons_of_neg (by exact hkj)]
    · rw [if_neg (by simpa using hk)]
      simp only [List.find?_cons]
      split
      · rfl
      · exact ih

/-- Inserting puts a new key behind the others and moves no known one. -/
theorem keys_insert (m : OrderedMap κ α) (k : κ) (v : α) :
    (m.insert k v).keys = addNew m.keys k := by
  obtain ⟨es⟩ := m
  show (insertEntry k v es).map (·.1) = addNew (es.map (·.1)) k
  unfold addNew
  induction es with
  | nil => simp [insertEntry]
  | cons e r ih =>
    obtain ⟨k', v'⟩ := e
    rw [insertEntry]
    by_cases hk : k' = k
    · subst hk
      simp
    · have hk' : ¬ (k == k') = true := by simpa using Ne.symm hk
      rw [if_neg (by simpa using hk), List.map_cons, ih, List.map_cons, List.contains_cons]
      simp only [hk', Bool.false_or]
      split <;> rfl

@[simp]
theorem mem_keys_insert {m : OrderedMap κ α} {j k : κ} {v : α} :
    j ∈ (m.insert k v).keys ↔ j ∈ m.keys ∨ j = k := by
  rw [keys_insert, mem_addNew]

theorem mem_keys_iff {m : OrderedMap κ α} {k : κ} : k ∈ m.keys ↔ ∃ v, m.get? k = some v := by
  obtain ⟨es⟩ := m
  unfold keys get?
  constructor
  · intro h
    obtain ⟨e, he, rfl⟩ := List.mem_map.1 h
    have hs : (es.find? (·.1 == e.1)).isSome := List.find?_isSome.2 ⟨e, he, by simp⟩
    obtain ⟨d, hd⟩ := Option.isSome_iff_exists.1 hs
    exact ⟨d.2, by rw [hd]; rfl⟩
  · rintro ⟨v, hv⟩
    obtain ⟨e, he, rfl⟩ := Option.map_eq_some_iff.1 hv
    have hk : e.1 = k := by simpa using List.find?_some he
    exact List.mem_map.2 ⟨e, List.mem_of_find?_eq_some he, hk⟩

end OrderedMap

namespace Registry

open OrderedMap (mem_keys_iff keys_insert)

variable {α : Type}

theorem get?_ensure_self (r : Registry α) (id : String) (make : Nat → α) :
    (ensure r id make).get? id = some ((r.get? id).getD (make r.size)) := by
  unfold ensure ensureUnless
  cases h : r.get? id with
  | none => exact OrderedMap.get?_insert_self r id _
  | some v => exact h

theorem get?_ensure_of_ne (r : Registry α) {id j : String} (make : Nat → α) (h : j ≠ id) :
    (ensure r id make).get? j = r.get? j := by
  unfold ensure ensureUnless
  cases r.get? id with
  | none => exact OrderedMap.get?_insert_of_ne r _ h
  | some v => rfl

/-- Asking for an entity adds its id behind the others, unless it is stored. -/
theorem keys_ensure (r : Registry α) (id : String) (make : Nat → α) :
    (ensure r id make).keys = addNew r.keys id := by
  unfold ensure ensureUnless
  cases h : r.get? id with
  | none => exact keys_insert r id _
  | some v =>
    have hid : id ∈ r.keys := mem_keys_iff.2 ⟨v, h⟩
    unfold addNew
    rw [if_pos (by simpa using hid)]
    rfl

@[simp]
theorem mem_keys_ensure {r : Registry α} {id j : String} {make : Nat → α} :
    j ∈ (ensure r id make).keys ↔ j ∈ r.keys ∨ j = id := by
  rw [keys_ensure, mem_addNew]

/-! ## Entities under their own ids -/

/-- Every entity is stored under its own id. -/
def Keyed (idOf : α → String) (r : Registry α) : Prop := ∀ e ∈ r.entries, idOf e.2 = e.1

namespace Keyed

variable {idOf : α → String} {r : Registry α}

theorem empty : Keyed idOf {} := by
  intro e he
  cases he

theorem map_values (h : Keyed idOf r) : r.values.map idOf = r.keys := by
  unfold OrderedMap.values OrderedMap.keys
  rw [List.map_map]
  exact List.map_congr_left h

theorem insert (h : Keyed idOf r) {id : String} {v : α} (hv : idOf v = id) :
    Keyed idOf (r.insert id v) := by
  obtain ⟨es⟩ := r
  show ∀ e ∈ OrderedMap.insertEntry id v es, idOf e.2 = e.1
  replace h : ∀ e ∈ es, idOf e.2 = e.1 := h
  induction es with
  | nil => simpa [OrderedMap.insertEntry] using hv
  | cons d es ih =>
    obtain ⟨hd, hes⟩ := List.forall_mem_cons.1 h
    rw [OrderedMap.insertEntry]
    by_cases hk : d.1 = id
    · rw [if_pos (by simpa using hk)]
      exact List.forall_mem_cons.2 ⟨hv.trans hk.symm, hes⟩
    · rw [if_neg (by simpa using hk)]
      exact List.forall_mem_cons.2 ⟨hd, ih hes⟩

theorem modify (h : Keyed idOf r) (id : String) {f : α → α} (hf : ∀ v, idOf (f v) = idOf v) :
    Keyed idOf (r.modify id f) := by
  obtain ⟨es⟩ := r
  show ∀ e ∈ OrderedMap.modifyEntry id f es, idOf e.2 = e.1
  replace h : ∀ e ∈ es, idOf e.2 = e.1 := h
  induction es with
  | nil => intro e he; cases he
  | cons d es ih =>
    obtain ⟨hd, hes⟩ := List.forall_mem_cons.1 h
    rw [OrderedMap.modifyEntry]
    split
    · exact List.forall_mem_cons.2 ⟨(hf d.2).trans hd, hes⟩
    · exact List.forall_mem_cons.2 ⟨hd, ih hes⟩

theorem of_get? (h : Keyed idOf r) {id : String} {v : α} (hv : r.get? id = some v) :
    idOf v = id := by
  obtain ⟨e, he, rfl⟩ := Option.map_eq_some_iff.1 hv
  have hkey : e.1 = id := by simpa using List.find?_some he
  exact (h e (List.mem_of_find?_eq_some he)).trans hkey

theorem ensure (h : Keyed idOf r) {id : String} {make : Nat → α}
    (hm : ∀ order, idOf (make order) = id) : Keyed idOf (Registry.ensure r id make) := by
  unfold Registry.ensure Registry.ensureUnless
  cases r.get? id with
  | none => exact h.insert (hm _)
  | some v => exact h

end Keyed

end Registry

end DiagramText
