import Mathlib.Data.List.Infix
import Mathlib.Data.List.Nodup
import DiagramText.Proofs.OrderedMap

/-!
# Rosters

A registry hands out numbers: an entity that is made on the first mention of its id gets the number
of entities before it.  Later declarations change the entity in place.

1. `addAllNew` keeps what is listed already and appends the rest in order of first occurrence.
2. `mapCounting`, for lists whose entries are numbered by a counter of some of them.
3. `Registry.Dense`: entities stand under their own ids, all different, and the `i`-th one has the
   number `i`.
4. `Registry.Enrols`, what mentioning some ids does to a registry, with one lemma for each way to
   change a registry.  The relation composes, so that a reader needs one fact per statement.
-/

namespace DiagramText

/-! ## Lists in order of first occurrence -/

section

variable {α : Type} [BEq α]

theorem addAllNew_append (xs ys zs : List α) :
    addAllNew xs (ys ++ zs) = addAllNew (addAllNew xs ys) zs := List.foldl_append

theorem prefix_addNew (xs : List α) (x : α) : xs <+: addNew xs x := by
  unfold addNew
  split
  · exact List.prefix_rfl
  · exact List.prefix_append xs [x]

theorem prefix_addAllNew (xs ys : List α) : xs <+: addAllNew xs ys := by
  induction ys generalizing xs with
  | nil => exact List.prefix_rfl
  | cons y ys ih => exact (prefix_addNew xs y).trans (ih (addNew xs y))

theorem addAllNew_prefix (xs : List α) {ys zs : List α} (h : ys <+: zs) :
    addAllNew xs ys <+: addAllNew xs zs := by
  obtain ⟨more, rfl⟩ := h
  rw [addAllNew_append]
  exact prefix_addAllNew _ _

theorem mem_addAllNew [LawfulBEq α] {xs ys : List α} {y : α} :
    y ∈ addAllNew xs ys ↔ y ∈ xs ∨ y ∈ ys := by
  induction ys generalizing xs with
  | nil => simp [addAllNew]
  | cons z ys ih =>
    have hstep : addAllNew xs (z :: ys) = addAllNew (addNew xs z) ys := rfl
    rw [hstep, ih, mem_addNew, List.mem_cons, or_assoc]

theorem nodup_addAllNew [LawfulBEq α] {xs : List α} (ys : List α) (h : xs.Nodup) :
    (addAllNew xs ys).Nodup := by
  induction ys generalizing xs with
  | nil => exact h
  | cons y ys ih => exact ih (nodup_addNew y h)

end

/-- Values that are appended one after the other to nothing are the distinct ones, in order of
first occurrence. -/
theorem addAllNew_nil {α : Type} [BEq α] [LawfulBEq α] (xs : List α) :
    addAllNew [] xs = xs.eraseDups := by
  induction xs using List.reverseRecOn with
  | nil => rfl
  | append_singleton xs x ih =>
    have hlast : (addAllNew [] xs).contains x = xs.contains x := by
      rw [ih, Bool.eq_iff_iff, List.contains_iff_mem, List.contains_iff_mem, List.mem_eraseDups]
    rw [addAllNew_append, List.eraseDups_append, ← ih]
    show addNew (addAllNew [] xs) x = _
    unfold addNew
    rw [hlast]
    by_cases hx : x ∈ xs <;> simp [hx, List.removeAll, List.eraseDups_cons]

theorem zipIdx_prefix {α : Type} {xs ys : List α} (h : xs <+: ys) : xs.zipIdx <+: ys.zipIdx := by
  obtain ⟨more, rfl⟩ := h
  rw [List.zipIdx_append]
  exact List.prefix_append _ _

/-! ## Lists numbered by a counter -/

section

variable {α β : Type} [BEq α] (counted : α) (f : Nat → α → β)

/-- The values of `f` at the entries of a list, where a counter that starts at `n` has counted some
of those in front. -/
def mapCounting : (n : Nat) → List α → List β
  | _, [] => []
  | n, x :: xs => f n x :: mapCounting (n + [x].count counted) xs

theorem count_cons_eq_add (n : Nat) (x : α) (xs : List α) :
    n + (x :: xs).count counted = n + [x].count counted + xs.count counted := by
  rw [← List.singleton_append, List.count_append, Nat.add_assoc]

theorem length_mapCounting (n : Nat) (xs : List α) :
    (mapCounting counted f n xs).length = xs.length := by
  induction xs generalizing n with
  | nil => rfl
  | cons x xs ih => rw [mapCounting, List.length_cons, List.length_cons, ih]

theorem getElem?_mapCounting (n : Nat) (xs : List α) (i : Nat) :
    (mapCounting counted f n xs)[i]? = xs[i]?.map (f (n + (xs.take i).count counted)) := by
  induction xs generalizing n i with
  | nil => rfl
  | cons x xs ih =>
    cases i with
    | zero => simp [mapCounting]
    | succ i =>
      rw [mapCounting, List.getElem?_cons_succ, List.getElem?_cons_succ, ih, List.take_succ_cons,
        count_cons_eq_add counted n x (xs.take i)]

theorem mapCounting_append (n : Nat) (xs ys : List α) :
    mapCounting counted f n (xs ++ ys) =
      mapCounting counted f n xs ++ mapCounting counted f (n + xs.count counted) ys := by
  induction xs generalizing n with
  | nil => rfl
  | cons x xs ih =>
    rw [List.cons_append, mapCounting, mapCounting, ih, List.cons_append,
      count_cons_eq_add counted n x xs]

end

/-! ## Dense registries -/

namespace OrderedMap

variable {κ α β : Type} [BEq κ]

theorem map_values_modify (m : OrderedMap κ α) (k : κ) {f : α → α} {g : α → β}
    (h : ∀ v, g (f v) = g v) : (m.modify k f).values.map g = m.values.map g := by
  obtain ⟨es⟩ := m
  show ((modifyEntry k f es).map (·.2)).map g = (es.map (·.2)).map g
  induction es with
  | nil => rfl
  | cons e es ih =>
    rw [modifyEntry]
    split
    · simp [h]
    · simp only [List.map_cons, ih]

omit [BEq κ] in
/-- The values stand in the order of the keys. -/
theorem values_eq_map {m : OrderedMap κ α} {f : κ → α} (h : ∀ e ∈ m.entries, e.2 = f e.1) :
    m.values = m.keys.map f := by
  rw [values, keys, List.map_map]
  exact List.map_congr_left h

/-- Under distinct keys, every entry is found. -/
theorem get?_of_mem [LawfulBEq κ] {m : OrderedMap κ α} (h : m.keys.Nodup) {e : κ × α}
    (he : e ∈ m.entries) : m.get? e.1 = some e.2 := by
  obtain ⟨v, hv⟩ := mem_keys_iff.1 (List.mem_map_of_mem he)
  obtain ⟨d, hd, rfl⟩ := Option.map_eq_some_iff.1 hv
  have hkey : d.1 = e.1 := by simpa using List.find?_some hd
  rw [hv, List.inj_on_of_nodup_map h (List.mem_of_find?_eq_some hd) he hkey]

/-- A new key goes to the end. -/
theorem entries_insert_of_none [LawfulBEq κ] {m : OrderedMap κ α} {k : κ} (v : α)
    (h : m.get? k = none) : (m.insert k v).entries = m.entries ++ [(k, v)] := by
  have hk : k ∉ m.keys := by
    intro hmem
    obtain ⟨w, hw⟩ := mem_keys_iff.1 hmem
    rw [h] at hw
    cases hw
  obtain ⟨es⟩ := m
  replace hk : ∀ e ∈ es, e.1 ≠ k := fun e he hek => hk (List.mem_map.2 ⟨e, he, hek⟩)
  show insertEntry k v es = es ++ [(k, v)]
  induction es with
  | nil => rfl
  | cons e es ih =>
    obtain ⟨he, hes⟩ := List.forall_mem_cons.1 hk
    have hrest : OrderedMap.get? ⟨es⟩ k = none := by
      have hne : ¬ (e.1 == k) = true := by simpa using he
      have h' : ((e :: es).find? (·.1 == k)).map (·.2) = none := h
      rwa [List.find?_cons_of_neg (by exact hne)] at h'
    rw [insertEntry, if_neg (by simpa using he), ih hrest hes]
    rfl

end OrderedMap

namespace Registry

variable {α : Type} {idOf : α → String} {orderOf : α → Nat} {r r' r'' : Registry α}

/-- Every entity stands under its own id, no id is stored twice, and the entities are numbered in
the order in which they are listed. -/
structure Dense (idOf : α → String) (orderOf : α → Nat) (r : Registry α) : Prop where
  keyed : Keyed idOf r
  nodup : r.keys.Nodup
  orders : r.values.map orderOf = List.range r.size

namespace Dense

theorem empty : Dense idOf orderOf {} := ⟨.empty, List.nodup_nil, rfl⟩

theorem modify (h : Dense idOf orderOf r) (id : String) {f : α → α}
    (hid : ∀ v, idOf (f v) = idOf v) (horder : ∀ v, orderOf (f v) = orderOf v) :
    Dense idOf orderOf (r.modify id f) where
  keyed := h.keyed.modify id hid
  nodup := by
    rw [OrderedMap.keys_modify]
    exact h.nodup
  orders := by
    have hsize : (r.modify id f).size = r.size := by
      have hkeys := congrArg List.length (r.keys_modify id f)
      simpa [OrderedMap.keys, OrderedMap.size] using hkeys
    rw [OrderedMap.map_values_modify r id horder, hsize]
    exact h.orders

/-- An entity with a new id gets the next number. -/
theorem insert (h : Dense idOf orderOf r) {id : String} {v : α} (hnew : r.get? id = none)
    (hid : idOf v = id) (horder : orderOf v = r.size) : Dense idOf orderOf (r.insert id v) where
  keyed := h.keyed.insert hid
  nodup := by
    rw [OrderedMap.keys_insert]
    exact nodup_addNew id h.nodup
  orders := by
    have hentries := OrderedMap.entries_insert_of_none v hnew
    have hvalues : (r.insert id v).values = r.values ++ [v] := by
      simp [OrderedMap.values, hentries]
    have hsize : (r.insert id v).size = r.size + 1 := by
      simp [OrderedMap.size, hentries]
    rw [hvalues, hsize, List.map_append, h.orders, List.range_succ, List.map_singleton, horder]

theorem ensure (h : Dense idOf orderOf r) {id : String} {make : Nat → α}
    (hid : ∀ n, idOf (make n) = id) (horder : ∀ n, orderOf (make n) = n) :
    Dense idOf orderOf (Registry.ensure r id make) := by
  unfold Registry.ensure Registry.ensureUnless
  cases hget : r.get? id with
  | none => exact h.insert hget (hid _) (horder _)
  | some v => exact h

theorem get?_of_mem (h : Dense idOf orderOf r) {v : α} (hv : v ∈ r.values) :
    r.get? (idOf v) = some v := by
  obtain ⟨e, he, rfl⟩ := List.mem_map.1 hv
  rw [h.keyed e he]
  exact OrderedMap.get?_of_mem h.nodup he

/-- A dense registry is known from its ids. -/
theorem roster_eq (h : Dense idOf orderOf r) :
    r.values.map (fun v => (idOf v, orderOf v)) = r.keys.zipIdx := by
  have hsize : r.size = r.keys.length := by simp [OrderedMap.size, OrderedMap.keys]
  calc r.values.map (fun v => (idOf v, orderOf v))
      = (r.values.map idOf).zip (r.values.map orderOf) := by
        rw [List.zip_map']
    _ = r.keys.zip (List.range r.keys.length) := by
        rw [h.keyed.map_values, h.orders, hsize]
    _ = r.keys.zipIdx := by
        rw [List.zipIdx_eq_zip_range', List.range_eq_range']

end Dense

/-! ## Enrolment -/

/-- `r'` is `r` after some ids have been mentioned: new ones stand behind the others, in order of
first mention, and the registry stays dense. -/
structure Enrols (idOf : α → String) (orderOf : α → Nat) (r : Registry α) (ids : List String)
    (r' : Registry α) : Prop where
  keys : r'.keys = addAllNew r.keys ids
  dense : Dense idOf orderOf r → Dense idOf orderOf r'

namespace Enrols

variable {ids more : List String}

theorem refl (r : Registry α) : Enrols idOf orderOf r [] r := ⟨rfl, fun h => h⟩

theorem trans (h : Enrols idOf orderOf r ids r') (h' : Enrols idOf orderOf r' more r'') :
    Enrols idOf orderOf r (ids ++ more) r'' where
  keys := by rw [h'.keys, h.keys, addAllNew_append]
  dense := fun hr => h'.dense (h.dense hr)

theorem ensure (r : Registry α) {id : String} {make : Nat → α} (hid : ∀ n, idOf (make n) = id)
    (horder : ∀ n, orderOf (make n) = n) :
    Enrols idOf orderOf r [id] (Registry.ensure r id make) where
  keys := keys_ensure r id make
  dense := fun hr => hr.ensure hid horder

theorem modify (r : Registry α) (id : String) {f : α → α} (hid : ∀ v, idOf (f v) = idOf v)
    (horder : ∀ v, orderOf (f v) = orderOf v) : Enrols idOf orderOf r [] (r.modify id f) where
  keys := r.keys_modify id f
  dense := fun hr => hr.modify id hid horder

/-- A change of an entity behind its mention is no further mention. -/
theorem tail (h : Enrols idOf orderOf r ids r') (h' : Enrols idOf orderOf r' [] r'') :
    Enrols idOf orderOf r ids r'' := by
  have hboth := h.trans h'
  rwa [List.append_nil] at hboth

/-- The ids that a run mentions are those that its steps mention. -/
theorem foldl {σ ι : Type} {view : σ → Registry α} {step : σ → ι → σ} {mentions : ι → List String}
    (h : ∀ st x, Enrols idOf orderOf (view st) (mentions x) (view (step st x))) (xs : List ι)
    (st : σ) : Enrols idOf orderOf (view st) (xs.flatMap mentions) (view (xs.foldl step st)) := by
  induction xs generalizing st with
  | nil => exact refl _
  | cons x xs ih =>
    rw [List.flatMap_cons]
    exact (h st x).trans (ih (step st x))

end Enrols

end Registry

end DiagramText
