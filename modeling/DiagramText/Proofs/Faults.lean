import DiagramText.Fault
import DiagramText.Source.Line
import Mathlib.Data.List.Forall2

/-!
# Faults of a list of lines

Three dialects read their lines one by one into statements and stop at the first fault.  Such a
reading succeeds if and only if every line can be read, and a fault of it is the fault of a line.
Further lines have further statements.  A reader of one line tries several forms in order; what all
of them give, it gives.
-/

namespace DiagramText

/-! ## What a successful reading is known to give -/

section

variable {α β : Type} {P : α → Prop}

theorem forall_of_orElse {x y : Option α} (hx : ∀ a, x = some a → P a)
    (hy : ∀ a, y = some a → P a) : ∀ a, (x <|> y) = some a → P a := by
  cases x with
  | none => exact hy
  | some b => exact hx

theorem forall_of_map {x : Option β} {f : β → α} (h : ∀ b, x = some b → P (f b)) :
    ∀ a, x.map f = some a → P a := by
  intro a ha
  obtain ⟨b, hb, rfl⟩ := Option.map_eq_some_iff.1 ha
  exact h b hb

theorem forall_of_bind {x : Option β} {f : β → Option α}
    (h : ∀ b, x = some b → ∀ a, f b = some a → P a) : ∀ a, (x >>= f) = some a → P a := by
  intro a ha
  obtain ⟨b, hb, ha⟩ := Option.bind_eq_some_iff.1 ha
  exact h b hb a ha

end

/-! ## One computation after the other -/

section

variable {ε α β : Type}

theorem bind_eq_ok_iff {x : Except ε α} {g : α → Except ε β} {b : β} :
    (x >>= g) = .ok b ↔ ∃ a, x = .ok a ∧ g a = .ok b := by
  cases x with
  | error e =>
    constructor
    · intro h; cases h
    · rintro ⟨a, h, -⟩; cases h
  | ok a =>
    constructor
    · intro h; exact ⟨a, rfl, h⟩
    · rintro ⟨a', h, hg⟩; cases h; exact hg

theorem bind_eq_error_iff {x : Except ε α} {g : α → Except ε β} {e : ε} :
    (x >>= g) = .error e ↔ x = .error e ∨ ∃ a, x = .ok a ∧ g a = .error e := by
  cases x with
  | error e' =>
    constructor
    · intro h; cases h; exact .inl rfl
    · rintro (h | ⟨a, h, -⟩)
      · cases h; rfl
      · cases h
  | ok a =>
    constructor
    · intro h; exact .inr ⟨a, rfl, h⟩
    · rintro (h | ⟨a', h, hg⟩)
      · cases h
      · cases h; exact hg

theorem map_eq_ok_iff {x : Except ε α} {g : α → β} {b : β} :
    x.map g = .ok b ↔ ∃ a, x = .ok a ∧ g a = b := by
  cases x with
  | error e =>
    constructor
    · intro h; cases h
    · rintro ⟨a, h, -⟩; cases h
  | ok a =>
    constructor
    · intro h; exact ⟨a, rfl, Except.ok.inj h⟩
    · rintro ⟨a', h, rfl⟩; cases h; rfl

/-- What a computation is known to give, it gives. -/
theorem exists_ok_of_toOption {x : Except ε α} {g : α → β} {b : β}
    (h : x.toOption.map g = some b) : ∃ a, x = .ok a ∧ g a = b := by
  cases x with
  | error e => cases h
  | ok a => exact ⟨a, rfl, Option.some.inj h⟩

variable {f : α → Except ε β}

theorem mapM_eq_ok_iff {xs : List α} {ys : List β} :
    xs.mapM f = .ok ys ↔ List.Forall₂ (fun x y => f x = .ok y) xs ys := by
  induction xs generalizing ys with
  | nil => cases ys <;> simp [pure, Except.pure]
  | cons x xs ih =>
    rw [List.mapM_cons, bind_eq_ok_iff]
    constructor
    · rintro ⟨y, hy, h⟩
      obtain ⟨ys', hys, h⟩ := bind_eq_ok_iff.1 h
      cases h
      exact .cons hy (ih.1 hys)
    · intro h
      cases h with
      | cons hy hys => exact ⟨_, hy, bind_eq_ok_iff.2 ⟨_, ih.2 hys, rfl⟩⟩

theorem exists_of_mapM_eq_error {xs : List α} {e : ε} (h : xs.mapM f = .error e) :
    ∃ x ∈ xs, f x = .error e := by
  induction xs with
  | nil => cases h
  | cons x xs ih =>
    rw [List.mapM_cons, bind_eq_error_iff] at h
    rcases h with h | ⟨y, -, h⟩
    · exact ⟨x, List.mem_cons_self, h⟩
    · rcases bind_eq_error_iff.1 h with h | ⟨ys, -, h⟩
      · obtain ⟨x', hx', he⟩ := ih h
        exact ⟨x', List.mem_cons_of_mem _ hx', he⟩
      · cases h

theorem exists_mapM_eq_ok_iff {xs : List α} :
    (∃ ys, xs.mapM f = .ok ys) ↔ ∀ x ∈ xs, ∃ y, f x = .ok y := by
  constructor
  · rintro ⟨ys, h⟩
    induction mapM_eq_ok_iff.1 h with
    | nil => intro x hx; cases hx
    | cons hy hys ih => exact List.forall_mem_cons.2 ⟨⟨_, hy⟩, ih (mapM_eq_ok_iff.2 hys)⟩
  · intro h
    cases hm : xs.mapM f with
    | ok ys => exact ⟨ys, rfl⟩
    | error e =>
      obtain ⟨x, hx, he⟩ := exists_of_mapM_eq_error hm
      obtain ⟨y, hy⟩ := h x hx
      rw [hy] at he
      cases he

end

/-! ## Lines -/

section

open Source (Line)

variable {σ : Type}

/-- The statements of lines, each with its line, or the first fault among them. -/
abbrev readLines (read : String → Except Fault σ) (ls : List Line) :
    Except Fault (List (Line × σ)) :=
  ls.mapM fun l => do return (l, ← read l.text)

variable {read : String → Except Fault σ} {ls : List Line}

/-- The statements stand in the order of the lines. -/
theorem readLines_eq_ok_iff {xs : List (Line × σ)} :
    readLines read ls = .ok xs ↔
      List.Forall₂ (fun l x => l = x.1 ∧ read l.text = .ok x.2) ls xs := by
  have key : ∀ (l : Line) (x : Line × σ), (do return (l, ← read l.text) : Except Fault _) = .ok x ↔
      l = x.1 ∧ read l.text = .ok x.2 := by
    rintro l ⟨l', s⟩
    rw [bind_eq_ok_iff]
    constructor
    · rintro ⟨s', hs, h⟩
      cases h
      exact ⟨rfl, hs⟩
    · rintro ⟨rfl, hs⟩
      exact ⟨s, hs, rfl⟩
  rw [mapM_eq_ok_iff]
  simp only [key]

theorem exists_of_readLines_eq_error {fault : Fault} (h : readLines read ls = .error fault) :
    ∃ l ∈ ls, read l.text = .error fault := by
  obtain ⟨l, hl, h⟩ := exists_of_mapM_eq_error h
  rcases bind_eq_error_iff.1 h with h | ⟨s, -, h⟩
  · exact ⟨l, hl, h⟩
  · cases h

/-- Lines can be read if and only if each of them can. -/
theorem exists_readLines_eq_ok_iff :
    (∃ xs, readLines read ls = .ok xs) ↔ ∀ l ∈ ls, ∃ s, read l.text = .ok s := by
  rw [exists_mapM_eq_ok_iff]
  refine forall₂_congr fun l _ => ?_
  constructor
  · rintro ⟨x, h⟩
    obtain ⟨s, hs, -⟩ := bind_eq_ok_iff.1 h
    exact ⟨s, hs⟩
  · rintro ⟨s, hs⟩
    exact ⟨(l, s), bind_eq_ok_iff.2 ⟨s, hs, rfl⟩⟩

/-- Every statement of a list of lines is the statement of one of them. -/
theorem mem_of_readLines {xs : List (Line × σ)} (h : readLines read ls = .ok xs) :
    ∀ x ∈ xs, x.1 ∈ ls ∧ read x.1.text = .ok x.2 := by
  induction readLines_eq_ok_iff.1 h with
  | nil => exact List.forall_mem_nil _
  | cons hx hxs ih =>
    obtain ⟨rfl, hread⟩ := hx
    refine List.forall_mem_cons.2 ⟨⟨List.mem_cons_self, hread⟩, ?_⟩
    intro x hmem
    obtain ⟨hl, hs⟩ := ih (readLines_eq_ok_iff.2 hxs) x hmem
    exact ⟨List.mem_cons_of_mem _ hl, hs⟩

/-- The statements of all lines are those of the first lines and those of the others. -/
theorem exists_append_of_readLines {more : List Line} {xs ys : List (Line × σ)}
    (hxs : readLines read ls = .ok xs) (hys : readLines read (ls ++ more) = .ok ys) :
    ∃ rest, readLines read more = .ok rest ∧ ys = xs ++ rest := by
  unfold readLines at hys
  rw [List.mapM_append] at hys
  obtain ⟨first, hfirst, hys⟩ := bind_eq_ok_iff.1 hys
  obtain ⟨rest, hrest, hys⟩ := bind_eq_ok_iff.1 hys
  obtain rfl : xs = first := Except.ok.inj (hxs.symm.trans hfirst)
  cases hys
  exact ⟨rest, hrest, rfl⟩

end

end DiagramText
