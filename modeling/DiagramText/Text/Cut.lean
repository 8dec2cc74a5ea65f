import DiagramText.Text.Blank

/-!
# Cuts

A recogniser of one line of text has to decide where one part ends and the next begins.  The
functions here try the possible places in a fixed order and keep the first one on which the
continuation `k` succeeds; `k` gets the part in front of the cut and the text behind it.

1. `longest` and `longest₁` try the longest run of characters of a class first.
2. `shortest` and `shortest₁` try the shortest one first.
3. `blanks` and `blanks₁` are the longest cuts at blanks.
4. `literal?` strips a fixed text, `atEnd` and `lineRest?` recognise the end of a line, where one
   final line feed is allowed and ignored.
-/

namespace DiagramText.Text

variable {α : Type}

/-! ## Runs of a class -/

/-- The first successful cut behind a run of `p`-characters, longest run first. -/
def longest (p : Char → Bool) : List Char → (List Char → List Char → Option α) → Option α
  | [], k => k [] []
  | c :: r, k =>
    if p c then longest p r (fun t u => k (c :: t) u) <|> k [] (c :: r) else k [] (c :: r)

/-- The first successful cut behind a non-empty run of `p`-characters, longest run first. -/
def longest₁ (p : Char → Bool) : List Char → (List Char → List Char → Option α) → Option α
  | [], _ => none
  | c :: r, k => if p c then longest p r (fun t u => k (c :: t) u) else none

/-- The first successful cut behind a run of `p`-characters, shortest run first. -/
def shortest (p : Char → Bool) : List Char → (List Char → List Char → Option α) → Option α
  | [], k => k [] []
  | c :: r, k =>
    k [] (c :: r) <|> if p c then shortest p r (fun t u => k (c :: t) u) else none

/-- The first successful cut behind a non-empty run of `p`-characters, shortest run first. -/
def shortest₁ (p : Char → Bool) : List Char → (List Char → List Char → Option α) → Option α
  | [], _ => none
  | c :: r, k => if p c then shortest p r (fun t u => k (c :: t) u) else none

/-- What a successful `longest` returns is the answer of `k` at some cut behind `p`-characters. -/
theorem exists_cut_of_longest {p : Char → Bool} {s : List Char}
    {k : List Char → List Char → Option α} {a : α} (h : longest p s k = some a) :
    ∃ t u, s = t ++ u ∧ (∀ c ∈ t, p c) ∧ k t u = some a := by
  induction s generalizing k with
  | nil => exact ⟨[], [], rfl, by simp, h⟩
  | cons c r ih =>
    rw [longest] at h
    split at h
    · rename_i hc
      cases hl : longest p r (fun t u => k (c :: t) u) with
      | none =>
        rw [hl] at h
        exact ⟨[], c :: r, rfl, by simp, by simpa using h⟩
      | some b =>
        rw [hl] at h
        obtain rfl : b = a := by simpa using h
        obtain ⟨t, u, rfl, ht, hk⟩ := ih hl
        exact ⟨c :: t, u, rfl, by simpa [hc] using ht, hk⟩
    · exact ⟨[], c :: r, rfl, by simp, h⟩

/-- What a successful `shortest` returns is the answer of `k` at some cut behind `p`-characters. -/
theorem exists_cut_of_shortest {p : Char → Bool} {s : List Char}
    {k : List Char → List Char → Option α} {a : α} (h : shortest p s k = some a) :
    ∃ t u, s = t ++ u ∧ (∀ c ∈ t, p c) ∧ k t u = some a := by
  induction s generalizing k with
  | nil => exact ⟨[], [], rfl, by simp, h⟩
  | cons c r ih =>
    rw [shortest] at h
    cases hk : k [] (c :: r) with
    | some b =>
      rw [hk] at h
      obtain rfl : b = a := by simpa using h
      exact ⟨[], c :: r, rfl, by simp, hk⟩
    | none =>
      rw [hk] at h
      by_cases hc : p c
      · obtain ⟨t, u, rfl, ht, hk'⟩ := ih (by simpa [hc] using h)
        exact ⟨c :: t, u, rfl, by simpa [hc] using ht, hk'⟩
      · simp [hc] at h

theorem exists_cut_of_longest₁ {p : Char → Bool} {s : List Char}
    {k : List Char → List Char → Option α} {a : α} (h : longest₁ p s k = some a) :
    ∃ t u, s = t ++ u ∧ k t u = some a := by
  cases s with
  | nil => simp [longest₁] at h
  | cons c r =>
    by_cases hc : p c
    · obtain ⟨t, u, rfl, -, hk⟩ := exists_cut_of_longest (by simpa [longest₁, hc] using h)
      exact ⟨c :: t, u, rfl, hk⟩
    · simp [longest₁, hc] at h

theorem exists_cut_of_shortest₁ {p : Char → Bool} {s : List Char}
    {k : List Char → List Char → Option α} {a : α} (h : shortest₁ p s k = some a) :
    ∃ t u, s = t ++ u ∧ k t u = some a := by
  cases s with
  | nil => simp [shortest₁] at h
  | cons c r =>
    by_cases hc : p c
    · obtain ⟨t, u, rfl, -, hk⟩ := exists_cut_of_shortest (by simpa [shortest₁, hc] using h)
      exact ⟨c :: t, u, rfl, hk⟩
    · simp [shortest₁, hc] at h

/-- Cuts behind a run of blanks, longest first. -/
abbrev blanks (s : List Char) (k : List Char → Option α) : Option α :=
  longest isBlank s fun _ u => k u

/-- Cuts behind a non-empty run of blanks, longest first. -/
abbrev blanks₁ (s : List Char) (k : List Char → Option α) : Option α :=
  longest₁ isBlank s fun _ u => k u

/-! ## Fixed texts and ends -/

/-- The text behind `w`, if `s` starts with `w`. -/
def literal? : (w s : List Char) → Option (List Char)
  | [], s => some s
  | _ :: _, [] => none
  | a :: w, c :: s => if a = c then literal? w s else none

theorem literal?_eq_some_iff {w s u : List Char} : literal? w s = some u ↔ s = w ++ u := by
  induction w generalizing s with
  | nil => simp [literal?]
  | cons a w ih =>
    cases s with
    | nil => simp [literal?]
    | cons c s =>
      by_cases h : a = c
      · subst h; simp [literal?, ih]
      · simp [literal?, h, Ne.symm h]

/-- The end of a line: nothing, or one line feed. -/
def atEnd : List Char → Bool
  | [] => true
  | [c] => c == '\n'
  | _ => false

/-- The rest of a line, which holds no line feed except for an ignored one at the end. -/
def lineRest? (s : List Char) : Option (List Char) :=
  if atEnd (s.dropWhile (· != '\n')) then some (s.takeWhile (· != '\n')) else none

/-- The rest of a line, if it is not empty. -/
def lineRest₁? (s : List Char) : Option (List Char) :=
  match lineRest? s with
  | some (c :: r) => some (c :: r)
  | _ => none

end DiagramText.Text
