import DiagramText.Proofs.Source.Places
import DiagramText.Text.Caseless
import DiagramText.Text.Ending
import DiagramText.Text.Word
import Mathlib.Data.List.TakeWhile

/-!
# Solid texts and trimmed texts

A word has no blanks in it, and a trimmed text has none at its ends.  The recognisers of parts of a
line find such texts again where they were written.

1. Word characters are not blank.
2. Trimming leaves solid and trimmed texts alone.
3. The ends of statements: a trimmed text behind a gap, and no gap at all.
4. What stands behind a keyword, in any letter case or in its own.
5. Cuts: in front of the first character of a class, and the shortest and longest ones that succeed.
6. A number can be told from its numeral.
-/

namespace DiagramText.Text

/-- A property of the characters of a text is decided along the text, not over all characters. -/
instance decidableForallMem (s : List Char) (p : Char → Prop) [DecidablePred p] :
    Decidable (∀ c ∈ s, p c) :=
  List.decidableBAll p s

/-- The same for the character at an end of a text. -/
instance decidableForallMemEnd (o : Option Char) (p : Char → Prop) [DecidablePred p] :
    Decidable (∀ c ∈ o, p c) :=
  Option.decidableForallMem o

/-! ## Word characters -/

/-- The code points of the blank characters. -/
def blankCodes : List Nat :=
  [9, 10, 11, 12, 13, 0x1c, 0x1d, 0x1e, 0x1f, 0x20, 0x85, 0xa0, 0x1680, 0x2000, 0x2001, 0x2002,
   0x2003, 0x2004, 0x2005, 0x2006, 0x2007, 0x2008, 0x2009, 0x200a, 0x2028, 0x2029, 0x202f, 0x205f,
   0x3000]

theorem mem_blankCodes {c : Char} (h : isBlank c = true) : c.toNat ∈ blankCodes := by
  unfold isBlank at h
  simp only [Bool.or_eq_true, Bool.and_eq_true, decide_eq_true_eq, beq_iff_eq] at h
  simp only [blankCodes, List.mem_cons, List.not_mem_nil, or_false]
  omega

/-- A property of all blank characters, checked code point by code point. -/
theorem forall_isBlank {P : Char → Prop} (h : ∀ n ∈ blankCodes, P (Char.ofNat n)) {c : Char}
    (hc : isBlank c = true) : P c := by
  have hcode := h c.toNat (mem_blankCodes hc)
  rwa [Char.ofNat_toNat] at hcode

theorem isBlank_of_isWord {c : Char} (h : isWord c = true) : isBlank c = false := by
  by_contra hblank
  have hword : isWord c = false :=
    forall_isBlank (P := (isWord · = false)) (by decide +kernel) (by simpa using hblank)
  rw [h] at hword
  cases hword

theorem ne_of_isWord {c d : Char} (h : isWord c = true) (hd : isWord d = false) : c ≠ d := by
  rintro rfl
  rw [h] at hd
  cases hd

/-! ## Trimming -/

theorem trimStart_of_head {s : List Char} (h : ∀ c ∈ s.head?, isBlank c = false) :
    trimStart s = s := by
  cases s with
  | nil => rfl
  | cons c r =>
    have hc : isBlank c = false := h c rfl
    exact List.dropWhile_cons_of_neg (by simp [hc])

theorem trimEnd_of_solid {s : List Char} (h : ∀ c ∈ s, isBlank c = false) : trimEnd s = s := by
  induction s with
  | nil => rfl
  | cons c r ih =>
    obtain ⟨hc, hr⟩ := List.forall_mem_cons.1 h
    rw [trimEnd_cons hc, ih hr]

theorem trim_of_solid {s : List Char} (h : ∀ c ∈ s, isBlank c = false) : trim s = s := by
  unfold trim
  rw [trimStart_of_head fun c hc => h c (List.mem_of_mem_head? hc), trimEnd_of_solid h]

/-- A trimmed text has no blank in front. -/
theorem head_of_trim {s : List Char} (h : trim s = s) : ∀ c ∈ s.head?, isBlank c = false := by
  have hlength : s.length ≤ (trimStart s).length := by
    calc s.length = (trim s).length := by rw [h]
      _ ≤ (trimStart s).length := (trimEnd_isPrefix _).length_le
  have hstart : trimStart s = s := (trimStart_isSuffix s).eq_of_length_le hlength
  intro c hc
  cases s with
  | nil => cases hc
  | cons d r =>
    cases hc
    by_contra hblank
    have hdrop : trimStart (c :: r) = trimStart r :=
      List.dropWhile_cons_of_pos (by simpa using hblank)
    have hle := (trimStart_isSuffix r).length_le
    rw [← hdrop, hstart, List.length_cons] at hle
    omega

theorem trimEnd_append_of_ne_nil (s : List Char) {t : List Char} (hne : t ≠ [])
    (ht : trimEnd t = t) : trimEnd (s ++ t) = s ++ t := by
  induction s with
  | nil => exact ht
  | cons c s ih =>
    obtain ⟨d, r, hcons⟩ := List.exists_cons_of_ne_nil (List.append_ne_nil_of_right_ne_nil s hne)
    rw [List.cons_append, trimEnd, ih, hcons]

theorem trimEnd_append {s t : List Char} (hs : trimEnd s = s) (ht : trimEnd t = t) :
    trimEnd (s ++ t) = s ++ t := by
  by_cases hne : t = []
  · rw [hne, List.append_nil, hs]
  · exact trimEnd_append_of_ne_nil s hne ht

theorem trimEnd_flatMap {α : Type} {f : α → List Char} (h : ∀ a, trimEnd (f a) = f a)
    (as : List α) : trimEnd (as.flatMap f) = as.flatMap f := by
  induction as with
  | nil => rfl
  | cons a as ih =>
    rw [List.flatMap_cons]
    exact trimEnd_append (h a) ih

/-- Trimming cuts off the blank in front. -/
theorem trim_space {c : Char} {r : List Char} (hc : isBlank c = false)
    (hr : trimEnd (' ' :: c :: r) = ' ' :: c :: r) : trim (' ' :: c :: r) = c :: r := by
  have hspace : ∀ d ∈ [' '], isBlank d = true := by decide
  rw [← List.singleton_append, trim_append hspace hc, trimEnd_tail (trimEnd_tail hr)]

theorem trim_trim (s : List Char) : trim (trim s) = trim s := by
  have hhead : ∀ c ∈ (trim s).head?, isBlank c = false := by
    intro c hc
    obtain ⟨t, ht⟩ := trimEnd_isPrefix (trimStart s)
    have hstart : (trimStart s).head? = some c := by
      rw [← ht, List.head?_append]
      exact Option.or_eq_some_iff.2 (.inl hc)
    have hsolid := List.head?_dropWhile_not isBlank s
    unfold trimStart at hstart
    rw [hstart] at hsolid
    exact hsolid
  unfold trim at hhead ⊢
  rw [trimStart_of_head hhead, trimEnd_trimEnd]

theorem trimEnd_of_blank {s : List Char} (h : ∀ c ∈ s, isBlank c = true) : trimEnd s = [] := by
  induction s with
  | nil => rfl
  | cons c s ih =>
    obtain ⟨hc, hs⟩ := List.forall_mem_cons.1 h
    simp [trimEnd, ih hs, hc]

theorem trimEnd_append_of_blank (s : List Char) {b : List Char} (hb : ∀ c ∈ b, isBlank c = true) :
    trimEnd (s ++ b) = trimEnd s := by
  induction s with
  | nil => exact trimEnd_of_blank hb
  | cons c s ih => rw [List.cons_append, trimEnd, ih, trimEnd]

/-- A text that ends in no blank has more than blanks behind each of its blanks. -/
theorem exists_solid_of_trim {s x y : List Char} {c : Char} (htrim : trim s = s)
    (hs : s = x ++ c :: y) (hc : isBlank c = true) : ∃ d ∈ y, isBlank d = false := by
  by_contra hblank
  have hall : ∀ d ∈ c :: y, isBlank d = true := by
    refine List.forall_mem_cons.2 ⟨hc, fun d hd => ?_⟩
    by_contra hsolid
    exact hblank ⟨d, hd, by simpa using hsolid⟩
  have hend : trimEnd (c :: y) = c :: y := by
    refine trimEnd_of_suffix ?_ (hs ▸ List.suffix_append x (c :: y))
    have hstart := trimStart_of_head (head_of_trim htrim)
    unfold trim at htrim
    rwa [hstart] at htrim
  rw [trimEnd_of_blank hall] at hend
  cases hend

/-- Behind the blanks at the front stands a character that is none. -/
theorem exists_trimStart_append {y : List Char} (hy : ∃ d ∈ y, isBlank d = false) (u : List Char) :
    ∃ d r, trimStart (y ++ u) = d :: r ∧ d ∈ y ∧ isBlank d = false := by
  induction y with
  | nil =>
    obtain ⟨d, hd, -⟩ := hy
    cases hd
  | cons c y ih =>
    by_cases hc : isBlank c = true
    · have hrest : ∃ d ∈ y, isBlank d = false := by
        obtain ⟨d, hd, hsolid⟩ := hy
        rcases List.mem_cons.1 hd with rfl | hd
        · rw [hc] at hsolid
          cases hsolid
        · exact ⟨d, hd, hsolid⟩
      obtain ⟨d, r, hstart, hd, hsolid⟩ := ih hrest
      refine ⟨d, r, ?_, List.mem_cons_of_mem c hd, hsolid⟩
      rw [← hstart]
      exact List.dropWhile_cons_of_pos hc
    · have hsolid : isBlank c = false := by simpa using hc
      exact ⟨c, y ++ u, List.dropWhile_cons_of_neg hc, List.mem_cons_self, hsolid⟩

/-! ## Ends of statements -/

theorem atEnd_iff {s : List Char} : atEnd s = true ↔ s = [] ∨ s = ['\n'] := by
  match s with
  | [] => simp [atEnd]
  | [c] => simp [atEnd]
  | _ :: _ :: _ => simp [atEnd]

theorem atEnd_of_isWord {s : List Char} {d : Char} (hd : d ∈ s) (hword : isWord d = true) :
    atEnd s = false := by
  by_contra hend
  rcases atEnd_iff.1 (by simpa using hend) with rfl | rfl
  · cases hd
  · exact ne_of_isWord hword (by decide) (List.mem_singleton.1 hd)

theorem lineRest?_of_notMem {s : List Char} (h : '\n' ∉ s) : lineRest? s = some s := by
  have hall : ∀ c ∈ s, (c != '\n') = true := by
    intro c hc
    simpa using fun he : c = '\n' => h (he ▸ hc)
  unfold lineRest?
  rw [List.dropWhile_eq_nil_iff.2 hall, List.takeWhile_eq_self_iff.2 hall]
  rfl

theorem notMem_of_lineRest? {s t : List Char} (h : lineRest? s = some t) : '\n' ∉ t := by
  unfold lineRest? at h
  split at h
  · cases h
    intro hmem
    simpa using List.mem_takeWhile_imp hmem
  · cases h

theorem eq_of_lineRest? {s t : List Char} (h : lineRest? s = some t) : s = t ∨ s = t ++ ['\n'] := by
  have hsplit : s.takeWhile (· != '\n') ++ s.dropWhile (· != '\n') = s :=
    List.takeWhile_append_dropWhile
  unfold lineRest? at h
  split at h
  · rename_i hend
    cases h
    rcases atEnd_iff.1 hend with hnil | hfeed
    · rw [hnil, List.append_nil] at hsplit
      exact .inl hsplit.symm
    · exact .inr (by rw [← hfeed, hsplit])
  · cases h

/-- Behind a solid text, no gap follows at once. -/
theorem gap?_of_solid {c : Char} (hc : isBlank c = false) (r : List Char) :
    gap? (c :: r) = none := if_neg (by simp [hc])

theorem gap?_space {c : Char} (hc : isBlank c = false) (r : List Char) :
    gap? (' ' :: c :: r) = some (c :: r) :=
  congrArg some (trimStart_of_head (by simpa using hc))

theorem exists_of_gap? {s u : List Char} (h : gap? s = some u) :
    ∃ c r, s = c :: r ∧ isBlank c = true ∧ u = trimStart r := by
  cases s with
  | nil => cases h
  | cons c r =>
    by_cases hc : isBlank c = true
    · exact ⟨c, r, rfl, hc, by simpa [gap?, hc] using h.symm⟩
    · simp [gap?, hc] at h

theorem gap?_suffix {s u : List Char} (h : gap? s = some u) : u <:+ s := by
  obtain ⟨c, r, rfl, -, rfl⟩ := exists_of_gap? h
  exact (trimStart_isSuffix r).trans (List.suffix_cons c r)

theorem blanks₁_of_solid {α : Type} {c : Char} (hc : isBlank c = false) (r : List Char)
    (k : List Char → Option α) : blanks₁ (c :: r) k = none := if_neg (by simp [hc])

theorem blanks₁_space {α : Type} {c : Char} (hc : isBlank c = false) (r : List Char)
    (k : List Char → Option α) : blanks₁ (' ' :: c :: r) k = k (c :: r) := by
  show longest isBlank (c :: r) (fun _ u => k u) = k (c :: r)
  unfold longest
  rw [if_neg (by simp [hc])]

theorem textEnd?_of_solid {c : Char} (hc : isBlank c = false) (r : List Char) :
    textEnd? (c :: r) = none := by
  have hblanks : blanks₁ (c :: r) lineRest? = none := blanks₁_of_solid hc r _
  have hend : atEnd (c :: r) = false := by
    cases r with
    | nil => simpa [atEnd] using fun he : c = '\n' => absurd hc (by rw [he]; decide)
    | cons d r => rfl
  unfold textEnd?
  rw [hblanks, hend]
  rfl

/-- A trimmed text of one line behind a gap is found as it is. -/
theorem textEnd?_gap {s : List Char} (hs : trim s = s) (hline : '\n' ∉ s) :
    textEnd? (' ' :: s) = some s := by
  have hblanks : blanks₁ (' ' :: s) lineRest? = some s := by
    cases s with
    | nil => rfl
    | cons c r =>
      rw [blanks₁_space (head_of_trim hs c rfl)]
      exact lineRest?_of_notMem hline
  unfold textEnd?
  rw [hblanks]
  rfl

/-! ## Keywords -/

theorem caseless?_eq_some_iff {w s t u : List Char} :
    caseless? w s = some (t, u) ↔ s = t ++ u ∧ t.map fold = w.map fold := by
  induction w generalizing s t with
  | nil =>
    constructor
    · intro h
      cases h
      exact ⟨rfl, rfl⟩
    · rintro ⟨rfl, h⟩
      rw [List.map_eq_nil_iff.1 h]
      rfl
  | cons a w ih =>
    cases s with
    | nil =>
      constructor
      · intro h
        cases h
      · rintro ⟨hs, h⟩
        rw [(List.append_eq_nil_iff.1 hs.symm).1] at h
        cases h
    | cons c s =>
      unfold caseless?
      constructor
      · intro h
        split at h
        · rename_i hac
          obtain ⟨⟨t', u'⟩, htail, heq⟩ := Option.map_eq_some_iff.1 h
          cases heq
          obtain ⟨rfl, hmap⟩ := ih.1 htail
          exact ⟨rfl, by rw [List.map_cons, List.map_cons, hmap, hac]⟩
        · cases h
      · rintro ⟨hs, h⟩
        cases t with
        | nil => cases h
        | cons d t =>
          obtain ⟨rfl, htail⟩ := List.cons.inj hs
          obtain ⟨hfold, hmap⟩ := List.cons.inj h
          rw [if_pos hfold.symm, ih.2 ⟨htail, hmap⟩]
          rfl

/-- A text that starts with a word and a character `c` also starts otherwise, without `c`: then what
is left starts within the word or with `c`. -/
theorem head_of_append_eq {w r t u : List Char} {c : Char} (h : w ++ c :: r = t ++ u)
    (hc : c ∉ t) : ∃ d v, u = d :: v ∧ (d ∈ w ∨ d = c) := by
  rcases List.append_eq_append_iff.1 h with ⟨a, rfl, ha⟩ | ⟨a, rfl, rfl⟩
  · cases a with
    | nil => exact ⟨c, r, ha.symm, .inr rfl⟩
    | cons d a =>
      cases ha
      exact absurd (List.mem_append_right _ List.mem_cons_self) hc
  · cases a with
    | nil => exact ⟨c, r, rfl, .inr rfl⟩
    | cons d a => exact ⟨d, _, rfl, .inl (List.mem_append_right _ List.mem_cons_self)⟩

/-- An opener that does not hold the next character stands in front of the text only if it is a
prefix of the opener there. -/
theorem prefix_of_literal? {w opener r u : List Char} {c : Char} (hc : c ∉ w)
    (h : literal? w (opener ++ c :: r) = some u) : w <+: opener := by
  rcases List.append_eq_append_iff.1 (literal?_eq_some_iff.1 h) with ⟨a, rfl, ha⟩ | ⟨a, rfl, -⟩
  · cases a with
    | nil => simp
    | cons d a =>
      cases ha
      exact absurd (List.mem_append_right _ List.mem_cons_self) hc
  · exact List.prefix_append w a

/-- A form that starts with a keyword and a gap is not read, if it is not read behind any gap. -/
theorem keyword_eq_none {α : Type} {w s : List Char} {k : List Char → Option α}
    (h : ∀ u v, s = w ++ u → gap? u = some v → k v = none) :
    (do k (← gap? (← literal? w s))) = none := by
  cases hu : literal? w s with
  | none => rfl
  | some u =>
    cases hv : gap? u with
    | none => simp [hv]
    | some v => simpa [hv] using h u v (literal?_eq_some_iff.1 hu) hv

/-! ## Cuts -/

theorem splitWhere_append_cons {p : Char → Bool} {s : List Char} {d : Char}
    (h : ∀ c ∈ s, p c = false) (hd : p d = true) (r : List Char) :
    splitWhere p (s ++ d :: r) = s :: splitWhere p r := by
  induction s with
  | nil => exact if_pos hd
  | cons c s ih =>
    obtain ⟨hc, hs⟩ := List.forall_mem_cons.1 h
    rw [List.cons_append, splitWhere, if_neg (by simp [hc]), ih hs]

section

variable {p : Char → Bool} {s : List Char} {d : Char}

theorem takeWhile_append_cons (h : ∀ c ∈ s, p c = true) (hd : p d = false) (r : List Char) :
    (s ++ d :: r).takeWhile p = s := by
  rw [List.takeWhile_append_of_pos h, List.takeWhile_cons_of_neg (by simp [hd]), List.append_nil]

theorem dropWhile_append_cons (h : ∀ c ∈ s, p c = true) (hd : p d = false) (r : List Char) :
    (s ++ d :: r).dropWhile p = d :: r := by
  rw [List.dropWhile_append_of_pos h, List.dropWhile_cons_of_neg (by simp [hd])]

/-- Behind the longest run of a class stands all that follows some character of another class. -/
theorem suffix_dropWhile_append (hd : p d = false) (s t : List Char) :
    d :: t <:+ (s ++ d :: t).dropWhile p := by
  induction s with
  | nil => rw [List.nil_append, List.dropWhile_cons_of_neg (by simp [hd])]
  | cons e s ih =>
    rw [List.cons_append, List.dropWhile_cons]
    split
    · exact ih
    · exact List.suffix_append (e :: s) (d :: t)

/-- The longest run of a class at the front is the same, however a text is cut. -/
theorem eq_of_append_head {t u v : List Char} (hs : ∀ c ∈ s, p c = true) (ht : ∀ c ∈ t, p c = true)
    (hu : ∀ c ∈ u.head?, p c = false) (hv : ∀ c ∈ v.head?, p c = false) (h : s ++ u = t ++ v) :
    s = t := by
  have hrun {s u : List Char} (hs : ∀ c ∈ s, p c = true) (hu : ∀ c ∈ u.head?, p c = false) :
      (s ++ u).takeWhile p = s := by
    cases u with
    | nil => rw [List.append_nil, List.takeWhile_eq_self_iff.2 hs]
    | cons d r => exact takeWhile_append_cons hs (hu d rfl) r
  rw [← hrun hs hu, ← hrun ht hv, h]

end

/-- A solid text that stands in front of a gap ends at the first blank. -/
theorem eq_of_gap? {s r t u v : List Char} (hs : ∀ c ∈ s, isBlank c = false)
    (ht : ∀ c ∈ t, isBlank c = false) (h : s ++ ' ' :: r = t ++ u) (hgap : gap? u = some v) :
    s = t ∧ v = trimStart r := by
  obtain ⟨c, w, rfl, hc, rfl⟩ := exists_of_gap? hgap
  have hspace : isBlank ' ' = true := by decide
  have hrun : s = t := eq_of_append_head (p := (!isBlank ·)) (fun c hc => by simp [hs c hc])
    (fun c hc => by simp [ht c hc]) (by simp [hspace]) (by simp [hc]) h
  rw [hrun] at h
  cases List.append_cancel_left h
  exact ⟨hrun, rfl⟩

/-- The shortest cut is behind `t`, if no cut inside `t` succeeds. -/
theorem shortest_append {α : Type} {p : Char → Bool} {t u : List Char}
    {k : List Char → List Char → Option α} {a : α} (ht : ∀ c ∈ t, p c = true)
    (hinside : ∀ x c y, t = x ++ c :: y → k x (c :: y ++ u) = none) (hk : k t u = some a) :
    shortest p (t ++ u) k = some a := by
  induction t generalizing k with
  | nil =>
    cases u with
    | nil => exact hk
    | cons c u =>
      show (k [] (c :: u) <|> _) = some a
      rw [hk]
      rfl
  | cons c t ih =>
    obtain ⟨hc, ht⟩ := List.forall_mem_cons.1 ht
    show (k [] (c :: (t ++ u)) <|> if p c then _ else none) = some a
    rw [show k [] (c :: (t ++ u)) = none from hinside [] c t rfl, if_pos hc]
    exact ih ht (fun x d y hy => hinside (c :: x) d y (by rw [hy]; rfl)) hk

/-- If the cut behind `t` succeeds, the shortest cut is behind `t` or inside it. -/
theorem exists_shortest_of_cut {α : Type} {p : Char → Bool} {t u : List Char}
    {k : List Char → List Char → Option α} (ht : ∀ c ∈ t, p c = true) (hk : k t u ≠ none) :
    ∃ x y a, t = x ++ y ∧ k x (y ++ u) = some a ∧ shortest p (t ++ u) k = some a := by
  induction t generalizing k with
  | nil =>
    obtain ⟨a, ha⟩ := Option.ne_none_iff_exists'.1 hk
    exact ⟨[], [], a, rfl, ha, shortest_append ht (by simp) ha⟩
  | cons c t ih =>
    obtain ⟨hc, ht⟩ := List.forall_mem_cons.1 ht
    rw [List.cons_append, shortest]
    cases hfirst : k [] (c :: (t ++ u)) with
    | some a => exact ⟨[], c :: t, a, rfl, hfirst, rfl⟩
    | none =>
      obtain ⟨x, y, a, rfl, hcut, hrest⟩ := ih (k := fun t u => k (c :: t) u) ht hk
      exact ⟨c :: x, y, a, rfl, hcut, by rw [if_pos hc, hrest]; rfl⟩

/-- A shortest cut behind a non-empty run is behind characters of the class. -/
theorem exists_run_of_shortest₁ {α : Type} {p : Char → Bool} {s : List Char}
    {k : List Char → List Char → Option α} {a : α} (h : shortest₁ p s k = some a) :
    ∃ t u, s = t ++ u ∧ (∀ c ∈ t, p c = true) ∧ k t u = some a := by
  cases s with
  | nil => cases h
  | cons c r =>
    rw [shortest₁] at h
    split at h
    · rename_i hc
      obtain ⟨t, u, rfl, ht, hk⟩ := exists_cut_of_shortest h
      exact ⟨c :: t, u, rfl, List.forall_mem_cons.2 ⟨hc, ht⟩, hk⟩
    · cases h

/-- A longest cut behind a non-empty run is behind characters of the class. -/
theorem exists_run_of_longest₁ {α : Type} {p : Char → Bool} {s : List Char}
    {k : List Char → List Char → Option α} {a : α} (h : longest₁ p s k = some a) :
    ∃ t u, s = t ++ u ∧ t ≠ [] ∧ (∀ c ∈ t, p c = true) ∧ k t u = some a := by
  cases s with
  | nil => cases h
  | cons c r =>
    rw [longest₁] at h
    split at h
    · rename_i hc
      obtain ⟨t, u, rfl, ht, hk⟩ := exists_cut_of_longest h
      exact ⟨c :: t, u, rfl, List.cons_ne_nil c t, List.forall_mem_cons.2 ⟨hc, ht⟩, hk⟩
    · cases h

/-- There is no shortest cut, if every cut behind characters of the class fails. -/
theorem shortest_eq_none {α : Type} {p : Char → Bool} {s : List Char}
    {k : List Char → List Char → Option α}
    (h : ∀ t u, s = t ++ u → (∀ c ∈ t, p c = true) → k t u = none) : shortest p s k = none := by
  by_contra hne
  obtain ⟨a, ha⟩ := Option.ne_none_iff_exists'.1 hne
  obtain ⟨t, u, hs, ht, hk⟩ := exists_cut_of_shortest ha
  rw [h t u hs ht] at hk
  cases hk

theorem shortest₁_eq_none {α : Type} {p : Char → Bool} {s : List Char}
    {k : List Char → List Char → Option α}
    (h : ∀ t u, s = t ++ u → (∀ c ∈ t, p c = true) → k t u = none) : shortest₁ p s k = none := by
  by_contra hne
  obtain ⟨a, ha⟩ := Option.ne_none_iff_exists'.1 hne
  obtain ⟨t, u, hs, ht, hk⟩ := exists_run_of_shortest₁ ha
  rw [h t u hs ht] at hk
  cases hk

/-! ## Numerals -/

theorem toString_nat_injective : Function.Injective (toString : Nat → String) := by
  intro m n h
  have hdigits := congrArg (fun s : String => Nat.ofDigitChars 10 s.toList 0) h
  simpa [Nat.toString_eq_ofList_toDigits] using hdigits

end DiagramText.Text
