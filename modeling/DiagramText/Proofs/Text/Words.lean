import DiagramText.Proofs.Text.Solid
import Mathlib.Data.List.Forall2

/-!
# Pieces and words

The pieces of a text have no separator in them, and its parts are the pieces that are not empty.
The words of a text are its parts between blanks.

1. Runs of a class in front of other characters, and gaps.
2. Trimming around a character that is no blank.
3. The pieces between separators, and the parts of a text.
4. The words of a text, and words that are joined by single blanks.
5. What changes the words of a text keeps the blanks between them.
-/

namespace DiagramText.Text

/-! ## Runs and gaps -/

section

variable {p : Char → Bool} {s t : List Char}

theorem takeWhile_append_of_head (hs : ∀ c ∈ s, p c = true) (ht : ∀ c ∈ t.head?, p c = false) :
    (s ++ t).takeWhile p = s := by
  rw [List.takeWhile_append_of_pos hs]
  cases t with
  | nil => exact List.append_nil s
  | cons c t => simp [ht c rfl]

theorem dropWhile_append_of_head (hs : ∀ c ∈ s, p c = true) (ht : ∀ c ∈ t.head?, p c = false) :
    (s ++ t).dropWhile p = t := by
  rw [List.dropWhile_append_of_pos hs]
  cases t with
  | nil => rfl
  | cons c t => simp [ht c rfl]

end

theorem bne_of_notMem {s : List Char} {d : Char} (h : d ∉ s) : ∀ c ∈ s, (c != d) = true := by
  intro c hc
  simpa using fun he : c = d => h (he ▸ hc)

theorem dropWhile_of_notMem {s : List Char} {d : Char} (h : d ∉ s) : s.dropWhile (· != d) = [] :=
  List.dropWhile_eq_nil_iff.2 (bne_of_notMem h)

/-- A text of blanks that is not empty. -/
def IsGap (g : List Char) : Prop := g ≠ [] ∧ ∀ c ∈ g, isBlank c = true

instance (g : List Char) : Decidable (IsGap g) := inferInstanceAs (Decidable (_ ∧ _))

/-- A gap ends in front of the first character that is no blank. -/
theorem gap?_append {g s : List Char} (hg : IsGap g) (hs : ∀ c ∈ s.head?, isBlank c = false) :
    gap? (g ++ s) = some s := by
  obtain ⟨hne, hblank⟩ := hg
  obtain ⟨b, g, rfl⟩ := List.exists_cons_of_ne_nil hne
  obtain ⟨hb, hg⟩ := List.forall_mem_cons.1 hblank
  rw [List.cons_append, gap?, if_pos hb, trimStart, dropWhile_append_of_head hg hs]

/-- The longest cut is behind all of a run, if it succeeds there. -/
theorem longest_append {α : Type} {p : Char → Bool} {s t : List Char}
    {k : List Char → List Char → Option α} {a : α} (hs : ∀ c ∈ s, p c = true)
    (ht : ∀ c ∈ t.head?, p c = false) (hk : k s t = some a) : longest p (s ++ t) k = some a := by
  induction s generalizing k with
  | nil =>
    cases t with
    | nil => exact hk
    | cons c t => simpa [longest, ht c rfl] using hk
  | cons c s ih =>
    obtain ⟨hc, hs⟩ := List.forall_mem_cons.1 hs
    rw [List.cons_append, longest, if_pos hc, ih (k := fun t u => k (c :: t) u) hs hk]
    rfl

theorem blanks₁_append {α : Type} {g s : List Char} {k : List Char → Option α} {a : α}
    (hg : IsGap g) (hs : ∀ c ∈ s.head?, isBlank c = false) (hk : k s = some a) :
    blanks₁ (g ++ s) k = some a := by
  obtain ⟨hne, hblank⟩ := hg
  obtain ⟨b, g, rfl⟩ := List.exists_cons_of_ne_nil hne
  obtain ⟨hb, hg⟩ := List.forall_mem_cons.1 hblank
  rw [List.cons_append, blanks₁, longest₁, if_pos hb]
  exact longest_append hg hs hk

/-- The longest cut is one character short of all, if it fails behind the last one. -/
theorem longest_concat {α : Type} {p : Char → Bool} {s : List Char} {c : Char}
    {k : List Char → List Char → Option α} {a : α} (hs : ∀ d ∈ s, p d = true) (hc : p c = true)
    (hend : k (s ++ [c]) [] = none) (hk : k s [c] = some a) : longest p (s ++ [c]) k = some a := by
  induction s generalizing k with
  | nil =>
    have hend : k [c] [] = none := hend
    simp [longest, hc, hend, hk]
  | cons d s ih =>
    obtain ⟨hd, hs⟩ := List.forall_mem_cons.1 hs
    rw [List.cons_append, longest, if_pos hd, ih (k := fun t u => k (d :: t) u) hs hend hk]
    rfl

theorem trim_of_blank {s : List Char} (h : ∀ c ∈ s, isBlank c = true) : trim s = [] := by
  have hstart : trimStart s = [] := List.dropWhile_eq_nil_iff.2 h
  rw [trim, hstart]
  rfl

/-- Several blanks at the end of a line are a gap and a blank text behind it. -/
theorem exists_restEnd?_of_blank {s : List Char} (hblank : ∀ c ∈ s, isBlank c = true)
    (hline : '\n' ∉ s) (hlength : s.length ≠ 1) :
    ∃ r, restEnd? s = some r ∧ trim (r.getD []) = [] := by
  obtain rfl | ⟨t, e, rfl⟩ := s.eq_nil_or_concat'
  · exact ⟨none, rfl, rfl⟩
  · obtain ⟨ht, he⟩ := List.forall_mem_append.1 hblank
    cases t with
    | nil => exact absurd rfl hlength
    | cons c t =>
      obtain ⟨hc, ht⟩ := List.forall_mem_cons.1 ht
      have hfeed : '\n' ∉ [e] := fun hmem => hline (List.mem_append_right _ hmem)
      have hrest : lineRest₁? [e] = some [e] := by
        rw [lineRest₁?, lineRest?_of_notMem hfeed]
      have hfound : blanks₁ ((c :: t) ++ [e]) lineRest₁? = some [e] := by
        rw [List.cons_append, blanks₁, longest₁, if_pos hc]
        exact longest_concat ht (he e (List.mem_singleton_self e)) rfl hrest
      exact ⟨some [e], by rw [restEnd?, hfound]; rfl, trim_of_blank he⟩

/-- The text behind a gap is all that follows in the line, if the line has an end there. -/
theorem exists_restEnd? {s : List Char} (hhead : ∀ c ∈ s.head?, isBlank c = true)
    (hline : '\n' ∉ trimStart s) (hblank : trimStart s = [] → '\n' ∉ s ∧ s.length ≠ 1) :
    ∃ r, restEnd? s = some r ∧ trim (r.getD []) = trim s := by
  cases hstart : trimStart s with
  | nil =>
    have hall := List.dropWhile_eq_nil_iff.1 hstart
    rw [trim_of_blank hall]
    exact exists_restEnd?_of_blank hall (hblank hstart).1 (hblank hstart).2
  | cons d r =>
    rw [hstart] at hline
    have hsplit : s = s.takeWhile isBlank ++ d :: r := by
      rw [← hstart]
      exact List.takeWhile_append_dropWhile.symm
    have hd : isBlank d = false := by
      have hnot := List.head?_dropWhile_not isBlank s
      rw [trimStart] at hstart
      rwa [hstart] at hnot
    have hgap : IsGap (s.takeWhile isBlank) := by
      refine ⟨fun hnil => ?_, fun c hc => List.mem_takeWhile_imp hc⟩
      rw [hnil, List.nil_append] at hsplit
      rw [hhead d (by rw [hsplit]; rfl)] at hd
      cases hd
    have hrest : lineRest₁? (d :: r) = some (d :: r) := by
      rw [lineRest₁?, lineRest?_of_notMem hline]
    have hfound : blanks₁ s lineRest₁? = some (d :: r) := by
      rw [hsplit]
      exact blanks₁_append hgap (by simpa using hd) hrest
    refine ⟨some (d :: r), by rw [restEnd?, hfound]; rfl, ?_⟩
    rw [trim, trim, hstart, Option.getD_some, trimStart_of_head (by simpa using hd)]

/-! ## Trimming -/

theorem trimStart_append_solid {d : Char} (hd : isBlank d = false) (s r : List Char) :
    trimStart (s ++ d :: r) = trimStart s ++ d :: r := by
  induction s with
  | nil => exact trimStart_of_head (by simpa using hd)
  | cons c s ih =>
    cases hc : isBlank c with
    | true => simpa [trimStart, List.dropWhile_cons_of_pos hc] using ih
    | false => simp [trimStart, hc]

theorem trimEnd_append_solid {d : Char} (hd : isBlank d = false) (s r : List Char) :
    trimEnd (s ++ d :: r) = s ++ d :: trimEnd r := by
  induction s with
  | nil => exact trimEnd_cons hd r
  | cons c s ih =>
    obtain ⟨e, t, hcons⟩ := List.exists_cons_of_ne_nil
      (List.append_ne_nil_of_right_ne_nil s (List.cons_ne_nil d (trimEnd r)))
    rw [List.cons_append, trimEnd, ih, hcons]
    rw [List.cons_append, hcons]

theorem trimEnd_cons_of_not {c : Char} {r : List Char} (h : ¬ (isBlank c = true ∧ trimEnd r = [])) :
    trimEnd (c :: r) = c :: trimEnd r := by
  rw [trimEnd]
  split
  · rename_i hr
    rw [if_neg fun hc => h ⟨hc, hr⟩, hr]
  · rename_i d r' hr
    rw [hr]

/-- Only blanks are cut off at the end. -/
theorem exists_trimEnd_append (s : List Char) :
    ∃ b, s = trimEnd s ++ b ∧ ∀ c ∈ b, isBlank c = true := by
  induction s with
  | nil => exact ⟨[], rfl, List.forall_mem_nil _⟩
  | cons c r ih =>
    obtain ⟨b, hr, hb⟩ := ih
    by_cases hblank : isBlank c = true ∧ trimEnd r = []
    · refine ⟨c :: r, by simp [trimEnd, hblank], List.forall_mem_cons.2 ⟨hblank.1, ?_⟩⟩
      rw [hr, hblank.2]
      exact hb
    · refine ⟨b, ?_, hb⟩
      rw [trimEnd_cons_of_not hblank, List.cons_append, ← hr]

theorem mem_head?_of_trimEnd {s : List Char} {c : Char} (h : c ∈ (trimEnd s).head?) :
    c ∈ s.head? := by
  obtain ⟨b, hs, -⟩ := exists_trimEnd_append s
  rw [hs, List.head?_append]
  exact Option.or_eq_some_iff.2 (.inl h)

/-! ## Pieces -/

section

variable {p : Char → Bool}

theorem splitWhere_cons_of_neg {c : Char} (hc : p c = false) (r : List Char) :
    ∃ f fs, splitWhere p r = f :: fs ∧ splitWhere p (c :: r) = (c :: f) :: fs := by
  obtain ⟨f, fs, hr⟩ := List.exists_cons_of_ne_nil (splitWhere_ne_nil p r)
  refine ⟨f, fs, hr, ?_⟩
  rw [splitWhere, if_neg (ne_true_of_eq_false hc), hr]

theorem forall_mem_splitWhere (p : Char → Bool) (s : List Char) :
    ∀ f ∈ splitWhere p s, ∀ c ∈ f, p c = false := by
  induction s with
  | nil => exact List.forall_mem_singleton.2 (List.forall_mem_nil _)
  | cons c r ih =>
    cases hc : p c with
    | true =>
      rw [splitWhere, if_pos hc]
      exact List.forall_mem_cons.2 ⟨List.forall_mem_nil _, ih⟩
    | false =>
      obtain ⟨f, fs, hr, hcons⟩ := splitWhere_cons_of_neg hc r
      rw [hr] at ih
      obtain ⟨hf, hfs⟩ := List.forall_mem_cons.1 ih
      rw [hcons]
      exact List.forall_mem_cons.2 ⟨List.forall_mem_cons.2 ⟨hc, hf⟩, hfs⟩

/-- The pieces of a text are made of its characters. -/
theorem subset_of_mem_splitWhere {s f : List Char} (h : f ∈ splitWhere p s) : f ⊆ s := by
  induction s generalizing f with
  | nil =>
    rw [List.mem_singleton.1 h]
    exact List.Subset.refl _
  | cons c r ih =>
    cases hc : p c with
    | true =>
      rw [splitWhere, if_pos hc] at h
      rcases List.mem_cons.1 h with rfl | h
      · exact List.nil_subset _
      · exact List.subset_cons_of_subset c (ih h)
    | false =>
      obtain ⟨g, gs, hr, hcons⟩ := splitWhere_cons_of_neg hc r
      rw [hr] at ih
      rw [hcons] at h
      rcases List.mem_cons.1 h with rfl | h
      · exact List.cons_subset_cons c (ih List.mem_cons_self)
      · exact List.subset_cons_of_subset c (ih (List.mem_cons_of_mem g h))

/-- A text is cut at a separator into the pieces of both sides. -/
theorem splitWhere_append_separator {d : Char} (hd : p d = true) (s t : List Char) :
    splitWhere p (s ++ d :: t) = splitWhere p s ++ splitWhere p t := by
  induction s with
  | nil => simp [splitWhere, hd]
  | cons c s ih =>
    rw [List.cons_append]
    cases hc : p c with
    | true => simp [splitWhere, hc, ih]
    | false =>
      obtain ⟨f, fs, hs, hcons⟩ := splitWhere_cons_of_neg hc s
      rw [splitWhere, if_neg (ne_true_of_eq_false hc), ih, hs, hcons]
      rfl

/-- The pieces that are not empty. -/
def parts (p : Char → Bool) (s : List Char) : List (List Char) := (splitWhere p s).filter (· ≠ [])

theorem parts_append_separator {d : Char} (hd : p d = true) (s t : List Char) :
    parts p (s ++ d :: t) = parts p s ++ parts p t := by
  rw [parts, splitWhere_append_separator hd, List.filter_append, parts, parts]

/-- A text that starts with a separator begins new parts. -/
theorem parts_append_of_head (s : List Char) {t : List Char} (ht : ∀ c ∈ t.head?, p c = true) :
    parts p (s ++ t) = parts p s ++ parts p t := by
  cases t with
  | nil =>
    rw [List.append_nil]
    exact (List.append_nil _).symm
  | cons d t =>
    have hd := ht d rfl
    rw [parts_append_separator hd, ← List.nil_append (d :: t), parts_append_separator hd]
    rfl

theorem parts_separator {d : Char} (hd : p d = true) (s : List Char) :
    parts p (d :: s) = parts p s :=
  parts_append_separator hd [] s

theorem parts_of_forall {w : List Char} (hne : w ≠ []) (h : ∀ c ∈ w, p c = false) :
    parts p w = [w] := by
  rw [parts, splitWhere_of_forall h]
  simpa using hne

/-- Separators at the ends of a text are in none of its parts. -/
theorem parts_append_separators {s b : List Char} (hb : ∀ c ∈ b, p c = true) :
    parts p (s ++ b) = parts p s := by
  have hnone : parts p b = [] := by
    induction b with
    | nil => rfl
    | cons c b ih =>
      obtain ⟨hc, hb⟩ := List.forall_mem_cons.1 hb
      rw [parts_separator hc, ih hb]
  cases b with
  | nil => rw [List.append_nil]
  | cons c b =>
    have hc := hb c List.mem_cons_self
    rw [parts_separator hc] at hnone
    rw [parts_append_separator hc, hnone, List.append_nil]

theorem parts_trimStart (hp : ∀ c, isBlank c = true → p c = true) (s : List Char) :
    parts p (trimStart s) = parts p s := by
  induction s with
  | nil => rfl
  | cons c s ih =>
    cases hc : isBlank c with
    | true => rw [trimStart, List.dropWhile_cons_of_pos hc, parts_separator (hp c hc)]; exact ih
    | false => rw [trimStart_of_head (by simpa using hc)]

theorem parts_trimEnd (hp : ∀ c, isBlank c = true → p c = true) (s : List Char) :
    parts p (trimEnd s) = parts p s := by
  obtain ⟨b, hs, hb⟩ := exists_trimEnd_append s
  nth_rewrite 2 [hs]
  exact (parts_append_separators fun c hc => hp c (hb c hc)).symm

/-- Where blanks are separators, trimming changes no parts. -/
theorem parts_trim (hp : ∀ c, isBlank c = true → p c = true) (s : List Char) :
    parts p (trim s) = parts p s :=
  (parts_trimEnd hp (trimStart s)).trans (parts_trimStart hp s)

end

/-! ## Words -/

/-- A text that is not empty and has no blanks. -/
def IsSolid (w : List Char) : Prop := w ≠ [] ∧ ∀ c ∈ w, isBlank c = false

instance (w : List Char) : Decidable (IsSolid w) := inferInstanceAs (Decidable (_ ∧ _))

theorem IsSolid.of_words {w : List Char} (hne : w ≠ []) (h : ∀ c ∈ w, isWord c = true) :
    IsSolid w := ⟨hne, fun c hc => isBlank_of_isWord (h c hc)⟩

theorem isSolid_of_mem_words {s w : List Char} (h : w ∈ words s) : IsSolid w := by
  obtain ⟨hmem, hne⟩ := List.mem_filter.1 h
  exact ⟨by simpa using hne, forall_mem_splitWhere isBlank s w hmem⟩

theorem words_of_isSolid {w : List Char} (h : IsSolid w) : words w = [w] :=
  parts_of_forall h.1 h.2

theorem words_append_cons {w : List Char} {b : Char} (h : IsSolid w) (hb : isBlank b = true)
    (s : List Char) : words (w ++ b :: s) = w :: words s :=
  (parts_append_separator hb w s).trans (congrArg (· ++ words s) (words_of_isSolid h))

/-- A word at the end of a text leaves nothing to trim there. -/
theorem IsSolid.trimEnd_append {w : List Char} (h : IsSolid w) (s : List Char) :
    trimEnd (s ++ w) = s ++ w :=
  trimEnd_append_of_ne_nil s h.1 (trimEnd_of_solid h.2)

/-- Words that are joined by single blanks have no blanks around them. -/
theorem trim_intercalate {ws : List (List Char)} (h : ∀ w ∈ ws, IsSolid w) :
    trim ([' '].intercalate ws) = [' '].intercalate ws := by
  have hend : trimEnd ([' '].intercalate ws) = [' '].intercalate ws := by
    induction ws with
    | nil => rfl
    | cons w ws ih =>
      obtain ⟨hw, hws⟩ := List.forall_mem_cons.1 h
      cases ws with
      | nil => simpa [List.intercalate] using trimEnd_of_solid hw.2
      | cons w' ws =>
        have hne : [' '].intercalate (w' :: ws) ≠ [] := by
          have hw' := (hws w' List.mem_cons_self).1
          cases ws <;> simp [List.intercalate, hw']
        have hjoin : [' '].intercalate (w :: w' :: ws) =
            (w ++ [' ']) ++ [' '].intercalate (w' :: ws) := by simp [List.intercalate]
        rw [hjoin]
        exact trimEnd_append_of_ne_nil _ hne (ih hws)
  cases ws with
  | nil => rfl
  | cons w ws =>
    obtain ⟨c, r, rfl⟩ := List.exists_cons_of_ne_nil (h w List.mem_cons_self).1
    have hc : isBlank c = false := (h _ List.mem_cons_self).2 c List.mem_cons_self
    obtain ⟨t, ht⟩ : ∃ t, [' '].intercalate ((c :: r) :: ws) = c :: t := by
      cases ws <;> simp [List.intercalate]
    rw [trim, trimStart_of_head (by simpa [ht] using hc), hend]

/-! ## Changed words -/

section

variable {f : List Char → List Char}

/-- A property of all texts holds if it holds of words, and of a word and a blank in front of a text
that has it. -/
theorem forall_of_words {P : List Char → Prop} (hword : ∀ w, (∀ c ∈ w, isBlank c = false) → P w)
    (hblank : ∀ w b t, (∀ c ∈ w, isBlank c = false) → isBlank b = true → P t → P (w ++ b :: t))
    (s : List Char) : P s := by
  -- The induction is along the text, behind the word that is being read.
  have hread : ∀ w, (∀ c ∈ w, isBlank c = false) → P (w ++ s) := by
    induction s with
    | nil =>
      intro w hw
      rw [List.append_nil]
      exact hword w hw
    | cons c r ih =>
      intro w hw
      cases hc : isBlank c with
      | true => exact hblank w c r hw hc (ih [] (List.forall_mem_nil _))
      | false =>
        rw [List.append_cons]
        exact ih _ (List.forall_mem_append.2 ⟨hw, List.forall_mem_singleton.2 hc⟩)
  exact hread [] (List.forall_mem_nil _)

theorem mapWordsFrom_of_solid {s : List Char} (hs : ∀ c ∈ s, isBlank c = false) (w : List Char) :
    mapWordsFrom f w s = f (w ++ s) := by
  induction s generalizing w with
  | nil => rw [mapWordsFrom, List.append_nil]
  | cons c r ih =>
    obtain ⟨hc, hr⟩ := List.forall_mem_cons.1 hs
    rw [mapWordsFrom, if_neg (ne_true_of_eq_false hc), ih hr, ← List.append_cons]

theorem mapWords_of_solid {w : List Char} (hw : ∀ c ∈ w, isBlank c = false) : mapWords f w = f w :=
  mapWordsFrom_of_solid hw []

theorem mapWordsFrom_append_blank {b : Char} (hb : isBlank b = true) (w s t : List Char) :
    mapWordsFrom f w (s ++ b :: t) = mapWordsFrom f w s ++ b :: mapWords f t := by
  induction s generalizing w with
  | nil => exact if_pos hb
  | cons c r ih =>
    rw [List.cons_append, mapWordsFrom, mapWordsFrom]
    split
    · rw [ih, List.append_assoc, List.cons_append]
    · exact ih _

/-- On both sides of a blank, the words are changed on their own. -/
theorem mapWords_append_blank {b : Char} (hb : isBlank b = true) (s t : List Char) :
    mapWords f (s ++ b :: t) = mapWords f s ++ b :: mapWords f t :=
  mapWordsFrom_append_blank hb [] s t

/-- A text that starts with a blank is changed on its own. -/
theorem mapWords_append_of_head (hf : f [] = []) (s : List Char) {t : List Char}
    (ht : ∀ c ∈ t.head?, isBlank c = true) : mapWords f (s ++ t) = mapWords f s ++ mapWords f t := by
  have hempty : mapWords f [] = [] := hf
  cases t with
  | nil => rw [hempty, List.append_nil, List.append_nil]
  | cons b t =>
    have hb := ht b rfl
    have hfront : mapWords f (b :: t) = b :: mapWords f t := by
      rw [← List.nil_append (b :: t), mapWords_append_blank hb, hempty, List.nil_append]
    rw [mapWords_append_blank hb, hfront]

/-- A text is changed on its own in front of one that ends in a blank. -/
theorem mapWords_append_of_getLast (hf : f [] = []) {s : List Char}
    (hs : ∀ c ∈ s.getLast?, isBlank c = true) (t : List Char) :
    mapWords f (s ++ t) = mapWords f s ++ mapWords f t := by
  have hempty : mapWords f [] = [] := hf
  obtain rfl | ⟨s, b, rfl⟩ := s.eq_nil_or_concat'
  · rw [hempty, List.nil_append, List.nil_append]
  · have hb : isBlank b = true := hs b List.getLast?_concat
    rw [← List.append_cons, mapWords_append_blank hb, mapWords_append_blank hb, hempty,
      ← List.append_cons]

/-- What holds between each word and what it is changed to holds between the texts. -/
theorem forall₂_mapWords {R : Char → Char → Prop} (hf : ∀ w, List.Forall₂ R w (f w))
    (hR : ∀ c, R c c) (s : List Char) : List.Forall₂ R s (mapWords f s) := by
  induction s using forall_of_words with
  | hword w hw =>
    rw [mapWords_of_solid hw]
    exact hf w
  | hblank w b t hw hb ih =>
    rw [mapWords_append_blank hb, mapWords_of_solid hw]
    exact List.rel_append (hf w) (.cons (hR b) ih)

/-- Words that are changed once, and are words still, are changed no more. -/
theorem mapWords_mapWords
    (hsolid : ∀ w, (∀ c ∈ w, isBlank c = false) → ∀ c ∈ f w, isBlank c = false)
    (hf : ∀ w, f (f w) = f w) (s : List Char) : mapWords f (mapWords f s) = mapWords f s := by
  induction s using forall_of_words with
  | hword w hw => rw [mapWords_of_solid hw, mapWords_of_solid (hsolid w hw), hf]
  | hblank w b t hw hb ih =>
    rw [mapWords_append_blank hb, mapWords_of_solid hw, mapWords_append_blank hb,
      mapWords_of_solid (hsolid w hw), hf, ih]

theorem mapWordsFrom_eq_append {p : Char → Prop} (h : ∀ w, (∀ c ∈ w, p c) → f w = w)
    {w s : List Char} (hw : ∀ c ∈ w, p c) (hs : ∀ c ∈ s, p c) : mapWordsFrom f w s = w ++ s := by
  induction s generalizing w with
  | nil => rw [List.append_nil, mapWordsFrom, h w hw]
  | cons c r ih =>
    obtain ⟨hc, hr⟩ := List.forall_mem_cons.1 hs
    rw [mapWordsFrom]
    split
    · rw [h w hw, ih (List.forall_mem_nil _) hr, List.nil_append]
    · rw [ih (List.forall_mem_append.2 ⟨hw, List.forall_mem_singleton.2 hc⟩) hr]
      simp

/-- A text stays as it is, if its characters are of a kind that makes words stay. -/
theorem mapWords_eq_self {p : Char → Prop} (h : ∀ w, (∀ c ∈ w, p c) → f w = w) {s : List Char}
    (hs : ∀ c ∈ s, p c) : mapWords f s = s :=
  mapWordsFrom_eq_append h (List.forall_mem_nil _) hs

end

end DiagramText.Text
