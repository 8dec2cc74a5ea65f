import DiagramText.Classes.Member
import DiagramText.Proofs.Text.Words
import Mathlib.Algebra.Ring.Parity

/-!
# Type arguments between angle brackets

Type arguments are written between tildes and shown between angle brackets: in each word with an
even number of tildes the first half of them opens and the second half closes.  All else stays.

1. `Becomes`, what a character may be rendered as.
2. `marks`, what the tildes of a text have become, and `IsNested` for brackets.
3. Words: tildes in pairs, odd tildes, and no tildes at all.
4. `IsToken`, `RendersAs` and `generics_are_nested` for all texts.
-/

namespace DiagramText.Classes

open Text

/-! ## Rendered characters -/

/-- A character stays, or it is a tilde and becomes an angle bracket. -/
def Becomes (c d : Char) : Prop := d = c ∨ c = '~' ∧ (d = '<' ∨ d = '>')

theorem becomes_self (c : Char) : Becomes c c := .inl rfl

theorem becomes_bracketTildes (n : Nat) (s : List Char) :
    List.Forall₂ Becomes s (bracketTildes n s) := by
  induction s generalizing n with
  | nil => cases n <;> exact .nil
  | cons c s ih =>
    cases n with
    | zero =>
      rw [bracketTildes]
      refine .cons ?_ (ih 0)
      split
      · exact .inr ⟨‹_›, .inr rfl⟩
      · exact becomes_self c
    | succ n =>
      rw [bracketTildes]
      split
      · exact .cons (.inr ⟨‹_›, .inl rfl⟩) (ih n)
      · exact .cons (becomes_self c) (ih (n + 1))

theorem becomes_renderWord (w : List Char) : List.Forall₂ Becomes w (renderWord w) := by
  unfold renderWord
  dsimp only
  split
  · exact becomes_bracketTildes _ w
  · exact List.forall₂_same.2 fun c _ => becomes_self c

theorem becomes_renderGenerics (s : List Char) : List.Forall₂ Becomes s (renderGenerics s) :=
  forall₂_mapWords becomes_renderWord becomes_self s

/-- Rendering type arguments changes no length. -/
theorem length_renderGenerics (s : List Char) : (renderGenerics s).length = s.length :=
  (becomes_renderGenerics s).length_eq.symm

/-- A word is rendered as a word. -/
theorem solid_of_becomes {s t : List Char} (h : List.Forall₂ Becomes s t)
    (hs : ∀ c ∈ s, isBlank c = false) : ∀ d ∈ t, isBlank d = false := by
  induction h with
  | nil => exact hs
  | cons hcd _ ih =>
    obtain ⟨hc, hrest⟩ := List.forall_mem_cons.1 hs
    refine List.forall_mem_cons.2 ⟨?_, ih hrest⟩
    rcases hcd with rfl | ⟨-, rfl | rfl⟩
    · exact hc
    · decide
    · decide

/-! ## Marks -/

/-- What the tildes of the text `s` have become in `t`, in order. -/
def marks (s t : List Char) : List Char := ((s.zip t).filter (·.1 = '~')).map (·.2)

/-- Angle brackets that are balanced and properly nested. -/
inductive IsNested : List Char → Prop
  | nil : IsNested []
  | around {s : List Char} : IsNested s → IsNested ('<' :: (s ++ ['>']))
  | append {s t : List Char} : IsNested s → IsNested t → IsNested (s ++ t)

theorem marks_cons_tilde (d : Char) (s t : List Char) :
    marks ('~' :: s) (d :: t) = d :: marks s t := rfl

theorem marks_cons_of_ne {c : Char} (hc : c ≠ '~') (d : Char) (s t : List Char) :
    marks (c :: s) (d :: t) = marks s t := by
  simp [marks, hc]

/-- The first `n` tildes open, and all others close. -/
theorem marks_bracketTildes (n : Nat) (s : List Char) : marks s (bracketTildes n s) =
    List.replicate (min n (s.count '~')) '<' ++ List.replicate (s.count '~' - n) '>' := by
  induction s generalizing n with
  | nil => cases n <;> simp [marks, bracketTildes]
  | cons c s ih =>
    by_cases hc : c = '~'
    · subst hc
      rw [List.count_cons_self]
      cases n with
      | zero =>
        rw [bracketTildes, if_pos rfl, marks_cons_tilde, ih]
        simp [List.replicate_succ]
      | succ n =>
        rw [bracketTildes, if_pos rfl, marks_cons_tilde, ih, Nat.add_min_add_right,
          Nat.add_sub_add_right, List.replicate_succ, List.cons_append]
    · rw [List.count_cons_of_ne hc, ← ih n]
      cases n with
      | zero => rw [bracketTildes, marks_cons_of_ne hc]
      | succ n => rw [bracketTildes, if_neg hc, marks_cons_of_ne hc]

theorem isNested_replicate (k : Nat) :
    IsNested (List.replicate k '<' ++ List.replicate k '>') := by
  induction k with
  | zero => exact .nil
  | succ k ih =>
    rw [List.replicate_succ, List.replicate_succ']
    simpa using ih.around

/-! ## Words -/

theorem notMem_bracketTildes (n : Nat) (s : List Char) : '~' ∉ bracketTildes n s := by
  induction s generalizing n with
  | nil => cases n <;> exact List.not_mem_nil
  | cons c s ih =>
    cases n with
    | zero =>
      rw [bracketTildes]
      refine List.not_mem_cons_of_ne_of_not_mem ?_ (ih 0)
      split
      · decide
      · exact Ne.symm ‹_›
    | succ n =>
      rw [bracketTildes]
      split
      · exact List.not_mem_cons_of_ne_of_not_mem (by decide) (ih n)
      · exact List.not_mem_cons_of_ne_of_not_mem (Ne.symm ‹_›) (ih (n + 1))

theorem bracketTildes_zero {w : List Char} (h : ∀ c ∈ w, c ≠ '~') : bracketTildes 0 w = w := by
  induction w with
  | nil => rfl
  | cons c w ih =>
    obtain ⟨hc, hw⟩ := List.forall_mem_cons.1 h
    rw [bracketTildes, if_neg hc, ih hw]

theorem renderWord_of_no_tilde {w : List Char} (h : ∀ c ∈ w, c ≠ '~') : renderWord w = w := by
  have hcount : w.count '~' = 0 := List.count_eq_zero.2 fun hmem => h '~' hmem rfl
  rw [renderWord, hcount]
  exact bracketTildes_zero h

theorem renderWord_of_odd {w : List Char} (h : Odd (w.count '~')) : renderWord w = w :=
  if_neg (by rw [Nat.odd_iff.1 h]; exact Nat.one_ne_zero)

theorem renderWord_of_pairs {w : List Char} {k : Nat} (h : w.count '~' = 2 * k) :
    renderWord w = bracketTildes k w := by
  unfold renderWord
  dsimp only
  rw [h, if_pos (Nat.mul_mod_right 2 k), Nat.mul_div_cancel_left k Nat.two_pos]

theorem renderWord_renderWord (w : List Char) : renderWord (renderWord w) = renderWord w := by
  rcases Nat.even_or_odd' (w.count '~') with ⟨k, heven | hodd⟩
  · rw [renderWord_of_pairs heven]
    exact renderWord_of_no_tilde fun c hc he => notMem_bracketTildes k w (he ▸ hc)
  · have hword := renderWord_of_odd ⟨k, hodd⟩
    rw [hword, hword]

/-- A text without tildes has no type arguments to render. -/
theorem renderGenerics_of_no_tilde {s : List Char} (h : ∀ c ∈ s, c ≠ '~') :
    renderGenerics s = s := mapWords_eq_self (fun _ => renderWord_of_no_tilde) h

/-! ## Texts -/

/-- The text `w` is a token of the text `u ++ (w ++ v)`: it has no blanks and stands between blanks
or at the ends. -/
structure IsToken (u w v : List Char) : Prop where
  solid : IsSolid w
  front : ∀ c ∈ u.getLast?, isBlank c = true
  behind : ∀ c ∈ v.head?, isBlank c = true

/-- A token stays if it has an odd number of tildes; of `2 * k` tildes, the first `k` ones open and
the last `k` ones close. -/
structure RendersAs (w w' : List Char) : Prop where
  odd : Odd (w.count '~') → w' = w
  pairs : ∀ k, w.count '~' = 2 * k →
    marks w w' = List.replicate k '<' ++ List.replicate k '>' ∧ IsNested (marks w w')

theorem rendersAs_renderWord (w : List Char) : RendersAs w (renderWord w) where
  odd := renderWord_of_odd
  pairs k hk := by
    have hmarks : marks w (renderWord w) = List.replicate k '<' ++ List.replicate k '>' := by
      have hhalf : 2 * k - k = k := by omega
      rw [renderWord_of_pairs hk, marks_bracketTildes, hk, hhalf,
        Nat.min_eq_left (Nat.le_mul_of_pos_left k Nat.two_pos)]
    rw [hmarks]
    exact ⟨rfl, isNested_replicate k⟩

/-- A token is rendered on its own. -/
theorem IsToken.renderGenerics_eq {u w v : List Char} (h : IsToken u w v) :
    renderGenerics (u ++ (w ++ v)) = renderGenerics u ++ (renderWord w ++ renderGenerics v) := by
  have hempty : renderWord [] = [] := rfl
  unfold renderGenerics
  rw [mapWords_append_of_getLast hempty h.front, mapWords_append_of_head hempty w h.behind,
    mapWords_of_solid h.solid.2]

/-- **Type arguments.** Rendering keeps the length of a text and all its characters but tildes,
which become angle brackets: in each token, all of them, balanced and nested, or none if they are
odd.  To render once more changes nothing. -/
theorem generics_are_nested (s : List Char) :
    (renderGenerics s).length = s.length ∧
      List.Forall₂ Becomes s (renderGenerics s) ∧
      (∀ u w v, s = u ++ (w ++ v) → IsToken u w v → ∃ w',
        renderGenerics s = renderGenerics u ++ (w' ++ renderGenerics v) ∧ RendersAs w w') ∧
      renderGenerics (renderGenerics s) = renderGenerics s := by
  refine ⟨length_renderGenerics s, becomes_renderGenerics s, ?_, ?_⟩
  · rintro u w v rfl h
    exact ⟨renderWord w, h.renderGenerics_eq, rendersAs_renderWord w⟩
  · exact mapWords_mapWords (fun w => solid_of_becomes (becomes_renderWord w))
      renderWord_renderWord s

/-- Nested arguments between a blank and a word with an odd number of tildes. -/
theorem generics_are_nested_mixed :
    IsToken "x~ ".toList "Map~K,List~V~~".toList "  Set~T~".toList ∧
      renderGenerics "x~ Map~K,List~V~~  Set~T~".toList =
        "x~ Map<K,List<V>>  Set<T>".toList ∧
      ∃ w', renderGenerics "x~ Map~K,List~V~~  Set~T~".toList =
          renderGenerics "x~ ".toList ++ (w' ++ renderGenerics "  Set~T~".toList) ∧
        RendersAs "Map~K,List~V~~".toList w' := by
  have htoken : IsToken "x~ ".toList "Map~K,List~V~~".toList "  Set~T~".toList :=
    ⟨by decide, by decide, by decide⟩
  exact ⟨htoken, by decide,
    (generics_are_nested "x~ Map~K,List~V~~  Set~T~".toList).2.2.1 _ _ _ (by decide) htoken⟩

end DiagramText.Classes
