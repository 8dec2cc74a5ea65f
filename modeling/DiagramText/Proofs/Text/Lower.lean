import DiagramText.Text.Caseless
import DiagramText.Text.Lower

/-!
# Small letters of a text that spells a keyword

A text that spells a plain keyword in any letter case has the keyword as its small form, unless it
uses the dotted capital I or the dotless small i.

1. The small forms of ASCII characters and of the two special letters.
2. `fold_eq_plain`: which characters are a case of a plain character.
3. `lower_eq_iff_of_caseless`.
-/

namespace DiagramText.Text

/-! ## Single characters -/

/-- A character of keywords: ASCII, small or no letter, and none of the letters that have a case
beyond ASCII other than an i. -/
def Plain (c : Char) : Prop := c.toNat < 0x80 ∧ fold c = c ∧ c ≠ 's' ∧ c ≠ 'k'

instance (c : Char) : Decidable (Plain c) := inferInstanceAs (Decidable (_ ∧ _))

theorem lt_of_toLower_lt {c : Char} (h : c.toLower.toNat < 0x80) : c.toNat < 0x80 := by
  unfold Char.toLower at h
  split at h
  · rename_i hc
    exact Nat.lt_of_le_of_lt hc.2 (by decide)
  · exact h

/-- A case of a plain character is one of the two special letters, or an ASCII character. -/
theorem fold_eq_plain {a c : Char} (ha : Plain a) (h : fold a = fold c) :
    (c = '\u0130' ∨ c = '\u0131') ∨ (c.toNat < 0x80 ∧ c.toLower = a) := by
  obtain ⟨hlt, hfold, hs, hk⟩ := ha
  rw [hfold] at h
  unfold fold at h
  split at h
  · rename_i hi
    exact .inl (by simpa using hi)
  · split at h
    · exact absurd h hs
    · split at h
      · exact absurd h hk
      · refine .inr ⟨lt_of_toLower_lt ?_, h.symm⟩
        rwa [← h]

theorem lowerChar_of_lt {c : Char} (h : c.toNat < 0x80) : lowerChar c = [c.toLower] := if_pos h

/-- The dotted capital I leaves its dot behind, and the dotless small i stays as it is. -/
theorem exists_mark_of_special {c : Char} (h : c = '\u0130' ∨ c = '\u0131') :
    ∃ d ∈ lowerChar c, ¬ d.toNat < 0x80 := by
  rcases h with rfl | rfl
  · exact ⟨'\u0307', by decide, by decide⟩
  · exact ⟨'\u0131', by decide, by decide⟩

/-! ## Texts -/

theorem mem_lowerBehind {c d : Char} {s : List Char} (hc : c ∈ s) (hsigma : c ≠ '\u03a3')
    (hd : d ∈ lowerChar c) (cased : Bool) : d ∈ lowerBehind cased s := by
  induction s generalizing cased with
  | nil => cases hc
  | cons e s ih =>
    rw [lowerBehind]
    rcases List.mem_cons.1 hc with rfl | hc
    · rw [if_neg hsigma]
      exact List.mem_append_left _ hd
    · exact List.mem_append_right _ (ih hc _)

theorem lowerBehind_of_caseless {w s t u : List Char} (hw : ∀ a ∈ w, Plain a)
    (h : caseless? w s = some (t, u)) (ht : ∀ c ∈ t, c ≠ '\u0130' ∧ c ≠ '\u0131') (cased : Bool) :
    lowerBehind cased t = w := by
  induction w generalizing s t cased with
  | nil =>
    cases h
    rfl
  | cons a w ih =>
    obtain ⟨ha, hw⟩ := List.forall_mem_cons.1 hw
    cases s with
    | nil => cases h
    | cons c s =>
      rw [caseless?] at h
      split at h
      · rename_i hfold
        obtain ⟨⟨t', u'⟩, hrest, htu⟩ := Option.map_eq_some_iff.1 h
        obtain ⟨rfl, rfl⟩ := Prod.mk.inj htu
        obtain ⟨hc, ht'⟩ := List.forall_mem_cons.1 ht
        rcases fold_eq_plain ha hfold with hspecial | ⟨hlt, hlower⟩
        · exact absurd hspecial (not_or.2 hc)
        · have hsigma : c ≠ '\u03a3' := by
            rintro rfl
            exact absurd hlt (by decide)
          rw [lowerBehind, if_neg hsigma, lowerChar_of_lt hlt, hlower, ih hw hrest ht']
          rfl
      · cases h

/-- A text that spells a plain keyword has it as its small form if and only if it has neither of the
two special letters. -/
theorem lower_eq_iff_of_caseless {w s t u : List Char} (hw : ∀ a ∈ w, Plain a)
    (h : caseless? w s = some (t, u)) : lower t = w ↔ '\u0130' ∉ t ∧ '\u0131' ∉ t := by
  constructor
  · intro hlower
    have key : ∀ c, c = '\u0130' ∨ c = '\u0131' → c ∉ t := by
      intro c hspecial hc
      obtain ⟨d, hd, hmark⟩ := exists_mark_of_special hspecial
      have hsigma : c ≠ '\u03a3' := by
        rintro rfl
        exact absurd hspecial (by decide)
      have hmem : d ∈ lower t := mem_lowerBehind hc hsigma hd false
      rw [hlower] at hmem
      exact hmark (hw d hmem).1
    exact ⟨key _ (.inl rfl), key _ (.inr rfl)⟩
  · rintro ⟨hdotted, hdotless⟩
    refine lowerBehind_of_caseless hw h ?_ false
    intro c hc
    refine ⟨?_, ?_⟩
    · rintro rfl
      exact hdotted hc
    · rintro rfl
      exact hdotless hc

end DiagramText.Text
