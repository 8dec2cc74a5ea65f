import DiagramText.Proofs.Faults
import DiagramText.Proofs.Text.Lower
import DiagramText.Sequence.Parse

/-!
# Positions of notes

The position of a note is matched in any letter case, and then looked up in small letters.  The two
agree except on the dotted capital I and the dotless small i, which match an i and have no plain
small form.  A line that spells a position with one of them is the only fault of sequence diagrams.

1. `ofSpelled_eq_ok_iff`, for one position.
2. `Statement.exists_recognise_eq_ok_iff`, for one line; a note is never taken for a declaration.
3. `exists_parse_eq_ok_iff` and `parse_eq_error`, for a diagram.
-/

namespace DiagramText.Sequence

open Source (Line)
open Text

/-- The position is spelled with a dotted capital I or a dotless small i. -/
def NoteText.Dotted (n : NoteText) : Prop := '\u0130' ∈ n.spelled ∨ '\u0131' ∈ n.spelled

instance (n : NoteText) : Decidable n.Dotted := inferInstanceAs (Decidable (_ ∨ _))

/-- The line is a note whose position is spelled with one of the two special letters. -/
def DottedNote (l : Line) : Prop := ∃ n ∈ note? l.text.toList, n.Dotted

instance (l : Line) : Decidable (DottedNote l) :=
  inferInstanceAs (Decidable (∃ n ∈ note? l.text.toList, n.Dotted))

/-! ## One position -/

theorem plain_phrase (p : Position) : ∀ a ∈ p.phrase.toList, Plain a := by
  have hall : (p.phrase.toList.all fun a => decide (Plain a)) = true := by
    cases p <;> decide +kernel
  intro a ha
  exact of_decide_eq_true (List.all_eq_true.1 hall a ha)

/-- What `note?` gives as the spelling of a position does spell it, in some letter case. -/
theorem exists_caseless_of_note? {s : List Char} {n : NoteText} (h : note? s = some n) :
    ∃ t u, caseless? n.position.phrase.toList t = some (n.spelled, u) := by
  obtain ⟨r, -, h⟩ := Option.bind_eq_some_iff.1 h
  obtain ⟨t, -, h⟩ := Option.bind_eq_some_iff.1 h
  obtain ⟨p, -, h⟩ := List.exists_of_findSome?_eq_some h
  obtain ⟨⟨spelled, u⟩, hspelled, h⟩ := Option.bind_eq_some_iff.1 h
  obtain ⟨⟨ids, text⟩, -, h⟩ := Option.bind_eq_some_iff.1 h
  cases h
  exact ⟨t, u, hspelled⟩

theorem ofSpelled_eq_ok_iff {s : List Char} {n : NoteText} (h : note? s = some n) :
    n.position.ofSpelled n.spelled = .ok n.position ↔ ¬ n.Dotted := by
  obtain ⟨t, u, hspelled⟩ := exists_caseless_of_note? h
  have hlower := lower_eq_iff_of_caseless (plain_phrase n.position) hspelled
  have hkey : String.ofList (lower n.spelled) = n.position.phrase ↔
      lower n.spelled = n.position.phrase.toList := by
    rw [← String.toList_inj, String.toList_ofList]
  unfold Position.ofSpelled NoteText.Dotted
  dsimp only
  rw [not_or, ← hlower, ← hkey]
  constructor
  · intro hok
    split at hok
    · assumption
    · cases hok
  · intro hphrase
    rw [if_pos hphrase]

/-! ## One line -/

/-- A note starts with an n, so it is no declaration. -/
theorem declaration?_of_note? {s : List Char} {n : NoteText} (h : note? s = some n) :
    declaration? s = none := by
  obtain ⟨r, hr, -⟩ := Option.bind_eq_some_iff.1 h
  obtain ⟨⟨t, u⟩, hnote, -⟩ := Option.map_eq_some_iff.1 hr
  cases s with
  | nil => cases hnote
  | cons c s =>
    have hc : fold 'n' = fold c := by
      by_contra hne
      have hnone : caseless? "note".toList (c :: s) = none := if_neg hne
      rw [hnone] at hnote
      cases hnote
    have hp : literal? "participant".toList (c :: s) = none := by
      refine if_neg ?_
      rintro rfl
      exact absurd hc (by decide)
    have ha : literal? "actor".toList (c :: s) = none := by
      refine if_neg ?_
      rintro rfl
      exact absurd hc (by decide)
    unfold declaration?
    rw [hp, ha]
    rfl

/-- **One line.** A line can be read if and only if it is no dotted note. -/
theorem Statement.exists_recognise_eq_ok_iff {l : Line} :
    (∃ s, Statement.recognise l.text = .ok s) ↔ ¬ DottedNote l := by
  unfold DottedNote Statement.recognise
  dsimp only
  cases hn : note? l.text.toList with
  | none =>
    refine iff_of_true ?_ ?_
    · split
      · exact ⟨_, rfl⟩
      · exact ⟨_, rfl⟩
    · rintro ⟨n, h, -⟩
      cases h
  | some n =>
    rw [declaration?_of_note? hn]
    have hd : (∃ n' ∈ some n, n'.Dotted) ↔ n.Dotted := by
      constructor
      · rintro ⟨n', h, hd⟩
        cases h
        exact hd
      · intro hd
        exact ⟨n, rfl, hd⟩
    rw [hd, ← ofSpelled_eq_ok_iff hn]
    constructor
    · -- A position that is found is the one that was matched.
      rintro ⟨s, hs⟩
      obtain ⟨p, hp, -⟩ := bind_eq_ok_iff.1 hs
      unfold Position.ofSpelled at hp ⊢
      dsimp only at hp ⊢
      split at hp
      · rename_i hkey
        rw [if_pos hkey]
      · cases hp
    · intro hp
      exact ⟨_, bind_eq_ok_iff.2 ⟨_, hp, rfl⟩⟩

/-- The fault of a line is about a position. -/
theorem Statement.recognise_eq_error {text : String} {fault : Fault}
    (h : Statement.recognise text = .error fault) : ∃ key, fault = .notePosition key := by
  unfold Statement.recognise at h
  dsimp only at h
  split at h
  · cases h
  · split at h
    · rcases bind_eq_error_iff.1 h with h | ⟨p, -, h⟩
      · unfold Position.ofSpelled at h
        dsimp only at h
        split at h
        · cases h
        · cases h
          exact ⟨_, rfl⟩
      · cases h
    · cases h

/-! ## Diagrams -/

theorem exists_parse_eq_ok_iff {ls : List Line} :
    (∃ p, parse ls = .ok p) ↔ ¬ ∃ l ∈ ls.tail, DottedNote l := by
  have hlines : (∃ p, parse ls = .ok p) ↔ ∃ xs, statements ls.tail = .ok xs := by
    constructor
    · rintro ⟨p, h⟩
      obtain ⟨xs, hx, -⟩ := bind_eq_ok_iff.1 h
      exact ⟨xs, hx⟩
    · rintro ⟨xs, hx⟩
      exact ⟨_, bind_eq_ok_iff.2 ⟨xs, hx, rfl⟩⟩
  rw [hlines]
  refine exists_readLines_eq_ok_iff.trans ?_
  constructor
  · rintro h ⟨l, hl, hd⟩
    exact Statement.exists_recognise_eq_ok_iff.1 (h l hl) hd
  · intro h l hl
    exact Statement.exists_recognise_eq_ok_iff.2 fun hd => h ⟨l, hl, hd⟩

theorem parse_eq_error {ls : List Line} {fault : Fault} (h : parse ls = .error fault) :
    ∃ key, fault = .notePosition key := by
  rcases bind_eq_error_iff.1 h with h | ⟨xs, -, h⟩
  · obtain ⟨l, -, hl⟩ := exists_of_readLines_eq_error h
    exact Statement.recognise_eq_error hl
  · cases h

end DiagramText.Sequence
