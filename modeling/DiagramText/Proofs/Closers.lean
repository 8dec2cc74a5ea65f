import DiagramText.Classes.Parse
import DiagramText.Er.Parse
import DiagramText.Flowchart.Parse
import DiagramText.Proofs.Faults
import DiagramText.Sequence.Parse
import DiagramText.StateChart.Parse

/-!
# Closers

In each dialect with blocks there is exactly one closer: `end` in flowcharts and sequence diagrams, a
closing brace in state, class and entity-relationship diagrams.
-/

namespace DiagramText

/-! ## Alternatives that do not give a value -/

section

variable {α β : Type}

theorem orElse_ne_some {x y : Option α} {a : α} (hx : x ≠ some a) (hy : y ≠ some a) :
    (x <|> y) ≠ some a := by
  cases x with
  | none => exact hy
  | some b => exact hx

theorem map_ne_some {x : Option α} {f : α → β} {b : β} (h : ∀ a, f a ≠ b) : x.map f ≠ some b := by
  cases x with
  | none => nofun
  | some a => exact fun he => h a (Option.some.inj he)

theorem eq_some_of_getD_eq {x : Option α} {a d : α} (h : x.getD d = a) (hd : d ≠ a) :
    x = some a := by
  cases x with
  | none => exact absurd h hd
  | some b => exact congrArg some h

end

/-! ## The closer of each dialect -/

theorem Flowchart.recognise_eq_close_iff {text : String} :
    Flowchart.Statement.recognise text = .ok .close ↔ text = "end" := by
  constructor
  · intro h
    obtain ⟨d, -, h⟩ := bind_eq_ok_iff.1 h
    cases d with
    | some d => cases h
    | none =>
      replace h : Flowchart.Statement.plain text.toList = .close := Except.ok.inj h
      unfold Flowchart.Statement.plain at h
      split at h
      · cases h
      · split at h
        · cases h
        · split at h
          · rename_i hs
            exact String.toList_inj.1 hs
          · split at h <;> cases h
  · rintro rfl
    rfl

theorem StateChart.plain?_ne_close {s : List Char} (h : s ≠ ['\x7d']) :
    StateChart.Statement.plain? s ≠ some .close := by
  unfold StateChart.Statement.plain?
  rw [if_neg h]
  repeat' apply orElse_ne_some
  · exact map_ne_some (by nofun)
  · exact map_ne_some (by nofun)
  · nofun
  · split
    · nofun
    · nofun
  all_goals exact map_ne_some (by nofun)

theorem StateChart.recognise_eq_close_iff {text : String} :
    StateChart.Statement.recognise text = .ok .close ↔ text = "\x7d" := by
  constructor
  · intro h
    obtain ⟨d, -, h⟩ := bind_eq_ok_iff.1 h
    cases d with
    | some d => cases h
    | none =>
      have hplain := eq_some_of_getD_eq (Except.ok.inj h) (by nofun)
      by_contra hne
      exact plain?_ne_close (fun hs => hne (String.toList_inj.1 hs)) hplain
  · rintro rfl
    rfl

theorem Sequence.plain?_ne_close {s : List Char} (h : s ≠ "end".toList) :
    Sequence.Statement.plain? s ≠ some .close := by
  unfold Sequence.Statement.plain?
  rw [if_neg h]
  repeat' apply orElse_ne_some
  · exact map_ne_some (by nofun)
  · exact map_ne_some (by nofun)
  · exact map_ne_some (by nofun)
  · nofun
  · split
    · nofun
    · nofun
  all_goals exact map_ne_some (by nofun)

theorem Sequence.recognise_eq_close_iff {text : String} :
    Sequence.Statement.recognise text = .ok .close ↔ text = "end" := by
  constructor
  · intro h
    unfold Sequence.Statement.recognise at h
    dsimp only at h
    split at h
    · cases h
    · split at h
      · obtain ⟨position, -, h⟩ := bind_eq_ok_iff.1 h
        cases h
      · have hplain := eq_some_of_getD_eq (Except.ok.inj h) (by split <;> nofun)
        by_contra hne
        exact plain?_ne_close (fun hs => hne (String.toList_inj.1 hs)) hplain
  · rintro rfl
    rfl

theorem Classes.recognise?_ne_close {s : List Char} (h : s ≠ ['\x7d']) :
    Classes.Statement.recognise? s ≠ some .close := by
  unfold Classes.Statement.recognise? Classes.Statement.broken?
  rw [if_neg h]
  repeat' apply orElse_ne_some
  · exact map_ne_some (by nofun)
  · nofun
  · exact map_ne_some (by nofun)
  · exact map_ne_some (by nofun)
  · exact map_ne_some (by nofun)
  · exact map_ne_some (by nofun)
  · exact map_ne_some (by nofun)
  · refine map_ne_some fun t => ?_
    split
    · nofun
    · nofun
  · exact map_ne_some (by nofun)

theorem Classes.recognise_eq_close_iff {text : String} :
    Classes.Statement.recognise text = .close ↔ text = "\x7d" := by
  constructor
  · intro h
    have hsome := eq_some_of_getD_eq h (by nofun)
    by_contra hne
    exact recognise?_ne_close (fun hs => hne (String.toList_inj.1 hs)) hsome
  · rintro rfl
    rfl

theorem Er.recognise_eq_close_iff {text : String} :
    Er.Statement.recognise text = .close ↔ text = "\x7d" := by
  unfold Er.Statement.recognise
  dsimp only
  constructor
  · intro h
    by_contra hne
    rw [if_neg hne] at h
    split at h
    · cases h
    · split at h
      · cases h
      · split at h <;> cases h
  · intro h
    rw [if_pos h]

end DiagramText
