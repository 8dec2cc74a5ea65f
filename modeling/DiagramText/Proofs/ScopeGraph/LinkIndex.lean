import DiagramText.Flowchart.Parse
import DiagramText.Proofs.Faults
import DiagramText.StateChart.Parse

/-!
# Indices of link styles

The only fault of flowcharts and state diagrams is an index of a link style with too many digits.

1. `Directive.exists_recognise?`, for one line.
2. `Flowchart.exists_parse` and `StateChart.exists_parse`; the lines of note blocks are not read at
   all.
-/

namespace DiagramText

open Source (Line)

namespace ScopeGraph

/-- The indices that a line gives to a link style, as they are written. -/
def writtenIndices (l : Line) : List String :=
  ((linkStyle? l.text.toList).map (·.1)).getD []

/-- The indices on a line have at most as many digits as an integer may have. -/
def ShortIndices (l : Line) : Prop := ∀ digits ∈ writtenIndices l, digits.length ≤ 4300

instance (l : Line) : Decidable (ShortIndices l) :=
  inferInstanceAs (Decidable (∀ digits ∈ writtenIndices l, digits.length ≤ 4300))

theorem linkIndex_of_le {digits : String} (h : digits.length ≤ 4300) :
    linkIndex digits = .ok (.index (Text.digitsValue digits.toList)) := if_pos h

/-- A line with short indices, or none, can be tried for a directive. -/
theorem Directive.exists_recognise? {l : Line} (h : ShortIndices l) :
    ∃ d, Directive.recognise? l.text.toList = .ok d := by
  unfold Directive.recognise?
  split
  · exact ⟨_, rfl⟩
  · split
    · exact ⟨_, rfl⟩
    · rename_i indices properties _ hstyle
      have hshort : ∀ digits ∈ indices, digits.length ≤ 4300 := by
        unfold ShortIndices writtenIndices at h
        rwa [hstyle] at h
      obtain ⟨targets, htargets⟩ := exists_mapM_eq_ok_iff.2 fun digits hd =>
        ⟨_, linkIndex_of_le (hshort digits hd)⟩
      exact ⟨_, bind_eq_ok_iff.2 ⟨targets, htargets, rfl⟩⟩
    · exact ⟨_, rfl⟩

end ScopeGraph

open ScopeGraph (ShortIndices)

namespace Flowchart

theorem Statement.exists_recognise {l : Line} (h : ShortIndices l) :
    ∃ s, Statement.recognise l.text = .ok s := by
  obtain ⟨d, hd⟩ := ScopeGraph.Directive.exists_recognise? h
  cases d with
  | none => exact ⟨_, bind_eq_ok_iff.2 ⟨_, hd, rfl⟩⟩
  | some d => exact ⟨_, bind_eq_ok_iff.2 ⟨_, hd, rfl⟩⟩

theorem exists_parse {ls : List Line} (h : ∀ l ∈ ls, ShortIndices l) (direction : String) :
    ∃ p, parse ls direction = .ok p := by
  obtain ⟨xs, hx⟩ := exists_readLines_eq_ok_iff.2 fun l hl =>
    Statement.exists_recognise (h l (List.mem_of_mem_tail hl))
  exact ⟨_, bind_eq_ok_iff.2 ⟨xs, hx, rfl⟩⟩

end Flowchart

namespace StateChart

theorem Statement.exists_recognise {l : Line} (h : ShortIndices l) :
    ∃ s, Statement.recognise l.text = .ok s := by
  obtain ⟨d, hd⟩ := ScopeGraph.Directive.exists_recognise? h
  cases d with
  | none => exact ⟨_, bind_eq_ok_iff.2 ⟨_, hd, rfl⟩⟩
  | some d => exact ⟨_, bind_eq_ok_iff.2 ⟨_, hd, rfl⟩⟩

/-- Leaving out notes adds no lines. -/
theorem outsideNotes_sublist (inNote : Bool) (ls : List Line) :
    (outsideNotes inNote ls).1.Sublist ls := by
  induction ls generalizing inNote with
  | nil => exact List.Sublist.slnil
  | cons l ls ih =>
    cases inNote with
    | true => exact (ih _).cons l
    | false => exact (ih _).cons_cons l

theorem exists_parse {ls : List Line} (h : ∀ l ∈ ls, ShortIndices l) : ∃ p, parse ls = .ok p := by
  have hbody : ∀ l ∈ (outsideNotes false ls.tail).1, ShortIndices l := by
    intro l hl
    exact h l (List.mem_of_mem_tail ((outsideNotes_sublist false ls.tail).subset hl))
  obtain ⟨xs, hx⟩ := exists_readLines_eq_ok_iff.2 fun l hl =>
    Statement.exists_recognise (hbody l hl)
  exact ⟨_, bind_eq_ok_iff.2 ⟨xs, hx, rfl⟩⟩

end StateChart

end DiagramText
