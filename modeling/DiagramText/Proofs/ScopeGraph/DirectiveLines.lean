import DiagramText.Proofs.Closers

/-!
# Lines that are style directives

Both families of graphs try a line for a style directive before anything else, except that the lines
of a note block in a state diagram are not tried at all.

1. `isDirective`, and the letters with which a directive can start.
2. `ObeysDirectives`: the statement of a line is a directive if and only if the line is one, and it
   is obeyed.  So it is in both families.
3. A directive neither opens nor closes a note block, so directives can be taken out of the lines of
   a state diagram before or after its notes.
-/

namespace DiagramText

open Source (Line)
open Text

namespace ScopeGraph

/-- Whether a line is a style directive, well-formed or malformed; one with an index that is too
long counts as well. -/
def isDirective (l : Line) : Bool :=
  match Directive.recognise? l.text.toList with
  | .ok none => false
  | _ => true

theorem isDirective_eq_false_iff {l : Line} :
    isDirective l = false ↔ Directive.recognise? l.text.toList = .ok none := by
  unfold isDirective
  split
  · rename_i h
    exact iff_of_true rfl h
  · rename_i h
    exact iff_of_false (by decide) h

theorem isDirective_of_recognise? {l : Line} {d : Option Directive}
    (h : Directive.recognise? l.text.toList = .ok d) : isDirective l = d.isSome := by
  unfold isDirective
  rw [h]
  cases d <;> rfl

theorem literal?_of_head {a : Char} {w s : List Char} (hw : w.head? = some a)
    (h : ∀ c ∈ s.head?, c ≠ a) : literal? w s = none := by
  cases w with
  | nil => cases hw
  | cons b w =>
    cases hw
    cases s with
    | nil => rfl
    | cons c s => exact if_neg (Ne.symm (h c rfl))

/-- Every directive starts with a keyword and a gap. -/
theorem recognise?_of_gap {s : List Char}
    (h : ∀ w ∈ ["classDef", "class", "style", "linkStyle"], (literal? w.toList s).bind gap? = none) :
    Directive.recognise? s = .ok none := by
  have hlooks : looksLikeDirective s = false := by
    refine List.any_eq_false.2 fun w hw => ?_
    rw [h w hw]
    exact Bool.false_ne_true
  unfold Directive.recognise? classDef? assign? style? linkStyle?
  simp only [Option.bind_eq_bind]
  rw [← Option.bind_assoc, ← Option.bind_assoc, ← Option.bind_assoc, ← Option.bind_assoc,
    h "classDef" (by decide), h "class" (by decide), h "style" (by decide),
    h "linkStyle" (by decide), hlooks]
  rfl

/-- Every directive starts with the first letter of its keyword. -/
theorem recognise?_of_head {s : List Char} (h : ∀ c ∈ s.head?, c ≠ 'c' ∧ c ≠ 's' ∧ c ≠ 'l') :
    Directive.recognise? s = .ok none := by
  have hheads : ∀ w ∈ ["classDef", "class", "style", "linkStyle"],
      w.toList.head? = some 'c' ∨ w.toList.head? = some 's' ∨ w.toList.head? = some 'l' := by
    decide
  refine recognise?_of_gap fun w hw => ?_
  have hnone : literal? w.toList s = none := by
    rcases hheads w hw with hc | hs | hl
    · exact literal?_of_head hc fun c hmem => (h c hmem).1
    · exact literal?_of_head hs fun c hmem => (h c hmem).2.1
    · exact literal?_of_head hl fun c hmem => (h c hmem).2.2
  rw [hnone]
  rfl

theorem exists_head_of_isDirective {l : Line} (h : isDirective l = true) :
    ∃ c r, l.text.toList = c :: r ∧ (c = 'c' ∨ c = 's' ∨ c = 'l') := by
  by_contra hne
  have hhead : Directive.recognise? l.text.toList = .ok none := by
    refine recognise?_of_head fun c hc => ?_
    cases hs : l.text.toList with
    | nil =>
      rw [hs] at hc
      cases hc
    | cons d r =>
      rw [hs] at hc
      cases hc
      exact not_or.1 (fun hd => hne ⟨c, r, hs, hd.elim .inl fun hd => .inr hd⟩) |>.imp_right
        not_or.1
  rw [isDirective_eq_false_iff.2 hhead] at h
  cases h

/-! ## Statements -/

/-- What the two families have in common: the statements of lines, which `read` gives and `step`
takes, are the style directives and others, and every line that is no directive has a statement. -/
structure ObeysDirectives {σ : Type} (read : String → Except Fault σ)
    (step : State → Line × σ → State) (directive? : σ → Option Directive) : Prop where
  recognise : ∀ {l : Line} {s : σ}, read l.text = .ok s →
    Directive.recognise? l.text.toList = .ok (directive? s)
  plain : ∀ {l : Line}, isDirective l = false → ∃ s, read l.text = .ok s
  step : ∀ {st : State} {l : Line} {s : σ} {d : Directive}, directive? s = some d →
    step st (l, s) = st.applyDirective l d

theorem ObeysDirectives.isDirective_eq {σ : Type} {read : String → Except Fault σ}
    {step : State → Line × σ → State} {directive? : σ → Option Directive}
    (h : ObeysDirectives read step directive?) {l : Line} {s : σ} (hs : read l.text = .ok s) :
    isDirective l = (directive? s).isSome :=
  isDirective_of_recognise? (h.recognise hs)

end ScopeGraph

open ScopeGraph (Directive isDirective isDirective_eq_false_iff ObeysDirectives)

namespace Flowchart

/-- The directive of a statement that is one. -/
def Statement.directive? : Statement → Option Directive
  | .directive d => some d
  | _ => none

theorem Statement.directive?_plain (s : List Char) : (Statement.plain s).directive? = none := by
  unfold Statement.plain
  repeat' split
  all_goals rfl

theorem Statement.directive?_of_recognise {l : Line} {s : Statement}
    (h : Statement.recognise l.text = .ok s) :
    Directive.recognise? l.text.toList = .ok s.directive? := by
  obtain ⟨d, hd, h⟩ := bind_eq_ok_iff.1 h
  cases d with
  | some d => cases h; exact hd
  | none =>
    cases h
    rw [Statement.directive?_plain]
    exact hd

theorem obeysDirectives : ObeysDirectives Statement.recognise step Statement.directive? where
  recognise := Statement.directive?_of_recognise
  plain h := ⟨_, bind_eq_ok_iff.2 ⟨none, isDirective_eq_false_iff.1 h, rfl⟩⟩
  step := by
    intro st l s d hd
    cases s <;> cases hd
    rfl

end Flowchart

namespace StateChart

/-- The directive of a statement that is one. -/
def Statement.directive? : Statement → Option Directive
  | .directive d => some d
  | _ => none

theorem Statement.plain?_ne_directive (s : List Char) (d : Directive) :
    Statement.plain? s ≠ some (.directive d) := by
  unfold Statement.plain?
  repeat' apply orElse_ne_some
  · exact map_ne_some (by nofun)
  · exact map_ne_some (by nofun)
  · split <;> nofun
  · split <;> nofun
  all_goals exact map_ne_some (by nofun)

theorem Statement.directive?_of_recognise {l : Line} {s : Statement}
    (h : Statement.recognise l.text = .ok s) :
    Directive.recognise? l.text.toList = .ok s.directive? := by
  obtain ⟨d, hd, h⟩ := bind_eq_ok_iff.1 h
  cases d with
  | some d => cases h; exact hd
  | none =>
    cases h
    cases hplain : (Statement.plain? l.text.toList).getD .unrecognised with
    | directive d =>
      exact absurd (eq_some_of_getD_eq hplain nofun) (Statement.plain?_ne_directive _ d)
    | _ => exact hd

theorem obeysDirectives : ObeysDirectives Statement.recognise step Statement.directive? where
  recognise := Statement.directive?_of_recognise
  plain h := ⟨_, bind_eq_ok_iff.2 ⟨none, isDirective_eq_false_iff.1 h, rfl⟩⟩
  step := by
    intro st l s d hd
    cases s <;> cases hd
    rfl

/-! ## Notes -/

theorem caselessRest?_of_head {a c : Char} {w s : List Char} (h : fold a ≠ fold c) :
    caselessRest? (a :: w) (c :: s) = none := by
  unfold caselessRest? caseless?
  rw [if_neg h]
  rfl

/-- A directive starts with another letter than a note and the end of a note. -/
theorem not_note_of_isDirective {l : Line} (h : isDirective l = true) :
    note? l.text.toList = none ∧ isNoteEnd l.text = false := by
  obtain ⟨c, r, hs, hc⟩ := ScopeGraph.exists_head_of_isDirective h
  have hnote : caselessRest? "note".toList (c :: r) = none := by
    rcases hc with rfl | rfl | rfl <;> exact caselessRest?_of_head (by decide)
  have hend : caselessRest? "end".toList (c :: r) = none := by
    rcases hc with rfl | rfl | rfl <;> exact caselessRest?_of_head (by decide)
  unfold note? isNoteEnd
  rw [hs, hnote, hend]
  exact ⟨rfl, rfl⟩

/-- Directives may be taken out before the notes are left out, or afterwards. -/
theorem outsideNotes_filter (inNote : Bool) (ls : List Line) :
    outsideNotes inNote (ls.filter (!isDirective ·)) =
      ((outsideNotes inNote ls).1.filter (!isDirective ·), (outsideNotes inNote ls).2) := by
  induction ls generalizing inNote with
  | nil => rfl
  | cons l ls ih =>
    by_cases hl : isDirective l = true
    · obtain ⟨hnote, hend⟩ := not_note_of_isDirective hl
      rw [List.filter_cons_of_neg (by simp [hl])]
      cases inNote with
      | true => rw [outsideNotes, hend, ih]; rfl
      | false =>
        rw [outsideNotes, hnote, ih]
        show _ = ((l :: (outsideNotes false ls).1).filter (!isDirective ·), _)
        rw [List.filter_cons_of_neg (by simp [hl])]
        rfl
    · rw [List.filter_cons_of_pos (by simpa using hl)]
      cases inNote with
      | true => rw [outsideNotes, outsideNotes, ih]
      | false =>
        rw [outsideNotes, outsideNotes, ih]
        show (l :: _, _) = ((l :: _ : List Line).filter (!isDirective ·), _)
        rw [List.filter_cons_of_pos (by simpa using hl)]

/-- Directives are read outside a note block, and passed over inside one. -/
theorem outsideNotes_of_isDirective (inNote : Bool) {ls : List Line}
    (h : ∀ l ∈ ls, isDirective l = true) :
    outsideNotes inNote ls = (if inNote then [] else ls, inNote) := by
  induction ls with
  | nil => cases inNote <;> rfl
  | cons l ls ih =>
    obtain ⟨hl, hls⟩ := List.forall_mem_cons.1 h
    obtain ⟨hnote, hend⟩ := not_note_of_isDirective hl
    cases inNote with
    | true =>
      rw [outsideNotes, hend]
      exact ih hls
    | false =>
      rw [outsideNotes, hnote]
      show (l :: (outsideNotes false ls).1, (outsideNotes false ls).2) = _
      rw [ih hls]
      rfl

end StateChart

end DiagramText
