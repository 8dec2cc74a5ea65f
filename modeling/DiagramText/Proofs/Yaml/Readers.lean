import DiagramText.Yaml.Property
import DiagramText.Yaml.Scalar.Block
import DiagramText.Yaml.Scalar.Plain
import DiagramText.Yaml.Scalar.Quoted

/-!
# Readers stay inside the text

A text with `N` line breaks has the lines `0` to `N`.  No reader of a part of a text leaves them:
the place behind the part is on one of them, and so is the line of a failure.

1. `Stays N P x`: failures of `x` are inside, and its result satisfies `P`.
2. `Cursor.Within N`, which every step of a cursor keeps.
3. Names, tags and directives.
4. Block scalars, plain scalars and quoted scalars.
-/

namespace DiagramText.Yaml

variable {N : Nat} {α β : Type}

/-! ## Failures inside a text -/

/-- A failure on one of the lines `0` to `N`. -/
def Failure.Within (N : Nat) : Failure → Prop
  | .malformed _ line => line ≤ N
  | .fault _ => True

/-- A computation whose failures are inside the first lines and whose result satisfies `P`. -/
inductive Stays (N : Nat) (P : α → Prop) : Except Failure α → Prop
  | ok {a : α} (h : P a) : Stays N P (.ok a)
  | error {e : Failure} (h : e.Within N) : Stays N P (.error e)

theorem Stays.bind {P : α → Prop} {Q : β → Prop} {x : Except Failure α} {g : α → Except Failure β}
    (hx : Stays N P x) (hg : ∀ a, P a → Stays N Q (g a)) : Stays N Q (x >>= g) := by
  cases hx with
  | ok ha => exact hg _ ha
  | error he => exact .error he

theorem Stays.map {P : α → Prop} {Q : β → Prop} {x : Except Failure α} {g : α → β}
    (hx : Stays N P x) (hg : ∀ a, P a → Q (g a)) : Stays N Q (x.map g) := by
  cases hx with
  | ok ha => exact .ok (hg _ ha)
  | error he => exact .error he

/-! ## Cursors -/

namespace Cursor

/-- The rest of the text ends on one of the lines `0` to `N`. -/
def Within (N : Nat) (c : Cursor) : Prop := c.line + c.rest.count '\n' ≤ N

variable {c : Cursor}

theorem Within.line_le (h : c.Within N) : c.line ≤ N := Nat.le_trans (Nat.le_add_right _ _) h

theorem Within.next (h : c.Within N) : c.next.Within N := by
  unfold Cursor.next
  split
  · exact h
  · rename_i ch r hrest
    unfold Within at h ⊢
    rw [hrest] at h
    by_cases hch : ch = '\n'
    · rw [if_pos hch]
      rw [hch, List.count_cons_self] at h
      dsimp only
      omega
    · rw [if_neg hch]
      rw [List.count_cons_of_ne hch] at h
      exact h

theorem Within.skip (n : Nat) (h : c.Within N) : (skip n c).Within N := by
  induction n generalizing c with
  | zero => exact h
  | succ n ih => exact ih h.next

theorem Within.run (p : Char → Bool) (h : c.Within N) : (c.run p).2.Within N := h.skip _

theorem Within.skipRun (p : Char → Bool) (h : c.Within N) : (c.skipRun p).Within N := h.run p

theorem Within.fail {P : α → Prop} (h : c.Within N) (problem : String) :
    Stays N P (c.fail problem) := .error h.line_le

theorem Within.unexpected {P : α → Prop} (h : c.Within N) (expected : String) :
    Stays N P (c.unexpected expected) := h.fail _

end Cursor

/-- What a reader leaves is inside the text. -/
abbrev Leaves (N : Nat) (r : α × Cursor) : Prop := r.2.Within N

variable {c : Cursor}

theorem stays_ignoredLine (h : c.Within N) : Stays N (Cursor.Within N) (ignoredLine c) := by
  have hspaces := h.skipRun (· == ' ')
  unfold ignoredLine
  dsimp only
  split
  · split
    · exact .ok ((hspaces.skipRun _).next)
    · exact (hspaces.skipRun _).unexpected _
  · split
    · exact .ok hspaces.next
    · exact hspaces.unexpected _

/-! ## Names, tags and directives -/

theorem stays_nameBefore (ends : Char → Bool) (h : c.Within N) :
    Stays N (Leaves N) (nameBefore ends c) := by
  have hrun := h.run isNameChar
  unfold nameBefore
  dsimp only
  split
  · exact hrun.unexpected _
  · exact .ok hrun

theorem stays_escapedBytes (fuel : Nat) (h : c.Within N) :
    Stays N (Leaves N) (escapedBytes fuel c) := by
  induction fuel generalizing c with
  | zero => exact .ok h
  | succ fuel ih =>
    unfold escapedBytes
    dsimp only
    split
    · split
      · exact h.fail _
      · exact Stays.bind (ih (h.skip 3)) fun r hr => .ok hr
    · exact .ok h

theorem stays_tagChars (fuel : Nat) (h : c.Within N) :
    Stays N (Leaves N) (tagChars fuel c) := by
  induction fuel generalizing c with
  | zero => exact .ok h
  | succ fuel ih =>
    unfold tagChars
    split
    · refine Stays.bind (stays_escapedBytes _ h) fun r hr => ?_
      dsimp only
      split
      · exact h.fail _
      · exact Stays.bind (ih hr) fun r hr => .ok hr
    · split
      · exact Stays.bind (ih h.next) fun r hr => .ok hr
      · exact .ok h

theorem stays_tagSuffix (h : c.Within N) : Stays N (Leaves N) (tagSuffix c) := by
  unfold tagSuffix
  split
  · exact Stays.bind (stays_tagChars _ h) fun r hr => .ok hr
  · exact h.unexpected _

theorem stays_tagHandle (h : c.Within N) : Stays N (Leaves N) (tagHandle c) := by
  have hrun := h.next.run isNameChar
  unfold tagHandle
  dsimp only
  split
  · exact h.unexpected _
  · split
    · exact .ok h.next
    · split
      · exact hrun.unexpected _
      · exact .ok hrun.next

theorem stays_tag (h : c.Within N) : Stays N (Leaves N) (tag c) := by
  have hend (found : Option String × String) {d : Cursor} (hd : d.Within N) :
      Stays N (Leaves N) (if isSpaceOrEnd d.peek then pure (found, d) else d.unexpected "' '") := by
    split
    · exact .ok hd
    · exact hd.unexpected _
  unfold tag
  dsimp only
  split
  · refine Stays.bind (stays_tagSuffix (h.skip 2)) fun r hr => ?_
    split
    · exact hend _ (Cursor.Within.next hr)
    · exact Stays.bind (P := Leaves N) (Cursor.Within.unexpected hr _) fun r hr => hend _ hr
  · split
    · exact hend _ h.next
    · split
      · refine Stays.bind (stays_tagHandle h) fun r hr => ?_
        exact Stays.bind (stays_tagSuffix hr) fun r hr => hend _ hr
      · rw [pure_bind]
        exact Stays.bind (stays_tagSuffix h.next) fun r hr => hend _ hr

theorem stays_versionNumber (h : c.Within N) : Stays N (Leaves N) (versionNumber c) := by
  unfold versionNumber
  dsimp only
  split
  · exact h.unexpected _
  · split
    · exact .error trivial
    · exact .ok (h.run _)

theorem stays_version (h : c.Within N) : Stays N (Leaves N) (version c) := by
  unfold version
  refine Stays.bind (stays_versionNumber h) fun r hr => ?_
  dsimp only
  split
  · exact Cursor.Within.unexpected hr _
  · refine Stays.bind (stays_versionNumber (Cursor.Within.next hr)) fun r hr => ?_
    split
    · exact .ok hr
    · exact Cursor.Within.unexpected hr _

theorem stays_handleExpansion (h : c.Within N) : Stays N (Leaves N) (handleExpansion c) := by
  unfold handleExpansion
  refine Stays.bind (stays_tagHandle h) fun r hr => ?_
  dsimp only
  split
  · exact Cursor.Within.unexpected hr _
  · refine Stays.bind (stays_tagSuffix (Cursor.Within.skipRun _ hr)) fun r hr => ?_
    split
    · exact .ok hr
    · exact Cursor.Within.unexpected hr _

theorem stays_directive (h : c.Within N) : Stays N (Leaves N) (directive c) := by
  have hend (found : Directive) {d : Cursor} (hd : d.Within N) :
      Stays N (Leaves N) (do return (found, ← ignoredLine d)) :=
    Stays.bind (stays_ignoredLine hd) fun e he => .ok he
  unfold directive
  refine Stays.bind (stays_nameBefore _ h.next) fun r hr => ?_
  dsimp only
  split
  · exact Stays.bind (stays_version (Cursor.Within.skipRun _ hr)) fun r hr => hend _ hr
  · split
    · exact Stays.bind (stays_handleExpansion (Cursor.Within.skipRun _ hr)) fun r hr => hend _ hr
    · rw [pure_bind]
      exact hend _ (Cursor.Within.skipRun _ hr)

/-! ## Block scalars -/

theorem within_chomping? (h : c.Within N) : (chomping? c).2.Within N := by
  unfold chomping?
  split
  · exact h.next
  · split
    · exact h.next
    · exact h

theorem stays_increment? (h : c.Within N) : Stays N (Leaves N) (increment? c) := by
  unfold increment?
  split
  · exact h.fail _
  · split
    · exact .ok h.next
    · exact .ok h

theorem stays_indicators (h : c.Within N) :
    Stays N (fun r => r.2.2.Within N) (indicators c) := by
  have hfirst := within_chomping? h
  unfold indicators
  dsimp only
  refine Stays.bind (stays_increment? hfirst) fun r hr => ?_
  have hsecond : (if (chomping? c).1.isNone then chomping? r.2 else (none, r.2)).2.Within N := by
    split
    · exact within_chomping? hr
    · exact hr
  generalize (if (chomping? c).1.isNone then chomping? r.2 else (none, r.2)) = second at hsecond ⊢
  split
  · exact Stays.bind (stays_ignoredLine hsecond) fun d hd => .ok hd
  · exact hsecond.unexpected _

theorem within_toIndent (indent : Nat) (h : c.Within N) : (toIndent indent c).Within N := h.skip _

theorem within_emptyLines (indent fuel : Nat) (h : c.Within N) :
    (emptyLines indent fuel c).2.Within N := by
  induction fuel generalizing c with
  | zero => exact h
  | succ fuel ih =>
    have hindent := within_toIndent indent h
    unfold emptyLines
    dsimp only
    split
    · exact ih hindent.next
    · exact hindent

theorem within_leadingLines (fuel width : Nat) (h : c.Within N) :
    (leadingLines fuel width c).2.2.Within N := by
  induction fuel generalizing c width with
  | zero => exact h
  | succ fuel ih =>
    unfold leadingLines
    split
    · exact ih _ h.next
    · split
      · exact ih _ h.next
      · exact h

theorem within_blockLines (folded : Bool) (indent fuel empty : Nat) (h : c.Within N) :
    (blockLines folded indent fuel empty c).rest.Within N := by
  induction fuel generalizing c empty with
  | zero => exact h
  | succ fuel ih =>
    have hline := within_emptyLines indent
      ((c.run (!isLineEnd ·)).2.rest.length + 1) (h.run (!isLineEnd ·)).next
    unfold blockLines
    dsimp only
    split
    · split
      · exact ih _ hline
      · exact hline
    · exact h

theorem stays_blockScalar (folded : Bool) (parentIndent : Int) (h : c.Within N) :
    Stays N (Leaves N) (blockScalar folded parentIndent c) := by
  unfold blockScalar
  refine Stays.bind (stays_indicators h) fun r hr => ?_
  obtain ⟨chomping, increment, c⟩ := r
  cases increment with
  | some n =>
    have hempty := within_emptyLines ((max (parentIndent + 1) 1).toNat + n - 1)
      (c.rest.length + 1) hr
    exact .ok (within_blockLines folded _ _ _ hempty)
  | none =>
    have hempty := within_leadingLines (c.rest.length + 1) 0 hr
    exact .ok (within_blockLines folded _ _ _ hempty)

/-! ## Plain scalars -/

/-- Both places that a run of empty lines gives are inside the text. -/
theorem within_plainBreaks (fuel : Nat) (h : c.Within N) :
    (∀ r ∈ (plainBreaks fuel c).1, r.2.Within N) ∧ (plainBreaks fuel c).2.Within N := by
  induction fuel generalizing c with
  | zero =>
    refine ⟨?_, h⟩
    rintro r ⟨rfl⟩
    exact h
  | succ fuel ih =>
    unfold plainBreaks
    split
    · exact ih h.next
    · split
      · split
        · exact ⟨nofun, h.next⟩
        · have hrest := ih h.next
          rcases hb : plainBreaks fuel c.next with ⟨_ | ⟨n, d⟩, e⟩
          · rw [hb] at hrest
            exact ⟨nofun, hrest.2⟩
          · rw [hb] at hrest
            refine ⟨?_, hrest.2⟩
            rintro r ⟨rfl⟩
            exact hrest.1 (n, d) rfl
      · refine ⟨?_, h⟩
        rintro r ⟨rfl⟩
        exact h

theorem within_plainGap (h : c.Within N) : (plainGap c).rest.Within N := by
  have hspaces := h.run (· == ' ')
  unfold plainGap
  dsimp only
  split
  · split
    · exact hspaces.next
    · have hbreaks := within_plainBreaks ((c.run (· == ' ')).2.next.rest.length + 1) hspaces.next
      split
      · rename_i n d e hb
        rw [hb] at hbreaks
        exact hbreaks.1 (n, d) rfl
      · rename_i e hb
        rw [hb] at hbreaks
        exact hbreaks.2
  · exact hspaces

theorem within_plainRuns (flow : Bool) (indent : Int) (fuel : Nat) {front : PlainGap}
    (h : front.rest.Within N) : (plainRuns flow indent fuel front).rest.Within N := by
  induction fuel generalizing front with
  | zero => exact h
  | succ fuel ih =>
    unfold plainRuns
    dsimp only
    generalize (if front.rest.peek = '#' then 0 else plainRunLength flow front.rest.rest) = length
    split
    · exact h
    · split
      · exact within_plainGap (h.skip _)
      · exact ih (within_plainGap (h.skip _))

theorem within_plainScalar (flow : Bool) (parentIndent : Int) (h : c.Within N) :
    (plainScalar flow parentIndent c).rest.Within N := within_plainRuns _ _ _ h

/-! ## Quoted scalars -/

theorem stays_hexEscape (width : Nat) (h : c.Within N) :
    Stays N (Leaves N) (hexEscape width c) := by
  unfold hexEscape
  dsimp only
  split
  · exact h.fail _
  · split
    · exact .ok (h.skip width)
    · exact .error trivial

theorem stays_quotedBreaks (fuel : Nat) (h : c.Within N) :
    Stays N (Leaves N) (quotedBreaks fuel c) := by
  induction fuel generalizing c with
  | zero => exact .ok h
  | succ fuel ih =>
    have hgap := h.skipRun isGap
    unfold quotedBreaks
    dsimp only
    split
    · exact h.fail _
    · split
      · exact Stays.bind (ih hgap.next) fun r hr => .ok hr
      · exact .ok hgap

theorem stays_escapeSequence (h : c.Within N) : Stays N (Leaves N) (escapeSequence c) := by
  unfold escapeSequence
  split
  · exact .ok h.next
  · split
    · exact Stays.bind (stays_hexEscape _ h.next) fun r hr => .ok hr
    · split
      · exact Stays.bind (stays_quotedBreaks _ h.next) fun r hr => .ok hr
      · exact h.fail _

theorem stays_quotedRun (double : Bool) (fuel : Nat) (h : c.Within N) :
    Stays N (Leaves N) (quotedRun double fuel c) := by
  induction fuel generalizing c with
  | zero => exact .ok h
  | succ fuel ih =>
    unfold quotedRun
    dsimp only
    split
    · exact .ok h
    · split
      · split
        · exact Stays.bind (ih h.next.next) fun r hr => .ok hr
        · exact .ok h
      · split
        · exact .ok h
        · split
          · refine Stays.bind (stays_escapeSequence h.next) fun r hr => ?_
            exact Stays.bind (ih hr) fun r hr => .ok hr
          · exact Stays.bind (ih h.next) fun r hr => .ok hr

theorem stays_quotedGap (h : c.Within N) : Stays N (Leaves N) (quotedGap c) := by
  have hgap := h.run isGap
  unfold quotedGap
  dsimp only
  split
  · exact hgap.fail _
  · split
    · exact Stays.bind (stays_quotedBreaks _ hgap.next) fun r hr => .ok hr
    · exact .ok hgap

theorem stays_quotedRest (double : Bool) (fuel : Nat) (h : c.Within N) :
    Stays N (Leaves N) (quotedRest double fuel c) := by
  induction fuel generalizing c with
  | zero => exact .ok h
  | succ fuel ih =>
    unfold quotedRest
    refine Stays.bind (stays_quotedRun double _ h) fun r hr => ?_
    dsimp only
    generalize (if double = true then '"' else '\'') = quote
    split
    · exact .ok (Cursor.Within.next hr)
    · refine Stays.bind (stays_quotedGap hr) fun r hr => ?_
      exact Stays.bind (ih hr) fun r hr => .ok hr

theorem stays_quotedScalar (double : Bool) (h : c.Within N) :
    Stays N (Leaves N) (quotedScalar double c) := by
  unfold quotedScalar
  exact Stays.bind (stays_quotedRest double _ h) fun r hr => .ok hr

end DiagramText.Yaml
