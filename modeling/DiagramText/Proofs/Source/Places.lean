import DiagramText.Proofs.Source.Layout
import DiagramText.Proofs.Source.Scan
import Mathlib.Data.List.Infix

/-!
# The places of logical lines

A logical line says where its text stands: in the physical line of its number, from its column on.

1. Where trimming and splitting leave a text.
2. `Line.LiesIn`, and that every scanned line lies where it says, whether statements are split or
   not.
3. Lines without semicolons, for which splitting makes no difference.
-/

namespace DiagramText

/-! ## Trimming and splitting -/

namespace Text

theorem mem_trimEnd {c : Char} (hc : isBlank c = false) {s : List Char} (h : c ∈ s) :
    c ∈ trimEnd s := by
  induction s with
  | nil => cases h
  | cons d r ih =>
    rw [trimEnd]
    rcases List.mem_cons.1 h with rfl | h
    · split
      · rw [hc]
        exact List.mem_cons_self
      · exact List.mem_cons_self
    · have hmem := ih h
      split
      · rename_i hnil
        rw [hnil] at hmem
        cases hmem
      · rename_i e r' hcons
        rw [hcons] at hmem
        exact List.mem_cons_of_mem _ hmem

theorem mem_trimStart {c : Char} (hc : isBlank c = false) {s : List Char} (h : c ∈ s) :
    c ∈ trimStart s := by
  unfold trimStart
  rw [← List.takeWhile_append_dropWhile (p := isBlank) (l := s)] at h
  rcases List.mem_append.1 h with hblank | h
  · rw [List.all_eq_true.1 List.all_takeWhile c hblank] at hc
    cases hc
  · exact h

/-- Trimming takes away blanks only. -/
theorem mem_trim {c : Char} (hc : isBlank c = false) {s : List Char} (h : c ∈ s) : c ∈ trim s :=
  mem_trimEnd hc (mem_trimStart hc h)

theorem trimEnd_tail {c : Char} {r : List Char} (h : trimEnd (c :: r) = c :: r) :
    trimEnd r = r := by
  rw [trimEnd] at h
  split at h
  · split at h
    · cases h
    · rename_i hr _
      rw [hr]
      exact (List.cons.inj h).2
  · rename_i d r' hr
    rw [hr]
    exact (List.cons.inj h).2

/-- No suffix of a text without blanks at the end has any. -/
theorem trimEnd_of_suffix {s u : List Char} (hs : trimEnd s = s) (h : u <:+ s) :
    trimEnd u = u := by
  obtain ⟨t, rfl⟩ := h
  induction t with
  | nil => exact hs
  | cons c t ih => exact ih (trimEnd_tail hs)

theorem trimEnd_trimEnd (s : List Char) : trimEnd (trimEnd s) = trimEnd s := by
  induction s with
  | nil => rfl
  | cons c r ih =>
    cases hr : trimEnd r with
    | nil =>
      by_cases hc : isBlank c
      · simp [trimEnd, hr, hc]
      · simp [trimEnd, hr, hc]
    | cons d r' =>
      have hcons : trimEnd (c :: r) = c :: trimEnd r := by simp [trimEnd, hr]
      rw [hr] at ih
      rw [hcons, hr, trimEnd, ih]

/-- In a text without blanks at the end, trimming leaves a suffix. -/
theorem trim_suffix {s u : List Char} (hs : trimEnd s = s) (h : u <:+ s) : trim u <:+ u := by
  have hstart := trimStart_isSuffix u
  unfold trim
  rw [trimEnd_of_suffix hs (hstart.trans h)]
  exact hstart

/-- A trimmed text stands behind the blanks at the front. -/
theorem trim_prefix_drop (s : List Char) :
    trim s <+: s.drop (s.length - (trimStart s).length) := by
  rw [← List.suffix_iff_eq_drop.1 (trimStart_isSuffix s)]
  exact trimEnd_isPrefix (trimStart s)

theorem splitWhere_of_forall {p : Char → Bool} {s : List Char} (h : ∀ c ∈ s, p c = false) :
    splitWhere p s = [s] := by
  induction s with
  | nil => rfl
  | cons c r ih =>
    obtain ⟨hc, hr⟩ := List.forall_mem_cons.1 h
    rw [splitWhere, if_neg (ne_true_of_eq_false hc), ih hr]

/-- The first piece of a text stands at its front, and the others are the pieces of what follows
behind one separator. -/
theorem splitWhere_eq_cons {p : Char → Bool} {s piece : List Char} {pieces : List (List Char)}
    (h : splitWhere p s = piece :: pieces) :
    piece <+: s ∧ (pieces = [] ∨ pieces = splitWhere p (s.drop (piece.length + 1))) := by
  induction s generalizing piece with
  | nil =>
    cases h
    exact ⟨List.prefix_rfl, .inl rfl⟩
  | cons c r ih =>
    rw [splitWhere] at h
    by_cases hc : p c
    · rw [if_pos hc] at h
      cases h
      exact ⟨List.nil_prefix, .inr rfl⟩
    · rw [if_neg hc] at h
      cases hr : splitWhere p r with
      | nil => exact absurd hr (splitWhere_ne_nil p r)
      | cons f fs =>
        rw [hr] at h
        cases h
        obtain ⟨hpre, hrest⟩ := ih hr
        exact ⟨List.cons_prefix_cons.2 ⟨rfl, hpre⟩, hrest⟩

end Text

namespace Source

open Text

/-! ## Places -/

/-- The text of a logical line stands in a physical line, from its column on.  It is not empty and
has no blanks at its end. -/
structure Line.LiesOn (raw : List Char) (l : Line) : Prop where
  ne_nil : l.text.toList ≠ []
  trimmed : trimEnd l.text.toList = l.text.toList
  place : ∃ k : Nat, l.column = k + 1 ∧ l.text.toList <+: raw.drop k

/-- A logical line lies where it says among the physical lines of a source. -/
def Line.LiesIn (raws : List (List Char)) (l : Line) : Prop :=
  ∃ (n : Nat) (raw : List Char), raws[n]? = some raw ∧ l.number = n + 1 ∧ l.LiesOn raw

section

variable {number indent offset : Nat} {raw piece : List Char} {l : Line}

theorem liesOn_of_statement? (hpiece : piece <+: raw.drop offset)
    (h : statement? number indent offset piece = some l) : l.number = number ∧ l.LiesOn raw := by
  unfold statement? at h
  dsimp only at h
  split at h
  · cases h
  · rename_i hidle
    cases h
    refine ⟨rfl, ?_, ?_, offset + (piece.length - (trimStart piece).length), by simp, ?_⟩
    · intro hempty
      apply hidle
      rw [String.toList_ofList] at hempty
      rw [hempty]
      rfl
    · rw [String.toList_ofList]
      exact trimEnd_trimEnd (trimStart piece)
    · rw [String.toList_ofList, ← List.drop_drop]
      exact (trim_prefix_drop piece).trans (hpiece.drop _)

/-- Every piece of a line stands behind the pieces and semicolons in front of it. -/
theorem liesOn_of_mem_statements {pieces : List (List Char)}
    (hpieces : pieces = [] ∨ pieces = splitOn ';' (raw.drop offset))
    (h : l ∈ statements number indent offset pieces) : l.number = number ∧ l.LiesOn raw := by
  induction pieces generalizing offset with
  | nil => cases h
  | cons piece pieces ih =>
    have hsplit : splitOn ';' (raw.drop offset) = piece :: pieces := by
      rcases hpieces with hpieces | hpieces
      · cases hpieces
      · exact hpieces.symm
    obtain ⟨hpre, hrest⟩ := splitWhere_eq_cons hsplit
    rw [List.drop_drop] at hrest
    rcases List.mem_append.1 h with h | h
    · exact liesOn_of_statement? hpre (Option.mem_toList.1 h)
    · exact ih hrest h

theorem liesOn_of_mem_ofPhysical {split : Bool} (h : l ∈ ofPhysical split number raw) :
    l.number = number ∧ l.LiesOn raw := by
  unfold ofPhysical at h
  dsimp only at h
  split at h
  · cases h
  · cases split with
    | true => exact liesOn_of_mem_statements (.inr rfl) h
    | false => exact liesOn_of_statement? List.prefix_rfl (Option.mem_toList.1 h)

theorem liesOn_of_mem_ofBody {split : Bool} {raws : List (List Char)}
    (h : l ∈ ofBody split number raws) :
    ∃ i raw, raws[i]? = some raw ∧ l.number = ↑(number + i) ∧ l.LiesOn raw := by
  induction raws generalizing number with
  | nil => cases h
  | cons raw raws ih =>
    rcases List.mem_append.1 h with h | h
    · obtain ⟨hnumber, hlies⟩ := liesOn_of_mem_ofPhysical h
      exact ⟨0, raw, rfl, hnumber, hlies⟩
    · obtain ⟨i, raw', hraw, hnumber, hlies⟩ := ih h
      refine ⟨i + 1, raw', hraw, ?_, hlies⟩
      rw [hnumber]
      omega

end

/-- Every logical line of a source lies where it says. -/
theorem liesIn_of_mem_scan {source : String} {split : Bool} {l : Line}
    (h : l ∈ scan source split) : l.LiesIn (lines source.toList) := by
  obtain ⟨i, raw, hraw, hnumber, hlies⟩ := liesOn_of_mem_ofBody h
  rw [List.getElem?_drop] at hraw
  refine ⟨_, raw, hraw, ?_, hlies⟩
  rw [hnumber]
  omega

/-- What stands in the text of a line behind an offset stands in the physical line behind the column
and that offset. -/
theorem Line.LiesOn.prefix_drop {raw t : List Char} {l : Line} (h : l.LiesOn raw) {k : Nat}
    (ht : t <+: l.text.toList.drop k) : t <+: raw.drop (l.column + k - 1).toNat := by
  obtain ⟨j, hcolumn, hpre⟩ := h.place
  have hplace : (l.column + k - 1).toNat = j + k := by omega
  rw [hplace, ← List.drop_drop]
  exact ht.trans (hpre.drop k)

/-- A place inside the text of a line is a place inside the physical line. -/
theorem Line.LiesOn.column_le {raw : List Char} {l : Line} (h : l.LiesOn raw) {k : Nat}
    (hk : k = 0 ∨ k < l.text.toList.length) :
    1 ≤ l.column + k ∧ l.column + k ≤ raw.length := by
  obtain ⟨j, hcolumn, hpre⟩ := h.place
  have hpos := List.length_pos_iff.2 h.ne_nil
  have hlength := hpre.length_le
  rw [List.length_drop] at hlength
  constructor
  · omega
  · rcases hk with rfl | hk
    · omega
    · omega

/-! ## Lines without semicolons -/

/-- A line without a semicolon is one statement, split or not. -/
theorem ofPhysical_true {number : Nat} {raw : List Char}
    (h : ∀ l ∈ ofPhysical false number raw, ';' ∉ l.text.toList) :
    ofPhysical true number raw = ofPhysical false number raw := by
  by_cases hidle : isIdle raw
  · rw [ofPhysical_of_isIdle hidle, ofPhysical_of_isIdle hidle]
  · have hidle' : ¬(trim raw == [] || isComment (trim raw)) = true := hidle
    have hsep : ∀ c ∈ raw, (c == ';') = false := by
      intro c hc
      apply beq_false_of_ne
      rintro rfl
      have hmem : ';' ∈ trim raw := mem_trim (by decide) hc
      unfold ofPhysical statement? at h
      simp only [if_neg hidle', Bool.false_eq_true, if_false, Option.toList_some,
        List.forall_mem_singleton, String.toList_ofList] at h
      exact h hmem
    unfold ofPhysical splitOn
    dsimp only
    rw [if_neg hidle', if_neg hidle', if_pos rfl, if_neg Bool.false_ne_true,
      splitWhere_of_forall hsep]
    exact List.append_nil _

theorem ofBody_true {number : Nat} {raws : List (List Char)}
    (h : ∀ l ∈ ofBody false number raws, ';' ∉ l.text.toList) :
    ofBody true number raws = ofBody false number raws := by
  induction raws generalizing number with
  | nil => rfl
  | cons raw raws ih =>
    obtain ⟨hraw, hraws⟩ := List.forall_mem_append.1 h
    rw [ofBody, ofBody, ofPhysical_true hraw, ih hraws]

/-- Splitting at semicolons makes no difference to lines without any. -/
theorem scan_true {source : String} (h : ∀ l ∈ scan source false, ';' ∉ l.text.toList) :
    scan source true = scan source false := ofBody_true h

end Source

end DiagramText
