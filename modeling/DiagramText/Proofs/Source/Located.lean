import DiagramText.Proofs.Text.Solid
import Mathlib.Data.List.Pairwise

/-!
# Logical lines in the order of the source

A logical line tells exactly where it stands, and the logical lines of a source stand one behind the
other.  On one physical line they are kept apart by a semicolon.

1. `statement?_eq_some_iff`: the trimmed text of a piece, and the columns that it takes up.
2. `Line.Precedes`, the order of two lines, and `pairwise_scan`.
3. `filter_number_scan`: the logical lines of one physical line.
4. `scanned_lines_are_located`.
-/

namespace DiagramText.Source

open Text

section

variable {number indent offset : Nat} {raw piece : List Char} {l m : Line}

/-! ## Pieces -/

/-- The only reasons for a piece to hold no statement. -/
theorem statement?_eq_ite :
    statement? number indent offset piece =
      if isIdle piece then none
      else
        some ⟨number, String.ofList (trim piece), indent,
          ↑(offset + (piece.length - (trimStart piece).length) + 1)⟩ := rfl

theorem statement?_eq_some_iff :
    statement? number indent offset piece = some l ↔
      isIdle piece = false ∧
        l = ⟨number, String.ofList (trim piece), indent,
          ↑(offset + (piece.length - (trimStart piece).length) + 1)⟩ := by
  rw [statement?_eq_ite, Option.ite_none_left_eq_some, Bool.not_eq_true, Option.some.injEq,
    @eq_comm _ l]

theorem number_of_statement? (h : statement? number indent offset piece = some l) :
    l.number = number := by
  obtain ⟨-, rfl⟩ := statement?_eq_some_iff.1 h
  rfl

theorem text_of_statement? (h : statement? number indent offset piece = some l) :
    l.text.toList = trim piece := by
  obtain ⟨-, rfl⟩ := statement?_eq_some_iff.1 h
  exact String.toList_ofList

/-- The text of a statement lies within the columns of its piece. -/
theorem column_of_statement? (h : statement? number indent offset piece = some l) :
    (offset : Int) < l.column ∧ l.column + l.text.toList.length ≤ offset + piece.length + 1 := by
  have hstart := (trimStart_isSuffix piece).length_le
  have hend : (trim piece).length ≤ (trimStart piece).length := (trimEnd_isPrefix _).length_le
  rw [text_of_statement? h]
  obtain ⟨-, rfl⟩ := statement?_eq_some_iff.1 h
  dsimp only
  omega

/-- Every logical line comes from a piece of a physical line. -/
theorem exists_piece_of_mem_statements {pieces : List (List Char)}
    (h : l ∈ statements number indent offset pieces) :
    ∃ offset' piece, statement? number indent offset' piece = some l := by
  induction pieces generalizing offset with
  | nil => cases h
  | cons piece pieces ih =>
    rcases List.mem_append.1 h with h | h
    · exact ⟨offset, piece, Option.mem_toList.1 h⟩
    · exact ih h

theorem ofPhysical_of_not_isIdle (h : isIdle raw = false) (split : Bool) :
    ofPhysical split number raw =
      if split then statements number (indentWidth raw) 0 (splitOn ';' raw)
      else (statement? number (indentWidth raw) 0 raw).toList := if_neg (ne_true_of_eq_false h)

theorem exists_piece_of_mem_ofPhysical {split : Bool} (h : l ∈ ofPhysical split number raw) :
    ∃ indent offset piece, statement? number indent offset piece = some l := by
  unfold ofPhysical at h
  dsimp only at h
  split at h
  · cases h
  · cases split with
    | true => exact ⟨_, exists_piece_of_mem_statements h⟩
    | false => exact ⟨_, _, _, Option.mem_toList.1 h⟩

theorem number_of_mem_ofPhysical {split : Bool} (h : l ∈ ofPhysical split number raw) :
    l.number = number := by
  obtain ⟨_, _, _, h⟩ := exists_piece_of_mem_ofPhysical h
  exact number_of_statement? h

/-- The text of a logical line is trimmed, is not empty and is no comment. -/
structure Line.HoldsStatement (l : Line) : Prop where
  ne_nil : l.text.toList ≠ []
  trimmed : trim l.text.toList = l.text.toList
  not_comment : isComment l.text.toList = false

theorem holdsStatement_of_mem_ofPhysical {split : Bool} (h : l ∈ ofPhysical split number raw) :
    l.HoldsStatement := by
  obtain ⟨_, _, piece, h⟩ := exists_piece_of_mem_ofPhysical h
  have htext := text_of_statement? h
  obtain ⟨hidle, -⟩ := statement?_eq_some_iff.1 h
  obtain ⟨hblank, hcomment⟩ := Bool.or_eq_false_iff.1 hidle
  rw [← htext] at hcomment
  refine ⟨?_, ?_, hcomment⟩
  · rw [htext]
    exact ne_of_beq_false hblank
  · rw [htext, trim_trim]

/-! ## The order of lines -/

/-- One logical line stands in front of another: on an earlier physical line or, if lines are split,
on the same one in columns that end before a semicolon in front of the other. -/
def Line.Precedes (split : Bool) (l m : Line) : Prop :=
  l.number < m.number ∨
    split = true ∧ l.number = m.number ∧ l.column + l.text.toList.length < m.column

theorem lt_column_of_mem_statements {pieces : List (List Char)}
    (h : l ∈ statements number indent offset pieces) : (offset : Int) < l.column := by
  induction pieces generalizing offset with
  | nil => cases h
  | cons piece pieces ih =>
    rcases List.mem_append.1 h with h | h
    · exact (column_of_statement? (Option.mem_toList.1 h)).1
    · have hlt := ih h
      push_cast at hlt
      omega

theorem pairwise_statements (pieces : List (List Char)) :
    (statements number indent offset pieces).Pairwise (Line.Precedes true) := by
  induction pieces generalizing offset with
  | nil => exact .nil
  | cons piece pieces ih =>
    refine List.pairwise_append.2 ⟨?_, ih, ?_⟩
    · cases statement? number indent offset piece with
      | none => exact .nil
      | some l => exact List.pairwise_singleton _ l
    · intro l hl m hm
      have hpiece := Option.mem_toList.1 hl
      obtain ⟨_, _, hother⟩ := exists_piece_of_mem_statements hm
      have hend := (column_of_statement? hpiece).2
      have hstart := lt_column_of_mem_statements hm
      push_cast at hstart
      refine .inr ⟨rfl, ?_, by omega⟩
      rw [number_of_statement? hpiece, number_of_statement? hother]

theorem pairwise_ofPhysical (split : Bool) (number : Nat) (raw : List Char) :
    (ofPhysical split number raw).Pairwise (Line.Precedes split) := by
  unfold ofPhysical
  dsimp only
  split
  · exact .nil
  · cases split with
    | true => exact pairwise_statements _
    | false =>
      show (statement? number _ 0 raw).toList.Pairwise _
      cases statement? number (indentWidth raw) 0 raw with
      | none => exact .nil
      | some l => exact List.pairwise_singleton _ l

theorem exists_ofPhysical_of_mem_ofBody {split : Bool} {raws : List (List Char)}
    (h : l ∈ ofBody split number raws) : ∃ number raw, l ∈ ofPhysical split number raw := by
  induction raws generalizing number with
  | nil => cases h
  | cons raw raws ih =>
    rcases List.mem_append.1 h with h | h
    · exact ⟨number, raw, h⟩
    · exact ih h

theorem le_number_of_mem_ofBody {split : Bool} {raws : List (List Char)}
    (h : l ∈ ofBody split number raws) : (number : Int) ≤ l.number := by
  obtain ⟨i, -, -, hnumber, -⟩ := liesOn_of_mem_ofBody h
  omega

theorem pairwise_ofBody (split : Bool) (number : Nat) (raws : List (List Char)) :
    (ofBody split number raws).Pairwise (Line.Precedes split) := by
  induction raws generalizing number with
  | nil => exact .nil
  | cons raw raws ih =>
    refine List.pairwise_append.2 ⟨pairwise_ofPhysical split number raw, ih (number + 1), ?_⟩
    intro l hl m hm
    have hle := le_number_of_mem_ofBody hm
    have hnumber := number_of_mem_ofPhysical hl
    exact .inl (by omega)

/-! ## The lines of one physical line -/

/-- The logical lines with the number of a physical line are those of that physical line. -/
theorem filter_number_ofBody (split : Bool) {raws : List (List Char)} {i : Nat}
    (h : raws[i]? = some raw) :
    (ofBody split number raws).filter (·.number = ↑(number + i)) =
      ofPhysical split (number + i) raw := by
  induction raws generalizing number i with
  | nil => cases h
  | cons raw' raws ih =>
    rw [ofBody, List.filter_append]
    cases i with
    | zero =>
      cases h
      have hown : ∀ l ∈ ofPhysical split number raw, l.number = ↑(number + 0) :=
        fun l hl => number_of_mem_ofPhysical hl
      have hlater : ∀ l ∈ ofBody split (number + 1) raws, l.number ≠ ↑(number + 0) := by
        intro l hl
        have hle := le_number_of_mem_ofBody hl
        omega
      rw [List.filter_eq_self.2 (by simpa using hown),
        List.filter_eq_nil_iff.2 (by simpa using hlater), List.append_nil]
      rfl
    | succ i =>
      have hearlier : ∀ l ∈ ofPhysical split number raw', l.number ≠ ↑(number + (i + 1)) := by
        intro l hl
        have hnumber := number_of_mem_ofPhysical hl
        omega
      have hrest : (ofBody split (number + 1) raws).filter (·.number = ↑(number + 1 + i)) = _ :=
        ih h
      rw [Nat.add_assoc number 1, Nat.add_comm 1] at hrest
      rw [List.filter_eq_nil_iff.2 (by simpa using hearlier), List.nil_append]
      exact hrest

end

theorem bodyStart_le_iff {source : String} {n : Nat} :
    bodyStart (lines source.toList) ≤ n ↔ BehindFrontMatter n source := by
  unfold bodyStart BehindFrontMatter
  cases block? (lines source.toList) with
  | none => simp
  | some b => simp

theorem filter_number_scan {source : String} (split : Bool) {n : Nat} {raw : List Char}
    (hraw : (lines source.toList)[n]? = some raw) (hn : BehindFrontMatter n source) :
    (scan source split).filter (·.number = ↑(n + 1)) = ofPhysical split (n + 1) raw := by
  obtain ⟨i, rfl⟩ := Nat.exists_eq_add_of_le (bodyStart_le_iff.2 hn)
  have hbody : ((lines source.toList).drop (bodyStart (lines source.toList)))[i]? = some raw := by
    rw [List.getElem?_drop]
    exact hraw
  have hnumber :
      bodyStart (lines source.toList) + 1 + i = bodyStart (lines source.toList) + i + 1 := by
    omega
  rw [← hnumber]
  exact filter_number_ofBody split hbody

/-! ## The law -/

theorem holdsStatement_of_mem_scan {source : String} {split : Bool}
    (h : l ∈ scan source split) : l.HoldsStatement := by
  obtain ⟨_, _, hphysical⟩ := exists_ofPhysical_of_mem_ofBody h
  exact holdsStatement_of_mem_ofPhysical hphysical

/-- A logical line stands on a physical line behind the front matter, in the place that it tells. -/
def Line.LiesBehindFrontMatter (source : String) (l : Line) : Prop :=
  ∃ (n k : Nat) (raw : List Char), (lines source.toList)[n]? = some raw ∧
    BehindFrontMatter n source ∧ l.number = n + 1 ∧ l.column = k + 1 ∧
    l.text.toList <+: raw.drop k

/-- **Lines are located exactly.** Every logical line of a source holds a trimmed text that is
neither empty nor a comment and stands in the source where the line says, behind the front matter.
The lines follow each other as in the source, and two of them are on the same physical line only if
lines are split, with a semicolon between their columns.  Without splitting every physical line
behind the front matter that is neither blank nor a comment holds just one line, with its trimmed
text; the others hold none, split or not. -/
theorem scanned_lines_are_located (source : String) (split : Bool) :
    (∀ l ∈ scan source split, l.HoldsStatement ∧ l.LiesBehindFrontMatter source) ∧
      (scan source split).Pairwise (Line.Precedes split) ∧
      ∀ n raw, (lines source.toList)[n]? = some raw → BehindFrontMatter n source →
        (isIdle raw = false → ∃ l, l.text.toList = trim raw ∧
          (scan source false).filter (·.number = ↑(n + 1)) = [l]) ∧
        (isIdle raw = true → (scan source split).filter (·.number = ↑(n + 1)) = []) := by
  refine ⟨?_, pairwise_ofBody split _ _, ?_⟩
  · intro l hl
    obtain ⟨i, raw, hraw, hnumber, hlies⟩ := liesOn_of_mem_ofBody hl
    obtain ⟨k, hcolumn, hplace⟩ := hlies.place
    rw [List.getElem?_drop] at hraw
    have hbehind : BehindFrontMatter (bodyStart (lines source.toList) + i) source :=
      bodyStart_le_iff.1 (Nat.le_add_right _ i)
    refine ⟨?_, _, k, raw, hraw, hbehind, ?_, hcolumn, hplace⟩
    · obtain ⟨_, _, hphysical⟩ := exists_ofPhysical_of_mem_ofBody hl
      exact holdsStatement_of_mem_ofPhysical hphysical
    · rw [hnumber]
      omega
  · intro n raw hraw hn
    rw [filter_number_scan false hraw hn, filter_number_scan split hraw hn]
    refine ⟨fun hidle => ?_, fun hidle => ofPhysical_of_isIdle hidle split _⟩
    have hstatement : statement? (n + 1) (indentWidth raw) 0 raw = some _ :=
      statement?_eq_some_iff.2 ⟨hidle, rfl⟩
    refine ⟨_, text_of_statement? hstatement, ?_⟩
    rw [ofPhysical_of_not_isIdle hidle, if_neg Bool.false_ne_true, hstatement]
    rfl

/-- Front matter above a line with a tab in front, an empty piece, a comment among the pieces and a
semicolon at the end, above a comment. -/
def crowdedLine : String := "---\n---\n\t a ;; %% b;  c;\n%% d;e"

theorem scanned_lines_are_located_crowdedLine :
    ∃ l m, scan crowdedLine true = [l, m] ∧ (l.text, l.column) = ("a", 3) ∧
      (m.text, m.column) = ("c", 15) ∧ l.HoldsStatement ∧ m.LiesBehindFrontMatter crowdedLine ∧
      l.Precedes true m ∧
      (∃ l', l'.text.toList = "a ;; %% b;  c;".toList ∧
        (scan crowdedLine false).filter (·.number = 3) = [l']) ∧
      (scan crowdedLine true).filter (·.number = 4) = [] := by
  obtain ⟨hlines, horder, hphysical⟩ := scanned_lines_are_located crowdedLine true
  have hscan : scan crowdedLine true = [⟨3, "a", 3, 3⟩, ⟨3, "c", 3, 15⟩] := by decide +kernel
  have hbehind (n : Nat) (hn : 2 ≤ n) : BehindFrontMatter n crowdedLine := by
    have hblock : block? (lines crowdedLine.toList) = some ⟨0, []⟩ := by decide +kernel
    intro b hb
    rw [hblock] at hb
    cases hb
    exact hn
  have hline := (hphysical 2 "\t a ;; %% b;  c;".toList (by decide +kernel)
    (hbehind 2 (Nat.le_refl 2))).1 (by decide +kernel)
  have hcomment := (hphysical 3 "%% d;e".toList (by decide +kernel)
    (hbehind 3 (by decide))).2 (by decide +kernel)
  rw [hscan] at hlines horder
  obtain ⟨⟨hfirst, -⟩, hrest⟩ := List.forall_mem_cons.1 hlines
  refine ⟨_, _, hscan, rfl, rfl, hfirst, (List.forall_mem_cons.1 hrest).1.2,
    (List.pairwise_cons.1 horder).1 _ List.mem_cons_self, ?_, hcomment⟩
  obtain ⟨l', htext, hfilter⟩ := hline
  exact ⟨l', by rw [htext]; decide +kernel, hfilter⟩

end DiagramText.Source
