import DiagramText.Proofs.Renumber
import DiagramText.Proofs.Source.Scan

/-!
# The layout of a source

A further blank line or comment behind the front matter, or front matter in front of a source that
has none, moves the logical lines of the source and changes nothing else about them.

1. `block?` line by line, and what it says about a front part of a source.
2. `ofBody` on other numbers and on lines one after the other.
3. `scan_of_inserted` and `scan_of_prepended`.
-/

namespace DiagramText.Source

open Text

/-! ## The front-matter block -/

/-- A line of blanks. -/
def isBlankLine (raw : List Char) : Bool := trim raw == []

/-- A line that holds no statement: it is blank or a comment. -/
def isIdle (raw : List Char) : Bool := isBlankLine raw || isComment (trim raw)

theorem isFence_eq_false_of_isIdle {raw : List Char} (h : isIdle raw = true) :
    isFence raw = false := by
  unfold isIdle isBlankLine at h
  unfold isFence
  refine beq_false_of_ne fun hfence => ?_
  rw [hfence] at h
  exact absurd h (by decide)

theorem block?_cons_of_blank {raw : List Char} (h : isBlankLine raw = true)
    (raws : List (List Char)) :
    block? (raw :: raws) = (block? raws).map fun b => { b with above := b.above + 1 } := by
  have h' : (trim raw == []) = true := h
  unfold block?
  dsimp only
  rw [List.dropWhile_cons, List.takeWhile_cons, if_pos h', if_pos h']
  cases raws.dropWhile fun l => trim l == [] with
  | nil => rfl
  | cons first rest =>
    dsimp only
    split
    · rfl
    · rfl

theorem block?_cons_of_not_blank {raw : List Char} (h : isBlankLine raw = false)
    (raws : List (List Char)) :
    block? (raw :: raws) =
      if isFence raw && raws.any isFence then some ⟨0, raws.takeWhile (!isFence ·)⟩ else none := by
  have h' : ¬(trim raw == []) = true := by
    rw [show (trim raw == []) = false from h]
    nofun
  unfold block?
  dsimp only
  rw [List.dropWhile_cons, List.takeWhile_cons, if_neg h', if_neg h']
  rfl

theorem length_takeWhile_lt {α : Type} {p : α → Bool} {xs : List α} {x : α} (hx : x ∈ xs)
    (hp : p x = false) : (xs.takeWhile p).length < xs.length := by
  have hprefix := List.takeWhile_prefix (l := xs) p
  refine Nat.lt_of_le_of_ne hprefix.length_le fun hlength => ?_
  rw [← hprefix.eq_of_length hlength] at hx
  have hpx := List.all_eq_true.1 List.all_takeWhile x hx
  rw [hp] at hpx
  cases hpx

theorem takeWhile_append_of_mem {α : Type} {p : α → Bool} {xs : List α} {x : α} (hx : x ∈ xs)
    (hp : p x = false) (ys : List α) : (xs ++ ys).takeWhile p = xs.takeWhile p := by
  rw [List.takeWhile_append, if_neg (Nat.ne_of_lt (length_takeWhile_lt hx hp))]

/-- Front matter at the front stays front matter, whatever follows. -/
theorem block?_append {front : List (List Char)} {b : Block} (h : block? front = some b)
    (rest : List (List Char)) : block? (front ++ rest) = some b := by
  induction front generalizing b with
  | nil => cases h
  | cons raw front ih =>
    rw [List.cons_append]
    cases hb : isBlankLine raw with
    | true =>
      rw [block?_cons_of_blank hb] at h
      obtain ⟨b', hb', rfl⟩ := Option.map_eq_some_iff.1 h
      rw [block?_cons_of_blank hb, ih hb']
      rfl
    | false =>
      rw [block?_cons_of_not_blank hb] at h
      split at h
      · rename_i hfences
        obtain ⟨hopen, hclose⟩ := Bool.and_eq_true_iff.1 hfences
        obtain ⟨closer, hmem, hcloser⟩ := List.any_eq_true.1 hclose
        rw [block?_cons_of_not_blank hb, hopen, List.any_append, hclose,
          takeWhile_append_of_mem hmem (by rw [hcloser]; rfl)]
        exact h
      · cases h

/-- Front matter does not depend on what stands behind it. -/
theorem block?_of_append {front rest : List (List Char)} {b : Block}
    (h : block? (front ++ rest) = some b) (hheight : b.height ≤ front.length) :
    block? front = some b := by
  induction front generalizing b with
  | nil => cases hheight
  | cons raw front ih =>
    rw [List.cons_append] at h
    cases hb : isBlankLine raw with
    | true =>
      rw [block?_cons_of_blank hb] at h
      obtain ⟨b', hb', rfl⟩ := Option.map_eq_some_iff.1 h
      have hheight' : b'.height ≤ front.length := by
        unfold Block.height at hheight ⊢
        rw [List.length_cons] at hheight
        dsimp only at hheight
        omega
      rw [block?_cons_of_blank hb, ih hb' hheight']
      rfl
    | false =>
      rw [block?_cons_of_not_blank hb] at h
      split at h
      · rename_i hfences
        obtain ⟨hopen, -⟩ := Bool.and_eq_true_iff.1 hfences
        cases h
        -- Without a fence in the front part, all of it would be inside the front matter.
        have hclose : front.any isFence = true := by
          by_contra hnone
          have hall : ∀ l ∈ front, (!isFence l) = true := by
            simpa [List.any_eq_true] using hnone
          rw [List.takeWhile_append_of_pos hall] at hheight
          unfold Block.height at hheight
          rw [List.length_cons, List.length_append] at hheight
          omega
        obtain ⟨closer, hmem, hcloser⟩ := List.any_eq_true.1 hclose
        rw [block?_cons_of_not_blank hb, hopen, hclose,
          takeWhile_append_of_mem hmem (by rw [hcloser]; rfl)]
        rfl
      · cases h

/-- A line without a fence makes no front matter. -/
theorem block?_insert_eq_none {front rest : List (List Char)} {raw : List Char}
    (h : block? (front ++ rest) = none) (hraw : isFence raw = false) :
    block? (front ++ raw :: rest) = none := by
  induction front with
  | nil =>
    rw [List.nil_append] at h ⊢
    cases hb : isBlankLine raw with
    | true =>
      rw [block?_cons_of_blank hb, h]
      rfl
    | false =>
      rw [block?_cons_of_not_blank hb, hraw]
      rfl
  | cons l front ih =>
    rw [List.cons_append] at h ⊢
    cases hb : isBlankLine l with
    | true =>
      rw [block?_cons_of_blank hb, Option.map_eq_none_iff] at h
      rw [block?_cons_of_blank hb, ih h]
      rfl
    | false =>
      rw [block?_cons_of_not_blank hb] at h ⊢
      have hany : (front ++ raw :: rest).any isFence = (front ++ rest).any isFence := by
        rw [List.any_append, List.any_cons, hraw, Bool.false_or, ← List.any_append]
      rw [hany]
      split at h
      · cases h
      · rename_i hfences
        rw [if_neg hfences]

theorem Block.height_le {raws : List (List Char)} {b : Block} (h : block? raws = some b) :
    b.height ≤ raws.length := by
  induction raws generalizing b with
  | nil => cases h
  | cons raw raws ih =>
    rw [List.length_cons]
    cases hb : isBlankLine raw with
    | true =>
      rw [block?_cons_of_blank hb] at h
      obtain ⟨b', hb', rfl⟩ := Option.map_eq_some_iff.1 h
      have hle := ih hb'
      unfold Block.height at hle ⊢
      dsimp only
      omega
    | false =>
      rw [block?_cons_of_not_blank hb] at h
      split at h
      · rename_i hfences
        obtain ⟨closer, hmem, hcloser⟩ := List.any_eq_true.1 (Bool.and_eq_true_iff.1 hfences).2
        cases h
        have hlt := length_takeWhile_lt (p := (!isFence ·)) hmem (by rw [hcloser]; rfl)
        unfold Block.height
        dsimp only
        omega
      · cases h

/-! ## Bodies -/

theorem ofPhysical_of_isIdle {raw : List Char} (h : isIdle raw = true) (split : Bool)
    (number : Nat) : ofPhysical split number raw = [] := by
  unfold ofPhysical
  dsimp only
  rw [if_pos]
  exact h

theorem statement?_renumber (f : Int → Int) {number number' : Nat} (hf : f number = number')
    (indent offset : Nat) (piece : List Char) :
    statement? number' indent offset piece =
      (statement? number indent offset piece).map (Line.renumber f) := by
  unfold statement?
  dsimp only
  split
  · rfl
  · rw [Option.map_some, Line.renumber, hf]

theorem statements_renumber (f : Int → Int) {number number' : Nat} (hf : f number = number')
    (indent offset : Nat) (pieces : List (List Char)) :
    statements number' indent offset pieces =
      (statements number indent offset pieces).map (Line.renumber f) := by
  induction pieces generalizing offset with
  | nil => rfl
  | cons piece pieces ih =>
    rw [statements, statements, List.map_append, ih, statement?_renumber f hf,
      Option.toList_map]

theorem ofPhysical_renumber (f : Int → Int) {number number' : Nat} (hf : f number = number')
    (split : Bool) (raw : List Char) :
    ofPhysical split number' raw = (ofPhysical split number raw).map (Line.renumber f) := by
  unfold ofPhysical
  dsimp only
  split
  · rfl
  · cases split with
    | true => exact statements_renumber f hf _ _ _
    | false =>
      show (statement? number' _ 0 raw).toList = _
      rw [statement?_renumber f hf, Option.toList_map]
      rfl

/-- The same physical lines with other numbers hold the same logical lines with other numbers. -/
theorem ofBody_renumber (f : Int → Int) (split : Bool) {number number' : Nat}
    (raws : List (List Char)) (hf : ∀ i < raws.length, f ↑(number + i) = ↑(number' + i)) :
    ofBody split number' raws = (ofBody split number raws).map (Line.renumber f) := by
  induction raws generalizing number number' with
  | nil => rfl
  | cons raw raws ih =>
    have hfirst : f ↑number = ↑number' := hf 0 (Nat.zero_lt_succ _)
    rw [ofBody, ofBody, List.map_append, ofPhysical_renumber f hfirst, ih]
    intro i hi
    have h := hf (i + 1) (Nat.succ_lt_succ hi)
    rw [Nat.add_assoc, Nat.add_assoc, Nat.add_comm 1 i]
    exact h

theorem ofBody_append (split : Bool) (number : Nat) (raws raws' : List (List Char)) :
    ofBody split number (raws ++ raws') =
      ofBody split number raws ++ ofBody split (number + raws.length) raws' := by
  induction raws generalizing number with
  | nil => rfl
  | cons raw raws ih =>
    rw [List.cons_append, ofBody, ofBody, ih, List.append_assoc, List.length_cons,
      Nat.add_assoc number 1, Nat.add_comm 1]

/-! ## Sources -/

/-- The number of a line once a line has been inserted behind the first `i` lines. -/
def shiftBehind (i : Nat) (n : Int) : Int := if n ≤ i then n else n + 1

/-- A source with a further line: `raw` stands behind the first `i` lines. -/
def Inserted (i : Nat) (raw : List Char) (source source' : String) : Prop :=
  lines source'.toList = (lines source.toList).take i ++ raw :: (lines source.toList).drop i

instance (i : Nat) (raw : List Char) (source source' : String) :
    Decidable (Inserted i raw source source') :=
  inferInstanceAs (Decidable (lines source'.toList = _))

/-- The position `i` is behind the front matter of a source, if it has any. -/
def BehindFrontMatter (i : Nat) (source : String) : Prop :=
  ∀ b ∈ block? (lines source.toList), b.height ≤ i

variable {source source' : String}

theorem block?_of_inserted {i : Nat} {raw : List Char} (h : Inserted i raw source source')
    (hi : BehindFrontMatter i source) (hraw : isIdle raw = true) :
    block? (lines source'.toList) = block? (lines source.toList) := by
  have hsource := List.take_append_drop i (lines source.toList)
  rw [h]
  cases hb : block? (lines source.toList) with
  | none =>
    rw [← hsource] at hb
    exact block?_insert_eq_none hb (isFence_eq_false_of_isIdle hraw)
  | some b =>
    have hheight : b.height ≤ ((lines source.toList).take i).length := by
      rw [List.length_take]
      exact Nat.le_min.2 ⟨hi b hb, b.height_le hb⟩
    rw [← hsource] at hb
    exact block?_append (block?_of_append hb hheight) _

theorem bodyStart_le (raws : List (List Char)) : bodyStart raws ≤ raws.length := by
  unfold bodyStart
  cases hb : block? raws with
  | none => exact Nat.zero_le _
  | some b => exact b.height_le hb

/-- A further line without a statement moves the lines behind it. -/
theorem scan_of_inserted {i : Nat} {raw : List Char} (h : Inserted i raw source source')
    (hi : BehindFrontMatter i source) (hraw : isIdle raw = true) (split : Bool) :
    scan source' split = (scan source split).map (Line.renumber (shiftBehind i)) := by
  have hstart : bodyStart (lines source'.toList) = bodyStart (lines source.toList) := by
    unfold bodyStart
    rw [block?_of_inserted h hi hraw]
  have hle : bodyStart (lines source.toList) ≤ ((lines source.toList).take i).length := by
    rw [List.length_take]
    refine Nat.le_min.2 ⟨?_, bodyStart_le _⟩
    unfold bodyStart
    cases hb : block? (lines source.toList) with
    | none => exact Nat.zero_le _
    | some b => exact hi b hb
  unfold scan
  dsimp only
  rw [hstart, h]
  generalize bodyStart (lines source.toList) = start at hle
  generalize hraws : lines source.toList = raws at hle
  have hsplit : raws.drop start = (raws.take i).drop start ++ raws.drop i := by
    rw [← List.drop_append_of_le_length hle, List.take_append_drop]
  rw [List.drop_append_of_le_length hle, hsplit, ofBody_append, ofBody_append, ofBody,
    ofPhysical_of_isIdle hraw, List.nil_append, List.map_append]
  rw [List.length_take] at hle
  congr 1
  · refine ofBody_renumber _ split _ fun j hj => ?_
    rw [List.length_drop, List.length_take] at hj
    unfold shiftBehind
    rw [if_pos]
    omega
  · refine ofBody_renumber _ split _ fun j hj => ?_
    rw [List.length_drop] at hj ⊢
    rw [List.length_take]
    unfold shiftBehind
    rw [if_neg]
    · omega
    · omega

/-- A source behind the lines `front`, which are the front matter `b`; the source itself has none. -/
structure Prepended (front : List (List Char)) (b : Block) (source source' : String) : Prop where
  lines_eq : lines source'.toList = front ++ lines source.toList
  block : block? front = some b
  height : b.height = front.length
  bare : block? (lines source.toList) = none

/-- Front matter in front of a source that has none moves all lines. -/
theorem scan_of_prepended {front : List (List Char)} {b : Block}
    (h : Prepended front b source source') (split : Bool) :
    scan source' split = (scan source split).map (Line.renumber (· + front.length)) := by
  have hstart' : bodyStart (lines source'.toList) = front.length := by
    unfold bodyStart
    rw [h.lines_eq, block?_append h.block]
    exact h.height
  have hstart : bodyStart (lines source.toList) = 0 := by
    unfold bodyStart
    rw [h.bare]
  unfold scan
  dsimp only
  rw [hstart', hstart, h.lines_eq, List.drop_left, List.drop_zero]
  refine ofBody_renumber _ split _ fun j _ => ?_
  push_cast
  omega

end DiagramText.Source
