import DiagramText.Flowchart.Arrow
import DiagramText.Proofs.Text.Solid

/-!
# Writing arrows

An arrow is written as a line of any length with marks at its ends and a label between bars behind
it, or as one of the three lines with a text inside.  `arrow?` tries the second form first, so a
plain arrow must not be taken for the beginning of one with a text.

1. `PlainArrow` and `TextArrow`, how they are written and what they mean.
2. Plain arrows.  No blank follows the first two characters, so `textArrow?` fails.
3. Arrows with a text inside.  The text has no character of a line in it, so no line stands behind
   any of its blanks.
-/

namespace DiagramText.Flowchart

open ScopeGraph (LineStyle)
open Text

/-! ## Written arrows -/

/-- The line of a plain arrow, with the number of characters that it has beyond the shortest one. -/
inductive Stroke where
  | solid (more : Nat)
  | dotted (more : Nat)
  | thick (more : Nat)
  | invisible (more : Nat)
deriving DecidableEq

namespace Stroke

/-- The line as it is written. -/
def chars : Stroke → List Char
  | solid n => List.replicate (n + 2) '-'
  | dotted n => '-' :: (List.replicate (n + 1) '.' ++ ['-'])
  | thick n => List.replicate (n + 2) '='
  | invisible n => List.replicate (n + 3) '~'

/-- The style of the line. -/
def style : Stroke → LineStyle
  | solid _ => .solid
  | dotted _ => .dotted
  | thick _ => .thick
  | invisible _ => .invisible

end Stroke

/-- A mark in front of a line. -/
def startChars : Option Mark → List Char
  | none => []
  | some .point => ['<']
  | some .circle => ['o']
  | some .cross => ['x']

/-- A mark behind a line. -/
def finishChars : Option Mark → List Char
  | none => []
  | some .point => ['>']
  | some .circle => ['o']
  | some .cross => ['x']

/-- A label between bars. -/
structure BarLabel where
  chars : List Char
  ne_nil : chars ≠ []
  trimmed : trim chars = chars
  plain : '|' ∉ chars ∧ '"' ∉ chars

/-- A label as it is written behind an arrow. -/
def barChars : Option BarLabel → List Char
  | none => []
  | some t => '|' :: (t.chars ++ ['|'])

/-- A line with marks at its ends and a label behind it.  The two shortest lines need a mark at the
end. -/
structure PlainArrow where
  start : Option Mark
  stroke : Stroke
  finish : Option Mark
  label : Option BarLabel
  complete : stroke = .solid 0 ∨ stroke = .thick 0 → finish ≠ none

/-- A line with a text inside and a point at the end. -/
structure TextArrow where
  style : LineStyle
  visible : style ≠ .invisible
  text : List Char
  ne_nil : text ≠ []
  trimmed : trim text = text
  plain : ∀ c ∈ text, c ∉ ['-', '=', '.', '"']

/-- The line in front of a text. -/
def openingChars : LineStyle → List Char
  | .solid => ['-', '-']
  | .dotted => ['-', '.']
  | .thick => ['=', '=']
  | .invisible => []

/-- The line behind a text. -/
def closingChars : LineStyle → List Char
  | .solid => ['-', '-']
  | .dotted => ['.', '-']
  | .thick => ['=', '=']
  | .invisible => []

namespace PlainArrow

/-- The arrow as it is written. -/
def chars (a : PlainArrow) : List Char :=
  startChars a.start ++ (a.stroke.chars ++ (finishChars a.finish ++ barChars a.label))

/-- What the arrow says. -/
def read (a : PlainArrow) : Arrow :=
  { kind := edgeKind a.stroke.style a.start a.finish, style := a.stroke.style,
    arrowStart := a.start.isSome, arrowEnd := a.finish.isSome,
    label := a.label.map fun t => String.ofList t.chars }

end PlainArrow

namespace TextArrow

/-- The arrow as it is written. -/
def chars (a : TextArrow) : List Char :=
  openingChars a.style ++ ' ' :: (a.text ++ ' ' :: (closingChars a.style ++ ['>']))

/-- What the arrow says. -/
def read (a : TextArrow) : Arrow :=
  { kind := edgeKind a.style none (some .point), style := a.style, arrowStart := false,
    arrowEnd := true, label := some (String.ofList a.text) }

end TextArrow

/-! ## Lines -/

theorem run?_replicate (n k : Nat) {c : Char} {s : List Char} (hs : ∀ d ∈ s.head?, d ≠ c) :
    run? n c (List.replicate (k + n) c ++ s) = some s := by
  have hrun : ∀ d ∈ List.replicate (k + n) c, (d == c) = true := by
    intro d hd
    simpa using List.eq_of_mem_replicate hd
  have htake : s.takeWhile (· == c) = [] := by
    cases s with
    | nil => rfl
    | cons d s => exact List.takeWhile_cons_of_neg (by simpa using hs d rfl)
  have hdrop : s.dropWhile (· == c) = s := by
    cases s with
    | nil => rfl
    | cons d s => exact List.dropWhile_cons_of_neg (by simpa using hs d rfl)
  unfold run?
  rw [List.takeWhile_append_of_pos hrun, List.dropWhile_append_of_pos hrun, htake, hdrop,
    List.append_nil, List.length_replicate, if_pos (Nat.le_add_left n k)]

theorem run?_of_ne {n : Nat} (hn : 0 < n) {c d : Char} (hd : d ≠ c) (s : List Char) :
    run? n c (d :: s) = none := by
  unfold run?
  rw [List.takeWhile_cons_of_neg (by simpa using hd), if_neg]
  simpa using Nat.pos_iff_ne_zero.1 hn

/-- A stroke is read as a line of its style, if what follows does not go on with it. -/
theorem line?_stroke (k : Stroke) {c : Char} (hc : c ∉ ['-', '=', '.', '~']) (r : List Char) :
    line? (k.chars ++ c :: r) = some (k.style, c :: r) := by
  have hne : ∀ d ∈ ['-', '=', '.', '~'], ∀ e ∈ (c :: r).head?, e ≠ d := by
    rintro d hd e he rfl
    cases he
    exact hc hd
  cases k with
  | solid n =>
    have hrun : run? 2 '-' ((Stroke.solid n).chars ++ c :: r) = some (c :: r) :=
      run?_replicate 2 n (hne '-' (by decide))
    simp [line?, hrun, Stroke.style]
  | dotted n =>
    have hshort : run? 2 '-' ((Stroke.dotted n).chars ++ c :: r) = none := rfl
    have hliteral : literal? ['-'] ((Stroke.dotted n).chars ++ c :: r) =
        some (List.replicate (n + 1) '.' ++ '-' :: c :: r) := by
      simp [Stroke.chars, literal?]
    have hrun : run? 1 '.' (List.replicate (n + 1) '.' ++ '-' :: c :: r) = some ('-' :: c :: r) :=
      run?_replicate 1 n (by rintro d ⟨⟩; decide)
    simp only [line?, hshort, hliteral, Option.bind_eq_bind, Option.bind_some, hrun]
    rfl
  | thick n =>
    have hhyphen : run? 2 '-' ((Stroke.thick n).chars ++ c :: r) = none := rfl
    have hliteral : literal? ['-'] ((Stroke.thick n).chars ++ c :: r) = none := rfl
    have hrun : run? 2 '=' ((Stroke.thick n).chars ++ c :: r) = some (c :: r) :=
      run?_replicate 2 n (hne '=' (by decide))
    simp [line?, hhyphen, hliteral, hrun, Stroke.style]
  | invisible n =>
    have hhyphen : run? 2 '-' ((Stroke.invisible n).chars ++ c :: r) = none := rfl
    have hliteral : literal? ['-'] ((Stroke.invisible n).chars ++ c :: r) = none := rfl
    have hthick : run? 2 '=' ((Stroke.invisible n).chars ++ c :: r) = none := rfl
    have hrun : run? 3 '~' ((Stroke.invisible n).chars ++ c :: r) = some (c :: r) :=
      run?_replicate 3 n (hne '~' (by decide))
    simp [line?, hhyphen, hliteral, hthick, hrun, Stroke.style]

/-! ## Plain arrows -/

/-- A mark in front of a stroke is read off. -/
theorem startMark_stroke (m : Option Mark) (k : Stroke) (r : List Char) :
    startMark (startChars m ++ (k.chars ++ r)) = (m, k.chars ++ r) := by
  cases m with
  | none => cases k <;> rfl
  | some m => cases m <;> rfl

/-- The characters behind a stroke: a mark, a label, and a blank. -/
theorem behind_cons (m : Option Mark) (t : Option BarLabel) (r : List Char) :
    ∃ c u, finishChars m ++ (barChars t ++ ' ' :: r) = c :: u ∧ c ∉ ['-', '=', '.', '~'] ∧
      (m ≠ none → isBlank c = false) := by
  cases m with
  | none =>
    cases t with
    | none => exact ⟨' ', _, rfl, by decide, fun h => absurd rfl h⟩
    | some t => exact ⟨'|', _, rfl, by decide, fun h => absurd rfl h⟩
  | some m => cases m <;> exact ⟨_, _, rfl, by decide, fun _ => by decide⟩

/-- Behind the first two characters of a stroke stands no blank, unless the stroke is over and a
blank follows. -/
theorem opening?_stroke {k : Stroke} {c : Char} {r rest : List Char} {style : LineStyle}
    (hc : k = .solid 0 ∨ k = .thick 0 → isBlank c = false)
    (h : opening? (k.chars ++ c :: r) = some (style, rest)) :
    ∃ d u, rest = d :: u ∧ isBlank d = false := by
  cases k with
  | solid n =>
    cases h
    cases n with
    | zero => exact ⟨c, r, rfl, hc (.inl rfl)⟩
    | succ n => exact ⟨'-', _, rfl, by decide⟩
  | dotted n =>
    cases h
    cases n with
    | zero => exact ⟨'-', _, rfl, by decide⟩
    | succ n => exact ⟨'.', _, rfl, by decide⟩
  | thick n =>
    cases h
    cases n with
    | zero => exact ⟨c, r, rfl, hc (.inr rfl)⟩
    | succ n => exact ⟨'=', _, rfl, by decide⟩
  | invisible n => cases h

/-- A plain arrow is not the beginning of an arrow with a text inside. -/
theorem textArrow?_plain (a : PlainArrow) (r : List Char) :
    textArrow? (a.chars ++ ' ' :: r) = none := by
  obtain ⟨c, u, hbehind, -, hmark⟩ := behind_cons a.finish a.label r
  have hchars : a.chars ++ ' ' :: r = startChars a.start ++ (a.stroke.chars ++ c :: u) := by
    simp [PlainArrow.chars, ← hbehind]
  unfold textArrow?
  rw [hchars, startMark_stroke]
  dsimp only
  cases hopening : opening? (a.stroke.chars ++ c :: u) with
  | none => rfl
  | some found =>
    obtain ⟨d, v, hrest, hd⟩ := opening?_stroke (fun hk => hmark (a.complete hk)) hopening
    rw [Option.bind_eq_bind, Option.bind_some, hrest]
    exact blanks₁_of_solid hd v _

theorem endMark_finish (m : Option Mark) (t : Option BarLabel) (r : List Char) :
    endMark (fun c => isBlank c || c == '|') (finishChars m ++ (barChars t ++ ' ' :: r)) =
      (m, barChars t ++ ' ' :: r) := by
  cases m with
  | none => cases t <;> rfl
  | some m => cases m <;> cases t <;> rfl

/-- The characters of a label, of which there are none if there is no label. -/
def labelChars : Option BarLabel → List Char
  | none => []
  | some t => t.chars

theorem barLabel_bar {s : List Char} (hs : ∀ c ∈ s, (c != '|') = true) (r : List Char) :
    barLabel ('|' :: (s ++ '|' :: r)) = (s, r) := by
  have hdrop := dropWhile_append_cons (d := '|') hs (by decide) r
  have htake := takeWhile_append_cons (d := '|') hs (by decide) r
  have hstart : trimStart ('|' :: (s ++ '|' :: r)) = '|' :: (s ++ '|' :: r) := rfl
  simp only [barLabel, hstart, hdrop, htake]

/-- A label is read off up to its second bar, and where no label stands, a bar does not follow. -/
theorem barLabel_barChars (t : Option BarLabel) {c : Char} (hc : isWord c = true) (r : List Char) :
    barLabel (barChars t ++ ' ' :: c :: r) = (labelChars t, ' ' :: c :: r) := by
  cases t with
  | none =>
    have hstart : trimStart (' ' :: c :: r) = c :: r :=
      trimStart_of_head (s := c :: r) fun d hd => by cases hd; exact isBlank_of_isWord hc
    have hchars : barChars none ++ ' ' :: c :: r = ' ' :: c :: r := rfl
    unfold barLabel
    rw [hchars, hstart]
    split
    · rename_i h
      exact absurd (List.cons.inj h).1 (ne_of_isWord hc (by decide))
    · rfl
  | some t =>
    have hbar : ∀ d ∈ t.chars, (d != '|') = true := by
      intro d hd
      simpa using fun he : d = '|' => t.plain.1 (he ▸ hd)
    have hchars : barChars (some t) ++ ' ' :: c :: r =
        '|' :: (t.chars ++ '|' :: ' ' :: c :: r) := by
      simp [barChars]
    rw [hchars, barLabel_bar hbar]
    rfl

/-- A trimmed text without quotes is a label as it is. -/
theorem edgeLabel_of_trim {s : List Char} (hne : s ≠ []) (htrim : trim s = s) (hquote : '"' ∉ s) :
    edgeLabel s = some (String.ofList s) := by
  obtain ⟨c, r, rfl⟩ := List.exists_cons_of_ne_nil hne
  have hc : c ≠ '"' := fun he => hquote (he ▸ List.mem_cons_self)
  have hunquote : unquote (c :: r) = c :: r := by
    simp [unquote, between?, hc]
  unfold edgeLabel
  rw [htrim, hunquote]

theorem edgeLabel_labelChars (t : Option BarLabel) :
    edgeLabel (labelChars t) = t.map fun t => String.ofList t.chars := by
  cases t with
  | none => rfl
  | some t => exact edgeLabel_of_trim t.ne_nil t.trimmed t.plain.2

/-- A plain arrow in front of an id is read with its marks and its label. -/
theorem arrow?_plain (a : PlainArrow) {c : Char} (hc : isWord c = true) (r : List Char) :
    arrow? (a.chars ++ ' ' :: c :: r) = some (none, a.read, ' ' :: c :: r) := by
  have hplain : plainArrow? (a.chars ++ ' ' :: c :: r) = some (a.read, ' ' :: c :: r) := by
    obtain ⟨d, u, hbehind, hd, -⟩ := behind_cons a.finish a.label (c :: r)
    have hchars : a.chars ++ ' ' :: c :: r = startChars a.start ++ (a.stroke.chars ++ d :: u) := by
      simp [PlainArrow.chars, ← hbehind]
    unfold plainArrow?
    rw [hchars, startMark_stroke]
    dsimp only
    rw [line?_stroke a.stroke hd, Option.bind_eq_bind, Option.bind_some, ← hbehind]
    dsimp only
    rw [endMark_finish, barLabel_barChars a.label hc]
    simp [Arrow.make, PlainArrow.read, edgeLabel_labelChars]
  unfold arrow?
  rw [textArrow?_plain, hplain]
  rfl

/-! ## Arrows with a text inside -/

theorem closing?_of_notMem {c : Char} (hc : c ∉ ['-', '=', '.']) (r : List Char) :
    closing? (c :: r) = none := by
  simp only [List.mem_cons, List.not_mem_nil, or_false, not_or] at hc
  obtain ⟨hhyphen, hequal, hdot⟩ := hc
  simp [closing?, run?_of_ne, hhyphen, hequal, hdot]

/-- The line behind the text, behind a gap. -/
theorem closing?_closingChars {style : LineStyle} (h : style ≠ .invisible) (r : List Char) :
    (gap? (' ' :: (closingChars style ++ '>' :: r))).bind closing? = some ('>' :: r) := by
  cases style with
  | invisible => exact absurd rfl h
  | _ => rfl

theorem opening?_openingChars {style : LineStyle} (h : style ≠ .invisible) (r : List Char) :
    startMark (openingChars style ++ r) = (none, openingChars style ++ r) ∧
      opening? (openingChars style ++ r) = some (style, r) := by
  cases style with
  | invisible => exact absurd rfl h
  | _ => exact ⟨rfl, rfl⟩

/-- Behind a blank of the text stands no line. -/
theorem closing?_inside (a : TextArrow) {x y : List Char} {c : Char} (hs : a.text = x ++ c :: y)
    (u : List Char) : (gap? (c :: y ++ u)).bind closing? = none := by
  by_cases hc : isBlank c = true
  · obtain ⟨d, r, hstart, hd, -⟩ := exists_trimStart_append (exists_solid_of_trim a.trimmed hs hc) u
    have hgap : gap? (c :: y ++ u) = some (d :: r) := by
      rw [← hstart]
      exact if_pos hc
    have hplain : d ∉ ['-', '=', '.', '"'] := by
      refine a.plain d ?_
      rw [hs]
      exact List.mem_append_right _ (List.mem_cons_of_mem c hd)
    rw [hgap, Option.bind_some]
    refine closing?_of_notMem (fun hmem => hplain ?_) r
    exact List.mem_append_left ['"'] hmem
  · have hgap : gap? (c :: y ++ u) = none := if_neg hc
    rw [hgap]
    rfl

/-- An arrow with a text of one line inside is read with this text. -/
theorem arrow?_text (a : TextArrow) (hline : '\n' ∉ a.text) (r : List Char) :
    arrow? (a.chars ++ ' ' :: r) = some (none, a.read, ' ' :: r) := by
  have htext : textArrow? (a.chars ++ ' ' :: r) = some (a.read, ' ' :: r) := by
    obtain ⟨c, t, hchars⟩ := List.exists_cons_of_ne_nil a.ne_nil
    have hc : isBlank c = false := head_of_trim a.trimmed c (by rw [hchars]; rfl)
    have hall : ∀ d ∈ a.text, (d != '\n') = true := by
      intro d hd
      simpa using fun he : d = '\n' => hline (he ▸ hd)
    have hwritten : a.chars ++ ' ' :: r = openingChars a.style ++
        ' ' :: c :: (t ++ ' ' :: (closingChars a.style ++ '>' :: ' ' :: r)) := by
      simp [TextArrow.chars, hchars]
    obtain ⟨hstart, hopening⟩ := opening?_openingChars a.visible
      (' ' :: c :: (t ++ ' ' :: (closingChars a.style ++ '>' :: ' ' :: r)))
    unfold textArrow?
    rw [hwritten, hstart]
    dsimp only
    rw [hopening, Option.bind_eq_bind, Option.bind_some]
    dsimp only
    rw [blanks₁_space hc]
    show (if _ then _ else none) = _
    obtain ⟨hfirst, htail⟩ := List.forall_mem_cons.1 (hchars ▸ hall)
    rw [if_pos hfirst]
    refine shortest_append htail ?_ ?_
    · intro x d y hsplit
      have htext : a.text = (c :: x) ++ d :: y := by rw [hchars, hsplit]; rfl
      have hinside := closing?_inside a htext (' ' :: (closingChars a.style ++ '>' :: ' ' :: r))
      show ((gap? _).bind fun v => (closing? v).bind _) = none
      rw [← Option.bind_assoc, hinside]
      rfl
    · have hend := closing?_closingChars a.visible (' ' :: r)
      have hlabel : edgeLabel a.text = some (String.ofList a.text) :=
        edgeLabel_of_trim a.ne_nil a.trimmed fun hquote => a.plain _ hquote (by decide)
      show ((gap? _).bind fun v => (closing? v).bind _) = _
      rw [← Option.bind_assoc, hend, ← hchars]
      simp [endMark, Arrow.make, TextArrow.read, hlabel]
  unfold arrow?
  rw [htext]
  rfl

end DiagramText.Flowchart
