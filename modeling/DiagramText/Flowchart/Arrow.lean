import DiagramText.ScopeGraph.Basic
import DiagramText.Text.Ending
import DiagramText.Text.Quoted

/-!
# Arrows of flowcharts

An arrow is a line with an optional mark at either end and an optional label, which stands between
bars behind the arrow, as in `-->|text|`, or inside it, as in `-- text -->`.

1. Marks and lines.
2. `textArrow?`, `plainArrow?` and `unknownArrow?`, in order of preference, and `arrow?` for all.
3. `length_of_arrow?`: an arrow uses up at least one character.
-/

namespace DiagramText.Flowchart

open Text
open ScopeGraph (EdgeKind LineStyle)

/-! ## Marks and lines -/

/-- The marks at the ends of arrows. -/
inductive Mark where
  | point
  | circle
  | cross
deriving Repr, DecidableEq

/-- The mark in front of a line, if there is one, and the text behind it. -/
def startMark : List Char → Option Mark × List Char
  | '<' :: r => (some .point, r)
  | 'o' :: r => (some .circle, r)
  | 'x' :: r => (some .cross, r)
  | s => (none, s)

/-- Whether a circle or a cross may end an arrow in front of `s`. -/
def endsMark (stop : Char → Bool) : List Char → Bool
  | [] => true
  | c :: _ => stop c

/-- The mark behind a line, if there is one, and the text behind it.  A circle or a cross must be
followed by the end of the text or a character of the class `stop`. -/
def endMark (stop : Char → Bool) (s : List Char) : Option Mark × List Char :=
  match s with
  | '>' :: r => (some .point, r)
  | 'o' :: r => if endsMark stop r then (some .circle, r) else (none, s)
  | 'x' :: r => if endsMark stop r then (some .cross, r) else (none, s)
  | _ => (none, s)

/-- A run of at least `n` characters `c` in front of `s`, as the text behind it. -/
def run? (n : Nat) (c : Char) (s : List Char) : Option (List Char) :=
  if n ≤ (s.takeWhile (· == c)).length then some (s.dropWhile (· == c)) else none

/-- The line that a label inside an arrow follows. -/
def opening? (s : List Char) : Option (LineStyle × List Char) :=
  (literal? ['-', '-'] s).map (.solid, ·) <|>
    (literal? ['=', '='] s).map (.thick, ·) <|> (literal? ['-', '.'] s).map (.dotted, ·)

/-- The line behind a label inside an arrow. -/
def closing? (s : List Char) : Option (List Char) :=
  run? 2 '-' s <|> (do literal? ['-'] (← run? 1 '.' s)) <|> run? 2 '=' s

/-- The line of a plain arrow. -/
def line? (s : List Char) : Option (LineStyle × List Char) :=
  (run? 2 '-' s).map (LineStyle.solid, ·) <|>
  (do
    let rest ← run? 1 '.' (← literal? ['-'] s)
    return (LineStyle.dotted, (literal? ['-'] rest).getD rest)) <|>
  (run? 2 '=' s).map (LineStyle.thick, ·) <|>
  (run? 3 '~' s).map (LineStyle.invisible, ·)

/-- The label between bars, if there is one, and the text behind it. -/
def barLabel (s : List Char) : List Char × List Char :=
  match trimStart s with
  | '|' :: r =>
    match r.dropWhile (· != '|') with
    | _ :: u => (r.takeWhile (· != '|'), u)
    | [] => ([], s)
  | _ => ([], s)

/-! ## Arrows -/

/-- What an arrow says about the edges it makes. -/
structure Arrow where
  kind : EdgeKind
  style : LineStyle
  arrowStart : Bool
  arrowEnd : Bool
  label : Option String
deriving Repr, DecidableEq

/-- The label of an edge, without blanks and quotes around it, unless it is empty. -/
def edgeLabel (s : List Char) : Option String :=
  match unquote (trim s) with
  | [] => none
  | t => some (String.ofList t)

/-- The kind of the edges of an arrow; of two marks the one at the end decides. -/
def edgeKind (style : LineStyle) (start finish : Option Mark) : EdgeKind :=
  match style, finish <|> start with
  | .invisible, _ => .invisibleLink
  | _, some .circle => .circleArrow
  | _, some .cross => .crossArrow
  | .solid, some .point => .solidArrow
  | .solid, none => .openLink
  | .dotted, some .point => .dottedArrow
  | .dotted, none => .dottedLink
  | .thick, some .point => .thickArrow
  | .thick, none => .thickLink

/-- The arrow with the given line, marks and label. -/
def Arrow.make (style : LineStyle) (start finish : Option Mark) (label : List Char) : Arrow :=
  { kind := edgeKind style start finish, style, arrowStart := start.isSome,
    arrowEnd := finish.isSome, label := edgeLabel label }

/-- An arrow with a label inside, and the text behind it. -/
def textArrow? (s : List Char) : Option (Arrow × List Char) := do
  let (start, rest) := startMark s
  let (style, rest) ← opening? rest
  blanks₁ rest fun u => shortest₁ (· != '\n') u fun label v => do
    let (finish, w) := endMark isBlank (← closing? (← gap? v))
    return (.make style start finish label, w)

/-- An arrow with an optional label between bars behind it, and the text behind that. -/
def plainArrow? (s : List Char) : Option (Arrow × List Char) := do
  let (start, rest) := startMark s
  let (style, rest) ← line? rest
  let (finish, rest) := endMark (fun c => isBlank c || c == '|') rest
  let (label, rest) := barLabel rest
  return (.make style start finish label, rest)

/-- The characters of which arrows are made. -/
def isArrowChar (c : Char) : Bool := ['-', '=', '.', '~', '<', '>', '*', '+'].contains c

/-- A token that looks like an arrow and is none; it counts as a plain link. -/
def unknownArrow? (s : List Char) : Option (List Char × Arrow × List Char) :=
  let token := s.takeWhile isArrowChar
  if 2 ≤ token.length ∧ token.any ['-', '=', '~', '.'].contains then
    let (label, rest) := barLabel (s.dropWhile isArrowChar)
    some (token, .make .solid none none label, rest)
  else none

/-- The arrow in front of `s`: its token if it is an unknown one, its meaning, and the text behind
it. -/
def arrow? (s : List Char) : Option (Option (List Char) × Arrow × List Char) :=
  match textArrow? s <|> plainArrow? s with
  | some (a, rest) => some (none, a, rest)
  | none => (unknownArrow? s).map fun (token, a, rest) => (some token, a, rest)

/-! ## Arrows use up text -/

theorem startMark_suffix (s : List Char) : (startMark s).2 <:+ s := by
  unfold startMark
  split
  · exact List.suffix_cons _ _
  · exact List.suffix_cons _ _
  · exact List.suffix_cons _ _
  · exact List.suffix_rfl

theorem endMark_suffix (stop : Char → Bool) (s : List Char) : (endMark stop s).2 <:+ s := by
  unfold endMark
  split
  · exact List.suffix_cons _ _
  · split
    · exact List.suffix_cons _ _
    · exact List.suffix_rfl
  · split
    · exact List.suffix_cons _ _
    · exact List.suffix_rfl
  · exact List.suffix_rfl

theorem barLabel_suffix (s : List Char) : (barLabel s).2 <:+ s := by
  unfold barLabel
  split
  · rename_i r h
    split
    · rename_i c u h'
      have h₁ : u <:+ r := (List.suffix_cons c u).trans (h' ▸ List.dropWhile_suffix _)
      exact (h₁.trans (List.suffix_cons _ r)).trans (h ▸ trimStart_isSuffix s)
    · exact List.suffix_rfl
  · exact List.suffix_rfl

theorem length_of_run? {n : Nat} {c : Char} {s u : List Char} (h : run? n c s = some u) :
    u.length + n ≤ s.length := by
  unfold run? at h
  split at h
  · rename_i hn
    obtain rfl : s.dropWhile (· == c) = u := by simpa using h
    have := congrArg List.length (List.takeWhile_append_dropWhile (p := (· == c)) (l := s))
    simp only [List.length_append] at this
    omega
  · simp at h

theorem length_of_literal? {w s u : List Char} (h : literal? w s = some u) :
    u.length + w.length = s.length := by
  rw [literal?_eq_some_iff] at h
  subst h
  simp [Nat.add_comm]

theorem length_of_opening? {s u : List Char} {style : LineStyle}
    (h : opening? s = some (style, u)) : u.length < s.length := by
  simp only [opening?, Option.orElse_eq_orElse, Option.orElse_eq_or, Option.or_eq_some_iff,
    Option.map_eq_some_iff, Prod.mk.injEq] at h
  rcases h with ⟨v, hv, -, rfl⟩ | ⟨-, ⟨v, hv, -, rfl⟩ | ⟨-, v, hv, -, rfl⟩⟩ <;>
    · have := length_of_literal? hv
      simp at this
      omega

theorem length_of_closing? {s u : List Char} (h : closing? s = some u) : u.length < s.length := by
  simp only [closing?, Option.orElse_eq_orElse, Option.orElse_eq_or, Option.or_eq_some_iff,
    Option.bind_eq_bind, Option.bind_eq_some_iff] at h
  rcases h with h | ⟨-, ⟨v, hv, h⟩ | ⟨-, h⟩⟩
  · have := length_of_run? h
    omega
  · have := length_of_run? hv
    have := length_of_literal? h
    omega
  · have := length_of_run? h
    omega

theorem length_of_line? {s u : List Char} {style : LineStyle} (h : line? s = some (style, u)) :
    u.length < s.length := by
  have getD_le (w r : List Char) : ((literal? w r).getD r).length ≤ r.length := by
    cases hw : literal? w r with
    | none => simp
    | some v =>
      have := length_of_literal? hw
      simp
      omega
  simp only [line?, Option.orElse_eq_orElse, Option.orElse_eq_or, Option.or_eq_some_iff,
    Option.bind_eq_bind, Option.bind_eq_some_iff, Option.map_eq_some_iff, Prod.mk.injEq,
    Option.pure_def, Option.some.injEq] at h
  rcases h with ⟨v, hv, -, rfl⟩ | ⟨-, ⟨v, hv, r, hr, -, rfl⟩ |
    ⟨-, ⟨v, hv, -, rfl⟩ | ⟨-, v, hv, -, rfl⟩⟩⟩
  · have := length_of_run? hv
    omega
  · have := length_of_literal? hv
    have := length_of_run? hr
    have := getD_le ['-'] r
    omega
  · have := length_of_run? hv
    omega
  · have := length_of_run? hv
    omega

theorem length_of_textArrow? {s u : List Char} {a : Arrow} (h : textArrow? s = some (a, u)) :
    u.length < s.length := by
  simp only [textArrow?, Option.bind_eq_bind, Option.bind_eq_some_iff] at h
  obtain ⟨⟨style, rest⟩, ho, h⟩ := h
  obtain ⟨t, v, rfl, h⟩ := exists_cut_of_longest₁ h
  obtain ⟨t', v', rfl, h⟩ := exists_cut_of_shortest₁ h
  simp only [Option.bind_eq_some_iff, Option.pure_def, Option.some.injEq, Prod.mk.injEq] at h
  obtain ⟨w, hw, x, hx, -, rfl⟩ := h
  have h₁ := (startMark_suffix s).length_le
  have h₂ := length_of_opening? ho
  have h₃ := length_of_gap? hw
  have h₄ := length_of_closing? hx
  have h₅ := (endMark_suffix isBlank x).length_le
  simp only [List.length_append] at h₂
  omega

theorem length_of_plainArrow? {s u : List Char} {a : Arrow} (h : plainArrow? s = some (a, u)) :
    u.length < s.length := by
  simp only [plainArrow?, Option.bind_eq_bind, Option.bind_eq_some_iff, Option.pure_def,
    Option.some.injEq, Prod.mk.injEq] at h
  obtain ⟨⟨style, rest⟩, ho, -, rfl⟩ := h
  have h₁ := (startMark_suffix s).length_le
  have h₂ := length_of_line? ho
  have h₃ := (endMark_suffix (fun c => isBlank c || c == '|') rest).length_le
  have h₄ := (barLabel_suffix (endMark (fun c => isBlank c || c == '|') rest).2).length_le
  dsimp only
  omega

theorem length_of_unknownArrow? {s u t : List Char} {a : Arrow}
    (h : unknownArrow? s = some (t, a, u)) : u.length < s.length := by
  simp only [unknownArrow?, Option.ite_none_right_eq_some, Option.some.injEq, Prod.mk.injEq] at h
  obtain ⟨ht, -, -, rfl⟩ := h
  have h₁ := (barLabel_suffix (s.dropWhile isArrowChar)).length_le
  have h₂ := congrArg List.length (List.takeWhile_append_dropWhile (p := isArrowChar) (l := s))
  simp only [List.length_append] at h₂
  omega

/-- Behind an arrow the text is shorter. -/
theorem length_of_arrow? {s u : List Char} {t : Option (List Char)} {a : Arrow}
    (h : arrow? s = some (t, a, u)) : u.length < s.length := by
  unfold arrow? at h
  split at h
  · rename_i b rest hb
    simp only [Option.some.injEq, Prod.mk.injEq] at h
    obtain ⟨-, -, rfl⟩ := h
    simp only [Option.orElse_eq_orElse, Option.orElse_eq_or, Option.or_eq_some_iff] at hb
    rcases hb with hb | ⟨-, hb⟩
    · exact length_of_textArrow? hb
    · exact length_of_plainArrow? hb
  · simp only [Option.map_eq_some_iff, Prod.mk.injEq] at h
    obtain ⟨⟨token, b, rest⟩, hb, -, -, rfl⟩ := h
    exact length_of_unknownArrow? hb

end DiagramText.Flowchart
