import DiagramText.ScopeGraph.Basic
import DiagramText.Text.Cut
import DiagramText.Text.Word

/-!
# Nodes of flowcharts

A node is written as an id, optionally a label between the brackets of a shape, and optionally a
class, as in `a["Label"]:::big`.  Several nodes are joined by ampersands.

1. `ident?`: words joined by single hyphens.
2. `node?` and `group?`, which give the mentioned nodes and the text behind them.
-/

namespace DiagramText.Flowchart

open Text
open ScopeGraph (Shape)

/-! ## Ids -/

/-- The rest of an id behind a word character, and the text behind the id. -/
def identTail : List Char → List Char × List Char
  | [] => ([], [])
  | [c] => if isWord c then ([c], []) else ([], [c])
  | c :: d :: r =>
    if isWord c then
      let (t, u) := identTail (d :: r)
      (c :: t, u)
    else if c == '-' && isWord d then
      let (t, u) := identTail r
      (c :: d :: t, u)
    else ([], c :: d :: r)

/-- The id in front of `s`: words joined by single hyphens. -/
def ident? : List Char → Option (List Char × List Char)
  | [] => none
  | c :: r =>
    if isWord c then
      let (t, u) := identTail r
      some (c :: t, u)
    else none

/-! ## Nodes -/

/-- The brackets of the shapes, longer openers first. -/
def brackets : List (String × String × Shape) :=
  [("(((", ")))", .doubleCircle), ("([", "])", .stadium), ("((", "))", .circle),
   ("[[", "]]", .subroutine), ("[(", ")]", .cylinder), ("[/", "\\]", .trapezoid),
   ("[\\", "/]", .trapezoidAlt), ("[/", "/]", .parallelogram), ("[\\", "\\]", .parallelogramAlt),
   ("\x7b\x7b", "\x7d\x7d", .hexagon), (">", "]", .asymmetric), ("[", "]", .rectangle),
   ("(", ")", .rounded), ("\x7b", "\x7d", .decision)]

/-- A node as it is mentioned: its id, its label and shape if it is declared, and its class. -/
structure Mention where
  id : String
  form : Option (String × Shape)
  className : Option String
deriving Repr, DecidableEq

/-- A label in double quotes in front of a closing bracket. -/
def quotedLabel? (closer s : List Char) : Option (List Char × List Char) := do
  let r ← literal? ['"'] s
  let rest ← literal? ['"'] (r.dropWhile (· != '"'))
  return (r.takeWhile (· != '"'), ← literal? closer rest)

/-- A label without quotes in front of a closing bracket, whose last character it does not hold. -/
def bareLabel? (closer s : List Char) : Option (List Char × List Char) :=
  shortest₁ (fun c => closer.getLast? != some c) s fun t u => do
    return (trim t, ← literal? closer u)

/-- The label and the shape behind an id. -/
def form? (s : List Char) : Option ((String × Shape) × List Char) :=
  brackets.findSome? fun (opener, closer, shape) => do
    let rest ← literal? opener.toList s
    let (label, rest) ← quotedLabel? closer.toList rest <|> bareLabel? closer.toList rest
    return ((String.ofList label, shape), rest)

/-- The class behind a node. -/
def className? (s : List Char) : Option (String × List Char) := do
  let r ← literal? [':', ':', ':'] s
  if (r.head?).any isWord then
    some (String.ofList (r.takeWhile isWordOrHyphen), r.dropWhile isWordOrHyphen)
  else none

/-- The node in front of `s`, and the text behind it. -/
def node? (s : List Char) : Option (Mention × List Char) := do
  let (id, rest) ← ident? s
  let (form, rest) :=
    match form? rest with
    | some (f, u) => (some f, u)
    | none => (none, rest)
  let (className, rest) :=
    match className? rest with
    | some (c, u) => (some c, u)
    | none => (none, rest)
  return (⟨String.ofList id, form, className⟩, rest)

/-! ## Nodes use up text -/

theorem identTail_suffix (s : List Char) : (identTail s).2 <:+ s := by
  fun_induction identTail s with
  | case1 => exact List.suffix_rfl
  | case2 => exact List.suffix_cons _ _
  | case3 => exact List.suffix_rfl
  | case4 c d r _ t u h ih =>
    rw [h] at ih
    exact ih.trans (List.suffix_cons _ _)
  | case5 c d r _ _ t u h ih =>
    rw [h] at ih
    exact ih.trans ((List.suffix_cons _ _).trans (List.suffix_cons _ _))
  | case6 => exact List.suffix_rfl

theorem ident?_suffix {s t u : List Char} (h : ident? s = some (t, u)) :
    u <:+ s ∧ u.length < s.length := by
  cases s with
  | nil => simp [ident?] at h
  | cons c r =>
    simp only [ident?, Option.ite_none_right_eq_some, Option.some.injEq, Prod.mk.injEq] at h
    obtain ⟨-, -, rfl⟩ := h
    have := identTail_suffix r
    exact ⟨this.trans (List.suffix_cons _ _), Nat.lt_succ_of_le this.length_le⟩

theorem literal?_suffix {w s u : List Char} (h : literal? w s = some u) : u <:+ s :=
  ⟨w, (literal?_eq_some_iff.1 h).symm⟩

theorem form?_suffix {s u : List Char} {f : String × Shape} (h : form? s = some (f, u)) :
    u <:+ s := by
  obtain ⟨⟨opener, closer, shape⟩, -, h⟩ := List.exists_of_findSome?_eq_some h
  simp only [Option.bind_eq_bind, Option.bind_eq_some_iff, Option.pure_def, Option.some.injEq,
    Prod.mk.injEq] at h
  obtain ⟨rest, hrest, ⟨label, v⟩, hv, -, rfl⟩ := h
  refine List.IsSuffix.trans ?_ (literal?_suffix hrest)
  simp only [Option.orElse_eq_orElse, Option.orElse_eq_or, Option.or_eq_some_iff] at hv
  rcases hv with hv | ⟨-, hv⟩
  · simp only [quotedLabel?, Option.bind_eq_bind, Option.bind_eq_some_iff, Option.pure_def,
      Option.some.injEq, Prod.mk.injEq] at hv
    obtain ⟨r, hr, w, hw, x, hx, -, rfl⟩ := hv
    exact (((literal?_suffix hx).trans (literal?_suffix hw)).trans
      (List.dropWhile_suffix _)).trans (literal?_suffix hr)
  · obtain ⟨t, w, rfl, hk⟩ := exists_cut_of_shortest₁ hv
    simp only [Option.bind_eq_bind, Option.bind_eq_some_iff, Option.pure_def, Option.some.injEq,
      Prod.mk.injEq] at hk
    obtain ⟨x, hx, -, rfl⟩ := hk
    exact (literal?_suffix hx).trans (List.suffix_append _ _)

theorem className?_suffix {s u : List Char} {c : String} (h : className? s = some (c, u)) :
    u <:+ s := by
  simp only [className?, Option.bind_eq_bind, Option.bind_eq_some_iff,
    Option.ite_none_right_eq_some, Option.some.injEq, Prod.mk.injEq] at h
  obtain ⟨r, hr, -, -, rfl⟩ := h
  exact (List.dropWhile_suffix _).trans (literal?_suffix hr)

/-- Behind a node stands a shorter suffix of the text. -/
theorem node?_suffix {s u : List Char} {m : Mention} (h : node? s = some (m, u)) :
    u <:+ s ∧ u.length < s.length := by
  simp only [node?, Option.bind_eq_bind, Option.bind_eq_some_iff, Option.pure_def,
    Option.some.injEq, Prod.mk.injEq] at h
  obtain ⟨⟨id, rest⟩, hid, -, rfl⟩ := h
  have hrest := ident?_suffix hid
  have step (t : List Char) :
      (match className? t with
        | some (c, u) => (some c, u)
        | none => (none, t)).2 <:+ t := by
    split
    · rename_i hc
      exact className?_suffix hc
    · exact List.suffix_rfl
  have hform :
      (match form? rest with
        | some (f, u) => (some f, u)
        | none => (none, rest)).2 <:+ rest := by
    split
    · rename_i hf
      exact form?_suffix hf
    · exact List.suffix_rfl
  have := (step _).trans hform
  exact ⟨this.trans hrest.1, Nat.lt_of_le_of_lt this.length_le hrest.2⟩

/-! ## Groups -/

/-- The further nodes of a group, each behind an ampersand, and the text behind them. -/
def moreNodes (s : List Char) : List Mention × List Char :=
  match s with
  | '&' :: r =>
    match _h : node? (trim r) with
    | some (m, u) =>
      let (ms, v) := moreNodes (trim u)
      (m :: ms, v)
    | none => ([], trim r)
  | _ => ([], s)
termination_by s.length
decreasing_by
  all_goals
    have h₁ := length_trim_le u
    have h₂ := (node?_suffix _h).2
    have h₃ := length_trim_le r
    simp only [List.length_cons]
    omega

/-- The nodes in front of `s` that are joined by ampersands, and the text behind them. -/
def group? (s : List Char) : Option (List Mention × List Char) := do
  let (m, rest) ← node? s
  let (ms, u) := moreNodes (trim rest)
  return (m :: ms, u)

theorem length_moreNodes_le (s : List Char) : (moreNodes s).2.length ≤ s.length := by
  fun_induction moreNodes s with
  | case1 r m u h ms v hv ih =>
    rw [hv] at ih
    dsimp only at ih
    have h₁ := length_trim_le u
    have h₂ := (node?_suffix h).2
    have h₃ := length_trim_le r
    simp only [List.length_cons]
    omega
  | case2 r h =>
    have := length_trim_le r
    simp only [List.length_cons]
    omega
  | case3 => exact Nat.le_refl _

/-- Behind a group the text is not longer. -/
theorem length_of_group? {s u : List Char} {ms : List Mention} (h : group? s = some (ms, u)) :
    u.length ≤ s.length := by
  simp only [group?, Option.bind_eq_bind, Option.bind_eq_some_iff, Option.pure_def,
    Option.some.injEq, Prod.mk.injEq] at h
  obtain ⟨⟨m, rest⟩, hm, -, rfl⟩ := h
  have h₁ := (node?_suffix hm).2
  have h₂ := length_trim_le rest
  have h₃ := length_moreNodes_le (trim rest)
  dsimp only
  omega

end DiagramText.Flowchart
