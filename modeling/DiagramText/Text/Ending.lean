import DiagramText.Text.Cut

/-!
# Ends of statements

Parts that stand at the end of statements of several dialects: a gap of blanks, a label behind a
colon, a text behind a gap, and a fixed closing text.
-/

namespace DiagramText.Text

/-- The text behind a gap of at least one blank. -/
def gap? : List Char → Option (List Char)
  | [] => none
  | c :: r => if isBlank c then some (trimStart r) else none

theorem length_of_gap? {s u : List Char} (h : gap? s = some u) : u.length < s.length := by
  cases s with
  | nil => simp [gap?] at h
  | cons c r =>
    simp only [gap?] at h
    split at h
    · obtain rfl : trimStart r = u := by simpa using h
      exact Nat.lt_succ_of_le (trimStart_isSuffix r).length_le
    · simp at h

/-- The label behind a colon, which may be missing together with the colon. -/
def labelEnd? (s : List Char) : Option (Option (List Char)) :=
  match trimStart s with
  | ':' :: v => (lineRest? (trimStart v)).map some
  | _ => if atEnd s then some none else none

/-- The text behind a gap, up to the end of the line; both may be missing. -/
def restEnd? (s : List Char) : Option (Option (List Char)) :=
  (blanks₁ s lineRest₁?).map some <|> if atEnd s then some none else none

/-- The text behind a gap, up to the end of the line, where the gap alone is an empty text; both may
be missing. -/
def textEnd? (s : List Char) : Option (List Char) :=
  blanks₁ s lineRest? <|> if atEnd s then some [] else none

/-- A text without blanks, up to the end of the line. -/
def solidEnd? (s : List Char) : Option (List Char) :=
  let t := s.takeWhile (!isBlank ·)
  if t != [] && atEnd (s.dropWhile (!isBlank ·)) then some t else none

/-- The text in front of `w`, if `s` ends with `w`. -/
def dropSuffix? (w s : List Char) : Option (List Char) :=
  (literal? w.reverse s.reverse).map List.reverse

theorem dropSuffix?_eq_some_iff {w s u : List Char} : dropSuffix? w s = some u ↔ s = u ++ w := by
  simp only [dropSuffix?, Option.map_eq_some_iff, literal?_eq_some_iff]
  constructor
  · rintro ⟨t, ht, rfl⟩
    have := congrArg List.reverse ht
    simpa using this
  · rintro rfl
    exact ⟨u.reverse, by simp, by simp⟩

/-- Whether `w` occurs in `s`. -/
def hasInfix (w : List Char) : List Char → Bool
  | [] => w.isEmpty
  | c :: r => (literal? w (c :: r)).isSome || hasInfix w r

end DiagramText.Text
