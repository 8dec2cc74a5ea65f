/-!
# Matching in any letter case

Keywords are ASCII.  `upper` changes ASCII letters only, and `fold` also takes the four other
characters that differ from an ASCII letter by case alone: the dotted capital I, the dotless small
i, the long s and the Kelvin sign.
-/

namespace DiagramText.Text

/-- Capitals in place of the small ASCII letters. -/
def upper (s : List Char) : List Char := s.map Char.toUpper

/-- The small ASCII letter that `c` is a case of, and `c` itself if there is none. -/
def fold (c : Char) : Char :=
  if c == '\u0130' || c == '\u0131' then 'i'
  else if c == '\u017f' then 's'
  else if c == '\u212a' then 'k'
  else c.toLower

/-- The part of `s` that spells `w` in any letter case, and the text behind it. -/
def caseless? : (w s : List Char) → Option (List Char × List Char)
  | [], s => some ([], s)
  | _ :: _, [] => none
  | a :: w, c :: s =>
    if fold a = fold c then (caseless? w s).map fun (t, u) => (c :: t, u) else none

/-- The text behind `w`, spelled in any letter case. -/
def caselessRest? (w s : List Char) : Option (List Char) := (caseless? w s).map (·.2)

end DiagramText.Text
