/-!
# Blanks, trimming and splitting

Text is handled as a `List Char`.  This module fixes which characters are blank and builds on it

1. `trimStart`, `trimEnd` and `trim`, which cut blanks off the ends;
2. `splitWhere`, which cuts a text at every character of a class, and its uses `splitOn`, `words`
   and `fields`;
3. `mapWords`, which changes the words of a text and keeps the blanks between them.
-/

namespace DiagramText.Text

/-! ## Blanks -/

/-- The blank characters: ASCII blanks and separators, and the spaces of Unicode. -/
def isBlank (c : Char) : Bool :=
  let n := c.toNat
  (9 ≤ n && n ≤ 13) || (0x1c ≤ n && n ≤ 0x20) ||
    n == 0x85 || n == 0xa0 || n == 0x1680 || (0x2000 ≤ n && n ≤ 0x200a) ||
    n == 0x2028 || n == 0x2029 || n == 0x202f || n == 0x205f || n == 0x3000

/-! ## Trimming -/

/-- Drops the blanks at the front. -/
def trimStart (s : List Char) : List Char := s.dropWhile isBlank

/-- Drops the blanks at the end. -/
def trimEnd : List Char → List Char
  | [] => []
  | c :: r =>
    match trimEnd r with
    | [] => if isBlank c then [] else [c]
    | d :: r' => c :: d :: r'

/-- Drops the blanks at both ends. -/
def trim (s : List Char) : List Char := trimEnd (trimStart s)

theorem trimStart_isSuffix (s : List Char) : trimStart s <:+ s := List.dropWhile_suffix _

theorem trimEnd_isPrefix (s : List Char) : trimEnd s <+: s := by
  induction s with
  | nil => exact List.prefix_rfl
  | cons c r ih =>
    rw [trimEnd]
    split
    · split
      · exact List.nil_prefix
      · exact ⟨r, rfl⟩
    · rename_i d r' h
      rw [h] at ih
      exact List.cons_prefix_cons.2 ⟨rfl, ih⟩

theorem trim_isInfix (s : List Char) : trim s <:+: s :=
  (trimEnd_isPrefix _).isInfix.trans (trimStart_isSuffix s).isInfix

theorem length_trim_le (s : List Char) : (trim s).length ≤ s.length := (trim_isInfix s).length_le

/-! ## Splitting -/

/-- The pieces of `s` between the characters of the class `p`; there is always at least one. -/
def splitWhere (p : Char → Bool) : List Char → List (List Char)
  | [] => [[]]
  | c :: r =>
    if p c then [] :: splitWhere p r
    else
      match splitWhere p r with
      | [] => [[c]]
      | f :: fs => (c :: f) :: fs

/-- The pieces of `s` between the occurrences of `sep`. -/
def splitOn (sep : Char) (s : List Char) : List (List Char) := splitWhere (· == sep) s

/-- The maximal runs of characters that are not blank. -/
def words (s : List Char) : List (List Char) := (splitWhere isBlank s).filter (· ≠ [])

/-- The trimmed pieces of a comma-separated list, without the empty ones. -/
def fields (s : List Char) : List (List Char) := ((splitOn ',' s).map trim).filter (· ≠ [])

theorem splitWhere_ne_nil (p : Char → Bool) (s : List Char) : splitWhere p s ≠ [] := by
  cases s with
  | nil => simp [splitWhere]
  | cons c r =>
    rw [splitWhere]
    split
    · simp
    · split <;> simp

/-! ## Words in place -/

/-- Reads a text from left to right; `w` holds the characters of the word being read. -/
def mapWordsFrom (f : List Char → List Char) : List Char → List Char → List Char
  | w, [] => f w
  | w, c :: r =>
    if isBlank c then f w ++ c :: mapWordsFrom f [] r else mapWordsFrom f (w ++ [c]) r

/-- Applies `f` to every maximal run of characters that are not blank and keeps the blanks. -/
def mapWords (f : List Char → List Char) (s : List Char) : List Char := mapWordsFrom f [] s

end DiagramText.Text
