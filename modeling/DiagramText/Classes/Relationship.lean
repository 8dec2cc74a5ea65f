import DiagramText.Classes.Basic
import DiagramText.Text.Digit
import DiagramText.Text.Ending
import DiagramText.Text.Word

/-!
# Relationships between classes

A relationship is written `From "m" --> "n" To : label`, with blanks around the connector or
without.  Names may contain the characters of connectors, so the parts are found by trying cuts: the
shortest first name, then a multiplicity, then the longest connector on which the rest can be read.

1. `multiplicities`, the ways to read a multiplicity without quotes.
2. `relationship?`, first with blanks around the connector, then with or without them.
3. `connectorLike?`, which finds out whether a line was meant as a relationship.
-/

namespace DiagramText.Classes

open Text

/-! ## Multiplicities -/

/-- The ways to read a bound in front of `s`, in order of preference: digits, most first, or one of
`*`, `n` and `many`. -/
def bounds (s : List Char) : List (List Char × List Char) :=
  let digits := (s.takeWhile isDigit).length
  ((List.range digits).reverse.map fun n => (s.take (n + 1), s.drop (n + 1))) ++
    ["*", "n", "many"].filterMap fun w => (literal? w.toList s).map (w.toList, ·)

/-- The ways to read a multiplicity in front of `s`, in order of preference: a bound, or a range of
two bounds with two dots between them. -/
def multiplicities (s : List Char) : List (List Char × List Char) :=
  (bounds s).flatMap fun (low, rest) =>
    (match literal? ['.', '.'] rest with
      | some u => (bounds u).map fun (high, v) => (low ++ '.' :: '.' :: high, v)
      | none => []) ++ [(low, rest)]

/-- Whether the whole of a text is a multiplicity. -/
def isMultiplicity (s : List Char) : Bool := (multiplicities s).any fun (_, rest) => atEnd rest

/-! ## Parts -/

/-- A relationship as it is written. -/
structure RelationText where
  source : List Char
  sourceMultiplicity : Option (List Char)
  connector : Connector
  targetMultiplicity : Option (List Char)
  target : List Char
  label : Option (List Char)
deriving Repr, DecidableEq

/-- The characters that may start the name of a class. -/
def isNameStart (c : Char) : Bool := isWord c || c == '.' || c == '$'

/-- The characters of names, with type arguments. -/
def isNameChar (c : Char) : Bool := isNameStart c || c == '~' || c == ',' || c == '-'

/-- The text between double quotes in front of `s`. -/
def quotedText? (s : List Char) : Option (List Char × List Char) := do
  let r ← literal? ['"'] s
  return (r.takeWhile (· != '"'), ← literal? ['"'] (r.dropWhile (· != '"')))

/-- The text behind the blanks around a connector; with `spaced` there must be some. -/
def around? (spaced : Bool) (s : List Char) : Option (List Char) :=
  if spaced then gap? s else some (trimStart s)

/-- The second name and the label. -/
def target? (s : List Char) : Option (List Char × Option (List Char)) :=
  match s with
  | c :: _ =>
    if isNameStart c then (labelEnd? (s.dropWhile isNameChar)).map (s.takeWhile isNameChar, ·)
    else none
  | [] => none

/-- The second multiplicity, the second name and the label. -/
def targetEnd? (s : List Char) :
    Option (Option (List Char) × List Char × Option (List Char)) :=
  (do
    let (m, rest) ← quotedText? s
    return (some m, ← target? (trimStart rest))) <|>
  ((multiplicities s).findSome? fun (m, rest) => do return (some m, ← target? (← gap? rest))) <|>
  (target? s).map (none, ·)

/-- A connector and what stands behind it. -/
def connection? (spaced : Bool) (source : List Char) (m : Option (List Char)) (s : List Char) :
    Option RelationText := do
  let rest ← around? spaced s
  Connector.longestFirst.findSome? fun connector => do
    let rest ← around? spaced (← literal? connector.token.toList rest)
    let (targetMultiplicity, target, label) ← targetEnd? rest
    return { source, sourceMultiplicity := m, connector, targetMultiplicity, target, label }

/-- The first multiplicity, which may be missing, and what stands behind it. -/
def multiplicityEnd? (spaced : Bool) (source s : List Char) : Option RelationText :=
  (do
    let (m, rest) ← quotedText? (trimStart s)
    connection? spaced source (some m) rest) <|>
  (do (multiplicities (← gap? s)).findSome? fun (m, rest) =>
        connection? spaced source (some m) rest) <|>
  connection? spaced source none s

/-- A relationship, with the given spacing around the connector. -/
def spacedRelationship? (spaced : Bool) : List Char → Option RelationText
  | [] => none
  | c :: r =>
    if isNameStart c then
      shortest isNameChar r fun t u => multiplicityEnd? spaced (c :: t) u
    else none

/-- A relationship.  A connector between blanks comes first, so that `A -- owner` links to `owner`
by `--` and not to `wner` by `--o`. -/
def relationship? (s : List Char) : Option RelationText :=
  spacedRelationship? true s <|> spacedRelationship? false s

/-! ## Broken relationships -/

/-- The tokens of a text: texts in double quotes, and else runs without blanks; `fuel` bounds their
number. -/
def tokensWithin : (fuel : Nat) → List Char → List (List Char)
  | 0, _ => []
  | fuel + 1, s =>
    match trimStart s with
    | [] => []
    | t =>
      match quotedText? t with
      | some (inside, rest) => ('"' :: inside ++ ['"']) :: tokensWithin fuel rest
      | none => t.takeWhile (!isBlank ·) :: tokensWithin fuel (t.dropWhile (!isBlank ·))

/-- The tokens of a text. -/
def tokens (s : List Char) : List (List Char) := tokensWithin s.length s

/-- Whether a token could be meant as a connector. -/
def isConnectorLike (t : List Char) : Bool :=
  t.head? != some '"' && !isMultiplicity t && (hasInfix ['-', '-'] t || hasInfix ['.', '.'] t)

/-- The first token in front of a colon, other than the first of all, that could be meant as a
connector. -/
def connectorLike? (s : List Char) : Option (List Char) :=
  (tokens (s.takeWhile (· != ':'))).tail.find? isConnectorLike

end DiagramText.Classes
