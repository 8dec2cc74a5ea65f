import DiagramText.Text.Blank
import DiagramText.Yaml.Timestamp

/-!
# Types of nodes

A node has a type, named by a tag.  A plain scalar without a tag has the type that its spelling
shows: `Tag.ofSpelling`.
-/

namespace DiagramText.Yaml

/-- The type of a node. -/
inductive Tag where
  | null
  | bool
  | int
  | float
  | timestamp
  | str
  | binary
  | seq
  | map
  /-- Mappings of one pair each, in order. -/
  | omap
  /-- Mappings of one pair each, in order, in which a key may occur again. -/
  | pairs
  /-- The keys of a mapping. -/
  | set
  /-- The key under which a mapping takes over the pairs of another one. -/
  | merge
  /-- The key of a default value. -/
  | value
  | other (name : String)
deriving Repr, DecidableEq

namespace Tag

/-- The types of the language itself, with the last parts of their names. -/
def known : List (String × Tag) :=
  [("null", null), ("bool", bool), ("int", int), ("float", float), ("timestamp", timestamp),
   ("str", str), ("binary", binary), ("seq", seq), ("map", map), ("omap", omap), ("pairs", pairs),
   ("set", set), ("merge", merge), ("value", value)]

/-- What the names of the types of the language start with. -/
def standard : String := "tag:yaml.org,2002:"

/-- The type of the given name. -/
def ofName (name : String) : Tag :=
  ((known.find? fun (part, _) => standard ++ part == name).map (·.2)).getD (other name)

/-- The name of a type. -/
def name (t : Tag) : String :=
  match t with
  | other name => name
  | _ => standard ++ ((known.find? fun (_, u) => u == t).map (·.1)).getD ""

end Tag

/-! ## Spellings -/

/-- The words for truth values, in small letters. -/
def truths : List (String × Bool) :=
  [("yes", true), ("no", false), ("true", true), ("false", false), ("on", true), ("off", false)]

/-- The spellings of a word: small letters, a capital in front, or capitals. -/
def spellings (word : String) : List String :=
  [word, word.capitalize, word.toUpper]

/-- The spellings of truth values. -/
def isTruth (s : List Char) : Bool :=
  truths.any fun (word, _) => (spellings word).contains (String.ofList s)

/-- The spellings of null, but for the empty one. -/
def isNull (s : List Char) : Bool := ("~" :: spellings "null").contains (String.ofList s)

/-- A number without its sign. -/
def unsigned (s : List Char) : List Char :=
  match s with
  | '+' :: r => r
  | '-' :: r => r
  | _ => s

/-- Digits and underscores. -/
def isSpacedDigit (ch : Char) : Bool := ch.isDigit || ch == '_'

/-- A digit of base 60, with one or two decimal digits. -/
def isSixtieth : List Char → Bool
  | [a] => a.isDigit
  | [a, b] => '0' ≤ a && a ≤ '5' && b.isDigit
  | _ => false

/-- One or more digits of base 60, each with a colon in front. -/
def areSixtieths (s : List Char) : Bool :=
  match Text.splitOn ':' s with
  | [] :: d :: ds => (d :: ds).all isSixtieth
  | _ => false

/-- The spellings of integers. -/
def isInteger (s : List Char) : Bool :=
  match unsigned s with
  | '0' :: 'b' :: r => r != [] && r.all fun ch => ch == '0' || ch == '1' || ch == '_'
  | '0' :: 'x' :: r => r != [] && r.all fun ch => isHexDigit ch || ch == '_'
  | '0' :: r => r.all fun ch => ('0' ≤ ch && ch ≤ '7') || ch == '_'
  | ch :: r =>
    let behind := r.dropWhile isSpacedDigit
    ch.isDigit && (behind == [] || areSixtieths behind)
  | [] => false

/-- Nothing, or an exponent with a sign. -/
def isExponent (s : List Char) : Bool :=
  match s with
  | [] => true
  | e :: sign :: ds =>
    (e == 'e' || e == 'E') && (sign == '+' || sign == '-') && ds != [] && ds.all Char.isDigit
  | _ => false

/-- Digits behind a point, and possibly an exponent. -/
def isFraction (s : List Char) : Bool := isExponent (s.dropWhile isSpacedDigit)

/-- The spellings of numbers with a fraction. -/
def isDecimal (s : List Char) : Bool :=
  let infinite := ["inf", "Inf", "INF"].contains
  let notANumber := ["nan", "NaN", "NAN"].contains
  match s, unsigned s with
  | '.' :: r, _ =>
    (r.head?.any Char.isDigit && isFraction r) || infinite (String.ofList r) ||
      notANumber (String.ofList r)
  | _, '.' :: r => infinite (String.ofList r)
  | _, ch :: r =>
    let behind := r.dropWhile isSpacedDigit
    let sixtieths := behind.takeWhile (· != '.')
    ch.isDigit &&
      match behind.dropWhile (· != '.') with
      | '.' :: places =>
        if sixtieths == [] then isFraction places
        else areSixtieths sixtieths && places.all isSpacedDigit
      | _ => false
  | _, [] => false

/-- The spellings of dates. -/
def isTimestamp (s : List Char) : Bool := (Stamp.read? s).any (·.isEvident)

/-- The signs that start an anchor, an alias or a tag; alone they have a type without values. -/
def isLoneSign (s : List Char) : Bool := s = ['!'] || s = ['&'] || s = ['*']

/-- A text without the line break at its end. -/
def dropBreak (s : List Char) : List Char := if s.getLast? = some '\n' then s.dropLast else s

/-- The type that the spelling of a scalar shows. -/
def Tag.ofSpelling (text : String) : Tag :=
  let s := dropBreak text.toList
  if text = "" || isNull s then .null
  else if isTruth s then .bool
  else if isDecimal s then .float
  else if isInteger s then .int
  else if isTimestamp s then .timestamp
  else if s = ['<', '<'] then .merge
  else if s = ['='] then .value
  else if isLoneSign s then .other (Tag.standard ++ "yaml")
  else .str

end DiagramText.Yaml
