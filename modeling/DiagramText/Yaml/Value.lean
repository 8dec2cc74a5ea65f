/-!
# Values of front matter

Front matter is YAML, and a value is what a YAML document stands for.  Scalars have the types of
version 1.1 of the language; a mapping lists its pairs in source order.
-/

namespace DiagramText.Yaml

/-- A day of the calendar. -/
structure Date where
  year : Nat
  month : Nat
  day : Nat
deriving Repr, DecidableEq

/-- A time of a day, possibly with an offset from universal time in minutes. -/
structure Moment where
  date : Date
  hour : Nat
  minute : Nat
  second : Nat
  micro : Nat
  offset : Option Int
deriving Repr, DecidableEq

/-- A value. -/
inductive Value where
  | null
  | bool (b : Bool)
  | int (i : Int)
  | float (x : Float)
  /-- The one value that the spelling of no number names. -/
  | nan
  | str (s : String)
  | bytes (bs : List Nat)
  | date (d : Date)
  | moment (m : Moment)
  | list (items : List Value)
  | set (items : List Value)
  | map (pairs : List (Value × Value))

/-- A number of at least the given width, with zeros in front. -/
def padded (width n : Nat) : String :=
  let s := toString n
  String.ofList (List.replicate (width - s.length) '0') ++ s

/-- A date with hyphens between its parts. -/
def Date.text (d : Date) : String := s!"{padded 4 d.year}-{padded 2 d.month}-{padded 2 d.day}"

/-- An offset as sign, hours and minutes. -/
def offsetText (minutes : Int) : String :=
  let sign := if minutes < 0 then "-" else "+"
  s!"{sign}{padded 2 (minutes.natAbs / 60)}:{padded 2 (minutes.natAbs % 60)}"

/-- A moment as date, time, microseconds unless they are zero, and offset if there is one. -/
def Moment.text (m : Moment) : String :=
  let time := s!"{padded 2 m.hour}:{padded 2 m.minute}:{padded 2 m.second}"
  let micro := if m.micro = 0 then "" else s!".{padded 6 m.micro}"
  let offset := (m.offset.map offsetText).getD ""
  s!"{m.date.text}T{time}{micro}{offset}"

end DiagramText.Yaml
