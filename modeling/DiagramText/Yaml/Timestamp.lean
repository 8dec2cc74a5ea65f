import DiagramText.Yaml.Cursor
import DiagramText.Yaml.Value

/-!
# Dates and times

1. `Stamp.read?` reads the spelling of a date, possibly with a time of day and an offset.
2. `Stamp.value` is the date or moment that it names, if there is one.
3. `Moment.instant` places moments with an offset on one time line.
-/

namespace DiagramText.Yaml

/-- A spelled time of day. -/
structure ClockTime where
  hour : Nat
  minute : Nat
  second : Nat
  /-- The digits behind the point. -/
  fraction : List Char
  /-- The offset from universal time in minutes. -/
  offset : Option Int
deriving Repr, DecidableEq

/-- A spelled date, possibly with a time of day. -/
structure Stamp where
  date : Date
  /-- Whether month and day have two digits. -/
  padded : Bool
  time : Option ClockTime
deriving Repr, DecidableEq

/-! ## Spelling -/

/-- Up to `most` digits, at least `least`: how many they are and what they are worth. -/
def fewDigits? (least most : Nat) (s : List Char) : Option ((Nat × Nat) × List Char) :=
  let ds := (s.take most).takeWhile Char.isDigit
  if ds.length < least then none else some ((ds.length, numberOf 10 ds), s.drop ds.length)

/-- The text behind the character `ch`. -/
def after? (ch : Char) : List Char → Option (List Char)
  | c :: r => if c = ch then some r else none
  | [] => none

/-- The end of an offset: nothing, or a colon and two digits for the minutes. -/
def offsetMinutes? (s : List Char) : Option Nat :=
  if s == [] then some 0
  else do
    let ((_, minutes), r) ← fewDigits? 2 2 (← after? ':' s)
    if r == [] then some minutes else none

/-- An offset from universal time, in minutes. -/
def offset? (s : List Char) : Option Int :=
  match s with
  | ['Z'] => some 0
  | sign :: r =>
    if sign = '+' || sign = '-' then do
      let ((_, hours), r) ← fewDigits? 1 2 r
      let minutes : Int := 60 * hours + (← offsetMinutes? r)
      some (if sign = '-' then -minutes else minutes)
    else none
  | [] => none

/-- The end of a time: nothing, or a gap and an offset. -/
def zone? (s : List Char) : Option (Option Int) :=
  if s == [] then some none else (offset? (s.dropWhile isGap)).map some

/-- A time of day, and its offset. -/
def clockTime? (s : List Char) : Option ClockTime := do
  let ((_, hour), s) ← fewDigits? 1 2 s
  let ((_, minute), s) ← fewDigits? 2 2 (← after? ':' s)
  let ((_, second), s) ← fewDigits? 2 2 (← after? ':' s)
  let (fraction, s) :=
    match s with
    | '.' :: r => (r.takeWhile Char.isDigit, r.dropWhile Char.isDigit)
    | _ => ([], s)
  return ⟨hour, minute, second, fraction, ← zone? s⟩

/-- The text between a date and a time: a letter T, or a gap. -/
def timeStart? : List Char → Option (List Char)
  | [] => none
  | c :: r =>
    if c = 'T' || c = 't' then some r
    else if isGap c then some (r.dropWhile isGap)
    else none

/-- A date, possibly with a time of day. -/
def Stamp.read? (s : List Char) : Option Stamp := do
  let ((_, year), s) ← fewDigits? 4 4 s
  let ((monthWidth, month), s) ← fewDigits? 1 2 (← after? '-' s)
  let ((dayWidth, day), s) ← fewDigits? 1 2 (← after? '-' s)
  let time ← if s == [] then some none else (timeStart? s).bind fun s => (clockTime? s).map some
  return ⟨⟨year, month, day⟩, monthWidth = 2 && dayWidth = 2, time⟩

/-- Whether the spelling is a date by itself, without a tag: a date without a time has to be
padded. -/
def Stamp.isEvident (t : Stamp) : Bool := t.padded || t.time.isSome

/-! ## The calendar -/

/-- Whether a year has a leap day. -/
def isLeapYear (year : Nat) : Bool := year % 4 == 0 && (year % 100 != 0 || year % 400 == 0)

/-- The number of days of a month. -/
def daysIn (year month : Nat) : Nat :=
  if month = 2 then (if isLeapYear year then 29 else 28)
  else if [4, 6, 9, 11].contains month then 30
  else 31

/-- What is impossible about a date. -/
def Date.fault? (d : Date) : Option ClockFault :=
  if d.year = 0 then some (.year 0)
  else if d.month = 0 || 12 < d.month then some .month
  else if d.day = 0 || daysIn d.year d.month < d.day then some .day
  else none

/-- What is impossible about a time of day. -/
def ClockTime.fault? (t : ClockTime) : Option ClockFault :=
  if 23 < t.hour then some .hour
  else if 59 < t.minute then some .minute
  else if 59 < t.second then some .second
  else none

/-- What is impossible about an offset: it is less than a day either way. -/
def offsetFault? (offset : Option Int) : Option ClockFault :=
  offset.bind fun minutes => if 1440 ≤ minutes.natAbs then some (.offset minutes) else none

/-- What is impossible about a spelled date and time; the offset is looked at first. -/
def Stamp.fault? (t : Stamp) : Option ClockFault :=
  (t.time.bind (offsetFault? ·.offset)) <|> t.date.fault? <|> t.time.bind (·.fault?)

/-- The microseconds that the digits behind a point stand for; further digits are dropped. -/
def microseconds (fraction : List Char) : Nat :=
  let ds := fraction.take 6
  numberOf 10 ds * Nat.pow 10 (6 - ds.length)

/-- The date or moment that is spelled. -/
def Stamp.value (t : Stamp) : Except Fault Value :=
  match t.fault? with
  | some fault => .error (.clock fault)
  | none =>
    match t.time with
    | none => .ok (.date t.date)
    | some c =>
      .ok (.moment ⟨t.date, c.hour, c.minute, c.second, microseconds c.fraction, c.offset⟩)

/-! ## The time line -/

/-- The number of days up to a date. -/
def Date.number (d : Date) : Nat :=
  let y := d.year - 1
  365 * y + y / 4 - y / 100 + y / 400 +
    ((List.range d.month).drop 1).foldl (fun n m => n + daysIn d.year m) 0 + d.day

/-- The microseconds of a moment in universal time. -/
def Moment.instant (m : Moment) : Int :=
  let minutes : Int := (m.date.number * 24 + m.hour : Nat) * 60 + m.minute - m.offset.getD 0
  (minutes * 60 + m.second) * 1000000 + m.micro

end DiagramText.Yaml
