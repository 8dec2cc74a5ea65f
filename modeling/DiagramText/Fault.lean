import DiagramText.Text.Quoted

/-!
# Faults

Malformed text is reported by diagnostics.  The few inputs that have no answer at all end in a
`Fault`, which names the cause; `Fault.message` words it.
-/

namespace DiagramText

/-- The part of a calendar date or of a time of day that is impossible. -/
inductive ClockFault where
  | year (value : Nat)
  | month
  | day
  | hour
  | minute
  | second
  | offset (minutes : Int)
deriving Repr, DecidableEq

/-- An offset from universal time of a day or more either way, as days and seconds. -/
def durationText (minutes : Int) : String :=
  let days := minutes.fdiv 1440
  let seconds := minutes.fmod 1440 * 60
  if seconds = 0 then s!"datetime.timedelta(days={days})"
  else s!"datetime.timedelta(days={days}, seconds={seconds})"

/-- What is impossible about a date or time. -/
def ClockFault.message : ClockFault → String
  | .year value => s!"year {value} is out of range"
  | .month => "month must be in 1..12"
  | .day => "day is out of range for month"
  | .hour => "hour must be in 0..23"
  | .minute => "minute must be in 0..59"
  | .second => "second must be in 0..59"
  | .offset minutes =>
    "offset must be a timedelta strictly between -timedelta(hours=24) and timedelta(hours=24), " ++
      s!"not {durationText minutes}."

/-- Why a call has no answer. -/
inductive Fault where
  /-- A chart that reads its header was given no lines. -/
  | missingHeader
  /-- The position of a sequence note is spelled with a letter that has no plain small form. -/
  | notePosition (key : String)
  /-- A number has more digits than an integer may have. -/
  | longInteger (digits : Nat)
  /-- An integer in front matter has more digits than can be written. -/
  | wideInteger
  /-- A digit of base 60 stands at a place whose power is beyond all doubles. -/
  | widePlace
  /-- A collection in front matter is a part of itself. -/
  | endless
  /-- Front matter names an impossible date or time. -/
  | clock (fault : ClockFault)
  /-- Front matter forces a text to be a number of the given base that it does not spell. -/
  | integer (base : Nat) (text : String)
  /-- Front matter forces a text to be a number with a fraction that it does not spell. -/
  | decimal (text : String)
  /-- Front matter forces a text to be a truth value that it does not name. -/
  | truth (text : String)
  /-- Front matter forces an empty text to be a number. -/
  | emptyNumber
  /-- Front matter forces a text to be a date that it does not spell. -/
  | timestamp
  /-- Front matter forces a collection to be a date. -/
  | stampedCollection
  /-- Front matter escapes a character by a number that is no code point. -/
  | character
  /-- Front matter escapes a character by a number that does not fit into a signed word. -/
  | characterWord
  /-- A plugin whose detector or reader cannot be called. -/
  | notCallable (plugin diagram : String)
deriving Repr, DecidableEq

/-- The wording of a fault. -/
def Fault.message : Fault → String
  | missingHeader => "list index out of range"
  | notePosition key => s!"'{key}'"
  | longInteger digits =>
    s!"Exceeds the limit (4300 digits) for integer string conversion: value has {digits} " ++
      "digits; use sys.set_int_max_str_digits() to increase the limit"
  | wideInteger =>
    "Exceeds the limit (4300 digits) for integer string conversion; " ++
      "use sys.set_int_max_str_digits() to increase the limit"
  | widePlace => "int too large to convert to float"
  | endless => "maximum recursion depth exceeded"
  | clock fault => fault.message
  | integer base text =>
    -- a long text is cut off
    let shown := String.ofList ((Text.quoted text).toList.take 200)
    s!"invalid literal for int() with base {base}: {shown}"
  | decimal text => s!"could not convert string to float: {Text.quoted text}"
  | truth text => Text.quoted text
  | emptyNumber => "string index out of range"
  | timestamp => "'NoneType' object has no attribute 'groupdict'"
  | stampedCollection => "expected string or bytes-like object, got 'list'"
  | character => "chr() arg not in range(0x110000)"
  | characterWord => "Python int too large to convert to C int"
  | notCallable plugin diagram =>
    s!"Plugin {Text.quoted plugin}: diagram {Text.quoted diagram} needs callable detect and parse"

end DiagramText
