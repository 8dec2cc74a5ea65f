import DiagramText.Distinct
import DiagramText.Gantt.Basic
import DiagramText.Text.Caseless
import DiagramText.Text.Digit
import DiagramText.Text.Ending
import DiagramText.Text.Lower

/-!
# Statements of gantt charts

1. `keyword?`: a keyword and a text, such as `title TEXT` or `section NAME`.
2. `setting?`: the name of a setting and possibly a text.
3. `task?`: a label, a colon and metadata; `Task.ofMetadata?` reads the metadata.
-/

namespace DiagramText.Gantt

open Text

/-! ## Keywords and settings -/

/-- The keywords that need a text behind them. -/
def keywords : List String :=
  ["title", "dateFormat", "axisFormat", "excludes", "includes", "section"]

/-- The names of the settings, which may stand alone. -/
def settingNames : List String :=
  ["todayMarker", "tickInterval", "weekday", "inclusiveEndDates", "topAxis"]

/-- A keyword as it is spelled on the line, and the text behind it. -/
def keyword? (s : List Char) : Option (List Char × List Char) :=
  keywords.findSome? fun w => do
    let (spelled, rest) ← caseless? w.toList s
    return (spelled, ← blanks₁ rest lineRest₁?)

/-- The name of a setting as it is spelled on the line, and the text behind it. -/
def setting? (s : List Char) : Option (List Char × List Char) :=
  settingNames.findSome? fun w => do
    let (spelled, rest) ← caseless? w.toList s
    return (spelled, (← restEnd? rest).getD [])

/-! ## Tasks -/

/-- The label and the metadata of a task. -/
def task? (s : List Char) : Option (List Char × List Char) :=
  match s.takeWhile (· != ':'), s.dropWhile (· != ':') with
  | [], _ => none
  | label, ':' :: r => (lineRest? (trimStart r)).map (trim label, ·)
  | _, _ => none

/-- The unit of a duration, at the end of a text. -/
def isUnit (s : List Char) : Bool :=
  match s with
  | 'm' :: 's' :: r => atEnd r
  | c :: r => ['s', 'm', 'h', 'd', 'w', 'y'].contains c && atEnd r
  | [] => false

/-- A number and a unit, such as `3d` or `1.5h`. -/
def isDuration (s : List Char) : Bool :=
  let whole := s.takeWhile isDigit
  let rest := s.dropWhile isDigit
  whole != [] &&
    match rest with
    | '.' :: r => r.takeWhile isDigit != [] && isUnit (r.dropWhile isDigit)
    | _ => isUnit rest

/-- The ids in `after a b`. -/
def after? (s : List Char) : Option (List String) := do
  let ids ← blanks₁ (← literal? "after".toList s) lineRest₁?
  return (words ids).map String.ofList

/-- The tags in front of the other parts, and these parts. -/
def leadingTags : List (List Char) → List Tag × List (List Char)
  | [] => ([], [])
  | p :: ps =>
    match Tag.ofName? (String.ofList p) with
    | some t =>
      let (ts, rest) := leadingTags ps
      (t :: ts, rest)
    | none => ([], p :: ps)

/-- Sets the start: a date, or the tasks to wait for. -/
def Task.withStart (t : Task) (part : List Char) : Task :=
  match after? part with
  | some ids => { t with afterIds := ids }
  | none => { t with start := some (String.ofList part) }

/-- Sets the end: a date, a duration, or the tasks to wait for. -/
def Task.withFinish (t : Task) (part : List Char) : Task :=
  match after? part with
  | some ids => { t with afterIds := ids }
  | none =>
    if isDuration part then { t with duration := some (String.ofList part) }
    else { t with finish := some (String.ofList part) }

/-- The task with the given label and metadata: leading tags, then an id and a start and an end, a
start and an end, an end alone, or for a milestone nothing. -/
def Task.ofMetadata? (label metadata : List Char) (line : Int) : Option Task :=
  let (tags, parts) := leadingTags ((splitOn ',' metadata).map trim)
  let task : Task := { label := String.ofList label, tags := addAllNew [] tags, line }
  match parts.filter (· ≠ []) with
  | [] => if tags.contains .milestone then some task else none
  | [finish] => some (task.withFinish finish)
  | [start, finish] => some ((task.withStart start).withFinish finish)
  | [id, start, finish] =>
    some (({ task with id := some (String.ofList id) }.withStart start).withFinish finish)
  | _ => none

/-! ## Lines -/

/-- A line of a gantt chart. -/
inductive Statement where
  | title (text : String)
  | dateFormat (text : String)
  | axisFormat (text : String)
  | excludes (days : List String)
  | includes (days : List String)
  | enter (name : String)
  | setting (name value : String)
  | task (label metadata : List Char)
  | invalid
deriving Repr, DecidableEq

/-- The statement of a keyword.  A spelling that differs from a plain one by more than the case of
ASCII letters opens a section. -/
def Statement.ofKeyword (spelled value : List Char) : Statement :=
  let text := String.ofList value
  let days := (fields value).map String.ofList
  match String.ofList (lower spelled) with
  | "title" => .title text
  | "dateformat" => .dateFormat text
  | "axisformat" => .axisFormat text
  | "excludes" => .excludes days
  | "includes" => .includes days
  | _ => .enter text

/-- The statement on a line. -/
def Statement.recognise (text : String) : Statement :=
  let s := text.toList
  match keyword? s with
  | some (spelled, value) => .ofKeyword spelled (trim value)
  | none =>
    match setting? s with
    | some (spelled, value) => .setting (String.ofList spelled) (String.ofList (trim value))
    | none =>
      match task? s with
      | some (label, metadata) => .task label metadata
      | none => .invalid

end DiagramText.Gantt
