import DiagramText.OrderedMap

/-!
# Gantt charts

A gantt chart has sections of tasks, named and in order of first appearance, and settings.
-/

namespace DiagramText.Gantt

/-- The tags that may stand in front of a task's dates. -/
inductive Tag where
  | done
  | active
  | crit
  | milestone
deriving Repr, DecidableEq

/-- The spelling of a tag. -/
def Tag.name : Tag → String
  | done => "done"
  | active => "active"
  | crit => "crit"
  | milestone => "milestone"

/-- The tag with the given spelling. -/
def Tag.ofName? (s : String) : Option Tag :=
  [done, active, crit, milestone].find? (·.name == s)

/-- A task.  Its dates are kept as written; `duration` is set in place of `end` for a text such as
`3d`, and `afterIds` in place of a date for `after a b`. -/
structure Task where
  label : String
  id : Option String := none
  tags : List Tag := []
  start : Option String := none
  finish : Option String := none
  duration : Option String := none
  afterIds : List String := []
  line : Int
deriving Repr, DecidableEq

/-- A gantt chart; the unnamed section holds the tasks above the first section line. -/
structure Chart where
  title : Option String := none
  dateFormat : Option String := none
  axisFormat : Option String := none
  excludes : List String := []
  includes : List String := []
  settings : OrderedMap String String := {}
  sections : OrderedMap String (List Task) := {}
deriving Repr, DecidableEq

/-- The tasks of all sections, section after section. -/
def Chart.tasks (c : Chart) : List Task := c.sections.values.flatten

end DiagramText.Gantt
