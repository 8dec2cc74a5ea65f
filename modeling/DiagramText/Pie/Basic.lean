/-!
# Pie charts

A pie chart has a title, a flag for showing the values, and slices in source order.
-/

namespace DiagramText.Pie

/-- A slice and the line that gave it. -/
structure Slice where
  label : String
  value : Float
  line : Int
deriving Repr

/-- A pie chart. -/
structure Chart where
  title : Option String := none
  showData : Bool := false
  slices : List Slice := []
deriving Repr

/-- The sum of the values from first to last; a chart without slices has no sum. -/
def Chart.total? (c : Chart) : Option Float :=
  match c.slices with
  | [] => none
  | s :: rest => some (rest.foldl (fun sum t => sum + t.value) s.value)

end DiagramText.Pie
