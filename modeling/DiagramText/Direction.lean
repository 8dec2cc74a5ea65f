/-!
# Directions of layout
-/

namespace DiagramText

/-- The directions in which a diagram can be laid out. -/
inductive Direction where
  | topDown
  | topBottom
  | leftRight
  | bottomTop
  | rightLeft
deriving Repr, DecidableEq

namespace Direction

/-- The spelling of a direction. -/
def name : Direction → String
  | topDown => "TD"
  | topBottom => "TB"
  | leftRight => "LR"
  | bottomTop => "BT"
  | rightLeft => "RL"

/-- All directions. -/
def all : List Direction := [topDown, topBottom, leftRight, bottomTop, rightLeft]

/-- The direction with the given spelling. -/
def ofName? (s : String) : Option Direction := all.find? (·.name == s)

end Direction

end DiagramText
