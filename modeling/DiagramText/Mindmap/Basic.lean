import DiagramText.Tree

/-!
# Mindmaps

A mindmap is a tree of topics.  A topic may carry an icon and class names.
-/

namespace DiagramText.Mindmap

/-- The outlines of topics. -/
inductive Shape where
  | plain
  | square
  | rounded
  | circle
  | bang
  | cloud
  | hexagon
deriving Repr, DecidableEq

/-- The name of a shape. -/
def Shape.name : Shape → String
  | plain => "default"
  | square => "square"
  | rounded => "rounded"
  | circle => "circle"
  | bang => "bang"
  | cloud => "cloud"
  | hexagon => "hexagon"

/-- A topic, numbered in source order. -/
structure Topic where
  id : String
  label : String
  shape : Shape
  icon : Option String := none
  classes : List String := []
  line : Int
deriving Repr, DecidableEq

/-- A mindmap; it has no root only if no line gave a topic. -/
structure Map where
  root : Option (Tree Topic)
deriving Repr

/-- The topics with their subtrees, in source order. -/
def Map.subtrees (m : Map) : List (Tree Topic) :=
  match m.root with
  | some t => t.subtrees
  | none => []

end DiagramText.Mindmap
