/-!
# Trees under construction

Nested parts of a diagram form rose trees.  While a source is read, the parts that are still open
form a spine of frames, innermost first; a frame holds its value and the children that are complete.

1. `Tree` with the pre-order listings `subtrees` and `forest`, by recursion on the trees.
2. `Tree.walk`, which visits the trees of a worklist one after the other.
3. `Frame`, with `Frame.close` and `Frame.adopt`, and `Frame.closeAll` for a whole spine.
-/

namespace DiagramText

/-- A value with any number of children, in order. -/
inductive Tree (α : Type) where
  | node (value : α) (children : List (Tree α))
deriving Repr

namespace Tree

variable {α : Type}

/-- The value at the root. -/
def value : Tree α → α
  | node v _ => v

/-- The children of the root. -/
def children : Tree α → List (Tree α)
  | node _ cs => cs

mutual

/-- The tree and all trees below it, parents before children. -/
def subtrees : Tree α → List (Tree α)
  | node v cs => node v cs :: forest cs

/-- The trees of a forest and all trees below them, in order. -/
def forest : List (Tree α) → List (Tree α)
  | [] => []
  | t :: ts => subtrees t ++ forest ts

end

theorem forest_append (ss ts : List (Tree α)) : forest (ss ++ ts) = forest ss ++ forest ts := by
  induction ss with
  | nil => rfl
  | cons s ss ih => simp [forest, ih]

/-- The values of a forest in pre-order. -/
def forestValues (ts : List (Tree α)) : List α := (forest ts).map value

mutual

/-- The number of values in a tree. -/
def size : Tree α → Nat
  | node _ cs => forestSize cs + 1

/-- The number of values in a forest. -/
def forestSize : List (Tree α) → Nat
  | [] => 0
  | t :: ts => t.size + forestSize ts

end

theorem forestSize_append (ss ts : List (Tree α)) :
    forestSize (ss ++ ts) = forestSize ss + forestSize ts := by
  induction ss with
  | nil => simp [forestSize]
  | cons s ss ih => simp [forestSize, ih, Nat.add_assoc]

/-- Visits a worklist of trees: lists the first tree and puts its children before the other ones. -/
def walk : List (Tree α) → List (Tree α)
  | [] => []
  | t :: rest => t :: walk (t.children ++ rest)
termination_by ts => forestSize ts
decreasing_by
  cases t
  simp only [children, forestSize, forestSize_append, size]
  omega

end Tree

/-- An open part: its value, and its children so far. -/
structure Frame (α : Type) where
  value : α
  children : List (Tree α) := []
deriving Repr

namespace Frame

variable {α : Type}

/-- The complete tree of a frame that takes no more children. -/
def close (f : Frame α) : Tree α := .node f.value f.children

/-- Adds a complete child behind the others. -/
def adopt (f : Frame α) (t : Tree α) : Frame α := { f with children := f.children ++ [t] }

/-- Changes the value of a frame. -/
def map (g : α → α) (f : Frame α) : Frame α := { f with value := g f.value }

/-- Closes the frame `f` and all frames around it, innermost first. -/
def closeAll (f : Frame α) : List (Frame α) → Tree α
  | [] => f.close
  | g :: fs => closeAll (g.adopt f.close) fs

end Frame

end DiagramText
