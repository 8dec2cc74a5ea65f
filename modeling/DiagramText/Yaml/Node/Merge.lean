import DiagramText.Yaml.Node

/-!
# Merging mappings

The value of a merge key is a mapping or a sequence of mappings, whose pairs come in front of those
of the mapping that has the key.  Merging changes the mappings in place: each merge key is taken out
before the mappings it names are merged themselves, so that a mapping may merge itself.
-/

namespace DiagramText.Yaml.NodeGraph

/-- A reading of merge keys: the changed graph, or why a value cannot be merged. -/
abbrev Flattened := Except Failure NodeGraph

/-- The mappings among `items` are flattened one after the other; gives their pairs, the last
mapping first. -/
def flattenItems (flatten : NodeGraph → NodeId → Flattened) (g : NodeGraph) :
    List NodeId → Except Failure (NodeGraph × List (NodeId × NodeId))
  | [] => .ok (g, [])
  | n :: ns =>
    match g.content n with
    | .mapping _ => do
      let g ← flatten g n
      let own := g.pairs n
      let (g, later) ← flattenItems flatten g ns
      return (g, later ++ own)
    | _ => g.fail n s!"expected a mapping for merging, but found {g.kind n}"

/-- Flattens the mappings that the value `n` of a merge key names; gives their pairs. -/
def flattenSource (flatten : NodeGraph → NodeId → Flattened) (g : NodeGraph) (n : NodeId) :
    Except Failure (NodeGraph × List (NodeId × NodeId)) :=
  match g.content n with
  | .mapping _ => do
    let g ← flatten g n
    return (g, g.pairs n)
  | .sequence items => flattenItems flatten g items
  | .scalar _ =>
    g.fail n s!"expected a mapping or list of mappings for merging, but found {g.kind n}"

/-- Makes the signs for a default value among the keys of a mapping plain text. -/
def nameDefaults (g : NodeGraph) (n : NodeId) : NodeGraph :=
  (g.pairs n).foldl (fun g p => if g.tag p.1 = .value then g.setTag p.1 .str else g) g

/-- Flattens the mapping `n`: takes out its first merge key, flattens what it names, flattens the
rest, and puts the merged pairs in front.  `fuel` bounds the number of merge keys. -/
def flattenWithin : (fuel : Nat) → NodeGraph → NodeId → Flattened
  | 0, g, _ => .ok g
  | fuel + 1, g, n =>
    let pairs := g.pairs n
    let isMerge := fun p : NodeId × NodeId => g.tag p.1 == .merge
    match pairs.dropWhile (!isMerge ·) with
    | [] => .ok (g.nameDefaults n)
    | (_, source) :: behind => do
      let g := g.setContent n (.mapping (pairs.takeWhile (!isMerge ·) ++ behind))
      let (g, merged) ← flattenSource (flattenWithin fuel) g source
      let g ← flattenWithin fuel g n
      return g.setContent n (.mapping (merged ++ g.pairs n))

/-- Flattens the mapping `n`. -/
def flatten (g : NodeGraph) (n : NodeId) : Flattened := flattenWithin (g.pairCount + 1) g n

end DiagramText.Yaml.NodeGraph
