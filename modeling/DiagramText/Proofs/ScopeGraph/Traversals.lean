import DiagramText.Proofs.Roster
import DiagramText.Proofs.Tree
import DiagramText.ScopeGraph.Basic

/-!
# Traversals of subgraphs

Subgraphs are visited with a stack of trees: each round takes the tree on top, visits it and puts
its children on the stack, the first one on top.  Such a loop visits the forest in pre-order, and it
ends, whatever is gathered on the way.

1. `Tree.Ends`, the loop, with the trees that a stack still lists and what one round does to them.
2. `Tree.ends_iff`: every loop ends, with what the recursive listing gives.
3. `Graph.IsListed`, what the questions about subgraphs answer, and `subgraphs_are_listed`.
-/

namespace DiagramText

namespace Tree

variable {α β : Type} {visit : β → Tree α → β}

/-! ## Loops over a stack -/

/-- The loop over a stack, whose top is its last tree, ends and has gathered `c` then, if it has
gathered `b` so far.  The end is an empty stack. -/
inductive Ends (visit : β → Tree α → β) : (stack : List (Tree α)) → (b c : β) → Prop
  | empty (b : β) : Ends visit [] b b
  | round (rest : List (Tree α)) (top : Tree α) (b c : β) :
      Ends visit (rest ++ top.children.reverse) (visit b top) c → Ends visit (rest ++ [top]) b c

/-- The trees that are yet to be visited, in the order of their visits. -/
def pending (stack : List (Tree α)) : List (Tree α) := forest stack.reverse

theorem forest_cons (t : Tree α) (ts : List (Tree α)) :
    forest (t :: ts) = t :: forest (t.children ++ ts) := by
  rw [forest, subtrees_eq, forest_append]
  rfl

/-- A round visits the first of the pending trees and leaves the others. -/
theorem pending_round (rest : List (Tree α)) (top : Tree α) :
    pending (rest ++ [top]) = top :: pending (rest ++ top.children.reverse) := by
  unfold pending
  rw [List.reverse_append, List.reverse_singleton, List.singleton_append, forest_cons,
    List.reverse_append, List.reverse_reverse]

/-- Visiting what is pending gives the same before and after each round. -/
theorem Ends.eq_foldl_pending {stack : List (Tree α)} {b c : β} (h : Ends visit stack b c) :
    c = (pending stack).foldl visit b := by
  induction h with
  | empty b => rfl
  | round rest top b c _ ih => rw [ih, pending_round, List.foldl_cons]

/-- The loop over a forest ends: a round takes one tree off the worklist and puts smaller ones in
its place. -/
theorem ends_reverse (ts : List (Tree α)) (b : β) :
    Ends visit ts.reverse b ((forest ts).foldl visit b) := by
  -- The induction is the recursion of `walk`, whose worklist is the stack from its top down.
  induction ts using walk.induct generalizing b with
  | case1 => exact .empty b
  | case2 t rest ih =>
    have hround := ih (visit b t)
    rw [List.reverse_append] at hround
    rw [List.reverse_cons, forest_cons, List.foldl_cons]
    exact .round rest.reverse t b _ hround

/-- **Loops.** The loop over the trees of a forest ends with just one answer, which is the one of
the pre-order listing. -/
theorem ends_iff (ts : List (Tree α)) (b c : β) :
    Ends visit ts.reverse b c ↔ c = (forest ts).foldl visit b := by
  constructor
  · intro h
    have hpending := h.eq_foldl_pending
    rwa [pending, List.reverse_reverse] at hpending
  · rintro rfl
    exact ends_reverse ts b

end Tree

namespace ScopeGraph

open DiagramText.Tree (Ends forest)

/-! ## Questions about subgraphs -/

/-- The questions about the subgraphs of a graph are answered from the pre-order listing, by loops
that end. -/
structure Graph.IsListed (g : Graph) : Prop where
  all : g.allSubgraphs = forest g.subgraphs
  all_ends : ∀ ts, Ends (fun us t => us ++ [t]) g.subgraphs.reverse [] ts ↔ ts = g.allSubgraphs
  /-- The subgraph of an id is the first one with that id. -/
  found : ∀ id t, g.subgraph? id = some t ↔ ∃ front back, forest g.subgraphs = front ++ t :: back ∧
    t.value.id = id ∧ ∀ u ∈ front, u.value.id ≠ id
  missing : ∀ id, g.subgraph? id = none ↔ ∀ u ∈ forest g.subgraphs, u.value.id ≠ id
  /-- The members of a subgraph are listed below it; later occurrences are left out. -/
  members : ∀ id t, g.subgraph? id = some t →
    g.members id = (t.subtrees.flatMap (·.value.nodeIds)).eraseDups
  members_ends : ∀ id t, g.subgraph? id = some t → ∀ ids,
    Ends (fun ids u => addAllNew ids u.value.nodeIds) [t] [] ids ↔ ids = g.members id
  members_missing : ∀ id, g.subgraph? id = none → g.members id = []

theorem Graph.members_of_found {g : Graph} {id : String} {t : Subgraph}
    (h : g.subgraph? id = some t) :
    g.members id = t.subtrees.foldl (fun ids u => addAllNew ids u.value.nodeIds) [] := by
  have hwalk : Tree.walk [t] = t.subtrees := by
    rw [Tree.walk_eq_forest, forest, forest, List.append_nil]
  rw [members, h]
  dsimp only
  rw [hwalk]

/-- **Traversals.** The listing of all subgraphs, the look-up of an id and the members of a subgraph
are those of the recursive pre-order listing, for every forest, and the loops over a stack that
gather them end. -/
theorem subgraphs_are_listed (g : Graph) : g.IsListed where
  all := Tree.walk_eq_forest g.subgraphs
  all_ends ts := by
    have hlisted : (forest g.subgraphs).foldl (fun us t => us ++ [t]) [] = forest g.subgraphs := by
      rw [List.foldl_append_eq_append, ← List.flatMap_def, List.flatMap_singleton', List.nil_append]
    rw [Tree.ends_iff, hlisted, Graph.allSubgraphs, Tree.walk_eq_forest]
  found id t := by
    rw [Graph.subgraph?, Graph.allSubgraphs, Tree.walk_eq_forest, List.find?_eq_some_iff_append]
    simp only [beq_iff_eq, Bool.not_eq_true', beq_eq_false_iff_ne]
    constructor
    · rintro ⟨hid, front, back, hforest, hfront⟩
      exact ⟨front, back, hforest, hid, hfront⟩
    · rintro ⟨front, back, hforest, hid, hfront⟩
      exact ⟨hid, front, back, hforest, hfront⟩
  missing id := by
    rw [Graph.subgraph?, Graph.allSubgraphs, Tree.walk_eq_forest, List.find?_eq_none]
    simp only [beq_iff_eq, ne_eq]
  members id t h := by
    -- To add the ids tree by tree is to add all ids one after the other.
    rw [Graph.members_of_found h, ← addAllNew_nil]
    exact List.foldl_flatMap.symm
  members_ends id t h ids := by
    have hsubtrees : forest [t] = t.subtrees := by rw [forest, forest, List.append_nil]
    rw [Graph.members_of_found h, ← hsubtrees]
    exact Tree.ends_iff [t] [] ids
  members_missing id h := by
    rw [Graph.members, h]

/-- A subgraph with the given id and nodes. -/
def madeSubgraph (serial : Nat) (id : String) (nodeIds : List String) (children : List Subgraph) :
    Subgraph :=
  .node { serial, id, label := id, nodeIds, parent := none, line := 0 } children

/-- A subgraph with repeated nodes. -/
def innerSubgraph : Subgraph :=
  madeSubgraph 1 "b" ["y", "x", "y"] [madeSubgraph 2 "c" ["z", "x"] []]

/-- A graph with two subgraphs of one id, of which the inner one comes first in pre-order. -/
def repeatedId : Graph where
  family := .flowchart
  direction := "TD"
  nodes := {}
  edges := []
  subgraphs := [madeSubgraph 0 "a" ["x"] [innerSubgraph], madeSubgraph 3 "b" ["w"] []]
  styles := {}

theorem subgraphs_are_listed_repeatedId :
    repeatedId.subgraph? "b" = some innerSubgraph ∧ repeatedId.members "b" = ["y", "x", "z"] := by
  have hlisted := subgraphs_are_listed repeatedId
  have hfound : repeatedId.subgraph? "b" = some innerSubgraph :=
    (hlisted.found _ _).2 ⟨[madeSubgraph 0 "a" ["x"] [innerSubgraph]],
      [madeSubgraph 2 "c" ["z", "x"] [], madeSubgraph 3 "b" ["w"] []], rfl, rfl, by decide⟩
  exact ⟨hfound, (hlisted.members _ _ hfound).trans (by decide)⟩

end ScopeGraph

end DiagramText
