import DiagramText.Proofs.Flowchart.ChainLines
import DiagramText.Proofs.Growth
import DiagramText.Proofs.ScopeGraph.Columns
import Mathlib.Data.List.ProdSigma

/-!
# The edges of chains

A line that is written as a chain adds the products of neighbouring groups to the edges and mentions
the ids in order.

1. `State.mentionAll`, mentioning ids one after the other, and what it does to the nodes.
2. `WrittenChain.edges`, and `foldl_linkSteps`, by induction on the links.
3. `chain_is_products`.
-/

namespace DiagramText

open Source (Line)

/-! ## Mentioning ids one after the other -/

namespace ScopeGraph

namespace State

/-- Mentions ids one after the other. -/
def mentionAll (st : State) (line : Int) (ids : List String) : State :=
  ids.foldl (fun st id => st.mention id .rectangle line) st

variable (st : State) (line : Int)

theorem mentionAll_append (ids more : List String) :
    st.mentionAll line (ids ++ more) = (st.mentionAll line ids).mentionAll line more :=
  List.foldl_append

theorem edges_mentionAll (ids : List String) : (st.mentionAll line ids).edges = st.edges := by
  refine List.foldlRecOn (motive := fun st' : State => st'.edges = st.edges) ids _ rfl ?_
  intro st' h id _
  exact (edges_claim _ id).trans h

theorem reports_mentionAll (ids : List String) :
    (st.mentionAll line ids).reports = st.reports := by
  refine List.foldlRecOn (motive := fun st' : State => st'.reports = st.reports) ids _ rfl ?_
  intro st' h id _
  exact (reports_mention st' id .rectangle line).trans h

theorem keys_mentionAll (ids : List String) :
    (st.mentionAll line ids).nodes.keys = addAllNew st.nodes.keys ids := by
  induction ids generalizing st with
  | nil => rfl
  | cons id ids ih =>
    have hone : (st.mention id .rectangle line).nodes.keys = addNew st.nodes.keys id := by
      unfold mention
      rw [nodes_claim, Registry.keys_ensure]
    show ((st.mention id .rectangle line).mentionAll line ids).nodes.keys = _
    rw [ih, hone]
    rfl

/-- A node that a line mentions first, without label and shape. -/
def implicitNode (id : String) (order : Nat) (line : Int) : Node :=
  { id, label := "", shape := .rectangle, declaredOrder := order, implicit := true, line }

theorem get?_mention (id j : String) :
    (st.mention id .rectangle line).nodes.get? j =
      if j = id then some ((st.nodes.get? id).getD (implicitNode id st.nodes.size line))
      else st.nodes.get? j := by
  unfold mention
  rw [nodes_claim]
  by_cases hj : j = id
  · rw [if_pos hj, hj, Registry.get?_ensure_self]
    rfl
  · rw [if_neg hj, Registry.get?_ensure_of_ne _ _ hj]

/-- Nodes that are known stay as they are. -/
theorem get?_mentionAll_of_some {ids : List String} {id : String} {n : Node}
    (h : st.nodes.get? id = some n) : (st.mentionAll line ids).nodes.get? id = some n := by
  induction ids generalizing st with
  | nil => exact h
  | cons j ids ih =>
    refine ih (st.mention j .rectangle line) ?_
    rw [get?_mention]
    by_cases hid : id = j
    · rw [if_pos hid, ← hid, h, Option.getD_some]
    · rw [if_neg hid, h]

/-- New ids get nodes without label and shape. -/
theorem get?_mentionAll_of_none {ids : List String} {id : String} (hid : id ∈ ids)
    (h : st.nodes.get? id = none) :
    ∃ order, (st.mentionAll line ids).nodes.get? id = some (implicitNode id order line) := by
  induction ids generalizing st with
  | nil => cases hid
  | cons j ids ih =>
    by_cases hj : id = j
    · refine ⟨st.nodes.size, get?_mentionAll_of_some (st.mention j .rectangle line) line ?_⟩
      rw [get?_mention, if_pos hj, ← hj, h, Option.getD_none]
    · refine ih (st.mention j .rectangle line) (List.mem_of_ne_of_mem hj hid) ?_
      rw [get?_mention, if_neg hj, h]

/-- The state with other edges. -/
def withEdges (es : List Edge) : State := { st with edges := es }

theorem claim_withEdges (es : List Edge) (id : String) :
    (st.withEdges es).claim id = (st.claim id).withEdges es := by
  have hscopes : (st.withEdges es).scopes = st.scopes := rfl
  have howners : (st.withEdges es).owners = st.owners := rfl
  unfold claim
  rw [hscopes, howners]
  rcases st.scopes with _ | ⟨f, fs⟩
  · rfl
  · cases st.owners.get? id with
    | none => rfl
    | some k =>
      dsimp only
      by_cases hk : k = f.value.serial
      · rw [if_pos hk, if_pos hk]
      · rw [if_neg hk, if_neg hk]
        cases fs.any fun g => g.value.serial == k <;> rfl

/-- Mentions do not look at the edges. -/
theorem mentionAll_withEdges (es : List Edge) (ids : List String) :
    (st.withEdges es).mentionAll line ids = (st.mentionAll line ids).withEdges es := by
  induction ids generalizing st with
  | nil => rfl
  | cons id ids ih =>
    have hone : (st.withEdges es).mention id .rectangle line =
        (st.mention id .rectangle line).withEdges es :=
      claim_withEdges { st with nodes := Registry.ensure st.nodes id _ } es id
    show ((st.withEdges es).mention id .rectangle line).mentionAll line ids = _
    rw [hone, ih]
    rfl

end State

end ScopeGraph

namespace Flowchart

open ScopeGraph (Edge State)
open Text (isWord)

/-! ## Products -/

/-- The edge of an arrow between two nodes. -/
def WrittenArrow.edge (a : WrittenArrow) (line : Int) (source target : String) : Edge :=
  { source, target, kind := a.read.kind, label := a.read.label, style := a.read.style,
    arrowStart := a.read.arrowStart, arrowEnd := a.read.arrowEnd, line }

/-- The product of two groups, row by row. -/
def Link.edges (line : Int) (sources : List String) (k : Link) : List Edge :=
  (sources ×ˢ k.target.ids).map fun pair => k.arrow.edge line pair.1 pair.2

/-- The products along links behind the group `sources`. -/
def linkEdges (line : Int) : (sources : List String) → List Link → List Edge
  | _, [] => []
  | sources, k :: ks => k.edges line sources ++ linkEdges line k.target.ids ks

namespace WrittenChain

/-- The products of neighbouring groups, in order. -/
def edges (line : Int) (c : WrittenChain) : List Edge := linkEdges line c.first.ids c.links

/-- The ids of all groups, in order. -/
def ids (c : WrittenChain) : List String := c.first.ids ++ c.links.flatMap (·.target.ids)

end WrittenChain

theorem edges_eq_product (line : Int) (sources : List String) (k : Link) :
    edges line sources k.target.ids k.arrow.read = k.edges line sources := by
  unfold edges Link.edges
  simp only [SProd.sprod, List.product, List.map_flatMap, List.map_map]
  rfl

theorem foldl_mentions (l : Line) (st : State) (is : List Ident) :
    ((is.map Ident.mention).map Step.mention).foldl (takeStep l) st =
      st.mentionAll l.number (is.map Ident.string) := by
  rw [List.map_map, List.foldl_map]
  unfold State.mentionAll
  rw [List.foldl_map]
  rfl

/-- Links mention the ids of their groups and add the products, whatever stands in front. -/
theorem foldl_linkSteps (l : Line) (st : State) (sources : List String) (ks : List Link) :
    (linkSteps sources ks).foldl (takeStep l) st =
      (st.mentionAll l.number (ks.flatMap (·.target.ids))).withEdges
        (st.edges ++ linkEdges l.number sources ks) := by
  induction ks generalizing st sources with
  | nil =>
    show st = st.withEdges (st.edges ++ [])
    rw [List.append_nil]
    rfl
  | cons k ks ih =>
    have hjoin (st : State) : takeStep l st (.join sources k.target.ids k.arrow.read) =
        st.withEdges (st.edges ++ k.edges l.number sources) := by
      rw [← edges_eq_product]
      rfl
    rw [linkSteps, List.foldl_append, foldl_mentions, List.foldl_cons, hjoin, ih,
      State.mentionAll_withEdges, ← State.mentionAll_append, List.flatMap_cons, linkEdges,
      ← List.append_assoc]
    show State.withEdges _ _ = _
    rw [State.edges_mentionAll]
    rfl

/-! ## Chains -/

/-- What a line does to a state, if it is the chain `c`. -/
structure WrittenChain.Takes (c : WrittenChain) (line : Int) (st st' : State) : Prop where
  /-- The products are added behind the edges so far. -/
  edges : st'.edges = st.edges ++ c.edges line
  /-- The ids are registered in order. -/
  keys : st'.nodes.keys = addAllNew st.nodes.keys c.ids
  known : ∀ id n, st.nodes.get? id = some n → st'.nodes.get? id = some n
  new : ∀ id ∈ c.ids, st.nodes.get? id = none →
    ∃ order, st'.nodes.get? id = some (State.implicitNode id order line)
  reports : st'.reports = st.reports
  /-- Apart from the edges, the ids are mentioned one after the other. -/
  mentions : st' = (st.mentionAll line c.ids).withEdges st'.edges

/-- The chain is read from every line on which it is written, in every state. -/
def WrittenChain.IsRead (c : WrittenChain) : Prop :=
  ∀ (l : Line) (st : State), l.text = String.ofList c.chars →
    ∃ s, Statement.recognise l.text = .ok s ∧ c.Takes l.number st (step st (l, s))

theorem takes_steps (c : WrittenChain) (l : Line) (st : State) :
    c.Takes l.number st (step st (l, .chain c.steps)) := by
  have hstate : step st (l, .chain c.steps) =
      (st.mentionAll l.number c.ids).withEdges (st.edges ++ c.edges l.number) := by
    show c.steps.foldl (takeStep l) st = _
    unfold WrittenChain.steps WrittenChain.ids
    rw [List.foldl_append, foldl_mentions, foldl_linkSteps, State.edges_mentionAll,
      State.mentionAll_append]
    rfl
  rw [hstate]
  exact ⟨rfl, st.keys_mentionAll l.number c.ids, fun _ _ => st.get?_mentionAll_of_some l.number,
    fun _ => st.get?_mentionAll_of_none l.number, st.reports_mentionAll l.number c.ids, rfl⟩

/-- **Chains.** A chain without a keyword in front is read as the products of neighbouring groups,
in order and row by row, with the marks, the style and the label of each arrow. -/
theorem chain_is_products (c : WrittenChain) (hleads : c.first.first.Leads)
    (hline : ∀ k ∈ c.links, k.arrow.OneLine) : c.IsRead := by
  obtain ⟨t, hled⟩ := c.ledBy
  intro l st htext
  refine ⟨.chain c.steps, ?_, takes_steps c l st⟩
  rw [htext, ← chain_chars hline]
  exact hled.recognise hleads

/-- An id of one letter. -/
def letter (c : Char) (hc : isWord c = true) : Ident :=
  ⟨[c], [], by simpa using hc⟩

/-- A chain with two sources, a plain arrow with a label, a text inside an arrow and a long line. -/
def mixedChain : WrittenChain where
  first := ⟨letter 'a' (by decide), [letter 'b' (by decide)]⟩
  links :=
    [⟨.plain ⟨some .point, .solid 0, some .point,
        some ⟨"yes".toList, by decide, by decide, by decide⟩, by decide⟩,
      ⟨letter 'c' (by decide), []⟩⟩,
     ⟨.text ⟨.dotted, by decide, "no".toList, by decide, by decide, by decide⟩,
      ⟨⟨['d'], [['1']], by decide⟩, []⟩⟩,
     ⟨.plain ⟨none, .thick 2, none, none, by decide⟩, ⟨letter 'e' (by decide), []⟩⟩]

theorem chain_is_products_mixed :
    mixedChain.chars = "a & b <-->|yes| c -. no .-> d-1 ==== e".toList ∧
      (mixedChain.edges 1).map (fun e => (e.source, e.target, e.kind, e.label)) =
        [("a", "c", .solidArrow, some "yes"), ("b", "c", .solidArrow, some "yes"),
         ("c", "d-1", .dottedArrow, some "no"), ("d-1", "e", .thickLink, none)] ∧
      mixedChain.IsRead :=
  ⟨by decide, by decide, chain_is_products mixedChain ⟨by decide, by decide⟩
    (by simp [mixedChain, WrittenArrow.OneLine])⟩

/-- A chain with a line feed in the text inside its arrow. -/
def brokenChain : WrittenChain where
  first := ⟨letter 'A' (by decide), []⟩
  links :=
    [⟨.text ⟨.solid, by decide, "p\nq".toList, by decide, by decide, by decide⟩,
      ⟨letter 'B' (by decide), []⟩⟩]

/-- The line of this chain. -/
def brokenLine : Line := ⟨2, "A -- p\nq --> B", 0, 1⟩

/-- A text that goes on behind a line feed is not found again. -/
theorem brokenChain_not_isRead : brokenChain.first.first.Leads ∧ ¬ brokenChain.IsRead := by
  refine ⟨⟨by decide, by decide⟩, fun hread => ?_⟩
  obtain ⟨s, hs, htakes⟩ := hread brokenLine { direction := "TD" } (by decide)
  have hrun : ((Statement.recognise brokenLine.text).toOption.map fun s =>
      (step { direction := "TD" } (brokenLine, s)).edges.map (·.target)) = some ["p"] := by
    decide +kernel
  have hproducts : (brokenChain.edges brokenLine.number).map (·.target) = ["B"] := by decide
  rw [hs] at hrun
  have htarget : (step { direction := "TD" } (brokenLine, s)).edges.map (·.target) = ["p"] :=
    Option.some.inj hrun
  rw [htakes.edges, List.nil_append, hproducts] at htarget
  exact absurd htarget (by decide)

end Flowchart

end DiagramText
