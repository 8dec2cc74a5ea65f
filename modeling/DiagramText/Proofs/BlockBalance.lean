import DiagramText.Proofs.Classes.Balance
import DiagramText.Proofs.Closers
import DiagramText.Proofs.Er.Balance
import DiagramText.Proofs.ScopeGraph.Balance
import DiagramText.Proofs.Sequence.Balance

/-!
# Block balance

In all five dialects with blocks, whatever is opened is closed once, and there is one warning for
each block that no closer has closed.
-/

namespace DiagramText

open Source (Line)

/-- **Block balance.** For any lines, the blocks of a diagram are balanced, with the warnings about
missing closers that are among its diagnostics; and the closer of a dialect is one word. -/
theorem blocks_are_balanced :
    (∀ (ls : List Line) (direction : String) (p : Parsed ScopeGraph.Graph),
      Flowchart.parse ls direction = .ok p →
        ∃ xs, Flowchart.statements ls.tail = .ok xs ∧
          ScopeGraph.flowchartBlocks.Balanced (Flowchart.start ls direction) xs
            ((p.diagnostics.filter (·.warns (ScopeGraph.Family.unclosedWords .flowchart))).map
              (·.line))) ∧
    (∀ (ls : List Line) (p : Parsed ScopeGraph.Graph), StateChart.parse ls = .ok p →
      ∃ xs, StateChart.statements (StateChart.outsideNotes false ls.tail).1 = .ok xs ∧
        ScopeGraph.stateBlocks.Balanced { direction := Direction.topDown.name } xs
          ((p.diagnostics.filter (·.warns (ScopeGraph.Family.unclosedWords .state))).map
            (·.line))) ∧
    (∀ (ls : List Line) (p : Parsed Sequence.Diagram), Sequence.parse ls = .ok p →
      ∃ xs, Sequence.statements ls.tail = .ok xs ∧
        Sequence.blocks.Balanced {} xs
          ((p.diagnostics.filter (·.warns Sequence.unclosedWords)).map (·.line))) ∧
    (∀ ls : List Line, Classes.blocks.Balanced {} ls.tail
      (((Classes.parse ls).diagnostics.filter (·.warns Classes.unclosedWords)).map (·.line))) ∧
    (∀ ls : List Line, Er.blocks.Balanced {} ls.tail
      (((Er.parse ls).diagnostics.filter (·.warns Er.unclosedWords)).map (·.line))) ∧
    (∀ text, (Flowchart.Statement.recognise text = .ok .close ↔ text = "end") ∧
      (StateChart.Statement.recognise text = .ok .close ↔ text = "\x7d") ∧
      (Sequence.Statement.recognise text = .ok .close ↔ text = "end") ∧
      (Classes.Statement.recognise text = .close ↔ text = "\x7d") ∧
      (Er.Statement.recognise text = .close ↔ text = "\x7d")) := by
  refine ⟨fun _ _ _ h => ScopeGraph.balanced_of_flowchart h,
    fun _ _ h => ScopeGraph.balanced_of_stateChart h, fun _ _ h => Sequence.balanced_of_parse h,
    Classes.balanced_parse, Er.balanced_parse, fun text => ?_⟩
  exact ⟨Flowchart.recognise_eq_close_iff, StateChart.recognise_eq_close_iff,
    Sequence.recognise_eq_close_iff, Classes.recognise_eq_close_iff, Er.recognise_eq_close_iff⟩

/-- A box around a block, a box inside it that is refused, and one closer. -/
def openBox : List Line :=
  [⟨1, "sequenceDiagram", 0, 1⟩, ⟨2, "box A", 0, 1⟩, ⟨3, "loop B", 0, 1⟩, ⟨4, "box C", 0, 1⟩,
   ⟨5, "end", 0, 1⟩]

/-- A body that the next class ends, inside a namespace, and one closer too many. -/
def displacedBody : List Line :=
  [⟨1, "classDiagram", 0, 1⟩, ⟨2, "namespace N \x7b", 0, 1⟩, ⟨3, "class A \x7b", 0, 1⟩,
   ⟨4, "class B \x7b", 0, 1⟩, ⟨5, "\x7d", 0, 1⟩, ⟨6, "\x7d", 0, 1⟩, ⟨7, "\x7d", 0, 1⟩]

theorem blocks_are_balanced_examples :
    (∃ p xs, Flowchart.parse ScopeGraph.openSubgraphs "TD" = .ok p ∧
      Flowchart.statements ScopeGraph.openSubgraphs.tail = .ok xs ∧
      ScopeGraph.flowchartBlocks.Balanced (Flowchart.start ScopeGraph.openSubgraphs "TD") xs
        [5, 2]) ∧
    (∃ p xs, StateChart.parse ScopeGraph.closedComposites = .ok p ∧
      StateChart.statements (StateChart.outsideNotes false ScopeGraph.closedComposites.tail).1 =
        .ok xs ∧
      ScopeGraph.stateBlocks.Balanced { direction := Direction.topDown.name } xs []) ∧
    (∃ p xs, Sequence.parse openBox = .ok p ∧ Sequence.statements openBox.tail = .ok xs ∧
      Sequence.blocks.Balanced {} xs [2]) ∧
    (Classes.blocks.Balanced {} displacedBody.tail [4] ∧
      (Classes.blocks.ledger displacedBody.tail).finish.map
          (fun c => (c.opening.number, c.closer?.map (·.number))) =
        [(3, none), (4, some 5), (2, some 6)]) := by
  have hflowchart : ((Flowchart.parse ScopeGraph.openSubgraphs "TD").toOption.map fun p =>
      (p.diagnostics.filter (·.warns (ScopeGraph.Family.unclosedWords .flowchart))).map (·.line)) =
      some [5, 2] := by
    decide +kernel
  have hstate : ((StateChart.parse ScopeGraph.closedComposites).toOption.map fun p =>
      (p.diagnostics.filter (·.warns (ScopeGraph.Family.unclosedWords .state))).map (·.line)) =
      some [] := by
    decide +kernel
  have hsequence : ((Sequence.parse openBox).toOption.map fun p =>
      (p.diagnostics.filter (·.warns Sequence.unclosedWords)).map (·.line)) = some [2] := by
    decide +kernel
  have hclasses : ((Classes.parse displacedBody).diagnostics.filter
      (·.warns Classes.unclosedWords)).map (·.line) = [4] := by
    decide +kernel
  obtain ⟨p, hp, hplines⟩ := exists_ok_of_toOption hflowchart
  obtain ⟨q, hq, hqlines⟩ := exists_ok_of_toOption hstate
  obtain ⟨r, hr, hrlines⟩ := exists_ok_of_toOption hsequence
  obtain ⟨xs, hxs, hpbalanced⟩ := blocks_are_balanced.1 _ _ p hp
  obtain ⟨ys, hys, hqbalanced⟩ := blocks_are_balanced.2.1 _ q hq
  obtain ⟨zs, hzs, hrbalanced⟩ := blocks_are_balanced.2.2.1 _ r hr
  have hbalanced := blocks_are_balanced.2.2.2.1 displacedBody
  rw [hplines] at hpbalanced
  rw [hqlines] at hqbalanced
  rw [hrlines] at hrbalanced
  rw [hclasses] at hbalanced
  exact ⟨⟨p, xs, hp, hxs, hpbalanced⟩, ⟨q, ys, hq, hys, hqbalanced⟩, ⟨r, zs, hr, hzs, hrbalanced⟩,
    hbalanced, by decide +kernel⟩

end DiagramText
