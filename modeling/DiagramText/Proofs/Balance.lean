import DiagramText.Diagnostic
import DiagramText.Source.Line
import Mathlib.Data.List.Infix
import Mathlib.Data.List.Perm.Basic

/-!
# Books of blocks

Five dialects have blocks: something opens a block, and its closer, another line or the end of the
source closes it.

1. `Ledger` keeps the books: which lines have opened a block, and what has closed it.
2. `BlockReader`, a reader of lines together with a rule that says what a line does to the blocks.
3. `BlockReader.Lawful`: each step of the reader does to its open blocks and its warnings what the
   rule says.  Then the books are right at all times (`Lawful.tally_foldl`), and in the end they are
   balanced (`Lawful.balanced`).
-/

namespace DiagramText

open Source (Line)

/-- What a line does to the blocks of a diagram. -/
inductive BlockMark (κ : Type) where
  | opening (kind : κ)
  | closer
  /-- The innermost block ends without a closer. -/
  | implicit
deriving Repr, DecidableEq

/-- What has closed a block. -/
inductive Ending where
  | closer (l : Line)
  | displaced (l : Line)
  | atEnd
deriving Repr, DecidableEq

/-- A block that has been closed. -/
structure Closing where
  opening : Line
  ending : Ending
deriving Repr, DecidableEq

namespace Closing

/-- The line of the closer, if one has closed the block. -/
def closer? (c : Closing) : Option Line :=
  match c.ending with
  | .closer l => some l
  | .displaced _ | .atEnd => none

/-- Where a missing closer is reported: at the line that has closed the block, or, if only the end
has, at the line that opened it. -/
def warned? (c : Closing) : Option Int :=
  match c.ending with
  | .closer _ => none
  | .displaced l => some l.number
  | .atEnd => some c.opening.number

end Closing

/-! ## Ledgers -/

variable {κ : Type}

/-- The books of the blocks of a diagram. -/
structure Ledger (κ : Type) where
  /-- The open blocks, innermost first. -/
  isOpen : List (κ × Line) := []
  /-- The lines that have opened a block. -/
  opened : List Line := []
  closings : List Closing := []
deriving Repr, DecidableEq

namespace Ledger

/-- Closes the innermost block, if there is one. -/
def pop (g : Ledger κ) (e : Ending) : Ledger κ :=
  match g.isOpen with
  | [] => g
  | b :: bs => { g with isOpen := bs, closings := g.closings ++ [⟨b.2, e⟩] }

/-- Enters what a line does. -/
def enter (l : Line) (g : Ledger κ) : BlockMark κ → Ledger κ
  | .opening kind => { g with isOpen := (kind, l) :: g.isOpen, opened := g.opened ++ [l] }
  | .closer => g.pop (.closer l)
  | .implicit => g.pop (.displaced l)

/-- All closings, when the end has closed what was open. -/
def finish (g : Ledger κ) : List Closing := g.closings ++ g.isOpen.map fun b => ⟨b.2, .atEnd⟩

/-- Every line that has opened a block is open or closed, and not both. -/
def Complete (g : Ledger κ) : Prop :=
  (g.closings.map (·.opening) ++ g.isOpen.map (·.2)).Perm g.opened

theorem Complete.pop {g : Ledger κ} (h : g.Complete) (e : Ending) : (g.pop e).Complete := by
  unfold Complete Ledger.pop at *
  split
  · exact h
  · rename_i b bs hopen
    rw [hopen] at h
    simpa using h

theorem Complete.enter {g : Ledger κ} (h : g.Complete) (l : Line) (m : BlockMark κ) :
    (g.enter l m).Complete := by
  cases m with
  | opening kind =>
    have hmiddle : (g.closings.map (·.opening) ++ l :: g.isOpen.map (·.2)).Perm
        (l :: (g.closings.map (·.opening) ++ g.isOpen.map (·.2))) := List.perm_middle
    have hend : (l :: g.opened).Perm (g.opened ++ [l]) := (List.perm_append_singleton l _).symm
    exact hmiddle.trans ((h.cons l).trans hend)
  | closer => exact h.pop _
  | implicit => exact h.pop _

theorem Complete.foldl_enter {g : Ledger κ} (h : g.Complete) (l : Line) (ms : List (BlockMark κ)) :
    (ms.foldl (Ledger.enter l) g).Complete := by
  refine List.foldlRecOn ms _ h ?_
  intro g' h' m _
  exact h'.enter l m

/-- What has been opened is closed exactly once. -/
theorem Complete.perm_finish {g : Ledger κ} (h : g.Complete) :
    (g.finish.map (·.opening)).Perm g.opened := by
  unfold finish
  rw [List.map_append, List.map_map]
  exact h

end Ledger

/-- Every closing is by a closer or is reported. -/
theorem length_closings (cs : List Closing) :
    cs.length = (cs.filterMap Closing.closer?).length + (cs.filterMap Closing.warned?).length := by
  induction cs with
  | nil => rfl
  | cons c cs ih =>
    obtain ⟨o, e⟩ := c
    rw [List.length_cons, ih, List.filterMap_cons, List.filterMap_cons]
    cases e with
    | closer l =>
      simp only [Closing.closer?, Closing.warned?, List.length_cons]
      omega
    | displaced l =>
      simp only [Closing.closer?, Closing.warned?, List.length_cons]
      omega
    | atEnd =>
      simp only [Closing.closer?, Closing.warned?, List.length_cons]
      omega

/-! ## Tallies -/

/-- What a reader knows of its blocks: the open ones, each with the line that opened it, innermost
first, and the lines of the warnings about blocks that no closer has closed. -/
@[ext]
structure Tally (κ : Type) where
  isOpen : List (κ × Int) := []
  warned : List Int := []
deriving Repr, DecidableEq

namespace Tally

/-- Enters what a line does. -/
def enter (line : Int) (t : Tally κ) : BlockMark κ → Tally κ
  | .opening kind => { t with isOpen := (kind, line) :: t.isOpen }
  | .closer => { t with isOpen := t.isOpen.tail }
  | .implicit =>
    match t.isOpen with
    | [] => t
    | _ :: bs => { isOpen := bs, warned := t.warned ++ [line] }

end Tally

/-- The tally that books give. -/
def Ledger.tally (g : Ledger κ) : Tally κ :=
  { isOpen := g.isOpen.map fun b => (b.1, b.2.number)
    warned := g.closings.filterMap Closing.warned? }

theorem Ledger.tally_enter (l : Line) (g : Ledger κ) (m : BlockMark κ) :
    (g.enter l m).tally = g.tally.enter l.number m := by
  obtain ⟨isOpen, opened, closings⟩ := g
  cases m with
  | opening kind => rfl
  | closer =>
    cases isOpen with
    | nil => rfl
    | cons b bs =>
      simp [Ledger.enter, Ledger.pop, Ledger.tally, Tally.enter, Closing.warned?]
  | implicit =>
    cases isOpen with
    | nil => rfl
    | cons b bs =>
      simp [Ledger.enter, Ledger.pop, Ledger.tally, Tally.enter, Closing.warned?]

theorem Ledger.tally_foldl_enter (l : Line) (g : Ledger κ) (ms : List (BlockMark κ)) :
    (ms.foldl (Ledger.enter l) g).tally = ms.foldl (Tally.enter l.number) g.tally := by
  induction ms generalizing g with
  | nil => rfl
  | cons m ms ih => rw [List.foldl_cons, List.foldl_cons, ih, tally_enter]

/-! ## Readers -/

variable {σ ι π : Type}

/-- A reader with blocks of the kinds `κ`, that reads lines in the form `ι` and finds problems
`π`. -/
structure BlockReader (σ ι κ π : Type) where
  step : σ → ι → σ
  line : ι → Line
  /-- What a line does to the blocks, by the kinds of the open ones. -/
  marks : List κ → ι → List (BlockMark κ)
  tally : σ → Tally κ
  report : σ → Line → π → σ

namespace BlockReader

variable {R : BlockReader σ ι κ π}

/-- The books behind some lines. -/
def ledger (R : BlockReader σ ι κ π) (xs : List ι) : Ledger κ :=
  xs.foldl (fun g x => (R.marks (g.isOpen.map (·.1)) x).foldl (Ledger.enter (R.line x)) g) {}

theorem complete_ledger (R : BlockReader σ ι κ π) (xs : List ι) : (R.ledger xs).Complete := by
  have hempty : ({} : Ledger κ).Complete := List.Perm.refl []
  refine List.foldlRecOn xs _ hempty ?_
  intro g hg x _
  exact hg.foldl_enter (R.line x) _

/-- The reader does what the rule says, and complains about a closer that has nothing to close. -/
structure Lawful [Describe π] (R : BlockReader σ ι κ π) : Prop where
  tally_step : ∀ st x, R.tally (R.step st x) =
    (R.marks ((R.tally st).isOpen.map (·.1)) x).foldl (Tally.enter (R.line x).number) (R.tally st)
  stray : ∀ st x, (R.tally st).isOpen = [] → .closer ∈ R.marks [] x →
    ∃ p : π, Describe.severity p = .error ∧ R.step st x = R.report st (R.line x) p

/-- The blocks of a run are in order. -/
structure Balanced [Describe π] (R : BlockReader σ ι κ π) (start : σ) (xs : List ι)
    (warnings : List Int) : Prop where
  /-- At any time the open blocks of the reader are those of the books. -/
  tracked : ∀ ys, ys <+: xs → (R.tally (ys.foldl R.step start)).isOpen =
    (R.ledger ys).isOpen.map fun b => (b.1, b.2.number)
  /-- What has been opened is closed exactly once. -/
  once : ((R.ledger xs).finish.map (·.opening)).Perm (R.ledger xs).opened
  /-- There is one warning for each block that has not been closed by a closer, and no other. -/
  warned : (R.ledger xs).finish.filterMap Closing.warned? = warnings
  count : (R.ledger xs).opened.length =
    ((R.ledger xs).finish.filterMap Closing.closer?).length + warnings.length
  /-- A closer that meets nothing open is an error, and has no other effect. -/
  stray : ∀ st x, (R.tally st).isOpen = [] → .closer ∈ R.marks [] x →
    ∃ p : π, Describe.severity p = .error ∧ R.step st x = R.report st (R.line x) p

namespace Lawful

variable [Describe π] {start : σ}

theorem tally_foldl (h : R.Lawful) (hstart : R.tally start = {}) (xs : List ι) :
    R.tally (xs.foldl R.step start) = (R.ledger xs).tally := by
  -- The induction is on the number of lines read, so the books are those of a beginning.
  induction xs using List.reverseRecOn with
  | nil => exact hstart
  | append_singleton xs x ih =>
    have hkinds : (R.ledger xs).tally.isOpen.map (·.1) = (R.ledger xs).isOpen.map (·.1) := by
      unfold Ledger.tally
      rw [List.map_map]
      rfl
    have hledger : R.ledger (xs ++ [x]) =
        (R.marks ((R.ledger xs).isOpen.map (·.1)) x).foldl (Ledger.enter (R.line x))
          (R.ledger xs) := by
      unfold ledger
      rw [List.foldl_append]
      rfl
    rw [List.foldl_append, hledger, Ledger.tally_foldl_enter, List.foldl_cons, List.foldl_nil,
      h.tally_step, ih, hkinds]

/-- What a lawful reader has read is balanced, if it warns about the blocks left open. -/
theorem balanced (h : R.Lawful) (hstart : R.tally start = {}) (xs : List ι) {warnings : List Int}
    (hw : warnings = (R.tally (xs.foldl R.step start)).warned ++
      (R.tally (xs.foldl R.step start)).isOpen.map (·.2)) : R.Balanced start xs warnings := by
  have hwarned : (R.ledger xs).finish.filterMap Closing.warned? = warnings := by
    rw [hw, h.tally_foldl hstart]
    unfold Ledger.finish Ledger.tally
    rw [List.filterMap_append, List.filterMap_map, List.map_map]
    congr 1
    exact congrFun List.filterMap_eq_map _
  refine ⟨?_, (R.complete_ledger xs).perm_finish, hwarned, ?_, h.stray⟩
  · intro ys _
    rw [h.tally_foldl hstart]
    rfl
  · have hlength := (R.complete_ledger xs).perm_finish.length_eq
    rw [List.length_map, length_closings, hwarned] at hlength
    exact hlength.symm

end Lawful

end BlockReader

end DiagramText
