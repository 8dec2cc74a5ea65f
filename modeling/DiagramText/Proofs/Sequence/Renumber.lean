import DiagramText.Proofs.Renumber
import DiagramText.Sequence.Parse

/-!
# Sequence diagrams on lines with other numbers

Items, boxes and open blocks store the lines they come from.  No step looks at a line number, so
every step commutes with `State.renumber`.
-/

namespace DiagramText.Sequence

open Source (Line)

variable {f : Int → Int}

/-! ## Diagrams and states -/

mutual

/-- The item at other lines, with all items inside it. -/
def Item.renumber (f : Int → Int) : Item → Item
  | .message m => .message { m with line := f m.line }
  | .note n => .note { n with line := f n.line }
  | .block h bs => .block { h with line := f h.line } (Branch.renumberAll f bs)

/-- The items at other lines. -/
def Item.renumberAll (f : Int → Int) : List Item → List Item
  | [] => []
  | i :: is => i.renumber f :: Item.renumberAll f is

/-- The branch at other lines. -/
def Branch.renumber (f : Int → Int) : Branch → Branch
  | .mk c is => .mk c (Item.renumberAll f is)

/-- The branches at other lines. -/
def Branch.renumberAll (f : Int → Int) : List Branch → List Branch
  | [] => []
  | b :: bs => b.renumber f :: Branch.renumberAll f bs

end

theorem Item.renumberAll_append (is js : List Item) :
    Item.renumberAll f (is ++ js) = Item.renumberAll f is ++ Item.renumberAll f js := by
  induction is with
  | nil => rfl
  | cons i is ih =>
    rw [List.cons_append, Item.renumberAll, ih, Item.renumberAll, List.cons_append]

theorem Branch.renumberAll_append (bs cs : List Branch) :
    Branch.renumberAll f (bs ++ cs) = Branch.renumberAll f bs ++ Branch.renumberAll f cs := by
  induction bs with
  | nil => rfl
  | cons b bs ih =>
    rw [List.cons_append, Branch.renumberAll, ih, Branch.renumberAll, List.cons_append]

/-- The box at another line. -/
def Box.renumber (f : Int → Int) (b : Box) : Box := { b with line := f b.line }

/-- The diagram at other lines. -/
def Diagram.renumber (f : Int → Int) (d : Diagram) : Diagram :=
  { d with items := Item.renumberAll f d.items, boxes := d.boxes.map (Box.renumber f) }

/-- The open block at other lines. -/
def OpenBlock.renumber (f : Int → Int) (b : OpenBlock) : OpenBlock :=
  { b with
    head := { b.head with line := f b.head.line }
    finished := Branch.renumberAll f b.finished
    items := Item.renumberAll f b.items }

theorem OpenBlock.close_renumber (b : OpenBlock) : (b.renumber f).close = b.close.renumber f := by
  unfold OpenBlock.close
  rw [Item.renumber, Branch.renumberAll_append]
  rfl

theorem OpenBlock.divide_renumber (b : OpenBlock) (label : String) :
    (b.renumber f).divide label = (b.divide label).renumber f := by
  unfold OpenBlock.divide OpenBlock.renumber
  rw [Branch.renumberAll_append]
  rfl

/-- The diagram being read, at other lines. -/
def State.renumber (f : Int → Int) (st : State) : State :=
  { st with
    items := Item.renumberAll f st.items
    blocks := st.blocks.map (OpenBlock.renumber f)
    boxes := st.boxes.map (Box.renumber f)
    box := st.box.map (Box.renumber f)
    reports := st.reports.map (Report.renumber f) }

namespace State

variable (st : State) (l : Line)

/-! ## Steps -/

theorem reportAt_renumber (line : Int) (p : Problem) :
    (st.renumber f).reportAt (f line) p = (st.reportAt line p).renumber f := by
  unfold reportAt renumber
  rw [List.map_append]
  rfl

theorem report_renumber (p : Problem) :
    (st.renumber f).report (l.renumber f) p = (st.report l p).renumber f := by
  unfold report renumber
  rw [List.map_append]
  rfl

theorem reportIf_renumber (c : Bool) (p : Problem) :
    (st.renumber f).reportIf c (l.renumber f) p = (st.reportIf c l p).renumber f := by
  cases c with
  | false => rfl
  | true => exact report_renumber st l p

theorem addItem_renumber (i : Item) :
    (st.renumber f).addItem (i.renumber f) = (st.addItem i).renumber f := by
  unfold addItem
  rcases h : st.blocks with _ | ⟨b, bs⟩
  · simp only [renumber, h, List.map_nil, Item.renumberAll_append]
    rfl
  · simp only [renumber, h, List.map_cons, OpenBlock.renumber, Item.renumberAll_append]
    rfl

theorem closeBlock_renumber : (st.renumber f).closeBlock = st.closeBlock.renumber f := by
  have hblocks : (st.renumber f).blocks = st.blocks.map (OpenBlock.renumber f) := rfl
  unfold closeBlock
  rw [hblocks]
  rcases st.blocks with _ | ⟨b, bs⟩
  · rfl
  · rw [List.map_cons]
    dsimp only
    rw [OpenBlock.close_renumber, ← addItem_renumber]
    rfl

theorem closeBox_renumber : (st.renumber f).closeBox = st.closeBox.renumber f := by
  unfold closeBox renumber
  dsimp only
  rw [List.map_append]
  cases st.box with
  | none => rfl
  | some b => rfl

theorem mention_renumber (id : String) :
    (st.renumber f).mention id = (st.mention id).renumber f := rfl

theorem declare_renumber (role : Role) (id label : String) :
    (st.renumber f).declare (l.renumber f) role id label =
      (st.declare l role id label).renumber f := by
  have hparticipants : (st.renumber f).participants = st.participants := rfl
  unfold declare
  dsimp only
  rw [hparticipants, reportIf_renumber, mention_renumber]
  unfold renumber
  dsimp only
  rw [Option.map_map, Option.map_map]
  rfl

theorem addNote_renumber (position : Position) (spelled : String) (ids : List String)
    (text : String) :
    (st.renumber f).addNote (l.renumber f) position spelled ids text =
      (st.addNote l position spelled ids text).renumber f := by
  unfold addNote
  dsimp only
  rw [reportIf_renumber, reportIf_renumber, ← addItem_renumber]
  rw [List.foldl_hom (renumber f) fun st id => mention_renumber st id]
  rfl

theorem addMessage_renumber (m : MessageText) :
    (st.renumber f).addMessage (l.renumber f) m = (st.addMessage l m).renumber f := by
  unfold addMessage
  dsimp only
  rw [reportIf_renumber, mention_renumber, mention_renumber, ← addItem_renumber]
  rfl

theorem divide_renumber (divider : Divider) (label : String) :
    (st.renumber f).divide (l.renumber f) divider label =
      (st.divide l divider label).renumber f := by
  have hblocks : (st.renumber f).blocks = st.blocks.map (OpenBlock.renumber f) := rfl
  unfold divide
  rw [hblocks]
  rcases st.blocks with _ | ⟨b, bs⟩
  · exact report_renumber st l (.strayDivider divider)
  · have hkind : (b.renumber f).head.kind = b.head.kind := rfl
    rw [List.map_cons]
    dsimp only
    rw [OpenBlock.divide_renumber, hkind, reportIf_renumber]
    rfl

theorem openBlock_renumber (kind : BlockKind) (label : String) :
    (st.renumber f).openBlock (l.renumber f) kind label =
      (st.openBlock l kind label).renumber f := rfl

theorem isSome_box_renumber : (st.renumber f).box.isSome = st.box.isSome := by
  unfold renumber
  rw [Option.isSome_map]

theorem isEmpty_blocks_renumber : (st.renumber f).blocks.isEmpty = st.blocks.isEmpty := by
  unfold renumber
  rw [List.isEmpty_map]

theorem openBox_renumber (label : String) :
    (st.renumber f).openBox (l.renumber f) label = (st.openBox l label).renumber f := by
  unfold openBox
  rw [isSome_box_renumber, isEmpty_blocks_renumber]
  split
  · exact report_renumber st l .nestedBox
  · rfl

theorem close_renumber : (st.renumber f).close (l.renumber f) = (st.close l).renumber f := by
  unfold close
  rw [isSome_box_renumber, isEmpty_blocks_renumber]
  split
  · exact closeBlock_renumber st
  · split
    · exact closeBox_renumber st
    · exact report_renumber st l .strayEnd

theorem step_renumber (s : Statement) :
    (st.renumber f).step (l.renumber f, s) = (st.step (l, s)).renumber f := by
  cases s with
  | declare role id label => exact declare_renumber st l role id label
  | note position spelled ids text => exact addNote_renumber st l position spelled ids text
  | box label => exact openBox_renumber st l label
  | block kind label => exact openBlock_renumber st l kind label
  | divide divider label => exact divide_renumber st l divider label
  | close => exact close_renumber st l
  | autonumber => rfl
  | title text => rfl
  | activation id => exact mention_renumber st id
  | message m => exact addMessage_renumber st l m
  | invalidMessage => exact report_renumber st l (.invalidMessage l.text)
  | unrecognised => exact report_renumber st l (.unrecognised l.text)

/-! ## The end -/

theorem closeUnclosed_renumber (b : OpenBlock) :
    (st.renumber f).closeUnclosed (b.renumber f) = (st.closeUnclosed b).renumber f := by
  unfold closeUnclosed
  rw [← closeBlock_renumber, ← reportAt_renumber]
  rfl

theorem finish_renumber : (st.renumber f).finish = st.finish.renumber f := by
  have hblocks (bs : List OpenBlock) (st : State) :
      (bs.map (OpenBlock.renumber f)).foldl closeUnclosed (st.renumber f) =
        (bs.foldl closeUnclosed st).renumber f := by
    rw [List.foldl_map]
    exact List.foldl_hom (renumber f) fun st b => closeUnclosed_renumber st b
  unfold finish
  dsimp only
  rw [show (st.renumber f).blocks = st.blocks.map (OpenBlock.renumber f) from rfl, hblocks]
  generalize st.blocks.foldl closeUnclosed st = closed
  have hbox : (closed.renumber f).box = closed.box.map (Box.renumber f) := rfl
  rw [hbox]
  cases closed.box with
  | none => rfl
  | some b =>
    dsimp only [Option.map_some]
    rw [← closeBox_renumber, ← reportAt_renumber]
    rfl

end State

theorem quotesNoLine_message (p : Problem) : QuotesNoLine (Describe.message p) := by
  refine quotesNoLine_of_start ?_
  cases p <;>
    simp only [Describe.message, toString, String.toList_append, List.append_assoc] <;>
    rfl

/-- A sequence diagram on lines with other numbers is the same diagram at those lines. -/
theorem parse_renumber (ls : List Line) :
    SameOutcome (Parsed.Renumbered f (Diagram.renumber f)) (parse ls)
      (parse (ls.map (Line.renumber f))) := by
  have hread : statements (ls.map (Line.renumber f)).tail =
      (readLines Statement.recognise ls.tail).map fun xs => xs.map fun x => (x.1.renumber f, x.2) := by
    rw [← List.map_tail]
    exact readLines_renumber ls.tail
  unfold parse
  rw [hread]
  change SameOutcome _ (readLines Statement.recognise ls.tail >>= _) _
  cases readLines Statement.recognise ls.tail with
  | error e => exact .error e
  | ok xs =>
    have hsteps (st : State) : (xs.map fun x => (x.1.renumber f, x.2)).foldl State.step
        (st.renumber f) = (xs.foldl State.step st).renumber f := by
      rw [List.foldl_map]
      exact List.foldl_hom (State.renumber f) fun st x => State.step_renumber st x.1 x.2
    have hend : ((xs.map fun x => (x.1.renumber f, x.2)).foldl State.step {}).finish =
        ((xs.foldl State.step {}).finish).renumber f := by
      rw [← State.finish_renumber, ← hsteps]
      rfl
    refine .ok ?_
    rw [hend]
    exact Parsed.renumbered_ofReports quotesNoLine_message _ _

end DiagramText.Sequence
