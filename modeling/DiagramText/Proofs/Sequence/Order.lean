import DiagramText.Proofs.Faults
import DiagramText.Sequence.Parse

/-!
# Source order of sequence diagrams

A block joins its parent only when it is closed, so while a diagram is read its items are spread
over a stack of frames.  `State.entries` puts them together again: first the items of the diagram,
then the open blocks, outermost first, each item without what is inside it.

1. Listings of items and branches.
2. `State.entries`: an item is added behind all others, and closing or dividing a block changes
   nothing.
3. `Makes`, the item that a line makes, and the invariant `Ordered`: the entries are the items of
   the lines read so far, in order, and the messages among them are numbered from zero.
4. `source_order`.
-/

namespace DiagramText.Sequence

open Source (Line)

/-! ## Listings -/

/-- An item without what is inside it. -/
def Item.bare : Item → Item
  | .message m => .message m
  | .note n => .note n
  | .block head _ => .block head []

@[simp]
theorem Item.message?_bare (i : Item) : i.bare.message? = i.message? := by
  cases i <;> rfl

theorem Item.walkAll_append (is js : List Item) :
    Item.walkAll (is ++ js) = Item.walkAll is ++ Item.walkAll js := by
  induction is with
  | nil => rfl
  | cons i is ih =>
    show i.walk ++ Item.walkAll (is ++ js) = (i.walk ++ Item.walkAll is) ++ Item.walkAll js
    rw [ih, List.append_assoc]

theorem Item.walkAll_singleton (i : Item) : Item.walkAll [i] = i.walk := List.append_nil _

theorem Branch.walkAll_append (bs cs : List Branch) :
    Branch.walkAll (bs ++ cs) = Branch.walkAll bs ++ Branch.walkAll cs := by
  induction bs with
  | nil => rfl
  | cons b bs ih =>
    show b.walk ++ Branch.walkAll (bs ++ cs) = (b.walk ++ Branch.walkAll bs) ++ Branch.walkAll cs
    rw [ih, List.append_assoc]

theorem Branch.walkAll_singleton (c : Option String) (is : List Item) :
    Branch.walkAll [.mk c is] = Item.walkAll is := List.append_nil _

/-- The opening line of a block and everything inside it, in source order. -/
def OpenBlock.entries (f : OpenBlock) : List Item :=
  .block f.head [] :: (Branch.walkAll f.finished ++ Item.walkAll f.items).map Item.bare

/-- A closed block lists what it listed while it was open. -/
theorem OpenBlock.walk_close (f : OpenBlock) : f.close.walk.map Item.bare = f.entries := by
  show Item.block f.head [] :: (Branch.walkAll (f.finished ++ [.mk f.condition f.items])).map _ = _
  rw [Branch.walkAll_append, Branch.walkAll_singleton]
  rfl

theorem OpenBlock.entries_divide (f : OpenBlock) (label : String) :
    (f.divide label).entries = f.entries := by
  unfold OpenBlock.entries OpenBlock.divide
  rw [Branch.walkAll_append, Branch.walkAll_singleton]
  exact congrArg (fun is => _ :: List.map _ is) (List.append_nil _)

theorem OpenBlock.entries_addItem (f : OpenBlock) (i : Item) :
    OpenBlock.entries { f with items := f.items ++ [i] } = f.entries ++ i.walk.map Item.bare := by
  unfold OpenBlock.entries
  rw [Item.walkAll_append, Item.walkAll_singleton, ← List.append_assoc, List.map_append,
    List.cons_append]

/-- The message that a text makes on a line, with the given index. -/
def MessageText.toMessage (t : MessageText) (l : Line) (index : Nat) : Message :=
  { sender := String.ofList t.sender, receiver := String.ofList t.receiver,
    text := String.ofList (Text.trim (t.text.getD [])), arrow := t.arrow, index,
    activate := t.activation == .activate, deactivate := t.activation == .deactivate,
    line := l.number }

/-! ## Entries of a state -/

namespace State

/-- Everything that has been read, in source order. -/
def entries (st : State) : List Item :=
  (Item.walkAll st.items).map Item.bare ++ st.blocks.reverse.flatMap OpenBlock.entries

theorem entries_of_blocks {st : State} {f : OpenBlock} {fs : List OpenBlock}
    (h : st.blocks = f :: fs) : st.entries = entries { st with blocks := fs } ++ f.entries := by
  unfold entries
  rw [h, List.reverse_cons, List.flatMap_append, List.flatMap_singleton, List.append_assoc]

theorem entries_congr {st st' : State} (hi : st'.items = st.items) (hb : st'.blocks = st.blocks) :
    st'.entries = st.entries := by
  unfold entries
  rw [hi, hb]

/-- A new item stands behind all others. -/
theorem entries_addItem (st : State) (i : Item) :
    (st.addItem i).entries = st.entries ++ i.walk.map Item.bare := by
  unfold addItem
  split
  · rename_i h
    unfold entries
    rw [h, Item.walkAll_append, Item.walkAll_singleton, List.map_append]
    simp
  · rename_i f fs h
    rw [entries_of_blocks h, entries_of_blocks rfl, OpenBlock.entries_addItem, List.append_assoc]

/-- Closing a block moves it, but not in the listing. -/
theorem entries_closeBlock (st : State) : st.closeBlock.entries = st.entries := by
  unfold closeBlock
  split
  · rfl
  · rename_i f fs h
    rw [entries_addItem, OpenBlock.walk_close, entries_of_blocks h]

theorem entries_openBlock (st : State) (l : Line) (kind : BlockKind) (label : String) :
    (st.openBlock l kind label).entries =
      st.entries ++ [.block { kind, label, line := l.number } []] := by
  unfold openBlock
  rw [entries_of_blocks rfl]
  rfl

@[simp]
theorem items_reportIf (st : State) (c : Bool) (l : Line) (p : Problem) :
    (st.reportIf c l p).items = st.items := by
  cases c <;> rfl

@[simp]
theorem blocks_reportIf (st : State) (c : Bool) (l : Line) (p : Problem) :
    (st.reportIf c l p).blocks = st.blocks := by
  cases c <;> rfl

@[simp]
theorem count_reportIf (st : State) (c : Bool) (l : Line) (p : Problem) :
    (st.reportIf c l p).count = st.count := by
  cases c <;> rfl

theorem entries_divide (st : State) (l : Line) (divider : Divider) (label : String) :
    (st.divide l divider label).entries = st.entries := by
  unfold divide
  split
  · rfl
  · rename_i f fs h
    rw [entries_of_blocks rfl, OpenBlock.entries_divide, entries_of_blocks h]
    congr 1
    exact entries_congr (items_reportIf ..) rfl

theorem count_divide (st : State) (l : Line) (divider : Divider) (label : String) :
    (st.divide l divider label).count = st.count := by
  unfold divide
  split
  · rfl
  · exact count_reportIf ..

@[simp]
theorem count_addItem (st : State) (i : Item) : (st.addItem i).count = st.count := by
  unfold addItem
  split <;> rfl

theorem count_closeBlock (st : State) : st.closeBlock.count = st.count := by
  unfold closeBlock
  split
  · rfl
  · exact count_addItem ..

theorem entries_openBox (st : State) (l : Line) (label : String) :
    (st.openBox l label).entries = st.entries ∧ (st.openBox l label).count = st.count := by
  unfold openBox
  split <;> exact ⟨rfl, rfl⟩

theorem entries_close (st : State) (l : Line) :
    (st.close l).entries = st.entries ∧ (st.close l).count = st.count := by
  unfold close
  split
  · exact ⟨st.entries_closeBlock, st.count_closeBlock⟩
  · split <;> exact ⟨rfl, rfl⟩

theorem entries_declare (st : State) (l : Line) (role : Role) (id label : String) :
    (st.declare l role id label).entries = st.entries ∧
      (st.declare l role id label).count = st.count :=
  ⟨entries_congr (items_reportIf ..) (blocks_reportIf ..), count_reportIf ..⟩

theorem foldl_mention (st : State) (ids : List String) :
    ∃ participants, ids.foldl mention st = { st with participants } := by
  induction ids generalizing st with
  | nil => exact ⟨st.participants, rfl⟩
  | cons id ids ih => exact ih (st.mention id)

theorem entries_addNote (st : State) (l : Line) (position : Position) (spelled : String)
    (ids : List String) (text : String) :
    (st.addNote l position spelled ids text).entries =
        st.entries ++ [.note { text, position, participantIds := ids, line := l.number }] ∧
      (st.addNote l position spelled ids text).count = st.count := by
  unfold addNote
  dsimp only
  obtain ⟨participants, h⟩ := foldl_mention
    ((st.reportIf (2 < ids.length) l .wideNote).reportIf (position != .above && 1 < ids.length) l
      (.sharedNote spelled)) ids
  rw [h, entries_addItem, count_addItem]
  refine ⟨?_, ?_⟩
  · congr 1
    exact entries_congr (by simp) (by simp)
  · simp

theorem entries_addMessage (st : State) (l : Line) (t : MessageText) :
    (st.addMessage l t).entries = st.entries ++ [.message (t.toMessage l st.count)] ∧
      (st.addMessage l t).count = st.count + 1 := by
  have hcount : (((st.reportIf t.text.isNone l (.noText (String.ofList t.sender) t.arrow
      (String.ofList t.receiver))).mention (String.ofList t.sender)).mention
      (String.ofList t.receiver)).count = st.count := count_reportIf ..
  unfold addMessage
  dsimp only
  rw [entries_addItem, count_addItem, hcount]
  refine ⟨?_, rfl⟩
  show entries _ ++ [_] = _
  congr 1
  exact entries_congr (items_reportIf ..) (blocks_reportIf ..)

end State

/-! ## Lines and their items -/

/-- The line is a message, a note or the opening line of a block. -/
def addsItem (l : Line) : Bool :=
  match Statement.recognise l.text with
  | .ok (.message _) | .ok (.note ..) | .ok (.block ..) => true
  | _ => false

/-- The item is the one that the line makes, whatever is inside it and whatever its index is. -/
def Makes (l : Line) : Item → Prop
  | .message m =>
    ∃ t, Statement.recognise l.text = .ok (.message t) ∧ m = t.toMessage l m.index
  | .note n =>
    ∃ spelled, Statement.recognise l.text = .ok (.note n.position spelled n.participantIds n.text) ∧
      n.line = l.number
  | .block head _ =>
    Statement.recognise l.text = .ok (.block head.kind head.label) ∧ head.line = l.number

theorem makes_bare_iff {l : Line} {i : Item} : Makes l i.bare ↔ Makes l i := by
  cases i <;> exact Iff.rfl

theorem Makes.line {l : Line} {i : Item} (h : Makes l i) : i.line = l.number := by
  cases i with
  | message m =>
    obtain ⟨t, -, hm⟩ := h
    show m.line = l.number
    rw [hm]
    rfl
  | note n =>
    obtain ⟨spelled, -, hline⟩ := h
    exact hline
  | block head bs => exact h.2

/-- **One line.** A line adds its item, a message with the next index, or it adds nothing. -/
theorem State.step_cases (st : State) {l : Line} {s : Statement}
    (hs : Statement.recognise l.text = .ok s) :
    (addsItem l = false ∧ (st.step (l, s)).entries = st.entries ∧
        (st.step (l, s)).count = st.count) ∨
      ∃ i, addsItem l = true ∧ Makes l i ∧ (st.step (l, s)).entries = st.entries ++ [i] ∧
        ((i.message? = none ∧ (st.step (l, s)).count = st.count) ∨
          ∃ m, i.message? = some m ∧ m.index = st.count ∧
            (st.step (l, s)).count = st.count + 1) := by
  unfold addsItem
  rw [hs]
  cases s with
  | declare role id label => exact .inl ⟨rfl, st.entries_declare l role id label⟩
  | note position spelled ids text =>
    obtain ⟨hentries, hcount⟩ := st.entries_addNote l position spelled ids text
    refine .inr ⟨_, rfl, ?_, hentries, .inl ⟨rfl, hcount⟩⟩
    exact ⟨spelled, hs, rfl⟩
  | box label => exact .inl ⟨rfl, st.entries_openBox l label⟩
  | block kind label =>
    refine .inr ⟨_, rfl, ?_, st.entries_openBlock l kind label, .inl ⟨rfl, rfl⟩⟩
    exact ⟨hs, rfl⟩
  | divide divider label =>
    exact .inl ⟨rfl, st.entries_divide l divider label, st.count_divide l divider label⟩
  | close => exact .inl ⟨rfl, st.entries_close l⟩
  | autonumber => exact .inl ⟨rfl, rfl, rfl⟩
  | title text => exact .inl ⟨rfl, rfl, rfl⟩
  | activation id => exact .inl ⟨rfl, rfl, rfl⟩
  | message t =>
    obtain ⟨hentries, hcount⟩ := st.entries_addMessage l t
    exact .inr ⟨.message (t.toMessage l st.count), rfl, ⟨t, hs, rfl⟩, hentries,
      .inr ⟨_, rfl, rfl, hcount⟩⟩
  | invalidMessage => exact .inl ⟨rfl, rfl, rfl⟩
  | unrecognised => exact .inl ⟨rfl, rfl, rfl⟩

/-! ## The invariant -/

/-- The entries of the state are the items of the lines, in order, and the messages among them are
numbered from zero. -/
structure Ordered (ls : List Line) (st : State) : Prop where
  items : List.Forall₂ Makes (ls.filter addsItem) st.entries
  indices : (st.entries.filterMap Item.message?).map (·.index) = List.range st.count

namespace Ordered

variable {ls : List Line} {st st' : State}

theorem init : Ordered [] {} where
  items := .nil
  indices := rfl

theorem congr (h : Ordered ls st) (hentries : st'.entries = st.entries)
    (hcount : st'.count = st.count) : Ordered ls st' where
  items := by
    rw [hentries]
    exact h.items
  indices := by
    rw [hentries, hcount]
    exact h.indices

/-- Reading one line keeps the order. -/
theorem step (h : Ordered ls st) {l : Line} {s : Statement}
    (hs : Statement.recognise l.text = .ok s) : Ordered (ls ++ [l]) (st.step (l, s)) := by
  rcases st.step_cases hs with ⟨hadds, hentries, hcount⟩ | ⟨i, hadds, hmakes, hentries, hindex⟩
  · have hfilter : (ls ++ [l]).filter addsItem = ls.filter addsItem := by simp [hadds]
    refine ⟨?_, (h.congr hentries hcount).indices⟩
    rw [hfilter]
    exact (h.congr hentries hcount).items
  · have hfilter : (ls ++ [l]).filter addsItem = ls.filter addsItem ++ [l] := by simp [hadds]
    refine ⟨?_, ?_⟩
    · rw [hfilter, hentries]
      exact List.rel_append h.items (.cons hmakes .nil)
    · rw [hentries, List.filterMap_append, List.map_append, h.indices]
      rcases hindex with ⟨hm, hcount⟩ | ⟨m, hm, hm', hcount⟩
      · rw [hcount]
        simp [hm]
      · rw [hcount, List.range_succ, ← hm']
        simp [hm]

/-- Reading any number of lines keeps the order. -/
theorem foldl_step (h : Ordered ls st) {more : List Line} {xs : List (Line × Statement)}
    (hx : List.Forall₂ (fun l x => l = x.1 ∧ Statement.recognise l.text = .ok x.2) more xs) :
    Ordered (ls ++ more) (xs.foldl State.step st) := by
  induction hx generalizing ls st with
  | nil => rwa [List.append_nil]
  | @cons l x more xs hl _ ih =>
    obtain ⟨rfl, hs⟩ := hl
    have hrest := ih (h.step hs)
    rwa [List.append_assoc] at hrest

end Ordered

/-! ## The end -/

namespace State

theorem length_blocks_closeBlock (st : State) :
    st.closeBlock.blocks.length = st.blocks.length - 1 := by
  unfold closeBlock
  split
  · rename_i h
    rw [h]
    rfl
  · rename_i f fs h
    rw [h]
    unfold addItem
    split
    · rename_i h'
      rw [show fs = [] from h']
      rfl
    · rename_i g gs h'
      rw [show fs = g :: gs from h']
      rfl

/-- Closing as many blocks as are open leaves none open. -/
theorem blocks_foldl_closeUnclosed (fs : List OpenBlock) (st : State)
    (h : st.blocks.length = fs.length) : (fs.foldl closeUnclosed st).blocks = [] := by
  induction fs generalizing st with
  | nil => exact List.length_eq_zero_iff.1 h
  | cons f fs ih =>
    refine ih _ ?_
    unfold closeUnclosed
    rw [length_blocks_closeBlock]
    show st.blocks.length - 1 = fs.length
    rw [h]
    rfl

theorem entries_foldl_closeUnclosed (fs : List OpenBlock) (st : State) :
    (fs.foldl closeUnclosed st).entries = st.entries := by
  induction fs generalizing st with
  | nil => rfl
  | cons f fs ih =>
    refine (ih _).trans ?_
    unfold closeUnclosed
    rw [entries_closeBlock]
    rfl

/-- After the end the items of the diagram are all that has been read. -/
theorem entries_finish (st : State) :
    (Item.walkAll st.finish.items).map Item.bare = st.entries := by
  have hitems : st.finish.items = (st.blocks.foldl closeUnclosed st).items := by
    unfold finish
    dsimp only
    split <;> rfl
  have hentries := entries_foldl_closeUnclosed st.blocks st
  unfold entries at hentries
  rw [blocks_foldl_closeUnclosed st.blocks st rfl] at hentries
  rw [hitems]
  simpa [entries] using hentries

end State

/-- At the end the order of the entries is the order of the walk. -/
theorem Ordered.finish {ls : List Line} {st : State} (h : Ordered ls st) :
    List.Forall₂ Makes (ls.filter addsItem) (Item.walkAll st.finish.items) ∧
      ((Item.walkAll st.finish.items).filterMap Item.message?).map (·.index) =
        List.range st.count := by
  obtain ⟨hitems, hindices⟩ := h
  rw [← st.entries_finish] at hitems hindices
  refine ⟨?_, ?_⟩
  · exact (List.forall₂_map_right_iff.1 hitems).imp fun l i => makes_bare_iff.1
  · rw [List.filterMap_map] at hindices
    have hbare : Item.message? ∘ Item.bare = Item.message? := funext Item.message?_bare
    rwa [hbare] at hindices

theorem map_line_of_makes {ls : List Line} {is : List Item} (h : List.Forall₂ Makes ls is) :
    is.map (·.line) = ls.map (·.number) := by
  induction h with
  | nil => rfl
  | cons hl _ ih => rw [List.map_cons, List.map_cons, hl.line, ih]

/-- **Source order.** The walk through a diagram that has been read lists one item for each line
that is a message, a note or the opening line of a block, in the order of these lines and with their
numbers; and the messages of the walk are numbered from zero. -/
theorem source_order {ls : List Line} {p : Parsed Diagram} (h : parse ls = .ok p) :
    List.Forall₂ Makes (ls.tail.filter addsItem) (Item.walkAll p.diagram.items) ∧
      (Item.walkAll p.diagram.items).map (·.line) =
        (ls.tail.filter addsItem).map (·.number) ∧
      p.diagram.messages.map (·.index) = List.range p.diagram.messages.length := by
  obtain ⟨xs, hx, h⟩ := bind_eq_ok_iff.1 h
  cases h
  have hrun := Ordered.init.foldl_step (readLines_eq_ok_iff.1 hx)
  rw [List.nil_append] at hrun
  obtain ⟨hitems, hindices⟩ := hrun.finish
  refine ⟨hitems, map_line_of_makes hitems, ?_⟩
  -- A list of indices that is a range is as long as the range.
  have hlength := congrArg List.length hindices
  rw [List.length_map, List.length_range] at hlength
  rw [← hlength] at hindices
  exact hindices

/-- A diagram with a block left open, a divider in the wrong block and an end too many. -/
def unbalanced : List Line :=
  [⟨1, "sequenceDiagram", 0, 1⟩, ⟨2, "end", 0, 1⟩, ⟨3, "loop again", 0, 1⟩, ⟨4, "A->>B: one", 0, 1⟩,
   ⟨5, "else", 0, 1⟩, ⟨6, "Note over A: here", 0, 1⟩, ⟨7, "end", 0, 1⟩, ⟨8, "alt", 0, 1⟩,
   ⟨9, "B-->>A: two", 0, 1⟩]

theorem source_order_unbalanced :
    ∃ p, parse unbalanced = .ok p ∧
      (Item.walkAll p.diagram.items).map (·.line) = [3, 4, 6, 8, 9] ∧
      List.Forall₂ Makes (unbalanced.tail.filter addsItem) (Item.walkAll p.diagram.items) ∧
      p.diagram.messages.map (·.index) = List.range p.diagram.messages.length := by
  have hrun : ((parse unbalanced).toOption.map
      fun p => (Item.walkAll p.diagram.items).map (·.line)) = some [3, 4, 6, 8, 9] := by
    decide +kernel
  obtain ⟨p, hp, hlines⟩ := exists_ok_of_toOption hrun
  obtain ⟨hitems, -, hindices⟩ := source_order hp
  exact ⟨p, hp, hlines, hitems, hindices⟩

end DiagramText.Sequence
