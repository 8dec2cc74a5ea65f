import DiagramText.Proofs.Sequence.Order
import DiagramText.Proofs.Sequence.Script

/-!
# Writing and reading sequence diagrams

A script is a forest of messages, notes and blocks.  Written line by line and read again, it comes
back as the items of a diagram, without a diagnostic.

1. `Passage` and `Part`, the trees of a script, with their lines and the items they stand for.
2. `Reads`: reading lines, one piece of a text after the other.
3. What a message, a note, an opening, a divider and a closer do to the state.
4. `Passage.reads`, by induction on the tree, with the frame of the open block in the invariant.
5. `script_round_trip`, and a text with a line feed, which does not come back.
-/

namespace DiagramText.Sequence

open Source (Line)

/-! ## Scripts -/

mutual

/-- A message, a note or a block.  Only a block that has a divider can be forked. -/
inductive Passage where
  | message (m : MessageLine)
  | note (n : NoteLine)
  | block (kind : BlockKind) (label : Phrase) (body : List Passage)
  | fork (divider : Divider) (label : Phrase) (body : List Passage) (more : List Part)

/-- A further branch of a block. -/
inductive Part where
  | mk (label : Phrase) (body : List Passage)

end

section

variable (spaced : Bool)

/-- A keyword and the label behind it. -/
def labelled (keyword : String) (label : Phrase) : String :=
  String.ofList (keyword.toList ++ label.behind spaced)

mutual

/-- The lines of a passage. -/
def Passage.lines : Passage → List String
  | .message m => [String.ofList (m.chars spaced)]
  | .note n => [String.ofList (n.chars spaced)]
  | .block kind label body => labelled spaced kind.name label :: (Passage.linesAll body ++ ["end"])
  | .fork divider label body more =>
    labelled spaced divider.home.name label ::
      (Passage.linesAll body ++ (Part.linesAll divider more ++ ["end"]))

/-- The lines of passages, one after the other. -/
def Passage.linesAll : List Passage → List String
  | [] => []
  | p :: ps => p.lines ++ Passage.linesAll ps

/-- The lines of further branches, each with its divider. -/
def Part.linesAll (divider : Divider) : List Part → List String
  | [] => []
  | .mk label body :: more =>
    labelled spaced divider.name label :: (Passage.linesAll body ++ Part.linesAll divider more)

end

end

mutual

/-- The number of messages in a passage. -/
def Passage.count : Passage → Nat
  | .message _ => 1
  | .note _ => 0
  | .block _ _ body => Passage.countAll body
  | .fork _ _ body more => Passage.countAll body + Part.countAll more

/-- The number of messages in passages. -/
def Passage.countAll : List Passage → Nat
  | [] => 0
  | p :: ps => p.count + Passage.countAll ps

/-- The number of messages in further branches. -/
def Part.countAll : List Part → Nat
  | [] => 0
  | .mk _ body :: more => Passage.countAll body + Part.countAll more

end

/-- The message of a line. -/
def MessageLine.message (m : MessageLine) (index : Nat) (line : Int) : Message :=
  { sender := m.sender.id
    receiver := m.receiver.id
    text := m.text.string
    arrow := m.arrow
    index
    activate := m.mark == .activate
    deactivate := m.mark == .deactivate
    line }

/-- The note of a line. -/
def NoteLine.note (n : NoteLine) (line : Int) : Note :=
  { text := n.text.string
    position := n.anchor.position
    participantIds := n.anchor.names.map Name.id
    line }

section

variable (spaced : Bool) (number : Nat → Int)

mutual

/-- The item that a passage stands for, where its first line is the `i`-th one, its first message
is the `n`-th one, and `number` numbers the lines. -/
def Passage.item (i n : Nat) : Passage → Item
  | .message m => .message (m.message n (number i))
  | .note m => .note (m.note (number i))
  | .block kind label body =>
    .block { kind, label := label.string, line := number i }
      [.mk (condition label.string) (Passage.items (i + 1) n body)]
  | .fork divider label body more =>
    .block { kind := divider.home, label := label.string, line := number i }
      (.mk (condition label.string) (Passage.items (i + 1) n body) ::
        Part.branches (i + 1 + (Passage.linesAll spaced body).length) (n + Passage.countAll body)
          more)

/-- The items that passages stand for. -/
def Passage.items (i n : Nat) : List Passage → List Item
  | [] => []
  | p :: ps => p.item i n :: Passage.items (i + (p.lines spaced).length) (n + p.count) ps

/-- The branches that parts stand for. -/
def Part.branches (i n : Nat) : List Part → List Branch
  | [] => []
  | .mk label body :: more =>
    .mk (condition label.string) (Passage.items (i + 1) n body) ::
      Part.branches (i + 1 + (Passage.linesAll spaced body).length) (n + Passage.countAll body) more

end

end

/-! ## Reading piece by piece -/

/-- Lines with the given texts; `place` says everything else about them. -/
def placed (place : Nat → Line) : Nat → List String → List Line
  | _, [] => []
  | i, t :: ts => { place i with text := t } :: placed place (i + 1) ts

theorem placed_append (place : Nat → Line) (i : Nat) (ts us : List String) :
    placed place i (ts ++ us) = placed place i ts ++ placed place (i + ts.length) us := by
  induction ts generalizing i with
  | nil => rfl
  | cons t ts ih =>
    rw [List.cons_append, placed, ih, List.length_cons, Nat.add_assoc, Nat.add_comm 1]
    rfl

/-- Reading the texts, from the `i`-th line on, leads from one state to the other. -/
def Reads (place : Nat → Line) (i : Nat) (ts : List String) (st st' : State) : Prop :=
  ∃ xs, statements (placed place i ts) = .ok xs ∧ xs.foldl State.step st = st'

namespace Reads

variable {place : Nat → Line} {i : Nat} {t : String} {ts us : List String} {st st' st'' : State}

theorem nil (place : Nat → Line) (i : Nat) (st : State) : Reads place i [] st st := ⟨[], rfl, rfl⟩

theorem single {s : Statement} (hs : Statement.recognise t = .ok s)
    (hstep : st.step ({ place i with text := t }, s) = st') : Reads place i [t] st st' := by
  refine ⟨[({ place i with text := t }, s)], ?_, hstep⟩
  exact readLines_eq_ok_iff.2 (.cons ⟨rfl, hs⟩ .nil)

theorem append (h : Reads place i ts st st') (h' : Reads place (i + ts.length) us st' st'') :
    Reads place i (ts ++ us) st st'' := by
  obtain ⟨xs, hxs, rfl⟩ := h
  obtain ⟨ys, hys, rfl⟩ := h'
  refine ⟨xs ++ ys, ?_, List.foldl_append⟩
  rw [placed_append]
  exact readLines_eq_ok_iff.2 (List.rel_append (readLines_eq_ok_iff.1 hxs)
    (readLines_eq_ok_iff.1 hys))

theorem cons {s : Statement} (hs : Statement.recognise t = .ok s)
    (h : Reads place (i + 1) ts (st.step ({ place i with text := t }, s)) st') :
    Reads place i (t :: ts) st st' := append (single hs rfl) h

end Reads

/-! ## Single lines -/

/-- Adds items to the branch being read. -/
def OpenBlock.add (f : OpenBlock) (is : List Item) : OpenBlock := { f with items := f.items ++ is }

/-- All branches of an open block, the one being read included. -/
def OpenBlock.branches (f : OpenBlock) : List Branch := f.finished ++ [.mk f.condition f.items]

namespace State

/-- Other participants and more messages. -/
def told (st : State) (participants : Registry Participant) (n : Nat) : State :=
  { st with participants, count := st.count + n }

/-- Inside one more block. -/
def inside (st : State) (f : OpenBlock) : State := { st with blocks := f :: st.blocks }

/-- Adds items to the branch being read, or to the diagram itself. -/
def addItems (st : State) (is : List Item) : State :=
  match st.blocks with
  | [] => { st with items := st.items ++ is }
  | f :: fs => { st with blocks := f.add is :: fs }

/-- The state behind passages: other participants, more messages and more items. -/
def after (st : State) (participants : Registry Participant) (n : Nat) (is : List Item) : State :=
  (st.told participants n).addItems is

theorem told_told (st : State) (ps ps' : Registry Participant) (n n' : Nat) :
    (st.told ps n).told ps' n' = st.told ps' (n + n') := by
  unfold told
  rw [Nat.add_assoc]

theorem after_nil (st : State) : st.after st.participants 0 [] = st := by
  obtain ⟨participants, items, blocks⟩ := st
  cases blocks <;> simp [after, told, addItems, OpenBlock.add]

theorem after_after (st : State) (ps ps' : Registry Participant) (n n' : Nat)
    (is is' : List Item) :
    (st.after ps n is).after ps' n' is' = st.after ps' (n + n') (is ++ is') := by
  obtain ⟨participants, items, blocks⟩ := st
  cases blocks <;> simp [after, told, addItems, OpenBlock.add, Nat.add_assoc]

theorem count_after (st : State) (ps : Registry Participant) (n : Nat) (is : List Item) :
    (st.after ps n is).count = st.count + n := by
  unfold after told addItems
  dsimp only
  split <;> rfl

/-- Inside a block, the items go to its frame. -/
theorem after_inside (st : State) (f : OpenBlock) (ps : Registry Participant) (n : Nat)
    (is : List Item) : (st.inside f).after ps n is = (st.told ps n).inside (f.add is) := rfl

theorem step_message (st : State) (l : Line) (m : MessageLine) :
    ∃ ps, st.step (l, .message m.read) =
      st.after ps 1 [.message (m.message st.count l.number)] := by
  have htext : Text.trim (m.read.text.getD []) = m.text.chars := m.text.trimmed
  refine ⟨((st.mention m.sender.id).mention m.receiver.id).participants, ?_⟩
  show st.addMessage l m.read = _
  unfold addMessage
  rw [htext]
  rfl

/-- A note with as many participants as its position allows is added without a report. -/
theorem addNote_of_fits (st : State) (l : Line) {position : Position} (spelled : String)
    {ids : List String} (text : String) (hwide : ids.length ≤ 2)
    (hshared : position = .above ∨ ids.length ≤ 1) :
    st.addNote l position spelled ids text =
      (ids.foldl mention st).addItem
        (.note { text, position, participantIds := ids, line := l.number }) := by
  have hfew : decide (2 < ids.length) = false := decide_eq_false (by omega)
  have hone : (position != .above && decide (1 < ids.length)) = false := by
    rcases hshared with rfl | hids
    · rfl
    · rw [decide_eq_false (by omega : ¬ 1 < ids.length), Bool.and_false]
  unfold addNote
  rw [hfew, hone]
  rfl

theorem step_note (st : State) (l : Line) (n : NoteLine) :
    ∃ ps, st.step (l, .note n.anchor.position n.anchor.position.phrase
      (n.anchor.names.map Name.id) n.text.string) =
      st.after ps 0 [.note (n.note l.number)] := by
  obtain ⟨ps, hps⟩ := foldl_mention st (n.anchor.names.map Name.id)
  refine ⟨ps, ?_⟩
  show st.addNote l _ _ _ _ = _
  rw [addNote_of_fits, hps]
  · rfl
  · cases n.anchor <;> simp [Anchor.names]
  · cases n.anchor <;> simp [Anchor.names, Anchor.position]

/-- A divider of the block that is open finishes a branch. -/
theorem step_divide (st : State) {f : OpenBlock} {divider : Divider}
    (hkind : f.head.kind = divider.home) (l : Line) (label : String) :
    (st.inside f).step (l, .divide divider label) = st.inside (f.divide label) := by
  have hhome : (f.head.kind != divider.home) = false := by simp [hkind]
  show (st.inside f).divide l divider label = _
  unfold divide inside
  dsimp only
  rw [hhome]
  rfl

/-- At its end, a block becomes an item. -/
theorem step_close (st : State) (f : OpenBlock) (ps : Registry Participant) (n : Nat) (l : Line) :
    ((st.told ps n).inside f).step (l, .close) = st.after ps n [.block f.head f.branches] := rfl

end State

/-! ## Passages -/

section

variable {spaced : Bool} {place : Nat → Line}

theorem notMem_of_labelled {keyword : String} {label : Phrase}
    (h : '\n' ∉ (labelled spaced keyword label).toList) : '\n' ∉ label.chars := by
  refine fun hmem => h ?_
  unfold labelled
  rw [String.toList_ofList]
  exact List.mem_append_right _ (Phrase.mem_behind hmem)

/-- The frame of a block behind its opening line. -/
def opened (kind : BlockKind) (label : Phrase) (line : Int) : OpenBlock :=
  { head := { kind, label := label.string, line }, condition := condition label.string }

/-- A block is read from its opening to its end: what is read in between fills its frame. -/
theorem Reads.block {i n : Nat} {st : State} {kind : BlockKind} {label : Phrase}
    {ts : List String} {ps : Registry Participant} {f : OpenBlock}
    (hlabel : '\n' ∉ (labelled spaced kind.name label).toList)
    (h : Reads place (i + 1) ts (st.inside (opened kind label (place i).number))
      ((st.told ps n).inside f)) :
    Reads place i (labelled spaced kind.name label :: (ts ++ ["end"])) st
      (st.after ps n [.block f.head f.branches]) :=
  .cons (recognise_block spaced kind (notMem_of_labelled hlabel))
    (h.append (.single (recognise_eq_close_iff.2 rfl) (st.step_close f ps n _)))

-- The induction is on the tree and for any state, so that inside a block it can be used with the
-- frame of this block on the stack.
mutual

/-- A passage is read back, whatever has been read before it. -/
theorem Passage.reads (p : Passage) (i : Nat) (st : State)
    (h : ∀ t ∈ p.lines spaced, '\n' ∉ t.toList) :
    ∃ ps, Reads place i (p.lines spaced) st
      (st.after ps p.count [p.item spaced (fun j => (place j).number) i st.count]) := by
  cases p with
  | message m =>
    have htext : '\n' ∉ m.text.chars := by
      refine fun hmem => h _ List.mem_cons_self ?_
      rw [String.toList_ofList]
      exact m.mem_chars spaced hmem
    obtain ⟨ps, hstep⟩ := st.step_message { place i with text := String.ofList (m.chars spaced) } m
    exact ⟨ps, .single (recognise_message spaced htext) hstep⟩
  | note n =>
    have htext : '\n' ∉ n.text.chars := by
      refine fun hmem => h _ List.mem_cons_self ?_
      rw [String.toList_ofList]
      exact n.mem_chars spaced hmem
    obtain ⟨ps, hstep⟩ := st.step_note { place i with text := String.ofList (n.chars spaced) } n
    exact ⟨ps, .single (recognise_note spaced htext) hstep⟩
  | block kind label body =>
    obtain ⟨hlabel, hrest⟩ := List.forall_mem_cons.1 h
    obtain ⟨hbody, -⟩ := List.forall_mem_append.1 hrest
    obtain ⟨ps, hreads⟩ := Passage.readsAll body (i + 1)
      (st.inside (opened kind label (place i).number)) hbody
    rw [State.after_inside] at hreads
    exact ⟨ps, .block hlabel hreads⟩
  | fork divider label body more =>
    obtain ⟨hlabel, hrest⟩ := List.forall_mem_cons.1 h
    obtain ⟨hbody, hend⟩ := List.forall_mem_append.1 hrest
    obtain ⟨hmore, -⟩ := List.forall_mem_append.1 hend
    obtain ⟨ps, hreads⟩ := Passage.readsAll body (i + 1)
      (st.inside (opened divider.home label (place i).number)) hbody
    rw [State.after_inside] at hreads
    -- The further branches go on with the frame that the first one leaves behind.
    obtain ⟨ps', f, hhead, hbranches, hparts⟩ :=
      Part.readsAll divider more (i + 1 + (Passage.linesAll spaced body).length)
        (st.told ps (Passage.countAll body))
        ((opened divider.home label (place i).number).add
          (Passage.items spaced (fun j => (place j).number) (i + 1) st.count body)) rfl hmore
    rw [State.told_told] at hparts
    have hblock := Reads.block hlabel (hreads.append hparts)
    rw [List.append_assoc, hhead, hbranches] at hblock
    exact ⟨ps', hblock⟩

/-- Passages are read back one after the other. -/
theorem Passage.readsAll (qs : List Passage) (i : Nat) (st : State)
    (h : ∀ t ∈ Passage.linesAll spaced qs, '\n' ∉ t.toList) :
    ∃ ps, Reads place i (Passage.linesAll spaced qs) st
      (st.after ps (Passage.countAll qs)
        (Passage.items spaced (fun j => (place j).number) i st.count qs)) := by
  cases qs with
  | nil =>
    refine ⟨st.participants, ?_⟩
    rw [Passage.countAll, Passage.items, State.after_nil]
    exact .nil place i st
  | cons p qs =>
    obtain ⟨hp, hqs⟩ := List.forall_mem_append.1 h
    obtain ⟨ps, hfirst⟩ := p.reads i st hp
    obtain ⟨ps', hrest⟩ := Passage.readsAll qs (i + (p.lines spaced).length) _ hqs
    rw [State.after_after, State.count_after] at hrest
    exact ⟨ps', hfirst.append hrest⟩

/-- Further branches are read back into the frame of their block. -/
theorem Part.readsAll (divider : Divider) (more : List Part) (i : Nat) (st : State) (f : OpenBlock)
    (hkind : f.head.kind = divider.home)
    (h : ∀ t ∈ Part.linesAll spaced divider more, '\n' ∉ t.toList) :
    ∃ ps f', f'.head = f.head ∧
      f'.branches =
        f.branches ++ Part.branches spaced (fun j => (place j).number) i st.count more ∧
      Reads place i (Part.linesAll spaced divider more) (st.inside f)
        ((st.told ps (Part.countAll more)).inside f') := by
  cases more with
  | nil => exact ⟨st.participants, f, rfl, (List.append_nil _).symm, .nil place i _⟩
  | cons part more =>
    obtain ⟨label, body⟩ := part
    obtain ⟨hlabel, hrest⟩ := List.forall_mem_cons.1 h
    obtain ⟨hbody, hmore⟩ := List.forall_mem_append.1 hrest
    obtain ⟨ps, hreads⟩ :=
      Passage.readsAll body (i + 1) (st.inside (f.divide label.string)) hbody
    rw [State.after_inside] at hreads
    obtain ⟨ps', f', hhead, hbranches, hparts⟩ :=
      Part.readsAll divider more (i + 1 + (Passage.linesAll spaced body).length)
        (st.told ps (Passage.countAll body))
        ((f.divide label.string).add
          (Passage.items spaced (fun j => (place j).number) (i + 1) st.count body)) hkind hmore
    rw [State.told_told] at hparts
    refine ⟨ps', f', hhead, ?_, .cons (recognise_divide spaced divider (notMem_of_labelled hlabel))
      ?_⟩
    · rw [hbranches]
      exact List.append_assoc ..
    · rw [State.step_divide st hkind]
      exact hreads.append hparts

end

end

/-! ## Whole scripts -/

/-- Written line by line under a header and read again, a script comes back as the items of the
diagram, and nothing is reported. -/
def RoundTrips (spaced : Bool) (place : Nat → Line) (header : Line) (script : List Passage) :
    Prop :=
  ∃ p, parse (header :: placed place 0 (Passage.linesAll spaced script)) = .ok p ∧
    p.diagram.items = Passage.items spaced (fun j => (place j).number) 0 0 script ∧
    p.diagnostics = []

/-- **Round trip.** A script whose texts have no line feeds, so that each of them stands on one
line, is read back as it was written. -/
theorem script_round_trip {spaced : Bool} {script : List Passage}
    (h : ∀ t ∈ Passage.linesAll spaced script, '\n' ∉ t.toList) (place : Nat → Line)
    (header : Line) : RoundTrips spaced place header script := by
  obtain ⟨ps, xs, hxs, hrun⟩ := @Passage.readsAll spaced place script 0 {} h
  refine ⟨_, bind_eq_ok_iff.2 ⟨xs, hxs, rfl⟩, ?_, ?_⟩
  · rw [hrun]
    rfl
  · rw [hrun]
    rfl

/-- A participant. -/
def Name.ana : Name := ⟨"Ana".toList, by decide, List.all_eq_true.1 (by decide)⟩

/-- A participant with the name of a block. -/
def Name.loop : Name := ⟨"loop".toList, by decide, List.all_eq_true.1 (by decide)⟩

/-- Nested blocks, labels and texts that are empty, and texts that look like other lines. -/
def nestedScript : List Passage :=
  [.message ⟨.loop, .dashedCross, .activate, .ana, ⟨"B->>C: x".toList, by decide⟩⟩,
   .fork .otherwise ⟨[], rfl⟩
     [.block .rect ⟨"red".toList, by decide⟩
        [.message ⟨.ana, .plain, .deactivate, .loop, ⟨[], rfl⟩⟩],
      .note ⟨.across .ana .loop, ⟨"end".toList, by decide⟩⟩]
     [.mk ⟨"not so".toList, by decide⟩ [], .mk ⟨[], rfl⟩
        [.message ⟨.ana, .both, .unchanged, .ana, ⟨"z".toList, by decide⟩⟩]]]

theorem script_round_trip_nested :
    Passage.linesAll false nestedScript =
        ["loop--x+Ana: B->>C: x", "alt", "rect red", "Ana->-loop:", "end",
         "Note over Ana,loop: end", "else not so", "else", "Ana<<->>Ana: z", "end"] ∧
      RoundTrips false (fun j => ⟨j + 2, "", 0, 1⟩) ⟨1, "sequenceDiagram", 0, 1⟩ nestedScript :=
  ⟨by decide +kernel, script_round_trip (by decide +kernel) _ _⟩

/-- A message whose text holds a line feed. -/
def brokenScript : List Passage :=
  [.message ⟨⟨['A'], by decide, List.all_eq_true.1 (by decide)⟩, .filled, .unchanged,
    ⟨['B'], by decide, List.all_eq_true.1 (by decide)⟩, ⟨"x\ny".toList, by decide⟩⟩]

/-- A text with a line feed is not read back: its line is no message. -/
theorem brokenScript_not_roundTrips :
    ¬ RoundTrips true (fun j => ⟨j + 2, "", 0, 1⟩) ⟨1, "sequenceDiagram", 0, 1⟩ brokenScript := by
  rintro ⟨p, hp, -, hdiagnostics⟩
  have hrun : ((parse (⟨1, "sequenceDiagram", 0, 1⟩ ::
      placed (fun j => ⟨j + 2, "", 0, 1⟩) 0 (Passage.linesAll true brokenScript))).toOption.map
      fun p => p.diagnostics.length) = some 1 := by
    decide +kernel
  rw [hp] at hrun
  have hlength : p.diagnostics.length = 1 := Option.some.inj hrun
  rw [hdiagnostics] at hlength
  cases hlength

end DiagramText.Sequence
