import DiagramText.Proofs.Columns
import DiagramText.Proofs.Growth
import DiagramText.Proofs.Sequence.Balance
import DiagramText.Proofs.Sequence.Script

/-!
# Participants with hyphens

The name of a participant may be several words that hyphens join.  Most arrows start with a hyphen
too, and a sender is the shortest text with an arrow and a receiver behind it.  So a hyphen inside a
sender is taken for the start of an arrow, if the arrow and a receiver can be read there.  Only the
crossed arrow goes on with a letter.

1. `CompoundName`, and the lines of messages from such names.
2. Which arrow is found at a hyphen: `arrowEnd?_eq_none_iff`.
3. The sender that is read: all of the name, or the words in front of a hyphen.
4. What one more message does to a diagram, and `compound_sender_kept_iff`.
-/

namespace DiagramText.Sequence

open Source (Line)
open Text

/-! ## Compound names -/

/-- The name of a participant as its words, which single hyphens join. -/
structure CompoundName where
  first : Name
  more : List Name

/-- Words with a hyphen in front of each. -/
def hyphened (ws : List Name) : List Char := ws.flatMap fun w => '-' :: w.chars

/-- The name as it is written. -/
def CompoundName.chars (n : CompoundName) : List Char := n.first.chars ++ hyphened n.more

/-- The id that a name gives to its participant. -/
def CompoundName.id (n : CompoundName) : String := String.ofList n.chars

/-- Whether a hyphen with a word behind it is no arrow to a receiver.  A word may start with the
letter of the crossed arrow only if it is this letter alone, at the end of the name, and if nothing
that stands behind it can be a receiver with a mark. -/
def HyphenIsClear (a : Arrow) (w : Name) (behind : List Name) : Prop :=
  w.chars.head? ≠ some 'x' ∨ w.chars = ['x'] ∧ behind = [] ∧ a ≠ .cross ∧ a ≠ .async

/-- Whether no hyphen of a name is an arrow to a receiver, in front of the given arrow. -/
def CompoundName.IsClear (n : CompoundName) (a : Arrow) : Prop :=
  ∀ before w behind, n.more = before ++ w :: behind → HyphenIsClear a w behind

/-- What the line of a message from a compound name says. -/
structure CompoundLine where
  sender : CompoundName
  arrow : Arrow
  receiver : Name
  text : Phrase

namespace CompoundLine

variable (m : CompoundLine)

/-- The arrow, the receiver and the text. -/
def tail : List Char :=
  m.arrow.token.toList ++ (m.receiver.chars ++ ':' :: m.text.behind true)

/-- The line of a message. -/
def chars : List Char := m.sender.chars ++ m.tail

/-- The message that is meant. -/
def read : MessageText :=
  { sender := m.sender.chars, arrow := m.arrow, activation := .unchanged,
    receiver := m.receiver.chars, text := some m.text.chars }

/-- The message of a diagram that is meant. -/
def message (index : Nat) (line : Int) : Message :=
  { sender := m.sender.id, receiver := m.receiver.id, text := m.text.string, arrow := m.arrow,
    index, activate := false, deactivate := false, line }

end CompoundLine

theorem hyphened_cons (w : Name) (ws : List Name) :
    hyphened (w :: ws) = '-' :: (w.chars ++ hyphened ws) := rfl

theorem hyphened_append (ws vs : List Name) :
    hyphened (ws ++ vs) = hyphened ws ++ hyphened vs := List.flatMap_append

/-- A character of a name is one of a word, or a hyphen with the next word behind it. -/
theorem word_or_hyphen {r x y : List Char} {c : Char} {ws : List Name}
    (hr : ∀ d ∈ r, isWord d = true) (h : r ++ hyphened ws = x ++ c :: y) :
    isWord c = true ∨ ∃ before w behind, ws = before ++ w :: behind ∧
      x = r ++ hyphened before ∧ c = '-' ∧ y = w.chars ++ hyphened behind := by
  induction ws generalizing r x with
  | nil =>
    refine .inl (hr c ?_)
    rw [← List.append_nil r]
    exact h ▸ List.mem_append_right _ List.mem_cons_self
  | cons w ws ih =>
    rw [hyphened_cons] at h
    rcases List.append_eq_append_iff.1 h with ⟨a, rfl, ha⟩ | ⟨a, rfl, ha⟩
    · cases a with
      | nil =>
        cases ha
        exact .inr ⟨[], w, ws, rfl, rfl, rfl, rfl⟩
      | cons d a =>
        obtain ⟨rfl, hrest⟩ := List.cons.inj ha
        rcases ih w.word hrest with hword | ⟨before, v, behind, rfl, rfl, rfl, rfl⟩
        · exact .inl hword
        · exact .inr ⟨w :: before, v, behind, rfl, rfl, rfl, rfl⟩
    · cases a with
      | nil =>
        cases ha
        exact .inr ⟨[], w, ws, rfl, (List.append_nil x).symm ▸ (List.append_nil x).symm, rfl, rfl⟩
      | cons d a =>
        obtain ⟨rfl, -⟩ := List.cons.inj ha
        exact .inl (hr c (List.mem_append_right _ List.mem_cons_self))

/-! ## Arrows at hyphens -/

/-- Behind a hyphen, only one arrow goes on with a letter. -/
theorem arrowEnd?_hyphen {sender r : List Char} {c : Char} (hc : isWord c = true) :
    arrowEnd? sender ('-' :: c :: r) =
      if c = 'x' then
        (receiver? (activation (trimStart r)).2).map fun (receiver, text) =>
          { sender := trim sender, arrow := .cross, activation := (activation (trimStart r)).1,
            receiver, text }
      else none := by
  have hminus : '-' ≠ c := (ne_of_isWord hc (by decide)).symm
  have htip : '>' ≠ c := (ne_of_isWord hc (by decide)).symm
  have hround : ')' ≠ c := (ne_of_isWord hc (by decide)).symm
  by_cases hx : c = 'x'
  · subst hx
    cases hr : receiver? (activation (trimStart r)).2 <;>
      simp [arrowEnd?, Arrow.longestFirst, toList_token, Arrow.signs, literal?, hr]
  · simp [arrowEnd?, Arrow.longestFirst, toList_token, Arrow.signs, literal?, hminus, htip, hround,
      Ne.symm hx, hx]

theorem receiver?_of_not {c : Char} (hc : isNameStart c = false) (r : List Char) :
    receiver? (c :: r) = none := if_neg (by simp [hc])

/-- Behind the start of a name and its colon, a receiver is found. -/
theorem receiver?_ne_none {c : Char} {s : List Char} (hc : isNameStart c = true)
    (hs : ∀ d ∈ s, (d != ':') = true) {t : Phrase} (ht : '\n' ∉ t.chars) :
    receiver? (c :: (s ++ ':' :: t.behind true)) ≠ none := by
  rw [receiver?_cons_colon hc hs, t.trimStart_behind, lineRest?_of_notMem ht]
  nofun

theorem hyphened_no_colon (ws : List Name) : ∀ c ∈ hyphened ws, (c != ':') = true := by
  intro c hc
  obtain ⟨w, -, hc⟩ := List.mem_flatMap.1 hc
  rcases List.mem_cons.1 hc with rfl | hc
  · rfl
  · exact w.no_colon c hc

theorem token_no_colon (a : Arrow) : ∀ c ∈ a.token.toList, (c != ':') = true := by
  cases a <;> decide

/-- An arrow that starts with a mark is a receiver, if what stands behind the mark starts a name. -/
theorem receiver?_behind_token (a : Arrow) (n : Name) {t : Phrase} (ht : '\n' ∉ t.chars) :
    receiver? (activation (trimStart (a.token.toList ++ (n.chars ++ ':' :: t.behind true)))).2 =
      none ↔ a ≠ .cross ∧ a ≠ .async := by
  have hname (c : Char) (hc : isNameStart c = true) :
      receiver? (c :: (n.chars ++ ':' :: t.behind true)) ≠ none :=
    receiver?_ne_none hc n.no_colon ht
  cases a with
  | cross => exact iff_of_false (hname 'x' (by decide)) (by decide)
  | async => exact iff_of_false (hname ')' (by decide)) (by decide)
  | _ => exact iff_of_true (receiver?_of_not (by decide) _) (by decide)

section

variable {m : CompoundLine} {behind : List Name}

/-- Every word can be read as the start of a receiver, which then holds the arrow. -/
theorem receiver?_word_ne_none {c : Char} {r : List Char} (hr : ∀ d ∈ c :: r, isWord d = true)
    (ht : '\n' ∉ m.text.chars) : receiver? (c :: (r ++ (hyphened behind ++ m.tail))) ≠ none := by
  obtain ⟨hc, hr⟩ := List.forall_mem_cons.1 hr
  have hcolon : ∀ d ∈ r ++ (hyphened behind ++ (m.arrow.token.toList ++ m.receiver.chars)),
      (d != ':') = true := by
    intro d hd
    simp only [List.mem_append] at hd
    rcases hd with hd | hd | hd | hd
    · simpa using ne_of_isWord (hr d hd) (by decide)
    · exact hyphened_no_colon behind d hd
    · exact token_no_colon _ d hd
    · exact m.receiver.no_colon d hd
  have hname := receiver?_ne_none (isNameStart_of_isWord hc) hcolon ht
  unfold CompoundLine.tail
  simpa only [List.append_assoc] using hname

/-- No arrow is found at a hyphen if and only if the hyphen is clear. -/
theorem arrowEnd?_eq_none_iff {sender : List Char} {w : Name} (ht : '\n' ∉ m.text.chars) :
    arrowEnd? sender ('-' :: (w.chars ++ (hyphened behind ++ m.tail))) = none ↔
      HyphenIsClear m.arrow w behind := by
  obtain ⟨c, r, hw, hc⟩ := w.exists_cons
  have hword := w.word
  rw [hw] at hword
  unfold HyphenIsClear
  rw [hw, List.cons_append, arrowEnd?_hyphen hc]
  by_cases hx : c = 'x'
  · subst hx
    rw [if_pos rfl, Option.map_eq_none_iff]
    cases r with
    | cons d r =>
      -- The rest of the word starts the receiver.
      have hrest := (List.forall_mem_cons.1 hword).2
      have hread : receiver? (d :: (r ++ (hyphened behind ++ m.tail))) ≠ none :=
        receiver?_word_ne_none hrest ht
      rw [List.cons_append, activation_of_word (hrest d List.mem_cons_self)]
      exact iff_of_false hread (by simp)
    | nil =>
      cases behind with
      | cons v behind =>
        -- The next hyphen is the mark of the receiver, and its word starts it.
        obtain ⟨d, u, hv, hd⟩ := v.exists_cons
        have hread : receiver? (d :: (u ++ (hyphened behind ++ m.tail))) ≠ none :=
          receiver?_word_ne_none (hv ▸ v.word) ht
        have hmark : (activation (trimStart (hyphened (v :: behind) ++ m.tail))).2 =
            d :: (u ++ (hyphened behind ++ m.tail)) := by
          rw [hyphened_cons, hv, List.cons_append, List.append_assoc]
          exact trimStart_of_head fun e he => by cases he; exact isBlank_of_isWord hd
        rw [List.nil_append, hmark]
        exact iff_of_false hread (by simp)
      | nil => exact (receiver?_behind_token m.arrow m.receiver ht).trans (by simp)
  · simp [hx]

end

/-! ## The sender that is read -/

theorem CompoundName.chars_of_first {n : CompoundName} {c : Char} {r : List Char}
    (h : n.first.chars = c :: r) : n.chars = c :: (r ++ hyphened n.more) := by
  unfold chars
  rw [h]
  rfl

theorem CompoundName.solid (n : CompoundName) : ∀ c ∈ n.chars, isBlank c = false := by
  intro c hc
  rcases List.mem_append.1 hc with hc | hc
  · exact n.first.solid c hc
  · obtain ⟨w, -, hc⟩ := List.mem_flatMap.1 hc
    rcases List.mem_cons.1 hc with rfl | hc
    · rfl
    · exact w.solid c hc

section

variable {m : CompoundLine}

theorem arrowEnd?_tail (ht : '\n' ∉ m.text.chars) (sender : List Char) :
    arrowEnd? sender (trimStart m.tail) = some { m.read with sender := trim sender } :=
  arrowEnd?_target (m := ⟨m.sender.first, m.arrow, .unchanged, m.receiver, m.text⟩) true ht sender

/-- The reading of a message is a search behind the first character of its sender. -/
theorem exists_message?_eq (m : CompoundLine) :
    ∃ c r, m.sender.first.chars = c :: r ∧ (∀ d ∈ r, isWord d = true) ∧
      message? m.chars = shortest (· != ':') (r ++ hyphened m.sender.more ++ m.tail)
        fun t u => arrowEnd? (c :: t) (trimStart u) := by
  obtain ⟨c, r, hfirst, hc⟩ := m.sender.first.exists_cons
  refine ⟨c, r, hfirst, fun d hd => m.sender.first.word d (hfirst ▸ List.mem_cons_of_mem c hd), ?_⟩
  unfold CompoundLine.chars CompoundName.chars message?
  rw [hfirst]
  exact if_pos (isNameStart_of_isWord hc)

theorem sender_no_colon {r : List Char} (hr : ∀ d ∈ r, isWord d = true) (ws : List Name) :
    ∀ d ∈ r ++ hyphened ws, (d != ':') = true := by
  intro d hd
  rcases List.mem_append.1 hd with hd | hd
  · simpa using ne_of_isWord (hr d hd) (by decide)
  · exact hyphened_no_colon ws d hd

/-- With all hyphens clear, the whole name is read as the sender. -/
theorem message?_of_clear (ht : '\n' ∉ m.text.chars) (h : m.sender.IsClear m.arrow) :
    message? m.chars = some m.read := by
  obtain ⟨c, r, hfirst, hr, hmessage⟩ := exists_message?_eq m
  rw [hmessage]
  refine shortest_append (sender_no_colon hr _) ?_ ?_
  · intro x d y hsplit
    rcases word_or_hyphen hr hsplit with hd | ⟨before, w, behind, hmore, rfl, rfl, rfl⟩
    · exact arrowEnd?_word hd
    · rw [List.cons_append, List.append_assoc]
      exact (arrowEnd?_eq_none_iff ht).2 (h before w behind hmore)
  · rw [arrowEnd?_tail ht, ← CompoundName.chars_of_first hfirst, trim_of_solid m.sender.solid]
    rfl

/-- An arrow that is found at a hyphen is crossed. -/
theorem cross_of_arrowEnd? {sender rest : List Char} {w : Name} {s : MessageText}
    (h : arrowEnd? sender ('-' :: (w.chars ++ rest)) = some s) :
    s.sender = trim sender ∧ s.arrow = .cross := by
  obtain ⟨c, r, hw, hc⟩ := w.exists_cons
  rw [hw, List.cons_append, arrowEnd?_hyphen hc] at h
  split at h
  · obtain ⟨x, -, rfl⟩ := Option.map_eq_some_iff.1 h
    exact ⟨rfl, rfl⟩
  · cases h

/-- With a hyphen that is not clear, the sender ends in front of a hyphen, and the hyphen is taken
for a crossed arrow. -/
theorem exists_message?_of_not_clear (ht : '\n' ∉ m.text.chars)
    (h : ¬ m.sender.IsClear m.arrow) :
    ∃ before w behind s, m.sender.more = before ++ w :: behind ∧ message? m.chars = some s ∧
      s.sender = CompoundName.chars ⟨m.sender.first, before⟩ ∧ s.arrow = .cross := by
  obtain ⟨c, r, hfirst, hr, hmessage⟩ := exists_message?_eq m
  unfold CompoundName.IsClear at h
  push Not at h
  obtain ⟨before, w, behind, hmore, hnot⟩ := h
  have hcut : arrowEnd? (c :: (r ++ hyphened before))
      (trimStart ('-' :: (w.chars ++ (hyphened behind ++ m.tail)))) ≠ none :=
    fun hnone => hnot ((arrowEnd?_eq_none_iff ht).1 hnone)
  obtain ⟨x, y, s, hxy, hfound, hread⟩ :=
    exists_shortest_of_cut (k := fun t u => arrowEnd? (c :: t) (trimStart u))
      (sender_no_colon hr before) hcut
  have hname : r ++ hyphened m.sender.more = x ++ (y ++ '-' :: (w.chars ++ hyphened behind)) := by
    rw [hmore, hyphened_append, hyphened_cons, ← List.append_assoc, hxy, List.append_assoc]
  have hline : y ++ '-' :: (w.chars ++ (hyphened behind ++ m.tail)) =
      y ++ '-' :: (w.chars ++ hyphened behind) ++ m.tail := by
    rw [List.append_assoc, List.cons_append, List.append_assoc]
  have hsome : message? m.chars = some s := by
    rw [hmessage, hname, List.append_assoc, ← hline, ← List.append_assoc, ← hxy, hread]
  -- Whatever cut has been found, it is in front of some hyphen of the name.
  obtain ⟨d, z, hdz⟩ := List.exists_cons_of_ne_nil
    (List.append_ne_nil_of_right_ne_nil y (List.cons_ne_nil '-' (w.chars ++ hyphened behind)))
  rw [hdz] at hname hline
  rw [hline] at hfound
  rcases word_or_hyphen hr hname with hd | ⟨before', w', behind', hmore', rfl, rfl, rfl⟩
  · rw [List.cons_append, arrowEnd?_word hd] at hfound
    cases hfound
  · rw [List.cons_append, List.append_assoc] at hfound
    obtain ⟨hsender, harrow⟩ := cross_of_arrowEnd? hfound
    refine ⟨before', w', behind', s, hmore', hsome, ?_, harrow⟩
    have hchars : CompoundName.chars ⟨m.sender.first, before'⟩ = c :: (r ++ hyphened before') :=
      CompoundName.chars_of_first hfirst
    rw [hsender, ← hchars, trim_of_solid (CompoundName.solid _)]

end

/-! ## Lines -/

theorem led_compound (m : CompoundLine) : Led m.chars := by
  unfold CompoundLine.chars CompoundName.chars
  cases m.sender.more with
  | nil =>
    obtain ⟨c, r, htoken, hc⟩ := token_cons m.arrow
    refine ⟨m.sender.first.chars, c, r ++ (m.receiver.chars ++ ':' :: m.text.behind true), ?_,
      m.sender.first.word, hc⟩
    unfold CompoundLine.tail
    rw [htoken, hyphened, List.flatMap_nil, List.append_nil]
    rfl
  | cons w ws =>
    refine ⟨m.sender.first.chars, '-', w.chars ++ hyphened ws ++ m.tail, ?_, m.sender.first.word,
      .inl rfl⟩
    rw [hyphened_cons, List.append_assoc]
    rfl

/-- A line from a compound name is a message if its text can be read as one. -/
theorem recognise_eq_message_iff {m : CompoundLine} {s : MessageText} :
    Statement.recognise (String.ofList m.chars) = .ok (.message s) ↔ message? m.chars = some s := by
  have h := led_compound m
  rw [recognise_plain h.declaration?_eq_none h.note?_eq_none]
  unfold Statement.plain
  rw [h.plain?_eq]
  cases message? m.chars with
  | some t => simp
  | none =>
    refine iff_of_false (fun he => ?_) nofun
    revert he
    show Except.ok (if _ then _ else _) ≠ _
    split <;> nofun

theorem notMem_of_receiver? {u n : List Char} {t : Option (List Char)}
    (h : receiver? u = some (n, t)) : '\n' ∉ t.getD [] := by
  unfold receiver? at h
  split at h
  · cases h
  · split at h
    · dsimp only at h
      split at h
      · obtain ⟨v, hline, heq⟩ := Option.map_eq_some_iff.1 h
        cases heq
        exact notMem_of_lineRest? hline
      · cases h
        exact List.not_mem_nil
    · cases h

/-- The text of a message never goes on behind a line feed. -/
theorem notMem_of_message? {u : List Char} {s : MessageText} (h : message? u = some s) :
    '\n' ∉ s.text.getD [] := by
  have harrow {sender v : List Char} (ha : arrowEnd? sender v = some s) :
      '\n' ∉ s.text.getD [] := by
    obtain ⟨a, -, ha⟩ := List.exists_of_findSome?_eq_some ha
    obtain ⟨rest, -, ha⟩ := Option.bind_eq_some_iff.1 ha
    obtain ⟨⟨n, t⟩, hn, ha⟩ := Option.bind_eq_some_iff.1 ha
    cases ha
    exact notMem_of_receiver? hn
  unfold message? at h
  split at h
  · cases h
  · split at h
    · obtain ⟨t, v, -, -, ha⟩ := exists_cut_of_shortest h
      exact harrow ha
    · cases h

namespace State

theorem map_head_addItem (st : State) (i : Item) :
    (st.addItem i).blocks.map (·.head) = st.blocks.map (·.head) := by
  unfold addItem
  split <;> rename_i hs <;> rw [hs]
  rfl

/-- A message with a text is not reported, now or at the end. -/
theorem reports_finish_addMessage (st : State) (l : Line) {s : MessageText}
    (htext : s.text.isSome = true) : (st.addMessage l s).finish.reports = st.finish.reports := by
  have hsilent (p : Problem) : st.reportIf s.text.isNone l p = st := by
    rw [Option.isNone_eq_false_iff.2 htext]
    rfl
  have hreports : (st.addMessage l s).reports = st.reports := by
    unfold addMessage
    dsimp only
    rw [reports_addItem, hsilent]
    rfl
  have hheads : (st.addMessage l s).blocks.map (·.head) = st.blocks.map (·.head) := by
    unfold addMessage
    dsimp only
    rw [map_head_addItem, hsilent]
    rfl
  have hbox : (st.addMessage l s).box = st.box := by
    unfold addMessage
    dsimp only
    rw [(SameCast.addItem _ _).box, hsilent]
    rfl
  have hwarn (fs : List OpenBlock) : fs.map (fun f =>
      (⟨.unclosedBlock f.head.kind, f.head.line, none⟩ : Report Problem)) =
      (fs.map (·.head)).map fun h => ⟨.unclosedBlock h.kind, h.line, none⟩ := by
    rw [List.map_map]
    rfl
  rw [reports_finish, reports_finish, hreports, hbox, hwarn, hheads, ← hwarn]

end State

/-- One more message is added to a diagram, and nothing else is reported. -/
theorem parse_message {header : Line} {ls : List Line} {p : Parsed Diagram} {l : Line}
    {s : MessageText} (h : parse (header :: ls) = .ok p)
    (hl : Statement.recognise l.text = .ok (.message s)) (htext : s.text.isSome = true) :
    ∃ q, parse (header :: (ls ++ [l])) = .ok q ∧
      q.diagram.messages = p.diagram.messages ++ [s.toMessage l p.diagram.messages.length] ∧
      q.diagnostics = p.diagnostics := by
  obtain ⟨xs, hxs, h⟩ := bind_eq_ok_iff.1 h
  cases h
  have hys : statements (ls ++ [l]) = .ok (xs ++ [(l, .message s)]) :=
    readLines_eq_ok_iff.2 (List.rel_append (readLines_eq_ok_iff.1 hxs) (.cons ⟨rfl, hl⟩ .nil))
  have hrun : (xs ++ [(l, Statement.message s)]).foldl State.step {} =
      (xs.foldl State.step {}).addMessage l s := List.foldl_append
  refine ⟨_, bind_eq_ok_iff.2 ⟨_, hys, rfl⟩, ?_, ?_⟩
  · have hcount := congrArg List.length
      (Ordered.init.foldl_step (readLines_eq_ok_iff.1 hxs)).indices
    rw [List.length_map, List.length_range] at hcount
    show (State.finish _).diagram.messages = (State.finish _).diagram.messages ++
      [s.toMessage l (State.finish _).diagram.messages.length]
    rw [hrun, messages_finish, messages_finish, (State.entries_addMessage _ l s).1, hcount,
      List.filterMap_append]
    rfl
  · show (State.finish _).reports.map _ = (State.finish _).reports.map _
    rw [hrun, State.reports_finish_addMessage _ l htext]

/-- A single message of a diagram with one line is the message of this line. -/
theorem exists_of_messages {header l : Line} {q : Parsed Diagram} {msg : Message}
    (h : parse [header, l] = .ok q) (hmessages : q.diagram.messages = [msg]) :
    ∃ s, Statement.recognise l.text = .ok (.message s) ∧ msg = s.toMessage l msg.index := by
  obtain ⟨hitems, -, -⟩ := source_order h
  have hlist : (Item.walkAll q.diagram.items).filterMap Item.message? = [msg] := hmessages
  generalize Item.walkAll q.diagram.items = is at hitems hlist
  by_cases hadds : addsItem l = true
  · rw [List.tail_cons, List.filter_cons_of_pos hadds] at hitems
    obtain ⟨i, rest, hmakes, hrest, rfl⟩ := List.forall₂_cons_left_iff.1 hitems
    obtain rfl := List.forall₂_nil_left_iff.1 hrest
    cases i with
    | message m =>
      obtain rfl : m = msg := (List.cons.inj hlist).1
      exact hmakes
    | note n => cases hlist
    | block head branches => cases hlist
  · rw [List.tail_cons, List.filter_cons_of_neg hadds] at hitems
    obtain rfl := List.forall₂_nil_left_iff.1 hitems
    cases hlist

/-! ## Kept names -/

/-- Below any lines that can be read, the line is the message that is meant, and there is nothing
to report. -/
def CompoundLine.IsKept (m : CompoundLine) : Prop :=
  ∀ (header : Line) (ls : List Line) (l : Line) (p : Parsed Diagram),
    l.text = String.ofList m.chars → parse (header :: ls) = .ok p →
      ∃ q, parse (header :: (ls ++ [l])) = .ok q ∧
        q.diagram.messages =
          p.diagram.messages ++ [m.message p.diagram.messages.length l.number] ∧
        q.diagnostics = p.diagnostics

theorem CompoundLine.isKept_of_clear {m : CompoundLine} (ht : '\n' ∉ m.text.chars)
    (h : m.sender.IsClear m.arrow) : m.IsKept := by
  intro header ls l p hl hp
  have hread := recognise_eq_message_iff.2 (message?_of_clear ht h)
  rw [← hl] at hread
  obtain ⟨q, hq, hmessages, hdiagnostics⟩ := parse_message hp hread rfl
  refine ⟨q, hq, ?_, hdiagnostics⟩
  rw [hmessages]
  have htext : trim m.text.chars = m.text.chars := m.text.trimmed
  unfold MessageText.toMessage CompoundLine.message
  dsimp only [CompoundLine.read, Option.getD_some]
  rw [htext]
  rfl

/-- A line that is kept can be read as a message with its sender and its text. -/
theorem CompoundLine.IsKept.exists_message? {m : CompoundLine} (h : m.IsKept) :
    ∃ s, message? m.chars = some s ∧ s.sender = m.sender.chars ∧
      trim (s.text.getD []) = m.text.chars := by
  obtain ⟨q, hq, hmessages, -⟩ := h ⟨1, "sequenceDiagram", 0, 1⟩ []
    ⟨2, String.ofList m.chars, 0, 1⟩ _ rfl rfl
  obtain ⟨s, hs, hmessage⟩ := exists_of_messages hq hmessages
  refine ⟨s, recognise_eq_message_iff.1 hs, ?_, ?_⟩
  · exact (String.ofList_injective (congrArg Message.sender hmessage)).symm
  · exact (String.ofList_injective (congrArg Message.text hmessage)).symm

/-- **Hyphens.** The whole name of the sender is kept if and only if none of its hyphens can be
read as an arrow to a receiver; a text cannot go on behind a line feed.  Otherwise the sender ends in
front of a hyphen, which is taken for a crossed arrow. -/
theorem compound_sender_kept_iff (m : CompoundLine) :
    (m.IsKept ↔ '\n' ∉ m.text.chars ∧ m.sender.IsClear m.arrow) ∧
    ('\n' ∉ m.text.chars → ¬ m.sender.IsClear m.arrow →
      ∃ before w behind s, m.sender.more = before ++ w :: behind ∧
        Statement.recognise (String.ofList m.chars) = .ok (.message s) ∧
        s.sender = CompoundName.chars ⟨m.sender.first, before⟩ ∧ s.arrow = .cross) := by
  refine ⟨⟨fun h => ?_, fun ⟨ht, hclear⟩ => CompoundLine.isKept_of_clear ht hclear⟩, fun ht hclear => ?_⟩
  · obtain ⟨s, hs, hsender, htext⟩ := h.exists_message?
    have ht : '\n' ∉ m.text.chars := by
      rw [← htext]
      exact fun hmem => notMem_of_message? hs ((trim_isInfix _).subset hmem)
    refine ⟨ht, ?_⟩
    by_contra hclear
    obtain ⟨before, w, behind, s', hmore, hs', hsender', -⟩ := exists_message?_of_not_clear ht hclear
    obtain rfl : s = s' := Option.some.inj (hs.symm.trans hs')
    -- The words in front of a hyphen are not all of the name.
    have hlength := congrArg List.length (hsender.symm.trans hsender')
    unfold CompoundName.chars at hlength
    rw [hmore, hyphened_append, hyphened_cons] at hlength
    simp at hlength
  · obtain ⟨before, w, behind, s, hmore, hs, hrest⟩ := exists_message?_of_not_clear ht hclear
    exact ⟨before, w, behind, s, hmore, recognise_eq_message_iff.2 hs, hrest⟩

/-- A name with a hyphen that is clear: `web-server->>db: query`. -/
def webServer : CompoundLine where
  sender :=
    ⟨⟨"web".toList, by decide, List.all_eq_true.1 (by decide)⟩,
      [⟨"server".toList, by decide, List.all_eq_true.1 (by decide)⟩]⟩
  arrow := .filled
  receiver := ⟨"db".toList, by decide, List.all_eq_true.1 (by decide)⟩
  text := ⟨"query".toList, by decide⟩

/-- A name with a word that starts with the letter of an arrow: `foo-xray->>B: hi`. -/
def fooXray : CompoundLine where
  sender :=
    ⟨⟨"foo".toList, by decide, List.all_eq_true.1 (by decide)⟩,
      [⟨"xray".toList, by decide, List.all_eq_true.1 (by decide)⟩]⟩
  arrow := .filled
  receiver := ⟨"B".toList, by decide, List.all_eq_true.1 (by decide)⟩
  text := ⟨"hi".toList, by decide⟩

theorem compound_sender_kept_iff_webServer :
    webServer.IsKept ∧
      ∃ before w behind s, fooXray.sender.more = before ++ w :: behind ∧
        Statement.recognise (String.ofList fooXray.chars) = .ok (.message s) ∧
        s.sender = CompoundName.chars ⟨fooXray.sender.first, before⟩ ∧ s.arrow = .cross := by
  refine ⟨(compound_sender_kept_iff webServer).1.2 ⟨by decide, ?_⟩,
    (compound_sender_kept_iff fooXray).2 (by decide) fun h => ?_⟩
  · intro before w behind hmore
    cases before with
    | nil =>
      cases hmore
      exact .inl (by decide)
    | cons v before => simp [webServer] at hmore
  · have hclear := h [] _ [] rfl
    exact absurd hclear (by unfold HyphenIsClear; decide)

/-- The hyphen in front of a word with this letter is taken for an arrow. -/
theorem fooXray_not_isKept : ¬ fooXray.IsKept := by
  intro h
  let header : Line := ⟨1, "sequenceDiagram", 0, 1⟩
  let l : Line := ⟨2, "foo-xray->>B: hi", 0, 1⟩
  let empty : Parsed Diagram := ⟨⟨[], [], [], none, false⟩, []⟩
  obtain ⟨q, hq, hmessages, -⟩ := h header [] l empty (by decide) rfl
  have hread : parse [header, l] = .ok q := hq
  have hrun : (parse [header, l]).toOption.map (fun q =>
      q.diagram.messages.map fun m => (m.sender, m.arrow, m.receiver)) =
      some [("foo", .cross, "ray->>B")] := by
    decide +kernel
  rw [hread] at hrun
  have hsenders := Option.some.inj hrun
  dsimp only at hsenders
  rw [hmessages] at hsenders
  revert hsenders
  decide

end DiagramText.Sequence
