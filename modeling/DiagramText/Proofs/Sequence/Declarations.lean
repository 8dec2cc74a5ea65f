import DiagramText.Proofs.Closers
import DiagramText.Proofs.Reports
import DiagramText.Proofs.Sequence.Balance
import DiagramText.Proofs.Sequence.Roster

/-!
# Declared participants and boxes

A participant has its place from the first line that mentions it, and its label and role from the
first line that declares it.  Every further declaration is answered with a warning.  A box has the
participants that are declared while it is open.

1. `declarationsOf`, the declarations of a participant, and `Participant.declared`, what they make
   of it.
2. `Told`, what a state tells about a participant with some declarations, and `Tells`, what a step
   adds.  The relation composes, so that a reader needs one fact per statement.
3. `whileOpen` and `boxesBehind`, the boxes of a list of lines, and `boxesFrom_eq`.
4. `participants_follow_declarations`.
-/

namespace DiagramText.Sequence

open Source (Line)

/-! ## Declarations -/

/-- A line that declares a participant. -/
structure Declaration where
  line : Line
  role : Role
  id : String
  label : String
deriving Repr, DecidableEq

/-- The declaration on a line.  Without an alias the id is the label. -/
def declarationOn? (l : Line) : Option Declaration :=
  (declaration? l.text.toList).map fun (role, id, nick) =>
    { line := l, role, id := String.ofList id
      label := String.ofList ((nick.map Text.trim).getD id) }

/-- The declarations of a participant below the header, in order. -/
def declarationsOf (id : String) (ls : List Line) : List Declaration :=
  (ls.tail.filterMap declarationOn?).filter (·.id == id)

/-- A participant with some declarations.  The first one counts. -/
def Participant.declared (id : String) (order : Nat) : List Declaration → Participant
  | [] => .mentioned id order
  | d :: _ => { id, label := d.label, role := d.role, declaredOrder := order, implicit := false }

theorem plain_ne_declare (s : List Char) (role : Role) (id label : String) :
    Statement.plain s ≠ .declare role id label := by
  intro h
  have hplain := eq_some_of_getD_eq h (by split <;> nofun)
  revert hplain
  show Statement.plain? s ≠ some (.declare role id label)
  unfold Statement.plain?
  repeat' apply orElse_ne_some
  · exact map_ne_some (by nofun)
  · exact map_ne_some (by nofun)
  · exact map_ne_some (by nofun)
  · split <;> nofun
  · split <;> nofun
  all_goals exact map_ne_some (by nofun)

/-- The declaration that a statement is. -/
def Statement.declaration? (l : Line) : Statement → Option Declaration
  | .declare role id label => some ⟨l, role, id, label⟩
  | _ => none

theorem filterMap_declarationOn?_cons (l : Line) (ls : List Line) :
    (l :: ls).filterMap declarationOn? =
      (declarationOn? l).toList ++ ls.filterMap declarationOn? := by
  rw [List.filterMap_eq_flatMap_toList, List.filterMap_eq_flatMap_toList, List.flatMap_cons]

theorem declarationOn?_of_recognise {l : Line} {s : Statement}
    (h : Statement.recognise l.text = .ok s) : declarationOn? l = s.declaration? l := by
  unfold Statement.recognise at h
  dsimp only at h
  unfold declarationOn?
  cases hd : Sequence.declaration? l.text.toList with
  | some x =>
    rw [hd] at h
    cases h
    rfl
  | none =>
    rw [hd] at h
    cases hn : note? l.text.toList with
    | some n =>
      rw [hn] at h
      obtain ⟨position, -, h⟩ := bind_eq_ok_iff.1 h
      cases h
      rfl
    | none =>
      rw [hn] at h
      cases h
      cases hs : Statement.plain l.text.toList with
      | declare role id label => exact absurd hs (plain_ne_declare _ _ _ _)
      | _ => rfl

/-! ## What a state tells -/

/-- What a state tells about an id with some declarations. -/
structure Told (id : String) (ds : List Declaration) (st : State) : Prop where
  absent : st.participants.get? id = none → ds = []
  present : ∀ q, st.participants.get? id = some q → q = .declared id q.declaredOrder ds
  reports : st.reports.filter (·.problem == .redeclared id) =
    ds.tail.map fun d => d.line.report (.redeclared id)

/-- Declarations take one state to another one. -/
def Tells (st : State) (ds : List Declaration) (st' : State) : Prop :=
  ∀ id ds₀, Told id ds₀ st → Told id (ds₀ ++ ds.filter (·.id == id)) st'

/-- Only a declaration reports that a participant is declared already. -/
abbrev KeepsQuiet (rs rs' : List (Report Problem)) : Prop :=
  Appends (fun r => ∀ id, r.problem ≠ .redeclared id) rs rs'

theorem KeepsQuiet.filter {rs rs' : List (Report Problem)} (h : KeepsQuiet rs rs') (id : String) :
    rs'.filter (·.problem == .redeclared id) = rs.filter (·.problem == .redeclared id) := by
  obtain ⟨new, rfl, hnew⟩ := h
  have hnone : new.filter (·.problem == .redeclared id) = [] :=
    List.filter_eq_nil_iff.2 fun r hr => by simpa using hnew r hr id
  rw [List.filter_append, hnone, List.append_nil]

theorem Told.congr {id : String} {ds : List Declaration} {st st' : State} (h : Told id ds st)
    (hget : st'.participants.get? id = st.participants.get? id)
    (hreports : st'.reports.filter (·.problem == .redeclared id) =
      st.reports.filter (·.problem == .redeclared id)) : Told id ds st' where
  absent hnone := h.absent (hget ▸ hnone)
  present q hq := h.present q (hget ▸ hq)
  reports := hreports.trans h.reports

namespace Tells

variable {st st' st'' : State} {ds ds' : List Declaration}

theorem trans (h : Tells st ds st') (h' : Tells st' ds' st'') : Tells st (ds ++ ds') st'' := by
  intro id ds₀ htold
  rw [List.filter_append, ← List.append_assoc]
  exact h' id _ (h id ds₀ htold)

/-- A step that declares and mentions nobody. -/
theorem silent (hparticipants : st'.participants = st.participants)
    (hreports : KeepsQuiet st.reports st'.reports) : Tells st [] st' := by
  intro id ds₀ htold
  rw [List.filter_nil, List.append_nil]
  exact htold.congr (by rw [hparticipants]) (hreports.filter id)

theorem mention (st : State) (id : String) : Tells st [] (st.mention id) := by
  intro id' ds₀ htold
  rw [List.filter_nil, List.append_nil]
  by_cases hid : id' = id
  · subst hid
    have hget := Registry.get?_ensure_self st.participants id' (Participant.mentioned id')
    refine ⟨fun hnone => ?_, fun q hq => ?_, htold.reports⟩
    · cases hget.symm.trans hnone
    · obtain rfl := Option.some.inj (hget.symm.trans hq)
      cases hold : st.participants.get? id' with
      | none =>
        rw [htold.absent hold]
        rfl
      | some q => exact htold.present q hold
  · exact htold.congr (Registry.get?_ensure_of_ne _ _ hid) rfl

theorem foldl_mention (ids : List String) (st : State) :
    Tells st [] (ids.foldl State.mention st) := by
  induction ids generalizing st with
  | nil => exact silent rfl (.refl _)
  | cons id ids ih => exact (mention st id).trans (ih _)

end Tells

theorem quiet_reportIf (st : State) (c : Bool) (l : Line) {p : Problem}
    (hp : ∀ id, p ≠ .redeclared id) : KeepsQuiet st.reports (st.reportIf c l p).reports := by
  unfold State.reportIf
  split
  · exact .concat hp
  · exact .refl _

theorem tells_addItem (st : State) (i : Item) : Tells st [] (st.addItem i) := by
  refine .silent (SameCast.addItem st i).participants ?_
  rw [reports_addItem]
  exact .refl _

section

variable (st : State) (l : Line) (role : Role) (id label : String)

theorem participants_declare :
    (st.declare l role id label).participants =
      (Registry.ensure st.participants id (.mentioned id)).modify id fun q =>
        if q.implicit then { q with label, role, implicit := false } else q := by
  rw [← (SameCast.reportIf st ((st.participants.get? id).any (!·.implicit)) l
    (.redeclared id)).participants]
  rfl

theorem reports_declare :
    (st.declare l role id label).reports =
      st.reports ++ if (st.participants.get? id).any (!·.implicit) then
        [l.report (Problem.redeclared id)] else [] := by
  show (st.reportIf _ l _).reports = _
  unfold State.reportIf
  split
  · rfl
  · exact (List.append_nil _).symm

/-- What a declaration does depends on what has been declared before. -/
theorem tells_declare : Tells st [⟨l, role, id, label⟩] (st.declare l role id label) := by
  intro id' ds htold
  by_cases hid : id' = id
  · subst hid
    have hone : [(⟨l, role, id', label⟩ : Declaration)].filter (·.id == id') =
        [⟨l, role, id', label⟩] := List.filter_cons_of_pos (beq_self_eq_true id')
    have hget := Registry.get?_ensure_self st.participants id' (Participant.mentioned id')
    rw [hone]
    refine ⟨fun hnone => ?_, fun q hq => ?_, ?_⟩
    · rw [participants_declare, OrderedMap.get?_modify_self, hget] at hnone
      cases hnone
    · rw [participants_declare, OrderedMap.get?_modify_self, hget] at hq
      obtain rfl := Option.some.inj hq
      cases hold : st.participants.get? id' with
      | none =>
        rw [htold.absent hold]
        rfl
      | some q =>
        rw [htold.present q hold]
        cases ds <;> rfl
    · rw [reports_declare, List.filter_append, htold.reports]
      cases hold : st.participants.get? id' with
      | none =>
        rw [htold.absent hold]
        rfl
      | some q =>
        rw [htold.present q hold]
        cases ds with
        | nil => rfl
        | cons d later =>
          show _ ++ List.filter _ [l.report (Problem.redeclared id')] = (later ++ [_]).map _
          rw [List.map_append, List.filter_cons_of_pos (by simp [Line.report])]
          rfl
  · have hnone : [(⟨l, role, id, label⟩ : Declaration)].filter (·.id == id') = [] :=
      List.filter_cons_of_neg (by simpa using Ne.symm hid)
    rw [hnone, List.append_nil]
    refine htold.congr ?_ ?_
    · rw [participants_declare, OrderedMap.get?_modify_of_ne _ _ hid]
      exact Registry.get?_ensure_of_ne _ _ hid
    · have hother : (if (st.participants.get? id).any (!·.implicit) then
          [l.report (Problem.redeclared id)] else []).filter (·.problem == .redeclared id') =
            [] := by
        split
        · exact List.filter_cons_of_neg (by simpa [Line.report] using Ne.symm hid)
        · rfl
      rw [reports_declare, List.filter_append, hother, List.append_nil]

end

theorem tells_step (st : State) {l : Line} {s : Statement}
    (hs : Statement.recognise l.text = .ok s) :
    Tells st (declarationOn? l).toList (st.step (l, s)) := by
  rw [declarationOn?_of_recognise hs]
  cases s with
  | declare role id label => exact tells_declare st l role id label
  | note position spelled ids text =>
    have hreports := (quiet_reportIf st (2 < ids.length) l (p := .wideNote) nofun).trans
      (quiet_reportIf _ (position != .above && 1 < ids.length) l (p := .sharedNote spelled) nofun)
    have hcast := (SameCast.reportIf st (2 < ids.length) l .wideNote).trans
      (.reportIf _ (position != .above && 1 < ids.length) l (.sharedNote spelled))
    exact ((Tells.silent hcast.participants hreports).trans (.foldl_mention ids _)).trans
      (tells_addItem _ _)
  | box label =>
    refine .silent (st.participants_openBox l label) ?_
    show KeepsQuiet _ (st.openBox l label).reports
    unfold State.openBox
    split
    · exact .concat nofun
    · exact .refl _
  | block kind label => exact .silent rfl (.refl _)
  | divide divider label =>
    refine .silent (SameCast.divide st l divider label).participants ?_
    show KeepsQuiet _ (st.divide l divider label).reports
    unfold State.divide
    split
    · exact .concat nofun
    · exact quiet_reportIf st _ l nofun
  | close =>
    refine .silent (st.participants_close l) ?_
    show KeepsQuiet _ (st.close l).reports
    unfold State.close
    split
    · rw [reports_closeBlock]
      exact .refl _
    · split
      · exact .refl _
      · exact .concat nofun
  | autonumber => exact .silent rfl (.refl _)
  | title text => exact .silent rfl (.refl _)
  | activation id => exact .mention st id
  | message m =>
    have hreport := Tells.silent (SameCast.reportIf st m.text.isNone l
      (.noText (String.ofList m.sender) m.arrow (String.ofList m.receiver))).participants
      (quiet_reportIf st m.text.isNone l nofun)
    have hboth := (hreport.trans (.mention _ (String.ofList m.sender))).trans
      (.mention _ (String.ofList m.receiver))
    -- The counter that the message takes its index from is not told.
    refine (hboth.trans (Tells.silent ?_ ?_)).trans (tells_addItem _ _)
    · rfl
    · exact .refl _
  | invalidMessage => exact .silent rfl (.concat nofun)
  | unrecognised => exact .silent rfl (.concat nofun)

theorem tells_foldl_step (st : State) {ls : List Line} {xs : List (Line × Statement)}
    (hx : List.Forall₂ (fun l x => l = x.1 ∧ Statement.recognise l.text = .ok x.2) ls xs) :
    Tells st (ls.filterMap declarationOn?) (xs.foldl State.step st) := by
  induction hx generalizing st with
  | nil => exact .silent rfl (.refl _)
  | @cons l x ls xs hl _ ih =>
    obtain ⟨rfl, hs⟩ := hl
    rw [filterMap_declarationOn?_cons]
    exact (tells_step st hs).trans (ih (st.step x))

/-! ## Warnings -/

/-- The wording of the warning tells the id. -/
theorem message_eq_redeclared_iff {p : Problem} {id : String} :
    Describe.message p = s!"Participant '{id}' is already declared" ↔ p = .redeclared id := by
  constructor
  · intro h
    have hchars := congrArg String.toList h
    cases p with
    | redeclared id' =>
      simp only [Describe.message, toString, String.toList_append, List.append_assoc] at hchars
      have hid := List.append_cancel_right (List.append_cancel_left hchars)
      rw [String.toList_inj.1 hid]
    -- Every other message starts with another letter.
    | _ =>
      simp [Describe.message, toString] at hchars
  · rintro rfl
    rfl

theorem quiet_finish (st : State) : KeepsQuiet st.reports st.finish.reports := by
  rw [st.reports_finish, List.append_assoc]
  refine .append fun r hr => ?_
  rcases List.mem_append.1 hr with hr | hr
  · obtain ⟨f, -, rfl⟩ := List.mem_map.1 hr
    nofun
  · obtain ⟨b, -, rfl⟩ := List.mem_map.1 hr
    nofun

/-! ## Boxes -/

/-- The ids that lines declare, in order. -/
def declaredIds (xs : List (Line × Statement)) : List String :=
  ((xs.map Prod.fst).filterMap declarationOn?).map (·.id)

/-- The lines behind some others that are read while the box of line `n` is open. -/
def whileOpen (n : Int) : (before after : List (Line × Statement)) → List (Line × Statement)
  | _, [] => []
  | before, x :: after =>
    if (.box, n) ∈ (blocks.ledger before).tally.isOpen then
      x :: whileOpen n (before ++ [x]) after
    else []

/-- The box that a line opens.  Its participants are declared behind the line. -/
def boxAt? (before : List (Line × Statement)) (x : Line × Statement)
    (after : List (Line × Statement)) : Option Box :=
  match x.2 with
  | .box label =>
    if (blocks.ledger before).tally.isOpen = [] then
      let inside := whileOpen x.1.number (before ++ [x]) after
      some { label, participantIds := (declaredIds inside).eraseDups, line := x.1.number }
    else none
  | _ => none

/-- The boxes of lines behind some others, in order. -/
def boxesBehind : (before after : List (Line × Statement)) → List Box
  | _, [] => []
  | before, x :: after => (boxAt? before x after).toList ++ boxesBehind (before ++ [x]) after

/-- A box after some declarations. -/
def Box.enrol (ids : List String) (b : Box) : Box :=
  { b with participantIds := addAllNew b.participantIds ids }

/-- Two states with the same boxes. -/
structure SameBoxes (st st' : State) : Prop where
  boxes : st'.boxes = st.boxes
  box : st'.box = st.box

namespace SameBoxes

theorem refl (st : State) : SameBoxes st st := ⟨rfl, rfl⟩

theorem trans {st st' st'' : State} (h : SameBoxes st st') (h' : SameBoxes st' st'') :
    SameBoxes st st'' :=
  ⟨h'.boxes.trans h.boxes, h'.box.trans h.box⟩

theorem foldl_mention (ids : List String) (st : State) :
    SameBoxes st (ids.foldl State.mention st) := by
  refine List.foldlRecOn ids _ (refl st) ?_
  intro st' h id _
  exact h.trans ⟨rfl, rfl⟩

end SameBoxes

theorem SameCast.sameBoxes {st st' : State} (h : SameCast st st') : SameBoxes st st' :=
  ⟨h.boxes, h.box⟩

/-- What a statement does to the boxes. -/
inductive BoxEffect (st : State) (l : Line) (s : Statement) (st' : State) : Prop where
  | keep (hbox : ∀ label, s = .box label → st.tally.isOpen ≠ [])
      (boxes : st'.boxes = st.boxes)
      (box : st'.box = st.box.map (.enrol ((s.declaration? l).toList.map (·.id))))
  | enter (label : String) (hs : s = .box label) (hopen : st.tally.isOpen = [])
      (boxes : st'.boxes = st.boxes) (box : st'.box = some { label, line := l.number })
  | leave (hs : s = .close) (boxes : st'.boxes = st.boxes ++ st.box.toList) (box : st'.box = none)

theorem SameBoxes.effect {st st' : State} {l : Line} {s : Statement} (h : SameBoxes st st')
    (hbox : ∀ label, s = .box label → st.tally.isOpen ≠ []) (hd : s.declaration? l = none) :
    BoxEffect st l s st' := by
  refine .keep hbox h.boxes ?_
  rw [h.box, hd]
  cases st.box <;> rfl

theorem boxEffect_openBox (st : State) (l : Line) (label : String) :
    BoxEffect st l (.box label) (st.openBox l label) := by
  unfold State.openBox
  split
  · rename_i hguard
    refine SameBoxes.effect ⟨rfl, rfl⟩ (fun _ _ hopen => ?_) rfl
    obtain ⟨hblocks, hbox⟩ := State.isOpen_tally_eq_nil.1 hopen
    rw [hblocks, hbox] at hguard
    cases hguard
  · rename_i hguard
    refine .enter label rfl (State.isOpen_tally_eq_nil.2 ?_) rfl rfl
    simpa [and_comm] using hguard

theorem boxEffect_close (st : State) (l : Line) : BoxEffect st l .close (st.close l) := by
  unfold State.close
  split
  · exact (SameCast.closeBlock st).sameBoxes.effect nofun rfl
  · split
    · exact .leave rfl rfl rfl
    · exact SameBoxes.effect ⟨rfl, rfl⟩ nofun rfl

theorem boxEffect_step (st : State) (l : Line) (s : Statement) :
    BoxEffect st l s (st.step (l, s)) := by
  cases s with
  | declare role id label =>
    have hreport := SameCast.reportIf st ((st.participants.get? id).any (!·.implicit)) l
      (.redeclared id)
    refine .keep nofun hreport.boxes ?_
    exact congrArg (Option.map (Box.enrol [id])) hreport.box
  | note position spelled ids text =>
    have hreports := (SameCast.reportIf st (2 < ids.length) l .wideNote).trans
      (.reportIf _ (position != .above && 1 < ids.length) l (.sharedNote spelled))
    have hids := hreports.sameBoxes.trans (.foldl_mention ids _)
    exact (hids.trans (SameCast.addItem _ _).sameBoxes).effect nofun rfl
  | box label => exact boxEffect_openBox st l label
  | block kind label => exact SameBoxes.effect ⟨rfl, rfl⟩ nofun rfl
  | divide divider label => exact (SameCast.divide st l divider label).sameBoxes.effect nofun rfl
  | close => exact boxEffect_close st l
  | autonumber => exact SameBoxes.effect ⟨rfl, rfl⟩ nofun rfl
  | title text => exact SameBoxes.effect ⟨rfl, rfl⟩ nofun rfl
  | activation id => exact SameBoxes.effect ⟨rfl, rfl⟩ nofun rfl
  | message m =>
    have hreport := SameCast.reportIf st m.text.isNone l
      (.noText (String.ofList m.sender) m.arrow (String.ofList m.receiver))
    refine ((hreport.sameBoxes.trans ?_).trans (SameCast.addItem _ _).sameBoxes).effect nofun rfl
    exact ⟨rfl, rfl⟩
  | invalidMessage => exact SameBoxes.effect ⟨rfl, rfl⟩ nofun rfl
  | unrecognised => exact SameBoxes.effect ⟨rfl, rfl⟩ nofun rfl

/-- The box of a line is in the books while the reader has it open. -/
theorem mem_tally_iff {st : State} {n : Int} :
    (BlockSort.box, n) ∈ st.tally.isOpen ↔ ∃ b, st.box = some b ∧ b.line = n := by
  unfold State.tally
  simp

theorem boxes_finish (st : State) : st.finish.boxes = st.boxes ++ st.box.toList := by
  have hsame := (SameCast.foldl_closeUnclosed st.blocks st).sameBoxes
  rw [← hsame.boxes, ← hsame.box]
  unfold State.finish
  dsimp only
  split
  · rfl
  · rename_i hb
    rw [hb]
    exact (List.append_nil _).symm

theorem whileOpen_of_notMem {n : Int} {before : List (Line × Statement)}
    (h : (.box, n) ∉ (blocks.ledger before).tally.isOpen) (after : List (Line × Statement)) :
    whileOpen n before after = [] := by
  cases after with
  | nil => rfl
  | cons x after => exact if_neg h

theorem declaredIds_cons {x : Line × Statement} (h : Statement.recognise x.1.text = .ok x.2)
    (xs : List (Line × Statement)) :
    declaredIds (x :: xs) = (x.2.declaration? x.1).toList.map (·.id) ++ declaredIds xs := by
  unfold declaredIds
  rw [← declarationOn?_of_recognise h, List.map_cons, filterMap_declarationOn?_cons,
    List.map_append]

theorem Box.enrol_enrol (b : Box) (ids more : List String) :
    (b.enrol ids).enrol more = b.enrol (ids ++ more) := by
  unfold Box.enrol
  rw [addAllNew_append]

section

variable {before after : List (Line × Statement)} {x : Line × Statement}

/-- The state behind some lines has the open blocks of their books. -/
theorem isOpen_foldl_step (before : List (Line × Statement)) :
    (before.foldl State.step {}).tally.isOpen = (blocks.ledger before).tally.isOpen :=
  congrArg Tally.isOpen (lawful_blocks.tally_foldl rfl before)

/-- What the boxes are in the end, from those behind some lines. -/
def boxesFrom (before after : List (Line × Statement)) : List Box :=
  let st := before.foldl State.step {}
  st.boxes ++ (st.box.map fun b => b.enrol (declaredIds (whileOpen b.line before after))).toList ++
    boxesBehind before after

theorem boxesFrom_nil (before : List (Line × Statement)) :
    boxesFrom before [] = (before.foldl State.step {}).finish.boxes := by
  unfold boxesFrom
  dsimp only
  rw [boxes_finish, boxesBehind, List.append_nil]
  cases (before.foldl State.step {}).box <;> rfl

theorem boxesFrom_cons (hx : Statement.recognise x.1.text = .ok x.2) :
    boxesFrom before (x :: after) = boxesFrom (before ++ [x]) after := by
  have hstep : (before ++ [x]).foldl State.step {} = (before.foldl State.step {}).step x :=
    List.foldl_append
  have htally := isOpen_foldl_step before
  have htally' := isOpen_foldl_step (before ++ [x])
  unfold boxesFrom
  dsimp only
  rw [hstep] at htally' ⊢
  generalize before.foldl State.step {} = st at htally htally' ⊢
  have hdeclared := declaredIds_cons hx
  -- As long as a box is open, the next line is read while it is.
  have hinside {b : Box} (hb : st.box = some b) : whileOpen b.line before (x :: after) =
      x :: whileOpen b.line (before ++ [x]) after :=
    if_pos (htally ▸ mem_tally_iff.2 ⟨b, hb, rfl⟩)
  cases boxEffect_step st x.1 x.2 with
  | keep hbox boxes box =>
    have hnone : boxAt? before x after = none := by
      unfold boxAt?
      split
      · rename_i label hs
        exact if_neg (htally ▸ hbox label hs)
      · rfl
    rw [boxes, box, boxesBehind, hnone]
    cases hb : st.box with
    | none => rfl
    | some b =>
      rw [Option.map_some, hinside hb, hdeclared, ← Box.enrol_enrol]
      rfl
  | enter label hs hopen boxes box =>
    have hnone := (State.isOpen_tally_eq_nil.1 hopen).2
    have hsome : boxAt? before x after = some (Box.enrol
        (declaredIds (whileOpen x.1.number (before ++ [x]) after))
        { label, line := x.1.number }) := by
      unfold boxAt? Box.enrol
      rw [hs, addAllNew_nil]
      exact if_pos (htally ▸ hopen)
    rw [boxes, box, hnone, boxesBehind, hsome, Option.map_none, Option.toList_none, List.append_nil,
      ← List.append_assoc]
    rfl
  | leave hs boxes box =>
    have hnone : boxAt? before x after = none := by
      unfold boxAt?
      rw [hs]
    have hclosed (n : Int) : (.box, n) ∉ (blocks.ledger (before ++ [x])).tally.isOpen := by
      rw [← htally', mem_tally_iff, box]
      nofun
    rw [boxes, box, boxesBehind, hnone, Option.map_none, Option.toList_none, List.append_nil,
      List.nil_append]
    cases hb : st.box with
    | none => rfl
    | some b =>
      rw [Option.map_some, hinside hb, hdeclared, hs, whileOpen_of_notMem (hclosed _)]
      rfl

end

theorem boxesFrom_eq (before after : List (Line × Statement))
    (hafter : ∀ x ∈ after, Statement.recognise x.1.text = .ok x.2) :
    boxesFrom before after = ((before ++ after).foldl State.step {}).finish.boxes := by
  induction after generalizing before with
  | nil => rw [boxesFrom_nil, List.append_nil]
  | cons x after ih =>
    obtain ⟨hx, hafter⟩ := List.forall_mem_cons.1 hafter
    rw [boxesFrom_cons hx, ih _ hafter, List.append_assoc]
    rfl

/-! ## Diagrams -/

theorem Told.init (id : String) : Told id [] {} where
  absent _ := rfl
  present _ hq := by cases hq
  reports := rfl

theorem told_of_statements {ls : List Line} {xs : List (Line × Statement)}
    (hx : statements ls.tail = .ok xs) (id : String) :
    Told id (declarationsOf id ls) (xs.foldl State.step {}).finish := by
  have hrun := tells_foldl_step {} (readLines_eq_ok_iff.1 hx)
  have htold := hrun id [] (.init id)
  rw [List.nil_append] at htold
  exact htold.congr (by rw [State.participants_finish]) ((quiet_finish _).filter id)

theorem participants_eq {st : State} {ds : String → List Declaration}
    (hdense : Registry.Dense Participant.id Participant.declaredOrder st.participants)
    (htold : ∀ id, Told id (ds id) st) :
    st.participants.values =
      st.participants.keys.zipIdx.map fun (id, order) => .declared id order (ds id) := by
  rw [← hdense.roster_eq, List.map_map]
  refine (List.map_id _).symm.trans (List.map_congr_left fun q hq => ?_)
  exact (htold q.id).present q (hdense.get?_of_mem hq)

/-- **Participants.** A participant stands in the place of its first mention and is what its first
declaration says.  Each further declaration gives a warning, and a box has the participants that
are declared while it is open, each once. -/
theorem participants_follow_declarations {ls : List Line} {p : Parsed Diagram}
    (h : parse ls = .ok p) :
    p.diagram.participants = ((mentions ls).eraseDups.zipIdx.map fun (id, order) =>
      .declared id order (declarationsOf id ls)) ∧
    (∀ id, p.diagnostics.filter (·.message == s!"Participant '{id}' is already declared") =
      (declarationsOf id ls).tail.map fun d =>
        { severity := .warning, message := s!"Participant '{id}' is already declared",
          line := d.line.number, column := some d.line.column }) ∧
    ∃ xs, statements ls.tail = .ok xs ∧ p.diagram.boxes = boxesBehind [] xs := by
  obtain ⟨xs, hx, h⟩ := bind_eq_ok_iff.1 h
  cases h
  have htold := told_of_statements hx
  refine ⟨?_, fun id => ?_, xs, hx, ?_⟩
  · have henrols := State.enrols_foldl_step {} (readLines_eq_ok_iff.1 hx)
    have hkeys : (xs.foldl State.step {}).finish.participants.keys = (mentions ls).eraseDups := by
      rw [State.participants_finish, ← addAllNew_nil]
      exact henrols.keys
    rw [← hkeys]
    refine participants_eq ?_ htold
    rw [State.participants_finish]
    exact henrols.dense .empty
  · have hword : (fun d : Diagnostic => d.message == s!"Participant '{id}' is already declared") ∘
        Report.toDiagnostic = fun r : Report Problem => r.problem == .redeclared id := by
      funext r
      rw [Bool.eq_iff_iff]
      exact (beq_iff_eq.trans message_eq_redeclared_iff).trans beq_iff_eq.symm
    show (List.map Report.toDiagnostic _).filter _ = _
    rw [List.filter_map, hword, (htold id).reports, List.map_map]
    rfl
  · have hboxes := boxesFrom_eq [] xs fun x hmem => (mem_of_readLines hx x hmem).2
    exact hboxes.symm

/-- Participants that are mentioned before they are declared, and declared twice; the box goes on
behind the block inside it. -/
def teamBox : List Line :=
  [⟨1, "sequenceDiagram", 0, 1⟩, ⟨2, "A->>B: hi", 0, 1⟩, ⟨3, "box Team", 0, 1⟩,
   ⟨4, "participant B as Bob", 2, 3⟩, ⟨5, "loop again", 2, 3⟩, ⟨6, "actor C", 4, 5⟩,
   ⟨7, "end", 2, 3⟩, ⟨8, "actor B as Bert", 2, 3⟩, ⟨9, "end", 0, 1⟩, ⟨10, "actor A", 0, 1⟩,
   ⟨11, "activate D", 0, 1⟩]

theorem participants_follow_declarations_teamBox :
    ∃ p, parse teamBox = .ok p ∧
      p.diagram.participants = [⟨"A", "A", .actor, 0, false⟩, ⟨"B", "Bob", .participant, 1, false⟩,
        ⟨"C", "C", .actor, 2, false⟩, ⟨"D", "D", .participant, 3, true⟩] ∧
      p.diagnostics.filter (·.message == "Participant 'B' is already declared") =
        [⟨.warning, "Participant 'B' is already declared", 8, some 3, []⟩] ∧
      p.diagram.boxes = [⟨"Team", ["B", "C"], 3⟩] := by
  have hread : (parse teamBox).toOption.map (fun _ => true) = some true := by decide +kernel
  obtain ⟨p, hp, -⟩ := exists_ok_of_toOption hread
  obtain ⟨hparticipants, hwarnings, xs, hxs, hboxes⟩ := participants_follow_declarations hp
  have hteam : (statements teamBox.tail).toOption.map (boxesBehind []) =
      some [⟨"Team", ["B", "C"], 3⟩] := by
    decide +kernel
  rw [hxs] at hteam
  have hword : "Participant 'B' is already declared" =
      "Participant '" ++ "B" ++ "' is already declared" := rfl
  rw [hword]
  refine ⟨p, hp, hparticipants.trans ?_, (hwarnings "B").trans ?_,
    hboxes.trans (Option.some.inj hteam)⟩
  · decide +kernel
  · decide +kernel

end DiagramText.Sequence
