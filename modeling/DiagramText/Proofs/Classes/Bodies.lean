import DiagramText.Proofs.Classes.Identity

/-!
# Bodies on one line

The body of a class may stand on the line of its declaration, with semicolons between the members,
or on lines of its own.  The members of one line are read in a loop, those of several lines one by
one while the body is open; the states that arise this way differ in the places of the reports only.

1. `oneLineBody`, `bodyLines` and `IsMemberText`.
2. The pieces between the semicolons are the members.
3. Both declarations are recognised, with a tail each.
4. `State.Alike`: reading a member keeps two states alike.
5. `one_line_body_agrees`.
-/

namespace DiagramText.Classes

open Source (Line)
open Text

/-! ## Written bodies -/

/-- A text that is a member wherever it stands in a body. -/
structure IsMemberText (m : List Char) : Prop where
  ne_nil : m ≠ []
  trimmed : trim m = m
  no_semicolon : ';' ∉ m
  not_close : m ≠ ['\x7d']
  no_class : ¬ "class ".toList <+: m

instance (m : List Char) : Decidable (IsMemberText m) :=
  decidable_of_iff
    (m ≠ [] ∧ trim m = m ∧ ';' ∉ m ∧ m ≠ ['\x7d'] ∧ ¬ "class ".toList <+: m)
    ⟨fun h => ⟨h.1, h.2.1, h.2.2.1, h.2.2.2.1, h.2.2.2.2⟩,
      fun h => ⟨h.ne_nil, h.trimmed, h.no_semicolon, h.not_close, h.no_class⟩⟩

/-- The members of a body with semicolons between them. -/
def joined (ms : List (List Char)) : List Char := [';', ' '].intercalate ms

/-- The declaration of a class with what stands behind its name. -/
def classLine (name tail : List Char) : List Char := "class ".toList ++ (name ++ ' ' :: tail)

/-- The declaration of a class with its body on the same line. -/
def oneLineBody (name : List Char) (ms : List (List Char)) : List Char :=
  classLine name ('\x7b' :: ' ' :: (joined ms ++ [' ', '\x7d']))

/-- The declaration of a class with its body on lines of its own. -/
def bodyLines (name : List Char) (ms : List (List Char)) : List (List Char) :=
  classLine name ['\x7b'] :: (ms ++ [['\x7d']])

/-! ## Members between semicolons -/

theorem joined_cons_cons (m m' : List Char) (ms : List (List Char)) :
    joined (m :: m' :: ms) = m ++ ';' :: ' ' :: joined (m' :: ms) := by
  simp [joined, List.intercalate]

theorem notMem_joined {c : Char} {ms : List (List Char)} (hc : c ∉ [';', ' '])
    (h : ∀ m ∈ ms, c ∉ m) : c ∉ joined ms := by
  induction ms with
  | nil => exact List.not_mem_nil
  | cons m ms ih =>
    obtain ⟨hm, hms⟩ := List.forall_mem_cons.1 h
    cases ms with
    | nil => simpa [joined, List.intercalate] using hm
    | cons m' ms =>
      have hrest := ih hms
      rw [joined_cons_cons]
      simp_all

/-- Blanks on both sides of a member are cut off. -/
theorem trim_padded {m : List Char} (h : IsMemberText m) : trim (' ' :: (m ++ [' '])) = m := by
  have hhead := head_of_trim h.trimmed
  have hend : trimEnd m = m := by
    have htrim := h.trimmed
    rwa [trim, trimStart_of_head hhead] at htrim
  have hstart : trimStart (m ++ [' ']) = m ++ [' '] := by
    refine trimStart_of_head fun c hc => hhead c ?_
    rwa [List.head?_append_of_ne_nil m h.ne_nil] at hc
  calc trim (' ' :: (m ++ [' '])) = trimEnd (trimStart (m ++ [' '])) := rfl
    _ = trimEnd m := by rw [hstart, trimEnd_append_of_blank _ (by decide)]
    _ = m := hend

/-- The trimmed pieces between the semicolons are the members. -/
theorem map_trim_splitOn_joined {m : List Char} {ms : List (List Char)}
    (h : ∀ m' ∈ m :: ms, IsMemberText m') :
    (splitOn ';' (' ' :: (joined (m :: ms) ++ [' ']))).map trim = m :: ms := by
  have hpiece {m : List Char} (hm : IsMemberText m) : ∀ c ∈ m, (c == ';') = false := by
    intro c hc
    simpa using fun he : c = ';' => hm.no_semicolon (he ▸ hc)
  induction ms generalizing m with
  | nil =>
    have hm : IsMemberText m := h m List.mem_cons_self
    have hjoined : joined [m] = m := by simp [joined, List.intercalate]
    rw [hjoined, splitOn, splitWhere_of_forall, List.map_singleton, trim_padded hm]
    simpa [or_imp, forall_and] using hpiece hm
  | cons m' ms ih =>
    obtain ⟨hm, hms⟩ := List.forall_mem_cons.1 h
    have hfirst : ∀ c ∈ ' ' :: m, (c == ';') = false :=
      List.forall_mem_cons.2 ⟨by decide, hpiece hm⟩
    have hsplit : splitOn ';' (' ' :: (joined (m :: m' :: ms) ++ [' '])) =
        (' ' :: m) :: splitOn ';' (' ' :: (joined (m' :: ms) ++ [' '])) := by
      rw [joined_cons_cons, splitOn, splitOn,
        ← splitWhere_append_cons hfirst (d := ';') (by decide)]
      simp
    have htrim : trim (' ' :: m) = m := hm.trimmed
    rw [hsplit, List.map_cons, htrim, ih hms]

theorem inline_joined {ms : List (List Char)} (h : ∀ m ∈ ms, IsMemberText m) :
    ((splitOn ';' (' ' :: (joined ms ++ [' ']))).map trim).filter (· ≠ []) = ms := by
  cases ms with
  | nil => decide
  | cons m ms =>
    rw [map_trim_splitOn_joined h, List.filter_eq_self.2]
    exact fun m' hm' => by simpa using (h m' hm').ne_nil

/-! ## Recognised declarations -/

variable {name : List Char} {ms : List (List Char)}

/-- A class whose body starts behind its name. -/
theorem declaration?_classLine (hne : name ≠ []) (hname : ∀ c ∈ name, isWord c = true)
    {tail : List Char} (htail : tail.head? = some '\x7b') (hline : '\n' ∉ tail) :
    declaration? (classLine name tail) = some ⟨⟨name, none⟩, none, .ofText (trim tail)⟩ := by
  obtain ⟨c, u, rfl⟩ := List.exists_cons_of_ne_nil hne
  have hsolid := isBlank_of_isWord (hname c List.mem_cons_self)
  have hplain : ∀ d ∈ c :: u, (!(isBlank d || ['\x7b', '[', '"'].contains d)) = true := by
    intro d hd
    have hword := hname d hd
    have hbrace := ne_of_isWord hword (show isWord '\x7b' = false by decide)
    have hbracket := ne_of_isWord hword (show isWord '[' = false by decide)
    have hquote := ne_of_isWord hword (show isWord '"' = false by decide)
    simp [isBlank_of_isWord hword, hbrace, hbracket, hquote]
  have hkeyword : literal? "class".toList (classLine (c :: u) tail) =
      some (' ' :: c :: (u ++ ' ' :: tail)) := rfl
  have hgap : gap? (' ' :: c :: (u ++ ' ' :: tail)) = some (c :: u ++ ' ' :: tail) :=
    gap?_space hsolid _
  have htrim : trimStart (' ' :: tail) = tail := by
    refine trimStart_of_head (s := tail) fun d hd => ?_
    obtain rfl : '\x7b' = d := Option.some.inj (htail.symm.trans hd)
    decide
  have hlabel : label? (' ' :: tail) = none := by
    rw [label?, htrim]
    obtain ⟨r, rfl⟩ : ∃ r, tail = '\x7b' :: r := List.head?_eq_some_iff.1 htail
    rfl
  rw [declaration?, hkeyword]
  simp only [Option.bind_eq_bind, Option.bind_some, hgap]
  rw [takeWhile_append_cons hplain (by decide), dropWhile_append_cons hplain (by decide), hlabel,
    htrim, lineRest?_of_notMem hline, ofToken_word hne hname]
  rfl

theorem recognise?_classLine {tail : List Char} {d : Declaration}
    (h : declaration? (classLine name tail) = some d) :
    Statement.recognise? (classLine name tail) = some (.declare d) := by
  have hgroup : namespace? (classLine name tail) = none := rfl
  have hclose : classLine name tail ≠ ['\x7d'] := nofun
  simp [Statement.recognise?, hgroup, hclose, h]

theorem recognise?_oneLineBody (hne : name ≠ []) (hname : ∀ c ∈ name, isWord c = true)
    (hms : ∀ m ∈ ms, IsMemberText m) (hline : ∀ m ∈ ms, '\n' ∉ m) :
    Statement.recognise? (oneLineBody name ms) =
      some (.declare ⟨⟨name, none⟩, none, .inline ms⟩) := by
  have hjoined : '\n' ∉ joined ms := notMem_joined (by decide) hline
  have htrim : trim ('\x7b' :: ' ' :: (joined ms ++ [' ', '\x7d'])) =
      '\x7b' :: ' ' :: (joined ms ++ [' ', '\x7d']) := by
    rw [trim, trimStart_of_head (by simp; decide)]
    exact trimEnd_append_of_ne_nil ('\x7b' :: ' ' :: joined ms) (by simp) (by decide)
  refine recognise?_classLine ((declaration?_classLine hne hname rfl (by simp [hjoined])).trans ?_)
  have hinside : dropSuffix? ['\x7d'] (' ' :: (joined ms ++ [' ', '\x7d'])) =
      some (' ' :: (joined ms ++ [' '])) := dropSuffix?_eq_some_iff.2 (by simp)
  have htail : Tail.ofText ('\x7b' :: ' ' :: (joined ms ++ [' ', '\x7d'])) = .inline ms := by
    rw [Tail.ofText, hinside]
    · exact congrArg Tail.inline (inline_joined hms)
    · simp
  rw [htrim, htail]

theorem recognise?_openLine (hne : name ≠ []) (hname : ∀ c ∈ name, isWord c = true) :
    Statement.recognise? (classLine name ['\x7b']) =
      some (.declare ⟨⟨name, none⟩, none, .body⟩) :=
  recognise?_classLine (declaration?_classLine hne hname rfl (by decide))

/-! ## Alike states -/

namespace State

/-- Two states that are the same apart from the open body and from the places of reports. -/
structure Alike (st st' : State) : Prop where
  frame : st' = { st with body := st'.body, reports := st'.reports }
  problems : st'.reports.map (·.problem) = st.reports.map (·.problem)

variable {st st' : State}

theorem Alike.addBodyLine (h : st.Alike st') (l l' : Line) (id : String) (b : BodyLine) :
    (st.addBodyLine l id b).Alike (st'.addBodyLine l' id b) := by
  obtain ⟨hframe, hproblems⟩ := h
  rw [hframe]
  cases b with
  | stereotype t => exact ⟨rfl, hproblems⟩
  | member m => exact ⟨rfl, hproblems⟩
  | nameless t => exact ⟨rfl, by simp [State.addBodyLine, State.report, hproblems]; rfl⟩

theorem Alike.withBody (h : st.Alike st') (b : Option Body) : st.Alike { st' with body := b } := by
  obtain ⟨hframe, hproblems⟩ := h
  rw [hframe]
  exact ⟨rfl, hproblems⟩

/-- A member is read while the body of its class is open. -/
theorem step_member {l : Line} {b : Body} {m : List Char} (hm : IsMemberText m)
    (hbody : st.body = some b) (htext : l.text = String.ofList m) :
    st.step l = st.addBodyLine l b.id (.recognise m) := by
  have hclose : String.ofList m ≠ "\x7d" := by
    intro he
    exact hm.not_close (by simpa using congrArg String.toList he)
  have hclass : (literal? "class ".toList m).isSome = false := by
    by_contra hsome
    obtain ⟨u, hu⟩ := Option.isSome_iff_exists.1 (eq_true_of_ne_false hsome)
    exact hm.no_class ⟨u, (literal?_eq_some_iff.1 hu).symm⟩
  rw [step, hbody]
  simp only [htext, String.toList_ofList, if_neg hclose, hclass]
  rfl

/-- Members on one line and members on lines of their own keep two states alike. -/
theorem Alike.foldl_members (h : st.Alike st') (hms : ∀ m ∈ ms, IsMemberText m) {b : Body}
    (hbody : st'.body = some b) (l : Line) {ls : List Line}
    (hls : ls.map Line.text = ms.map String.ofList) :
    (ms.foldl (fun st m => st.addBodyLine l b.id (.recognise m)) st).Alike (ls.foldl step st') ∧
      (ls.foldl step st').body = some b := by
  induction ms generalizing st st' ls with
  | nil =>
    obtain rfl : ls = [] := List.map_eq_nil_iff.1 hls
    exact ⟨h, hbody⟩
  | cons m ms ih =>
    obtain ⟨hm, hms⟩ := List.forall_mem_cons.1 hms
    obtain ⟨l', ls', rfl, htext, hrest⟩ := List.map_eq_cons_iff.1 hls
    have hstep := step_member hm hbody htext
    have hbody' : (st'.step l').body = some b := by rw [hstep, body_addBodyLine, hbody]
    have halike : (st.addBodyLine l b.id (.recognise m)).Alike (st'.step l') := by
      rw [hstep]
      exact h.addBodyLine l l' b.id _
    exact ih halike hms hbody' hrest

theorem step_declare {l : Line} {d : Declaration} (hbody : st.body = none)
    (h : Statement.recognise? l.text.toList = some (.declare d)) : st.step l = st.declare l d := by
  simp [step, hbody, stepOutside, Statement.recognise, h]

theorem step_close {l : Line} {b : Body} (hbody : st.body = some b) (htext : l.text = "\x7d") :
    st.step l = { st with body := none } := by
  simp [step, hbody, htext]

end State

/-! ## Bodies -/

/-- A body on one line and one on several lines lead from a state to alike ones, without an open
body. -/
def BodiesAgree (name : List Char) (ms : List (List Char)) : Prop :=
  ∀ (st : State) (l : Line) (ls : List Line), st.body = none →
    l.text = String.ofList (oneLineBody name ms) →
    ls.map Line.text = (bodyLines name ms).map String.ofList →
      (st.step l).Alike (ls.foldl State.step st) ∧ (st.step l).body = none ∧
        (ls.foldl State.step st).body = none

/-- The lines of a body are an opening one, one for each member, and a closing one. -/
theorem exists_lines_of_body {ls : List Line}
    (h : ls.map Line.text = (bodyLines name ms).map String.ofList) :
    ∃ opening members closing, ls = opening :: (members ++ [closing]) ∧
      opening.text = String.ofList (classLine name ['\x7b']) ∧
      members.map Line.text = ms.map String.ofList ∧ closing.text = "\x7d" := by
  obtain ⟨opening, rest, rfl, hopening, hrest⟩ := List.map_eq_cons_iff.1 h
  rw [List.map_append] at hrest
  obtain ⟨members, last, rfl, hmembers, hlast⟩ := List.map_eq_append_iff.1 hrest
  obtain ⟨closing, nothing, rfl, hclosing, hnothing⟩ := List.map_eq_cons_iff.1 hlast
  obtain rfl : nothing = [] := List.map_eq_nil_iff.1 hnothing
  exact ⟨opening, members, closing, rfl, hopening, hmembers, hclosing⟩

/-- On one line, the members are added to the class that has just been declared. -/
theorem step_oneLineBody (hne : name ≠ []) (hname : ∀ c ∈ name, isWord c = true)
    (hms : ∀ m ∈ ms, IsMemberText m) (hline : ∀ m ∈ ms, '\n' ∉ m) {st : State} {l : Line}
    (hbody : st.body = none) (hl : l.text = String.ofList (oneLineBody name ms)) :
    st.step l = ms.foldl (fun st m => st.addBodyLine l (String.ofList name) (.recognise m))
      (st.declare l ⟨⟨name, none⟩, none, .nothing⟩) := by
  have hrecognise := recognise?_oneLineBody hne hname hms hline
  rw [← String.toList_ofList (l := oneLineBody name ms), ← hl] at hrecognise
  exact State.step_declare hbody hrecognise

/-- The opening line leaves the body of the declared class open. -/
theorem step_openLine (hne : name ≠ []) (hname : ∀ c ∈ name, isWord c = true) {st : State}
    {l : Line} (hbody : st.body = none) (hl : l.text = String.ofList (classLine name ['\x7b'])) :
    st.step l = { st.declare l ⟨⟨name, none⟩, none, .nothing⟩ with
      body := some ⟨String.ofList name, l.number⟩ } := by
  have hrecognise := recognise?_openLine hne hname
  rw [← String.toList_ofList (l := classLine name ['\x7b']), ← hl] at hrecognise
  exact State.step_declare hbody hrecognise

/-- **Bodies.** The members of a class may stand on one line or on lines of their own. -/
theorem one_line_body_agrees (hne : name ≠ []) (hname : ∀ c ∈ name, isWord c = true)
    (hms : ∀ m ∈ ms, IsMemberText m) (hline : ∀ m ∈ ms, '\n' ∉ m) : BodiesAgree name ms := by
  intro st l ls hbody hl hls
  obtain ⟨opening, members, closing, rfl, hopening, hmembers, hclosing⟩ := exists_lines_of_body hls
  -- Both sides declare the class first; that this reads nothing from the line is definitional.
  let declared := st.declare l ⟨⟨name, none⟩, none, .nothing⟩
  have hopened : st.step opening =
      { declared with body := some ⟨String.ofList name, opening.number⟩ } :=
    step_openLine hne hname hbody hopening
  have hstart : declared.Alike (st.step opening) := by
    rw [hopened]
    exact ⟨rfl, rfl⟩
  obtain ⟨halike, hopen⟩ := hstart.foldl_members hms (by rw [hopened]) l hmembers
  have hclosed : (opening :: (members ++ [closing])).foldl State.step st =
      { members.foldl State.step (st.step opening) with body := none } := by
    rw [List.foldl_cons, List.foldl_append]
    exact State.step_close hopen hclosing
  rw [hclosed, step_oneLineBody hne hname hms hline hbody hl]
  exact ⟨halike.withBody none, ((declared.enrols_inline l _ ms).2).trans hbody, rfl⟩

/-- Members that look like stereotypes, like nothing and like other statements. -/
def oddMembers : List (List Char) :=
  ["<<interface>>".toList, "+swim() void".toList, "-".toList, "\x7d\x7b".toList,
   "note \"x\"".toList]

theorem one_line_body_agrees_oddMembers :
    oneLineBody "Duck".toList oddMembers =
        "class Duck \x7b <<interface>>; +swim() void; -; \x7d\x7b; note \"x\" \x7d".toList ∧
      (∀ m ∈ oddMembers, IsMemberText m) ∧ BodiesAgree "Duck".toList oddMembers := by
  have hmembers : ∀ m ∈ oddMembers, IsMemberText m := by decide
  exact ⟨by decide, hmembers, one_line_body_agrees (by decide) (by decide) hmembers (by decide)⟩

/-- A member with a line feed in it. -/
def tornMember : List Char := "a\nb".toList

/-- A body with a line feed in it is no body on one line. -/
theorem tornMember_not_agrees : IsMemberText tornMember ∧ ¬ BodiesAgree ['A'] [tornMember] := by
  refine ⟨by decide, fun hagrees => ?_⟩
  obtain ⟨halike, -⟩ := hagrees {} ⟨2, String.ofList (oneLineBody ['A'] [tornMember]), 0, 1⟩
    [⟨2, "class A \x7b", 0, 1⟩, ⟨3, String.ofList tornMember, 0, 1⟩, ⟨4, "\x7d", 0, 1⟩]
    rfl rfl (by decide)
  have hclasses := congrArg State.classes halike.frame
  revert hclasses
  decide +kernel

end DiagramText.Classes
