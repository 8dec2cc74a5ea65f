import DiagramText.Proofs.Closers
import DiagramText.Proofs.Sequence.NotePosition
import DiagramText.Proofs.Text.Solid

/-!
# Writing the lines of a sequence diagram

Messages, notes, openings of blocks and dividers are written in one fixed way, and every line that
is written so is recognised as what it is.  A line may be tried for many forms before its own, and
none of these captures it.

1. `Name`, `Phrase`, and the lines made of them.
2. Messages.  The sender is a word, so every keyword in front of the line ends inside the sender or
   at the arrow, where no blank follows; and the arrow is the first place where any arrow stands.
3. Notes, openings of blocks and dividers.
-/

namespace DiagramText.Sequence

open Text

/-! ## Names and phrases -/

/-- The name of a participant: a word. -/
structure Name where
  chars : List Char
  ne_nil : chars ≠ []
  word : ∀ c ∈ chars, isWord c = true

/-- A text without blanks at its ends; it may be empty. -/
structure Phrase where
  chars : List Char
  trimmed : trim chars = chars

/-- The id that a name gives to its participant. -/
def Name.id (n : Name) : String := String.ofList n.chars

/-- The string of a phrase. -/
def Phrase.string (t : Phrase) : String := String.ofList t.chars

theorem Name.solid (n : Name) : ∀ c ∈ n.chars, isBlank c = false :=
  fun c hc => isBlank_of_isWord (n.word c hc)

theorem Name.exists_cons (n : Name) : ∃ c r, n.chars = c :: r ∧ isWord c = true := by
  obtain ⟨c, r, hchars⟩ := List.exists_cons_of_ne_nil n.ne_nil
  exact ⟨c, r, hchars, n.word c (by rw [hchars]; exact List.mem_cons_self)⟩

/-- A text behind a blank.  When there is no text, the blank may be left out too. -/
def Phrase.behind (spaced : Bool) (t : Phrase) : List Char :=
  if t.chars = [] ∧ spaced = false then [] else ' ' :: t.chars

theorem Phrase.behind_cases (spaced : Bool) (t : Phrase) :
    t.behind spaced = [] ∧ t.chars = [] ∨ t.behind spaced = ' ' :: t.chars := by
  unfold behind
  split
  · rename_i h
    exact .inl ⟨rfl, h.1⟩
  · exact .inr rfl

theorem Phrase.mem_behind {spaced : Bool} {t : Phrase} {c : Char} (h : c ∈ t.chars) :
    c ∈ t.behind spaced := by
  rcases t.behind_cases spaced with ⟨-, hnil⟩ | hbehind
  · rw [hnil] at h
    cases h
  · rw [hbehind]
    exact List.mem_cons_of_mem _ h

theorem Phrase.trimStart_behind (spaced : Bool) (t : Phrase) :
    trimStart (t.behind spaced) = t.chars := by
  rcases t.behind_cases spaced with ⟨hbehind, hnil⟩ | hbehind
  · rw [hbehind, hnil]
    rfl
  · rw [hbehind]
    exact trimStart_of_head (head_of_trim t.trimmed)

theorem Phrase.textEnd?_behind (spaced : Bool) {t : Phrase} (h : '\n' ∉ t.chars) :
    textEnd? (t.behind spaced) = some t.chars := by
  rcases t.behind_cases spaced with ⟨hbehind, hnil⟩ | hbehind
  · rw [hbehind, hnil]
    rfl
  · rw [hbehind]
    exact textEnd?_gap t.trimmed h

/-! ## Messages -/

/-- The mark in front of a receiver. -/
def Activation.sign : Activation → List Char
  | .unchanged => []
  | .activate => ['+']
  | .deactivate => ['-']

/-- What the line of a message says. -/
structure MessageLine where
  sender : Name
  arrow : Arrow
  mark : Activation
  receiver : Name
  text : Phrase

namespace MessageLine

variable (m : MessageLine) (spaced : Bool)

/-- The mark, the receiver and the text. -/
def target : List Char := m.mark.sign ++ (m.receiver.chars ++ ':' :: m.text.behind spaced)

/-- The line of a message. -/
def chars : List Char := m.sender.chars ++ (m.arrow.token.toList ++ m.target spaced)

/-- The message that is read from the line. -/
def read : MessageText :=
  { sender := m.sender.chars, arrow := m.arrow, activation := m.mark,
    receiver := m.receiver.chars, text := some m.text.chars }

theorem mem_chars {c : Char} (h : c ∈ m.text.chars) : c ∈ m.chars spaced :=
  List.mem_append_right _ (List.mem_append_right _ (List.mem_append_right _
    (List.mem_append_right _ (List.mem_cons_of_mem _ (Phrase.mem_behind h)))))

end MessageLine

theorem isNameStart_of_isWord {c : Char} (h : isWord c = true) : isNameStart c = true := by
  have hblank := isBlank_of_isWord h
  have hsigns : ∀ d ∈ [':', '<', '>', '+', '-'], c ≠ d := by
    have hall : [':', '<', '>', '+', '-'].all (!isWord ·) = true := by decide
    exact fun d hd => ne_of_isWord h (by simpa using List.all_eq_true.1 hall d hd)
  unfold isNameStart
  rw [hblank]
  simpa using hsigns

theorem Name.no_colon (n : Name) : ∀ c ∈ n.chars, (c != ':') = true := by
  intro c hc
  simpa using ne_of_isWord (n.word c hc) (by decide)

/-- From the start of a name, everything up to the colon is the receiver. -/
theorem receiver?_cons_colon {c : Char} {s : List Char} (hc : isNameStart c = true)
    (hs : ∀ d ∈ s, (d != ':') = true) (v : List Char) :
    receiver? (c :: (s ++ ':' :: v)) =
      (lineRest? (trimStart v)).map fun t => (trim (c :: s), some t) := by
  have hcolon : (c != ':') = true := by
    simpa using fun he : c = ':' => absurd hc (by rw [he]; decide)
  have hname : ∀ d ∈ c :: s, (d != ':') = true := List.forall_mem_cons.2 ⟨hcolon, hs⟩
  have htake : (c :: (s ++ ':' :: v)).takeWhile (· != ':') = c :: s :=
    takeWhile_append_cons hname rfl v
  have hdrop : (c :: (s ++ ':' :: v)).dropWhile (· != ':') = ':' :: v :=
    dropWhile_append_cons hname rfl v
  unfold receiver?
  dsimp only
  rw [if_pos hc, htake, hdrop]

/-- A name in front of a colon is read as the receiver, and what stands behind it as the text. -/
theorem receiver?_of_name (n : Name) {t : Phrase} (spaced : Bool) (ht : '\n' ∉ t.chars) :
    receiver? (n.chars ++ ':' :: t.behind spaced) = some (n.chars, some t.chars) := by
  have hsolid := n.solid
  have hcolon := n.no_colon
  obtain ⟨c, r, hchars, hword⟩ := n.exists_cons
  rw [hchars] at hsolid hcolon ⊢
  rw [List.cons_append, receiver?_cons_colon (isNameStart_of_isWord hword)
    (List.forall_mem_cons.1 hcolon).2, t.trimStart_behind, lineRest?_of_notMem ht,
    trim_of_solid hsolid]
  rfl

/-- A word has no mark in front. -/
theorem activation_of_word {c : Char} (hc : isWord c = true) (s : List Char) :
    activation (trimStart (c :: s)) = (.unchanged, c :: s) := by
  have hstart : trimStart (c :: s) = c :: s :=
    trimStart_of_head fun d hd => by cases hd; exact isBlank_of_isWord hc
  have hplus : c ≠ '+' := ne_of_isWord hc (by decide)
  have hminus : c ≠ '-' := ne_of_isWord hc (by decide)
  rw [hstart]
  unfold activation
  split
  · rename_i h
    exact absurd (List.cons.inj h).1 hplus
  · rename_i h
    exact absurd (List.cons.inj h).1 hminus
  · rfl

/-- The mark is read off the target of a message. -/
theorem activation_target (m : MessageLine) (spaced : Bool) :
    activation (trimStart (m.target spaced)) =
      (m.mark, m.receiver.chars ++ ':' :: m.text.behind spaced) := by
  obtain ⟨c, r, hchars, hword⟩ := m.receiver.exists_cons
  have hstart : trimStart (c :: (r ++ ':' :: m.text.behind spaced)) =
      c :: (r ++ ':' :: m.text.behind spaced) :=
    trimStart_of_head fun d hd => by cases hd; exact isBlank_of_isWord hword
  unfold MessageLine.target
  rw [hchars, List.cons_append]
  cases m.mark with
  | unchanged => exact activation_of_word hword _
  | activate => exact congrArg (Prod.mk Activation.activate) hstart
  | deactivate => exact congrArg (Prod.mk Activation.deactivate) hstart

/-- The characters of an arrow. -/
def Arrow.signs : Arrow → List Char
  | filled => ['-', '>', '>']
  | dashedFilled => ['-', '-', '>', '>']
  | plain => ['-', '>']
  | dashedPlain => ['-', '-', '>']
  | cross => ['-', 'x']
  | dashedCross => ['-', '-', 'x']
  | async => ['-', ')']
  | dashedAsync => ['-', '-', ')']
  | both => ['<', '<', '-', '>', '>']
  | dashedBoth => ['<', '<', '-', '-', '>', '>']

theorem toList_token (a : Arrow) : a.token.toList = a.signs := by
  cases a <;> decide

/-- An arrow is read as itself and not as a longer one, unless a further tip follows. -/
theorem arrowEnd?_token {sender r rest receiver : List Char} {a : Arrow} {c : Char}
    {mark : Activation} {text : Option (List Char)} (hc : c ≠ '>')
    (hmark : activation (trimStart (c :: r)) = (mark, rest))
    (hreceiver : receiver? rest = some (receiver, text)) :
    arrowEnd? sender (a.token.toList ++ c :: r) =
      some { sender := trim sender, arrow := a, activation := mark, receiver, text } := by
  cases a <;>
    simp [arrowEnd?, Arrow.longestFirst, toList_token, Arrow.signs, literal?, hmark, hreceiver,
      Ne.symm hc]

/-- Every arrow starts with one of two signs. -/
theorem arrowEnd?_of_head {sender r : List Char} {c : Char} (hminus : c ≠ '-') (hless : c ≠ '<') :
    arrowEnd? sender (c :: r) = none := by
  simp [arrowEnd?, Arrow.longestFirst, toList_token, Arrow.signs, literal?, Ne.symm hminus,
    Ne.symm hless]

theorem token_cons (a : Arrow) : ∃ c r, a.token.toList = c :: r ∧ (c = '-' ∨ c = '<') := by
  cases a <;> simp [toList_token, Arrow.signs]

/-- The target of a message does not start with the tip of an arrow. -/
theorem target_cons (m : MessageLine) (spaced : Bool) :
    ∃ c r, m.target spaced = c :: r ∧ c ≠ '>' := by
  obtain ⟨c, r, hchars, hword⟩ := m.receiver.exists_cons
  unfold MessageLine.target
  rw [hchars]
  cases m.mark with
  | unchanged => exact ⟨c, _, rfl, ne_of_isWord hword (by decide)⟩
  | activate => exact ⟨'+', _, rfl, by decide⟩
  | deactivate => exact ⟨'-', _, rfl, by decide⟩

/-- Inside a word stands no arrow. -/
theorem arrowEnd?_word {sender r : List Char} {c : Char} (hc : isWord c = true) :
    arrowEnd? sender (trimStart (c :: r)) = none := by
  rw [trimStart_of_head fun d hd => by cases hd; exact isBlank_of_isWord hc]
  exact arrowEnd?_of_head (ne_of_isWord hc (by decide)) (ne_of_isWord hc (by decide))

/-- The arrow of a message is found in its place, whatever has been taken for the sender. -/
theorem arrowEnd?_target {m : MessageLine} (spaced : Bool) (ht : '\n' ∉ m.text.chars)
    (sender : List Char) :
    arrowEnd? sender (trimStart (m.arrow.token.toList ++ m.target spaced)) =
      some { m.read with sender := trim sender } := by
  obtain ⟨a, tail, htoken, ha⟩ := token_cons m.arrow
  obtain ⟨d, rest, htarget, hd⟩ := target_cons m spaced
  have hstart : trimStart (m.arrow.token.toList ++ m.target spaced) =
      m.arrow.token.toList ++ m.target spaced := by
    refine trimStart_of_head fun f hf => ?_
    rw [htoken] at hf
    cases hf
    rcases ha with rfl | rfl <;> decide
  have hmark := activation_target m spaced
  rw [hstart]
  rw [htarget] at hmark ⊢
  exact arrowEnd?_token hd hmark (receiver?_of_name m.receiver spaced ht)

/-- A message is read back from its line. -/
theorem message?_chars {m : MessageLine} (spaced : Bool) (ht : '\n' ∉ m.text.chars) :
    message? (m.chars spaced) = some m.read := by
  obtain ⟨c, r, hsender⟩ := List.exists_cons_of_ne_nil m.sender.ne_nil
  have hword : ∀ d ∈ c :: r, isWord d = true := by
    rw [← hsender]
    exact m.sender.word
  obtain ⟨hc, hr⟩ := List.forall_mem_cons.1 hword
  unfold MessageLine.chars message?
  rw [hsender, List.cons_append]
  dsimp only
  rw [if_pos (isNameStart_of_isWord hc)]
  refine shortest_append ?_ ?_ ?_
  · intro e he
    simpa using ne_of_isWord (hr e he) (by decide)
  · intro x e y hsplit
    refine arrowEnd?_word (hr e ?_)
    rw [hsplit]
    exact List.mem_append_right _ List.mem_cons_self
  · rw [arrowEnd?_target spaced ht, ← hsender, trim_of_solid m.sender.solid]
    rfl

/-! ## Forms that are tried before messages -/

/-- A text that starts with a word and an arrow. -/
def Led (s : List Char) : Prop :=
  ∃ w c r, s = w ++ c :: r ∧ (∀ d ∈ w, isWord d = true) ∧ (c = '-' ∨ c = '<')

theorem led_chars (m : MessageLine) (spaced : Bool) : Led (m.chars spaced) := by
  obtain ⟨c, r, htoken, hc⟩ := token_cons m.arrow
  refine ⟨m.sender.chars, c, r ++ m.target spaced, ?_, m.sender.word, hc⟩
  unfold MessageLine.chars
  rw [htoken]
  rfl

namespace Led

variable {s t u : List Char}

/-- Behind a keyword the word goes on, or the arrow follows. -/
theorem behind (h : Led s) (hs : s = t ++ u) (hminus : '-' ∉ t) (hless : '<' ∉ t) :
    ∃ d v, u = d :: v ∧ isBlank d = false ∧ d ≠ ':' := by
  obtain ⟨w, c, r, rfl, hw, hc⟩ := h
  have hnot : c ∉ t := by
    rcases hc with rfl | rfl
    · exact hminus
    · exact hless
  obtain ⟨d, v, rfl, hd⟩ := head_of_append_eq hs hnot
  refine ⟨d, v, rfl, ?_⟩
  rcases hd with hd | rfl
  · exact ⟨isBlank_of_isWord (hw d hd), ne_of_isWord (hw d hd) (by decide)⟩
  · rcases hc with rfl | rfl <;> decide

theorem behind_literal (h : Led s) {w : List Char} (hw : '-' ∉ w ∧ '<' ∉ w)
    (hu : literal? w s = some u) : ∃ d v, u = d :: v ∧ isBlank d = false ∧ d ≠ ':' :=
  h.behind (literal?_eq_some_iff.1 hu) hw.1 hw.2

theorem ne_keyword (h : Led s) {w : List Char} (hw : '-' ∉ w ∧ '<' ∉ w) : s ≠ w := by
  rintro rfl
  obtain ⟨d, v, hnil, -⟩ := h.behind (List.append_nil s).symm hw.1 hw.2
  cases hnil

theorem declaration?_eq_none (h : Led s) : declaration? s = none := by
  unfold declaration?
  cases hp : literal? "participant".toList s with
  | some u =>
    obtain ⟨d, v, rfl, hd, -⟩ := h.behind_literal (by decide) hp
    simp [gap?_of_solid hd]
  | none =>
    cases ha : literal? "actor".toList s with
    | none => rfl
    | some u =>
      obtain ⟨d, v, rfl, hd, -⟩ := h.behind_literal (by decide) ha
      simp [gap?_of_solid hd]

theorem note?_eq_none (h : Led s) : note? s = none := by
  unfold note? caselessRest?
  cases hn : caseless? "note".toList s with
  | none => rfl
  | some tu =>
    obtain ⟨t, u⟩ := tu
    obtain ⟨hs, hfold⟩ := caseless?_eq_some_iff.1 hn
    -- The signs of an arrow are no letters in any case.
    have hsign : ∀ c ∈ t, fold c ∈ "note".toList.map fold := by
      intro c hc
      rw [← hfold]
      exact List.mem_map_of_mem hc
    obtain ⟨d, v, rfl, hd, -⟩ := h.behind hs (fun hc => absurd (hsign _ hc) (by decide))
      fun hc => absurd (hsign _ hc) (by decide)
    simp [gap?_of_solid hd]

theorem headed?_eq_none (h : Led s) {κ : Type} {all : List κ} {name : κ → String}
    (hname : ∀ k ∈ all, '-' ∉ (name k).toList ∧ '<' ∉ (name k).toList) :
    headed? all name s = none := by
  refine List.findSome?_eq_none_iff.2 fun k hk => ?_
  cases hu : literal? (name k).toList s with
  | none => rfl
  | some u =>
    obtain ⟨d, v, rfl, hd, -⟩ := h.behind_literal (hname k hk) hu
    simp [textEnd?_of_solid hd]

theorem title?_eq_none (h : Led s) : title? s = none := by
  unfold title?
  cases hu : literal? "title".toList s with
  | none => rfl
  | some u =>
    obtain ⟨d, v, rfl, hd, hcolon⟩ := h.behind_literal (by decide) hu
    have hstart : trimStart (d :: v) = d :: v :=
      trimStart_of_head fun e he => by cases he; exact hd
    have hliteral : literal? [':'] (d :: v) = none := if_neg (Ne.symm hcolon)
    have hblanks : blanks₁ (d :: v) lineRest₁? = none := if_neg (by simp [hd])
    simp [hstart, hliteral, hblanks]

theorem activation?_eq_none (h : Led s) : activation? s = none := by
  unfold activation?
  cases ha : literal? "activate".toList s with
  | some u =>
    obtain ⟨d, v, rfl, hd, -⟩ := h.behind_literal (by decide) ha
    simp [gap?_of_solid hd]
  | none =>
    cases hd : literal? "deactivate".toList s with
    | none => rfl
    | some u =>
      obtain ⟨d, v, rfl, hd, -⟩ := h.behind_literal (by decide) hd
      simp [gap?_of_solid hd]

/-- What starts with a word and an arrow is a message or nothing. -/
theorem plain?_eq (h : Led s) : Statement.plain? s = (message? s).map Statement.message := by
  have hspaced : literal? "autonumber ".toList s = none := by
    cases hu : literal? "autonumber ".toList s with
    | none => rfl
    | some u =>
      have hs : s = "autonumber".toList ++ ' ' :: u := by
        rw [literal?_eq_some_iff.1 hu]
        rfl
      obtain ⟨d, v, heq, hd, -⟩ := h.behind hs (by decide) (by decide)
      cases heq
      exact absurd hd (by decide)
  have hend : s ≠ "end".toList := h.ne_keyword (by decide)
  have hautonumber : (decide (s = "autonumber".toList) ||
      (literal? "autonumber ".toList s).isSome) = false := by
    rw [hspaced, decide_eq_false (h.ne_keyword (by decide))]
    rfl
  unfold Statement.plain?
  rw [h.headed?_eq_none (by decide), h.headed?_eq_none (by decide), h.headed?_eq_none (by decide),
    h.title?_eq_none, h.activation?_eq_none, hautonumber, if_neg hend]
  rfl

end Led

/-- A line that is no declaration and no note. -/
theorem recognise_plain {s : List Char} (hdeclaration : declaration? s = none)
    (hnote : note? s = none) : Statement.recognise (String.ofList s) = .ok (.plain s) := by
  unfold Statement.recognise
  dsimp only
  rw [String.toList_ofList, hdeclaration, hnote]

/-- **Messages.** The line of a message is recognised as this message. -/
theorem recognise_message {m : MessageLine} (spaced : Bool) (ht : '\n' ∉ m.text.chars) :
    Statement.recognise (String.ofList (m.chars spaced)) = .ok (.message m.read) := by
  have h := led_chars m spaced
  rw [recognise_plain h.declaration?_eq_none h.note?_eq_none]
  unfold Statement.plain
  rw [h.plain?_eq, message?_chars spaced ht]
  rfl

/-! ## Notes -/

/-- Where a note stands. -/
inductive Anchor where
  | leftOf (n : Name)
  | rightOf (n : Name)
  | above (n : Name)
  | across (n n' : Name)

namespace Anchor

/-- The position of a note. -/
def position : Anchor → Position
  | leftOf _ => .leftOf
  | rightOf _ => .rightOf
  | above _ | across _ _ => .above

/-- The participants of a note. -/
def names : Anchor → List Name
  | leftOf n | rightOf n | above n => [n]
  | across n n' => [n, n']

/-- The participants, as they are written. -/
def chars : Anchor → List Char
  | leftOf n | rightOf n | above n => n.chars
  | across n n' => n.chars ++ ',' :: n'.chars

end Anchor

/-- What the line of a note says. -/
structure NoteLine where
  anchor : Anchor
  text : Phrase

/-- The line of a note. -/
def NoteLine.chars (n : NoteLine) (spaced : Bool) : List Char :=
  "Note ".toList ++ (n.anchor.position.phrase.toList ++
    ' ' :: (n.anchor.chars ++ ':' :: n.text.behind spaced))

theorem NoteLine.mem_chars {n : NoteLine} (spaced : Bool) {c : Char} (h : c ∈ n.text.chars) :
    c ∈ n.chars spaced :=
  List.mem_append_right _ (List.mem_append_right _ (List.mem_cons_of_mem _
    (List.mem_append_right _ (List.mem_cons_of_mem _ (Phrase.mem_behind h)))))

/-- A name behind a blank is found by trimming. -/
theorem Name.trim_blank (n : Name) : trim (' ' :: n.chars) = n.chars := by
  obtain ⟨c, r, hchars⟩ := List.exists_cons_of_ne_nil n.ne_nil
  have hsolid := n.solid
  rw [hchars] at hsolid ⊢
  obtain ⟨hc, hr⟩ := List.forall_mem_cons.1 hsolid
  have hblank : ∀ d ∈ [' '], isBlank d = true := List.forall_mem_singleton.2 rfl
  exact (trim_append hblank hc r).trans (by rw [trimEnd_of_solid hr])

theorem Name.no_comma (n : Name) : ∀ c ∈ n.chars, (c == ',') = false := by
  intro c hc
  simpa using ne_of_isWord (n.word c hc) (by decide)

theorem fields_anchor (a : Anchor) : fields (' ' :: a.chars) = a.names.map (·.chars) := by
  have hone : ∀ n : Name, fields (' ' :: n.chars) = [n.chars] := by
    intro n
    have hsplit : splitOn ',' (' ' :: n.chars) = [' ' :: n.chars] :=
      splitWhere_of_forall (List.forall_mem_cons.2 ⟨rfl, n.no_comma⟩)
    unfold fields
    simp [hsplit, n.trim_blank, n.ne_nil]
  cases a with
  | leftOf n => exact hone n
  | rightOf n => exact hone n
  | above n => exact hone n
  | across n n' =>
    have hsplit : splitOn ',' (' ' :: (n.chars ++ ',' :: n'.chars)) =
        [' ' :: n.chars, n'.chars] := by
      refine (splitWhere_append_cons (s := ' ' :: n.chars)
        (List.forall_mem_cons.2 ⟨rfl, n.no_comma⟩) rfl n'.chars).trans ?_
      rw [splitWhere_of_forall n'.no_comma]
    show fields (' ' :: (n.chars ++ ',' :: n'.chars)) = [n.chars, n'.chars]
    unfold fields
    simp [hsplit, n.trim_blank, trim_of_solid n'.solid, n.ne_nil, n'.ne_nil]

theorem Anchor.no_colon (a : Anchor) : ∀ c ∈ ' ' :: a.chars, (c != ':') = true := by
  have hacross : ∀ n n' : Name, ∀ c ∈ n.chars ++ ',' :: n'.chars, (c != ':') = true := by
    intro n n' c hc
    rcases List.mem_append.1 hc with hc | hc
    · exact n.no_colon c hc
    · rcases List.mem_cons.1 hc with rfl | hc
      · rfl
      · exact n'.no_colon c hc
  refine List.forall_mem_cons.2 ⟨rfl, ?_⟩
  cases a with
  | leftOf n => exact n.no_colon
  | rightOf n => exact n.no_colon
  | above n => exact n.no_colon
  | across n n' => exact hacross n n'

theorem Anchor.chars_cons (a : Anchor) : ∃ c r, a.chars = c :: r := by
  cases a with
  | leftOf n => exact List.exists_cons_of_ne_nil n.ne_nil
  | rightOf n => exact List.exists_cons_of_ne_nil n.ne_nil
  | above n => exact List.exists_cons_of_ne_nil n.ne_nil
  | across n n' =>
    exact List.exists_cons_of_ne_nil fun h => n.ne_nil (List.append_eq_nil_iff.1 h).1

theorem noteEnd?_anchor (a : Anchor) {t : Phrase} (spaced : Bool) (ht : '\n' ∉ t.chars) :
    noteEnd? (' ' :: (a.chars ++ ':' :: t.behind spaced)) =
      some (a.names.map (·.chars), t.chars) := by
  have htake := takeWhile_append_cons (d := ':') a.no_colon rfl (t.behind spaced)
  have hdrop := dropWhile_append_cons (d := ':') a.no_colon rfl (t.behind spaced)
  have hfields := fields_anchor a
  obtain ⟨c, r, hchars⟩ := a.chars_cons
  rw [hchars] at htake hdrop hfields ⊢
  rw [List.cons_append] at htake hdrop
  unfold noteEnd?
  rw [htake, hdrop]
  show (lineRest? (trimStart (t.behind spaced))).map (fields (' ' :: c :: r), ·) = _
  rw [hfields, t.trimStart_behind, lineRest?_of_notMem ht]
  rfl

theorem phrase_cons (p : Position) : ∃ c r, p.phrase.toList = c :: r ∧ isBlank c = false := by
  cases p <;> exact ⟨_, _, rfl, rfl⟩

/-- A position is read as itself, since the positions start with different letters. -/
theorem findSome?_position (p : Position) {tail text : List Char} {ids : List (List Char)}
    (h : noteEnd? tail = some (ids, text)) :
    (Position.all.findSome? fun position => do
      let (spelled, rest) ← caseless? position.phrase.toList (p.phrase.toList ++ tail)
      let (ids, text) ← noteEnd? rest
      return ({ spelled, position, ids, text } : NoteText)) =
      some { spelled := p.phrase.toList, position := p, ids, text } := by
  have hself : caseless? p.phrase.toList (p.phrase.toList ++ tail) = some (p.phrase.toList, tail) :=
    caseless?_eq_some_iff.2 ⟨rfl, rfl⟩
  have hother : ∀ q : Position, q ≠ p →
      caseless? q.phrase.toList (p.phrase.toList ++ tail) = none := by
    intro q hq
    cases q <;> cases p <;> first | exact absurd rfl hq | exact if_neg (by decide)
  cases p with
  | leftOf => simp [Position.all, hself, h]
  | rightOf => simp [Position.all, hself, h, hother .leftOf]
  | above => simp [Position.all, hself, h, hother .leftOf, hother .rightOf]

/-- A note is read back from its line. -/
theorem note?_chars {n : NoteLine} (spaced : Bool) (ht : '\n' ∉ n.text.chars) :
    note? (n.chars spaced) =
      some { spelled := n.anchor.position.phrase.toList, position := n.anchor.position,
             ids := n.anchor.names.map (·.chars), text := n.text.chars } := by
  have hend := noteEnd?_anchor n.anchor spaced ht
  generalize htail : ' ' :: (n.anchor.chars ++ ':' :: n.text.behind spaced) = tail at hend
  have hfold : "Note".toList.map fold = "note".toList.map fold := by decide
  have hnote : caselessRest? "note".toList (n.chars spaced) =
      some (' ' :: (n.anchor.position.phrase.toList ++ tail)) := by
    unfold NoteLine.chars
    rw [htail]
    exact congrArg (Option.map (·.2)) (caseless?_eq_some_iff.2 ⟨rfl, hfold⟩)
  have hgap : gap? (' ' :: (n.anchor.position.phrase.toList ++ tail)) =
      some (n.anchor.position.phrase.toList ++ tail) := by
    obtain ⟨c, r, hphrase, hc⟩ := phrase_cons n.anchor.position
    refine congrArg some (trimStart_of_head fun d hd => ?_)
    rw [hphrase] at hd
    cases hd
    exact hc
  unfold note?
  rw [hnote, Option.bind_eq_bind, Option.bind_some, hgap, Option.bind_eq_bind, Option.bind_some]
  exact findSome?_position n.anchor.position hend

/-- **Notes.** The line of a note is recognised as this note. -/
theorem recognise_note {n : NoteLine} (spaced : Bool) (ht : '\n' ∉ n.text.chars) :
    Statement.recognise (String.ofList (n.chars spaced)) =
      .ok (.note n.anchor.position n.anchor.position.phrase (n.anchor.names.map Name.id)
        n.text.string) := by
  have hnote := note?_chars spaced ht
  have hposition : n.anchor.position.ofSpelled n.anchor.position.phrase.toList =
      .ok n.anchor.position := by
    cases n.anchor.position <;> decide
  unfold Statement.recognise
  dsimp only
  rw [String.toList_ofList, declaration?_of_note? hnote, hnote]
  dsimp only
  rw [hposition, n.text.trimmed, String.ofList_toList, List.map_map]
  rfl

/-! ## Blocks and dividers -/

/-- Neither text goes on as the other one, so that no text starts with both. -/
def Apart (w v : List Char) : Prop := ¬ w <+: v ∧ ¬ v <+: w

instance (w v : List Char) : Decidable (Apart w v) := inferInstanceAs (Decidable (_ ∧ _))

section

variable {spaced : Bool} {t : Phrase} {w v : List Char}

/-- A keyword is not found in front of another one.  The keyword that stands there ends at a blank
or at the end of the line, so it may well be how the other one starts. -/
theorem Apart.literal?_behind (h : Apart w (v ++ [' '])) :
    literal? w (v ++ t.behind spaced) = none := by
  cases hu : literal? w (v ++ t.behind spaced) with
  | none => rfl
  | some u =>
    have hw : w <+: v ++ t.behind spaced := ⟨u, (literal?_eq_some_iff.1 hu).symm⟩
    rcases t.behind_cases spaced with ⟨hbehind, -⟩ | hbehind
    · rw [hbehind, List.append_nil] at hw
      exact absurd (hw.trans (List.prefix_append v [' '])) h.1
    · have hv : v ++ [' '] <+: v ++ t.behind spaced := by
        rw [hbehind]
        exact ⟨t.chars, List.append_assoc v [' '] t.chars⟩
      exact absurd (List.prefix_or_prefix_of_prefix hw hv) (not_or.2 h)

theorem declaration?_of_apart (hparticipant : Apart "participant".toList (v ++ [' ']))
    (hactor : Apart "actor".toList (v ++ [' '])) : declaration? (v ++ t.behind spaced) = none := by
  unfold declaration?
  rw [hparticipant.literal?_behind, hactor.literal?_behind]
  rfl

theorem note?_of_caseless {s : List Char} (h : caseless? "note".toList s = none) :
    note? s = none := by
  unfold note? caselessRest?
  rw [h]
  rfl

variable {κ : Type} {all : List κ} {name : κ → String}

theorem headed?_of_apart (h : ∀ k ∈ all, Apart (name k).toList (v ++ [' '])) :
    headed? all name (v ++ t.behind spaced) = none := by
  refine List.findSome?_eq_none_iff.2 fun k hk => ?_
  rw [(h k hk).literal?_behind]
  rfl

/-- A keyword that is apart from all others is found with the text behind it. -/
theorem headed?_keyword {k : κ} (hk : k ∈ all)
    (hother : ∀ j ∈ all, j = k ∨ Apart (name j).toList ((name k).toList ++ [' ']))
    (ht : '\n' ∉ t.chars) :
    headed? all name ((name k).toList ++ t.behind spaced) = some (k, t.string) := by
  have hself : literal? (name k).toList ((name k).toList ++ t.behind spaced) =
      some (t.behind spaced) := literal?_eq_some_iff.2 rfl
  have hfound : (do
      let text ← textEnd? (← literal? (name k).toList ((name k).toList ++ t.behind spaced))
      return (k, String.ofList (trim text))) = some (k, t.string) := by
    rw [hself, Option.bind_eq_bind, Option.bind_some, Phrase.textEnd?_behind spaced ht,
      Option.bind_some, t.trimmed]
    rfl
  unfold headed?
  induction all with
  | nil => cases hk
  | cons j js ih =>
    obtain ⟨hj, hjs⟩ := List.forall_mem_cons.1 hother
    rcases hj with rfl | hj
    · rw [List.findSome?_cons, hfound]
    · have hne : k ≠ j := by
        rintro rfl
        exact hj.1 (List.prefix_append _ _)
      rw [List.findSome?_cons, hj.literal?_behind]
      exact ih ((List.mem_cons.1 hk).resolve_left hne) hjs

/-- **Blocks.** The opening line of a block is recognised as this opening. -/
theorem recognise_block (spaced : Bool) (kind : BlockKind) (ht : '\n' ∉ t.chars) :
    Statement.recognise (String.ofList (kind.name.toList ++ t.behind spaced)) =
      .ok (.block kind t.string) := by
  have hdeclaration : declaration? (kind.name.toList ++ t.behind spaced) = none := by
    refine declaration?_of_apart ?_ ?_
    · cases kind <;> decide
    · cases kind <;> decide
  have hnote : note? (kind.name.toList ++ t.behind spaced) = none := by
    refine note?_of_caseless ?_
    cases kind <;> exact if_neg (by decide)
  have hbox : headed? [()] (fun _ => "box") (kind.name.toList ++ t.behind spaced) = none := by
    refine headed?_of_apart ?_
    cases kind <;> decide
  have hkind : headed? BlockKind.all BlockKind.name (kind.name.toList ++ t.behind spaced) =
      some (kind, t.string) := by
    refine headed?_keyword ?_ ?_ ht
    · cases kind <;> decide
    · cases kind <;> decide
  rw [recognise_plain hdeclaration hnote]
  unfold Statement.plain Statement.plain?
  rw [hbox, hkind]
  rfl

/-- **Dividers.** The line of a divider is recognised as this divider. -/
theorem recognise_divide (spaced : Bool) (divider : Divider) (ht : '\n' ∉ t.chars) :
    Statement.recognise (String.ofList (divider.name.toList ++ t.behind spaced)) =
      .ok (.divide divider t.string) := by
  have hdeclaration : declaration? (divider.name.toList ++ t.behind spaced) = none := by
    refine declaration?_of_apart ?_ ?_
    · cases divider <;> decide
    · cases divider <;> decide
  have hnote : note? (divider.name.toList ++ t.behind spaced) = none := by
    refine note?_of_caseless ?_
    cases divider <;> exact if_neg (by decide)
  have hbox : headed? [()] (fun _ => "box") (divider.name.toList ++ t.behind spaced) = none := by
    refine headed?_of_apart ?_
    cases divider <;> decide
  have hkind : headed? BlockKind.all BlockKind.name (divider.name.toList ++ t.behind spaced) =
      none := by
    have hapart : ∀ k ∈ BlockKind.all,
        Apart k.name.toList (divider.name.toList ++ [' ']) ∨ k = .opt ∧ divider = .option := by
      cases divider <;> decide
    refine List.findSome?_eq_none_iff.2 fun k hk => ?_
    rcases hapart k hk with hk | ⟨rfl, rfl⟩
    · rw [hk.literal?_behind]
      rfl
    · -- This keyword is how the divider starts, and then a letter follows.
      have hletter : literal? "opt".toList ("option".toList ++ t.behind spaced) =
          some ('i' :: 'o' :: 'n' :: t.behind spaced) := literal?_eq_some_iff.2 rfl
      show (do
        let text ← textEnd? (← literal? "opt".toList ("option".toList ++ t.behind spaced))
        return (BlockKind.opt, String.ofList (trim text))) = none
      rw [hletter, Option.bind_eq_bind, Option.bind_some, textEnd?_of_solid (by decide)]
      rfl
  have hdivider : headed? Divider.all Divider.name (divider.name.toList ++ t.behind spaced) =
      some (divider, t.string) := by
    refine headed?_keyword ?_ ?_ ht
    · cases divider <;> decide
    · cases divider <;> decide
  rw [recognise_plain hdeclaration hnote]
  unfold Statement.plain Statement.plain?
  rw [hbox, hkind, hdivider]
  rfl

end

end DiagramText.Sequence
