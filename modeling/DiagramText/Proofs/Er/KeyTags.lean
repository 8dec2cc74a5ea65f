import DiagramText.Er.Parse
import DiagramText.Proofs.Text.Words

/-!
# Key constraints of an attribute

Behind the type and the name of an attribute stand key words and possibly a comment.  The comment is
cut out wherever it stands, and of the words only matters which key constraints they name: not their
order, how often they stand there, and their letter case.

1. `AttributeText`, the parts of an attribute, with the texts that spell its key words and its
   comment, and what it is read as.
2. The key words are the parts of a text, with a comment cut out or not.
3. The type and the name in front of them.
4. The key constraints that words spell, and `key_tags_are_a_set`.
-/

namespace DiagramText.Er

open Source (Line)
open Text

/-! ## Written attributes -/

/-- What may stand between key words: blanks and commas. -/
def isKeySeparator (c : Char) : Bool := isBlank c || c == ','

/-- A text of letters. -/
def IsKeyWord (w : List Char) : Prop := w ≠ [] ∧ ∀ c ∈ w, c.isAlpha = true

instance (w : List Char) : Decidable (IsKeyWord w) := inferInstanceAs (Decidable (_ ∧ _))

/-- A text of key words, with separators between them, and possibly around them. -/
inductive Lists : List (List Char) → List Char → Prop
  | nil : Lists [] []
  | separator {c : Char} {ws : List (List Char)} {s : List Char} (hc : isKeySeparator c = true)
      (hs : Lists ws s) : Lists ws (c :: s)
  | word {w : List Char} {ws : List (List Char)} {s : List Char} (hw : IsKeyWord w)
      (hbehind : ∀ c ∈ s.head?, isKeySeparator c = true) (hs : Lists ws s) :
      Lists (w :: ws) (w ++ s)

/-- A text of key words with a comment or none among them; a blank or nothing stands on either side
of a comment. -/
inductive Constrains : List (List Char) → Option (List Char) → List Char → Prop
  | bare {ws : List (List Char)} {s : List Char} (hs : Lists ws s) : Constrains ws none s
  | commented {ws ws' : List (List Char)} {front comment back : List Char}
      (hfront : Lists ws front) (hback : Lists ws' back) (hcomment : '"' ∉ comment)
      (hblank : ∀ c ∈ front.getLast?, isBlank c = true)
      (hblank' : ∀ c ∈ back.head?, isBlank c = true) :
      Constrains (ws ++ ws') (some comment) (front ++ '"' :: (comment ++ '"' :: back))

/-- An attribute: its type and its name with a gap between them, its key words and its comment, and
the text behind the name that spells these. -/
structure AttributeText where
  type : List Char
  gap : List Char
  name : List Char
  keyWords : List (List Char)
  comment : Option (List Char)
  behind : List Char

/-- Whether a word spells a key constraint, in whichever letter case. -/
def KeyTag.SpelledBy (t : KeyTag) (w : List Char) : Prop := upper w = t.name.toList

instance (t : KeyTag) (w : List Char) : Decidable (t.SpelledBy w) :=
  inferInstanceAs (Decidable (_ = _))

namespace AttributeText

variable (a : AttributeText)

/-- The attribute as it is written. -/
def written : List Char := a.type ++ (a.gap ++ (a.name ++ a.behind))

/-- The type and the name are solid, and what stands behind the name spells the key words and the
comment. -/
structure IsLegal : Prop where
  type_solid : IsSolid a.type
  gap : IsGap a.gap
  name_solid : IsSolid a.name
  name_ends : ∀ c ∈ a.behind.head?, isBlank c = true
  behind : Constrains a.keyWords a.comment a.behind

/-- The attribute is on a line of its own. -/
structure IsLine : Prop where
  /-- From the first key word or comment on, there is no line feed. -/
  unbroken : '\n' ∉ trimStart a.behind
  /-- If only blanks follow the name, no line feed is among them, and there is not just one. -/
  several : trimStart a.behind = [] → '\n' ∉ a.behind ∧ a.behind.length ≠ 1

/-- Whether one of the key words spells a key constraint. -/
def Names (t : KeyTag) : Prop := ∃ w ∈ a.keyWords, t.SpelledBy w

instance (t : KeyTag) : Decidable (a.Names t) := inferInstanceAs (Decidable (∃ w ∈ _, _))

/-- The key words that spell no key constraint. -/
def unknown : List (List Char) := a.keyWords.filter fun w => ∀ t ∈ KeyTag.all, ¬ t.SpelledBy w

/-- The attribute that is written. -/
def value : Attribute where
  type := String.ofList a.type
  name := String.ofList a.name
  keyTags := KeyTag.all.filter a.Names
  comment := a.comment.map String.ofList

/-- The reports of the unknown key words of an attribute on a line. -/
def reports (l : Line) : List (Report Problem) :=
  a.unknown.map fun w => l.report (.unknownKey (String.ofList w) (String.ofList a.name))

/-- How the attribute is read. -/
structure IsRead : Prop where
  value : attribute? (String.ofList a.written) = some ⟨a.value, a.unknown.map String.ofList⟩
  added : ∀ (l : Line) (st : State) (owner : String), l.text = String.ofList a.written →
    st.addAttribute l owner =
      { st with
        entities := st.entities.modify owner fun e =>
          { e with attributes := e.attributes ++ [a.value] }
        reports := st.reports ++ a.reports l }
  warned : ∀ l, ∀ r ∈ a.reports l, Describe.severity r.problem = .warning

/-- Attributes that say the same: key words that name the same key constraints, behind the same
type and name, and the same comment. -/
structure Agrees (b : AttributeText) : Prop where
  type : a.type = b.type
  name : a.name = b.name
  comment : a.comment = b.comment
  names : ∀ t, a.Names t ↔ b.Names t

end AttributeText

/-! ## Key words -/

theorem isBlank_of_isAlpha {c : Char} (h : c.isAlpha = true) : isBlank c = false := by
  by_contra hblank
  have halpha : c.isAlpha = false :=
    forall_isBlank (P := (Char.isAlpha · = false)) (by decide +kernel) (by simpa using hblank)
  rw [h] at halpha
  cases halpha

theorem not_isKeySeparator_of_isAlpha {c : Char} (h : c.isAlpha = true) :
    isKeySeparator c = false := by
  have hcomma : c ≠ ',' := by
    rintro rfl
    exact absurd h (by decide)
  simp [isKeySeparator, isBlank_of_isAlpha h, hcomma]

theorem isKeySeparator_of_isBlank {c : Char} (h : isBlank c = true) : isKeySeparator c = true := by
  simp [isKeySeparator, h]

/-- The key words are the parts of a text of key words. -/
theorem Lists.parts_eq {ws : List (List Char)} {s : List Char} (h : Lists ws s) :
    parts isKeySeparator s = ws := by
  induction h with
  | nil => rfl
  | separator hc _ ih => rw [parts_separator hc, ih]
  | @word w ws s hw hbehind _ ih =>
    have hsolid : ∀ c ∈ w, isKeySeparator c = false := fun c hc =>
      not_isKeySeparator_of_isAlpha (hw.2 c hc)
    rw [parts_append_of_head w hbehind, parts_of_forall hw.1 hsolid, ih]
    rfl

theorem Lists.quote_notMem {ws : List (List Char)} {s : List Char} (h : Lists ws s) : '"' ∉ s := by
  induction h with
  | nil => exact List.not_mem_nil
  | separator hc _ ih =>
    refine List.not_mem_cons_of_ne_of_not_mem ?_ ih
    rintro rfl
    exact absurd hc (by decide)
  | word hw _ _ ih =>
    refine fun hmem => (List.mem_append.1 hmem).elim (fun hmem => ?_) ih
    exact absurd (hw.2 _ hmem) (by decide)

/-! ## The comment -/

/-- The first comment of a text, and the text around it. -/
theorem comment?_append {front comment : List Char} (hfront : '"' ∉ front)
    (hcomment : '"' ∉ comment) (back : List Char) :
    comment? (front ++ '"' :: (comment ++ '"' :: back)) = some (comment, front ++ back) := by
  have hquote : ('"' != '"') = false := by decide
  have hfront := bne_of_notMem hfront
  have hcomment := bne_of_notMem hcomment
  rw [comment?, dropWhile_append_cons hfront hquote]
  simp only [dropWhile_append_cons hcomment hquote, takeWhile_append_cons hcomment hquote,
    takeWhile_append_cons hfront hquote]

theorem comment?_eq_none {s : List Char} (h : '"' ∉ s) : comment? s = none := by
  rw [comment?, dropWhile_of_notMem h]

/-- The comment and the text without it, where the ends of both are trimmed. -/
def cutComment (s : List Char) : Option (List Char) × List Char :=
  match comment? (trim s) with
  | some (c, around) => (some c, trim around)
  | none => (none, trim s)

/-- Cutting out the comment leaves the key words on both sides of it. -/
theorem Constrains.cutComment_eq {ws : List (List Char)} {comment : Option (List Char)}
    {s : List Char} (h : Constrains ws comment s) :
    (cutComment s).1 = comment ∧ parts isKeySeparator (cutComment s).2 = ws := by
  have hsep : ∀ c, isBlank c = true → isKeySeparator c = true := fun c => isKeySeparator_of_isBlank
  cases h with
  | bare hs =>
    have hquote : '"' ∉ trim s := fun hmem => hs.quote_notMem ((trim_isInfix s).subset hmem)
    rw [cutComment, comment?_eq_none hquote]
    exact ⟨rfl, (parts_trim hsep s).trans hs.parts_eq⟩
  | @commented ws ws' front comment back hfront hback hcomment hblank hblank' =>
    have hsolid : isBlank '"' = false := by decide
    have htrim : trim (front ++ '"' :: (comment ++ '"' :: back)) =
        trimStart front ++ '"' :: (comment ++ '"' :: trimEnd back) := by
      rw [trim, trimStart_append_solid hsolid, trimEnd_append_solid hsolid,
        trimEnd_append_solid hsolid]
    have hquote : '"' ∉ trimStart front := fun hmem =>
      hfront.quote_notMem ((trimStart_isSuffix front).subset hmem)
    have hhead : ∀ c ∈ (trimEnd back).head?, isKeySeparator c = true := fun c hc =>
      hsep c (hblank' c (mem_head?_of_trimEnd hc))
    rw [cutComment, htrim, comment?_append hquote hcomment]
    refine ⟨rfl, ?_⟩
    calc parts isKeySeparator (trim (trimStart front ++ trimEnd back))
        = parts isKeySeparator (trimStart front ++ trimEnd back) := parts_trim hsep _
      _ = parts isKeySeparator (trimStart front) ++ parts isKeySeparator (trimEnd back) :=
          parts_append_of_head _ hhead
      _ = parts isKeySeparator front ++ parts isKeySeparator back := by
          rw [parts_trimStart hsep, parts_trimEnd hsep]
      _ = ws ++ ws' := by rw [hfront.parts_eq, hback.parts_eq]

/-! ## Type and name -/

namespace AttributeText

variable {a : AttributeText}

theorem IsLegal.typeAndName?_written (h : a.IsLegal) (hline : a.IsLine) :
    typeAndName? a.written = some (a.type, a.name, trim a.behind) := by
  have hsolid {w : List Char} (hw : IsSolid w) : ∀ c ∈ w, (!isBlank c) = true := fun c hc => by
    simp [hw.2 c hc]
  have hgap : ∀ c ∈ (a.gap ++ (a.name ++ a.behind)).head?, (!isBlank c) = false := by
    intro c hc
    rw [List.head?_append_of_ne_nil _ h.gap.1] at hc
    simp [h.gap.2 c (List.mem_of_mem_head? hc)]
  have hname : ∀ c ∈ (a.name ++ a.behind).head?, isBlank c = false := by
    intro c hc
    rw [List.head?_append_of_ne_nil _ h.name_solid.1] at hc
    exact h.name_solid.2 c (List.mem_of_mem_head? hc)
  have hbehind : ∀ c ∈ a.behind.head?, (!isBlank c) = false := fun c hc => by
    simp [h.name_ends c hc]
  obtain ⟨r, hr, hrest⟩ := exists_restEnd? h.name_ends hline.unbroken hline.several
  have htype := takeWhile_append_of_head (hsolid h.type_solid) hgap
  have hafter := dropWhile_append_of_head (hsolid h.type_solid) hgap
  have hname' := takeWhile_append_of_head (hsolid h.name_solid) hbehind
  have hafter' := dropWhile_append_of_head (hsolid h.name_solid) hbehind
  rw [typeAndName?, written]
  simp only [htype, hafter, gap?_append h.gap hname, Option.bind_eq_bind, Option.bind_some, hname',
    hafter', hr, hrest]
  simp [h.type_solid.1, h.name_solid.1]

end AttributeText

/-! ## Key constraints -/

theorem KeyTag.mem_all (t : KeyTag) : t ∈ all := by cases t <;> decide

theorem KeyTag.ofName?_eq_some_iff {s : String} {t : KeyTag} : ofName? s = some t ↔ t.name = s := by
  constructor
  · intro h
    simpa using List.find?_some h
  · rintro rfl
    cases t <;> rfl

/-- The key constraint that a word spells, by its spelling in capitals. -/
def KeyTag.ofWord? (w : List Char) : Option KeyTag := ofName? (String.ofList (upper w))

theorem KeyTag.ofWord?_eq_some_iff {w : List Char} {t : KeyTag} :
    ofWord? w = some t ↔ t.SpelledBy w := by
  rw [ofWord?, ofName?_eq_some_iff, SpelledBy, ← String.toList_inj, String.toList_ofList]
  exact eq_comm

theorem KeyTag.isNone_ofWord?_iff {w : List Char} :
    (ofWord? w).isNone = true ↔ ∀ t ∈ all, ¬ t.SpelledBy w := by
  rw [Option.isNone_iff_eq_none, Option.eq_none_iff_forall_ne_some]
  constructor
  · exact fun h t _ hw => h t (ofWord?_eq_some_iff.2 hw)
  · exact fun h t ht => h t t.mem_all (ofWord?_eq_some_iff.1 ht)

/-- The attribute with the given type, name and comment, of which key words say the rest. -/
def AttributeLine.ofWords (type name : List Char) (comment : Option (List Char))
    (ws : List (List Char)) : AttributeLine where
  value :=
    { type := String.ofList type, name := String.ofList name
      keyTags := KeyTag.all.filter (ws.filterMap KeyTag.ofWord?).contains
      comment := comment.map String.ofList }
  unknown := (ws.filter fun w => (KeyTag.ofWord? w).isNone).map String.ofList

/-- Behind the type and the name, only the comment and the key words matter. -/
theorem attribute?_of_typeAndName? {text : String} {type name s : List Char}
    (h : typeAndName? text.toList = some (type, name, trim s)) :
    attribute? text = some
      (.ofWords type name (cutComment s).1 (parts isKeySeparator (cutComment s).2)) := by
  rw [attribute?, h, cutComment]
  simp only [Option.bind_eq_bind, Option.bind_some]
  cases comment? (trim s) <;> rfl

/-! ## Attributes -/

namespace AttributeText

variable {a : AttributeText}

/-- The attribute is what its parts say. -/
theorem IsLegal.attribute?_written (h : a.IsLegal) (hline : a.IsLine) :
    attribute? (String.ofList a.written) = some ⟨a.value, a.unknown.map String.ofList⟩ := by
  have hparts := h.typeAndName?_written hline
  rw [← String.toList_ofList (l := a.written)] at hparts
  obtain ⟨hcomment, hwords⟩ := h.behind.cutComment_eq
  have hnames : KeyTag.all.filter (a.keyWords.filterMap KeyTag.ofWord?).contains =
      KeyTag.all.filter a.Names := by
    refine List.filter_congr fun t _ => ?_
    rw [Bool.eq_iff_iff, List.contains_iff_mem, List.mem_filterMap, decide_eq_true_iff]
    simp only [KeyTag.ofWord?_eq_some_iff, Names]
  have hunknown : (a.keyWords.filter fun w => (KeyTag.ofWord? w).isNone) = a.unknown := by
    refine List.filter_congr fun w _ => ?_
    rw [Bool.eq_iff_iff, KeyTag.isNone_ofWord?_iff, decide_eq_true_iff]
  rw [attribute?_of_typeAndName? hparts, hcomment, hwords, AttributeLine.ofWords, hnames, hunknown,
    value]

/-- Key words say the same in whichever order, number and letter case they stand. -/
theorem Agrees.of_upper {b : AttributeText} (htype : a.type = b.type) (hname : a.name = b.name)
    (hcomment : a.comment = b.comment)
    (hwords : ∀ w ∈ a.keyWords, upper w ∈ b.keyWords.map upper)
    (hwords' : ∀ w ∈ b.keyWords, upper w ∈ a.keyWords.map upper) : a.Agrees b := by
  have hnames {a b : AttributeText} (h : ∀ w ∈ a.keyWords, upper w ∈ b.keyWords.map upper)
      {t : KeyTag} (ht : a.Names t) : b.Names t := by
    obtain ⟨w, hw, hspelled⟩ := ht
    obtain ⟨v, hv, hupper⟩ := List.mem_map.1 (h w hw)
    exact ⟨v, hv, hupper.trans hspelled⟩
  exact ⟨htype, hname, hcomment, fun t => ⟨hnames hwords, hnames hwords'⟩⟩

theorem Agrees.value_eq {b : AttributeText} (h : a.Agrees b) : a.value = b.value := by
  simp only [value, h.type, h.name, h.comment, h.names]

theorem IsLegal.isRead (h : a.IsLegal) (hline : a.IsLine) : a.IsRead := by
  have hvalue := h.attribute?_written hline
  refine ⟨hvalue, fun l st owner htext => ?_, fun l r hr => ?_⟩
  · rw [State.addAttribute, htext, hvalue]
    simp [State.reportAll, reports, value]
  · obtain ⟨w, -, rfl⟩ := List.mem_map.1 hr
    rfl

end AttributeText

/-- **Key constraints are a set.** An attribute is read with its type, its name and its comment, and
with the key constraints that its key words name; every other key word is reported.  Attributes that
agree in these are read alike, wherever the comment and the key words stand. -/
theorem key_tags_are_a_set {a : AttributeText} (h : a.IsLegal) (hline : a.IsLine) :
    a.IsRead ∧ ∀ b : AttributeText, b.IsLegal → b.IsLine → a.Agrees b →
      (attribute? (String.ofList b.written)).map (·.value) =
        (attribute? (String.ofList a.written)).map (·.value) := by
  refine ⟨h.isRead hline, fun b hb hline' hagrees => ?_⟩
  rw [h.attribute?_written hline, hb.attribute?_written hline']
  simp only [Option.map_some, hagrees.value_eq]

/-- An attribute with its comment between key words of which one is repeated and one is unknown. -/
def mixedKeys : AttributeText where
  type := "string".toList
  gap := [' ', ' ']
  name := "id,".toList
  keyWords := ["pk".toList, "Fk".toList, "PK".toList, "key".toList]
  comment := some "the, PK".toList
  behind := [' '] ++ ("pk".toList ++ [',', ' ']) ++ '"' :: ("the, PK".toList ++ '"' ::
    ([' '] ++ ("Fk".toList ++ (',' :: ("PK".toList ++ (' ' :: ("key".toList ++ [])))))))

/-- The same with the comment in front of the key words, which stand in another order and case. -/
def sortedKeys : AttributeText where
  type := "string".toList
  gap := [' ']
  name := "id,".toList
  keyWords := ["FK".toList, "KEY".toList, "PK".toList]
  comment := some "the, PK".toList
  behind := [' '] ++ '"' :: ("the, PK".toList ++ '"' ::
    ([' '] ++ ("FK".toList ++ (' ' :: ("KEY".toList ++ (' ' :: ("PK".toList ++ [])))))))

theorem key_tags_are_a_set_mixed :
    (mixedKeys.IsLegal ∧ mixedKeys.IsLine) ∧ (sortedKeys.IsLegal ∧ sortedKeys.IsLine) ∧
      mixedKeys.Agrees sortedKeys ∧ mixedKeys.IsRead ∧
      (attribute? (String.ofList sortedKeys.written)).map (·.value) =
        (attribute? (String.ofList mixedKeys.written)).map (·.value) := by
  have hmixed : mixedKeys.IsLegal := by
    have hfront : Lists ["pk".toList] ([' '] ++ ("pk".toList ++ [',', ' '])) :=
      .separator (by decide) (.word (by decide) (by decide)
        (.separator (by decide) (.separator (by decide) .nil)))
    have hback : Lists ["Fk".toList, "PK".toList, "key".toList] ([' '] ++ ("Fk".toList ++
        (',' :: ("PK".toList ++ (' ' :: ("key".toList ++ [])))))) :=
      .separator (by decide) (.word (by decide) (by decide) (.separator (by decide)
        (.word (by decide) (by decide) (.separator (by decide)
          (.word (by decide) (by decide) .nil)))))
    refine ⟨by decide, by decide, by decide, by decide, ?_⟩
    exact .commented hfront hback (by decide) (by decide) (by decide)
  have hsorted : sortedKeys.IsLegal := by
    have hfront : Lists [] [' '] := .separator (by decide) .nil
    have hback : Lists ["FK".toList, "KEY".toList, "PK".toList] ([' '] ++ ("FK".toList ++
        (' ' :: ("KEY".toList ++ (' ' :: ("PK".toList ++ [])))))) :=
      .separator (by decide) (.word (by decide) (by decide) (.separator (by decide)
        (.word (by decide) (by decide) (.separator (by decide)
          (.word (by decide) (by decide) .nil)))))
    refine ⟨by decide, by decide, by decide, by decide, ?_⟩
    exact .commented hfront hback (by decide) (by decide) (by decide)
  have hline : mixedKeys.IsLine := ⟨by decide, by decide⟩
  have hline' : sortedKeys.IsLine := ⟨by decide, by decide⟩
  have hagrees : mixedKeys.Agrees sortedKeys := .of_upper rfl rfl rfl (by decide) (by decide)
  obtain ⟨hread, hsame⟩ := key_tags_are_a_set hmixed hline
  exact ⟨⟨hmixed, hline⟩, ⟨hsorted, hline'⟩, hagrees, hread,
    hsame sortedKeys hsorted hline' hagrees⟩

/-- An attribute with a line feed between its key words. -/
def brokenKeys : AttributeText where
  type := "string".toList
  gap := [' ']
  name := "id".toList
  keyWords := ["PK".toList, "FK".toList]
  comment := none
  behind := [' '] ++ ("PK".toList ++ ('\n' :: ("FK".toList ++ [])))

/-- An attribute with a blank at its end, but without key words. -/
def danglingName : AttributeText where
  type := "string".toList
  gap := [' ']
  name := "id".toList
  keyWords := []
  comment := none
  behind := [' ']

/-- Key words behind a line feed are not read, and neither is a blank behind a name. -/
theorem brokenKeys_not_isRead :
    (brokenKeys.IsLegal ∧ ¬ brokenKeys.IsRead) ∧ danglingName.IsLegal ∧ ¬ danglingName.IsRead := by
  have hnone {a : AttributeText} (h : attribute? (String.ofList a.written) = none) :
      ¬ a.IsRead := by
    intro hread
    rw [hread.value] at h
    cases h
  refine ⟨⟨⟨by decide, by decide, by decide, by decide, ?_⟩, hnone (by decide +kernel)⟩,
    ⟨by decide, by decide, by decide, by decide, ?_⟩, hnone (by decide +kernel)⟩
  · exact .bare (.separator (by decide) (.word (by decide) (by decide) (.separator (by decide)
      (.word (by decide) (by decide) .nil))))
  · exact .bare (.separator (by decide) .nil)

end DiagramText.Er
