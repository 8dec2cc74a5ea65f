import DiagramText.Proofs.Mindmap.Topics
import DiagramText.Proofs.Text.Words

/-!
# Outlines of topics

A topic is written as a label between the brackets of its shape, with an id in front that is not
kept, or as a bare label.  The brackets of some shapes are those of others the other way round, or
start with them; the rows of `brackets` are tried in order, longest openers first, so that none in
front of the right one is taken for it.

1. Ids and plain labels, `outlined`, and `IsRead`: which topic a line gives, wherever it stands.
2. `isRead_iff`: this is decided by the line alone.
3. Lines that decorate nothing, and labels without quotes.
4. The row that an outlined label is read by, and `outlines_are_recognised`.
-/

namespace DiagramText.Mindmap

open Source (Line)
open Text

/-! ## Written topics -/

/-- The signs that open and close outlines. -/
def bracketSigns : List Char := ['(', ')', '[', ']', '\x7b', '\x7d']

/-- An id in front of an outline, which may be empty. -/
structure IsIdText (s : List Char) : Prop where
  chars : ∀ c ∈ s, isBlank c = false ∧ c ∉ bracketSigns
  head : s.head? ≠ some ':'

/-- A label without brackets and quotes, and without blanks around it. -/
structure IsPlainLabel (s : List Char) : Prop where
  ne_nil : s ≠ []
  trimmed : trim s = s
  brackets : ∀ c ∈ s, c ∉ bracketSigns
  quotes : ∀ c ∈ s, c ∉ ['"', '\x60']

/-- An id and a label between the brackets of a row. -/
def outlined (row : String × String × Shape) (id label : List Char) : List Char :=
  id ++ (row.1.toList ++ (label ++ row.2.1.toList))

/-- A line with the text `s` gives a topic with the given shape and label, wherever it stands. -/
def IsRead (s : List Char) (shape : Shape) (label : List Char) : Prop :=
  ∀ (header l : Line) (above below : List Line), l.text = String.ofList s →
    ∃ t, ((parse (header :: (above ++ l :: below))).diagram.subtrees.map
        (·.value))[(topicLines above).length]? = some t ∧
      t.shape = shape ∧ t.label = String.ofList label ∧ t.line = l.number

/-! ## Lines by themselves -/

theorem topicLine?_eq_some_iff {l : Line} {n : TopicLine} : topicLine? l = some n ↔
    n.line = l ∧ Statement.recognise l.text = .topic n.shape n.label := by
  obtain ⟨line, shape, label⟩ := n
  unfold topicLine?
  cases Statement.recognise l.text with
  | topic shape' label' => simp [eq_comm]
  | icon _ | classes _ | emptyLabel => simp

/-- Which topic a line gives does not depend on the lines around it. -/
theorem isRead_iff {s : List Char} {shape : Shape} {label : List Char} : IsRead s shape label ↔
    Statement.recognise (String.ofList s) = .topic shape (String.ofList label) := by
  constructor
  · intro h
    obtain ⟨t, ht, rfl, hlabel, -⟩ :=
      h ⟨0, "", 0, 0⟩ ⟨0, String.ofList s, 0, 0⟩ [] [] rfl
    rw [map_value_subtrees] at ht
    cases hl : topicLine? ⟨0, String.ofList s, 0, 0⟩ with
    | none =>
      rw [List.tail_cons, List.nil_append, topicsFrom, hl] at ht
      cases ht
    | some n =>
      rw [List.tail_cons, getElem?_topicsFrom 0 hl] at ht
      cases ht
      rw [← hlabel]
      exact (topicLine?_eq_some_iff.1 hl).2
  · intro h header l above below hl
    have htopic : topicLine? l = some ⟨l, shape, String.ofList label⟩ :=
      topicLine?_eq_some_iff.2 ⟨rfl, by rw [hl, h]⟩
    rw [map_value_subtrees, List.tail_cons, getElem?_topicsFrom 0 htopic]
    exact ⟨_, rfl, rfl, rfl, rfl⟩

/-! ## Decorations and quotes -/

/-- A line that does not start with a colon decorates nothing. -/
theorem decorates_nothing {s : List Char} (hs : s.head? ≠ some ':') :
    icon? s = none ∧ classes? s = none := by
  have hnone (w : List Char) : literal? (':' :: w) s = none := by
    cases h : literal? (':' :: w) s with
    | none => rfl
    | some u =>
      rw [literal?_eq_some_iff.1 h] at hs
      exact absurd rfl hs
  have hicon : literal? "::icon(".toList s = none := hnone _
  have hclasses : literal? ":::".toList s = none := hnone _
  exact ⟨by rw [icon?, hicon]; rfl, by rw [classes?, hclasses]; rfl⟩

theorem between?_of_notMem {q : Char} {s : List Char} (h : q ∉ s) : between? q s = none := by
  cases s with
  | nil => rfl
  | cons c r =>
    have hc : c ≠ q := fun he => h (he ▸ List.mem_cons_self)
    exact if_neg fun hboth => hc hboth.1

theorem IsPlainLabel.unquoteLabel_eq {s : List Char} (h : IsPlainLabel s) : unquoteLabel s = s := by
  have hdouble : between? '"' s = none := between?_of_notMem fun hmem => h.quotes _ hmem (by decide)
  have hback : between? '\x60' s = none :=
    between?_of_notMem fun hmem => h.quotes _ hmem (by decide)
  rw [unquoteLabel, hdouble, Option.bind_none, hback]

/-- A plain label is kept as it is. -/
theorem IsPlainLabel.recognise_eq {s label : List Char} {shape : Shape} (h : IsPlainLabel label)
    (hs : s.head? ≠ some ':') (hshape : shapeAndLabel s = (shape, label)) :
    Statement.recognise (String.ofList s) = .topic shape (String.ofList label) := by
  obtain ⟨hicon, hclasses⟩ := decorates_nothing hs
  unfold Statement.recognise
  rw [String.toList_ofList]
  dsimp only
  rw [hicon, hclasses, hshape]
  dsimp only
  rw [h.trimmed, h.unquoteLabel_eq, if_neg (by simpa using h.ne_nil)]

/-- The shape of a topic is the one of its brackets. -/
theorem shape_of_recognise {s : List Char} {shape : Shape} {label : String}
    (h : Statement.recognise (String.ofList s) = .topic shape label) :
    (shapeAndLabel s).1 = shape := by
  unfold Statement.recognise at h
  rw [String.toList_ofList] at h
  dsimp only at h
  split at h
  · cases h
  · split at h
    · cases h
    · split at h
      · cases h
      · cases h
        rfl

/-! ## Rows -/

/-- What stands between the brackets of a row. -/
def rowLabel? (s : List Char) (row : String × String × Shape) : Option (Shape × List Char) :=
  (bracketed? row.1.toList row.2.1.toList s).map (row.2.2, ·)

theorem shapeAndLabel_eq (s : List Char) :
    shapeAndLabel s = (brackets.findSome? (rowLabel? s)).getD (.plain, s) := rfl

/-- Openers and closers are made of brackets. -/
theorem brackets_signs : ∀ row ∈ brackets, row.1.toList ≠ [] ∧ row.2.1.toList ≠ [] ∧
    (∀ c ∈ row.1.toList, c ∈ bracketSigns) ∧ ∀ c ∈ row.2.1.toList, c ∈ bracketSigns := by decide

/-- An opener is no prefix of the openers of later rows. -/
theorem brackets_apart :
    brackets.Pairwise fun row row' => ¬ row.1.toList <+: row'.1.toList := by decide

theorem isIdChar_of_sign {c : Char} (h : c ∈ bracketSigns) : isIdChar c = false := by
  simp only [bracketSigns, List.mem_cons, List.not_mem_nil, or_false] at h
  rcases h with rfl | rfl | rfl | rfl | rfl | rfl <;> decide

theorem isIdChar_of_not_sign {c : Char} (hblank : isBlank c = false) (h : c ∉ bracketSigns) :
    isIdChar c = true := by
  simpa [isIdChar, hblank, bracketSigns] using h

section

variable {row row' : String × String × Shape} {id label : List Char}

/-- In front of the opener stands the id, and nothing else. -/
theorem dropWhile_outlined (hrow : row ∈ brackets) (hid : IsIdText id) :
    (outlined row id label).dropWhile isIdChar = row.1.toList ++ (label ++ row.2.1.toList) := by
  obtain ⟨hne, -, hopener, -⟩ := brackets_signs row hrow
  refine dropWhile_append_of_head (fun c hc => ?_) fun c hc => isIdChar_of_sign (hopener c ?_)
  · exact isIdChar_of_not_sign (hid.chars c hc).1 (hid.chars c hc).2
  · rw [List.head?_append_of_ne_nil _ hne] at hc
    exact List.mem_of_mem_head? hc

/-- A row whose opener is found in front of an outlined label has an opener that the outline starts
with: the label goes on without brackets. -/
theorem exists_of_opener (hrow : row ∈ brackets) (hrow' : row' ∈ brackets) (hid : IsIdText id)
    (hlabel : IsPlainLabel label) {u : List Char}
    (h : literal? row'.1.toList ((outlined row id label).dropWhile isIdChar) = some u) :
    ∃ a, row.1.toList = row'.1.toList ++ a ∧ u = a ++ (label ++ row.2.1.toList) := by
  rw [dropWhile_outlined hrow hid] at h
  obtain ⟨c, r, rfl⟩ := List.exists_cons_of_ne_nil hlabel.ne_nil
  have hc : c ∉ row'.1.toList := fun hmem =>
    hlabel.brackets c List.mem_cons_self ((brackets_signs row' hrow').2.2.1 c hmem)
  obtain ⟨a, ha⟩ := prefix_of_literal? hc h
  refine ⟨a, ha.symm, ?_⟩
  rw [← ha, literal?_eq_some_iff, List.append_assoc] at h
  exact (List.append_cancel_left h).symm

/-- A row in front of the right one reads nothing. -/
theorem rowLabel?_of_apart (hrow : row ∈ brackets) (hrow' : row' ∈ brackets) (hid : IsIdText id)
    (hlabel : IsPlainLabel label) (hapart : ¬ row'.1.toList <+: row.1.toList) :
    rowLabel? (outlined row id label) row' = none := by
  unfold rowLabel? bracketed?
  cases h : literal? row'.1.toList ((outlined row id label).dropWhile isIdChar) with
  | none => rfl
  | some u =>
    obtain ⟨a, ha, -⟩ := exists_of_opener hrow hrow' hid hlabel h
    exact absurd ⟨a, ha.symm⟩ hapart

theorem feed_notMem_signs : '\n' ∉ bracketSigns := by decide

/-- A label of one line is read by its own row. -/
theorem rowLabel?_self (hrow : row ∈ brackets) (hid : IsIdText id) (hline : '\n' ∉ label) :
    rowLabel? (outlined row id label) row = some (row.2.2, label) := by
  obtain ⟨-, -, -, hcloser⟩ := brackets_signs row hrow
  have hopener : literal? row.1.toList (row.1.toList ++ (label ++ row.2.1.toList)) =
      some (label ++ row.2.1.toList) := literal?_eq_some_iff.2 rfl
  have hrest : lineRest? (label ++ row.2.1.toList) = some (label ++ row.2.1.toList) := by
    refine lineRest?_of_notMem fun hmem => ?_
    exact (List.mem_append.1 hmem).elim hline fun h => feed_notMem_signs (hcloser _ h)
  have hclosed : dropSuffix? row.2.1.toList (label ++ row.2.1.toList) = some label :=
    dropSuffix?_eq_some_iff.2 rfl
  simp [rowLabel?, bracketed?, dropWhile_outlined hrow hid, hopener, hrest, hclosed]

/-- A label with a line feed is read by no row. -/
theorem rowLabel?_of_feed (hrow : row ∈ brackets) (hrow' : row' ∈ brackets) (hid : IsIdText id)
    (hlabel : IsPlainLabel label) (hfeed : '\n' ∈ label) :
    rowLabel? (outlined row id label) row' = none := by
  unfold rowLabel? bracketed?
  cases hopener : literal? row'.1.toList ((outlined row id label).dropWhile isIdChar) with
  | none => rfl
  | some u =>
    obtain ⟨a, -, rfl⟩ := exists_of_opener hrow hrow' hid hlabel hopener
    cases hrest : lineRest? (a ++ (label ++ row.2.1.toList)) with
    | none => simp [hrest]
    | some t =>
      -- The line feed is no last one, as the closer stands behind it.
      obtain ⟨-, hne, -, hcloser⟩ := brackets_signs row hrow
      have hmem : '\n' ∈ a ++ (label ++ row.2.1.toList) :=
        List.mem_append_right _ (List.mem_append_left _ hfeed)
      rcases eq_of_lineRest? hrest with htext | htext
      · exact absurd (htext ▸ hmem) (notMem_of_lineRest? hrest)
      · have hlast := congrArg List.getLast? htext
        rw [List.getLast?_concat, List.getLast?_append_of_ne_nil _ (by simp [hne]),
          List.getLast?_append_of_ne_nil _ hne] at hlast
        exact absurd (hcloser _ (List.mem_of_getLast? hlast)) feed_notMem_signs

/-- An outlined label of one line is read with the shape of its row. -/
theorem shapeAndLabel_outlined (hrow : row ∈ brackets) (hid : IsIdText id)
    (hlabel : IsPlainLabel label) (hline : '\n' ∉ label) :
    shapeAndLabel (outlined row id label) = (row.2.2, label) := by
  obtain ⟨before, after, hsplit⟩ := List.append_of_mem hrow
  have hpairwise := brackets_apart
  rw [hsplit, List.pairwise_append] at hpairwise
  have hfound : brackets.findSome? (rowLabel? (outlined row id label)) =
      some (row.2.2, label) := by
    refine List.findSome?_eq_some_iff.2
      ⟨before, row, after, hsplit, rowLabel?_self hrow hid hline, fun row' hrow' => ?_⟩
    have hmem : row' ∈ brackets := hsplit ▸ List.mem_append_left _ hrow'
    exact rowLabel?_of_apart hrow hmem hid hlabel
      (hpairwise.2.2 row' hrow' row List.mem_cons_self)
  rw [shapeAndLabel_eq, hfound]
  rfl

/-- Neither an id nor an opener starts with a colon. -/
theorem head?_outlined (hrow : row ∈ brackets) (hid : IsIdText id) :
    (outlined row id label).head? ≠ some ':' := by
  obtain ⟨hne, -, hopener, -⟩ := brackets_signs row hrow
  unfold outlined
  cases id with
  | nil =>
    rw [List.nil_append, List.head?_append_of_ne_nil _ hne]
    intro hcolon
    exact absurd (hopener _ (List.mem_of_mem_head? hcolon)) (by decide)
  | cons c r => exact hid.head

end

/-- Without brackets there is no row to read by. -/
theorem shapeAndLabel_of_no_brackets {s : List Char} (h : ∀ c ∈ s, c ∉ bracketSigns) :
    shapeAndLabel s = (.plain, s) := by
  have hnone : brackets.findSome? (rowLabel? s) = none := by
    refine List.findSome?_eq_none_iff.2 fun row hrow => ?_
    obtain ⟨hne, -, hopener, -⟩ := brackets_signs row hrow
    obtain ⟨c, w, hw⟩ := List.exists_cons_of_ne_nil hne
    unfold rowLabel? bracketed?
    cases hu : literal? row.1.toList (s.dropWhile isIdChar) with
    | none => rfl
    | some u =>
      -- The first sign of the opener would be a character of the line.
      have hmem : c ∈ s := by
        refine (List.dropWhile_suffix isIdChar).subset ?_
        rw [literal?_eq_some_iff.1 hu, hw]
        exact List.mem_cons_self
      exact absurd (hopener c (hw ▸ List.mem_cons_self)) (h c hmem)
  rw [shapeAndLabel_eq, hnone]
  rfl

/-- **Outlines.** A plain label between the brackets of a row is read with the shape of the row and
as it is written, whatever id stands in front, if and only if it is on one line; and a plain label
by itself, which does not start with a colon, is the label of a topic without an outline. -/
theorem outlines_are_recognised :
    (∀ row ∈ brackets, ∀ id label, IsIdText id → IsPlainLabel label →
      (IsRead (outlined row id label) row.2.2 label ↔ '\n' ∉ label)) ∧
    ∀ label, IsPlainLabel label → label.head? ≠ some ':' → IsRead label .plain label := by
  refine ⟨fun row hrow id label hid hlabel => ⟨fun hread hfeed => ?_, fun hline => ?_⟩,
    fun label hlabel hhead => ?_⟩
  · have hnone : brackets.findSome? (rowLabel? (outlined row id label)) = none :=
      List.findSome?_eq_none_iff.2 fun row' hrow' =>
        rowLabel?_of_feed hrow hrow' hid hlabel hfeed
    have hshapes : ∀ row ∈ brackets, row.2.2 ≠ .plain := by decide
    have hshape := shape_of_recognise (isRead_iff.1 hread)
    rw [shapeAndLabel_eq, hnone] at hshape
    exact hshapes row hrow hshape.symm
  · exact isRead_iff.2 (hlabel.recognise_eq (head?_outlined hrow hid)
      (shapeAndLabel_outlined hrow hid hlabel hline))
  · exact isRead_iff.2 (hlabel.recognise_eq hhead (shapeAndLabel_of_no_brackets hlabel.brackets))

theorem outlines_are_recognised_cloud :
    ((")", "(", Shape.cloud) ∈ brackets ∧ IsIdText "x\":".toList ∧ IsPlainLabel "a: b".toList ∧
      (IsRead (outlined (")", "(", .cloud) "x\":".toList "a: b".toList) .cloud "a: b".toList ↔
        '\n' ∉ "a: b".toList)) ∧
    (IsPlainLabel "x ::: y".toList ∧ "x ::: y".toList.head? ≠ some ':' ∧
      IsRead "x ::: y".toList .plain "x ::: y".toList) := by
  have hrow : (")", "(", Shape.cloud) ∈ brackets := by decide
  have hid : IsIdText "x\":".toList := ⟨by decide, by decide⟩
  have hlabel : IsPlainLabel "a: b".toList := ⟨by decide, by decide, by decide, by decide⟩
  have hbare : IsPlainLabel "x ::: y".toList := ⟨by decide, by decide, by decide, by decide⟩
  have hhead : "x ::: y".toList.head? ≠ some ':' := by decide
  exact ⟨⟨hrow, hid, hlabel, outlines_are_recognised.1 _ hrow _ _ hid hlabel⟩, hbare, hhead,
    outlines_are_recognised.2 _ hbare hhead⟩

/-- A label that goes on behind a line feed is no label of a rounded topic. -/
theorem brokenTopic_not_isRead :
    ("(", ")", Shape.rounded) ∈ brackets ∧ IsIdText [] ∧ IsPlainLabel "a\nb".toList ∧
      ¬ IsRead (outlined ("(", ")", .rounded) [] "a\nb".toList) .rounded "a\nb".toList := by
  refine ⟨by decide, ⟨by decide, by decide⟩, ⟨by decide, by decide, by decide, by decide⟩, ?_⟩
  rw [isRead_iff]
  decide +kernel

end DiagramText.Mindmap
