import DiagramText.Source.Kind

/-!
# Sources of a known kind have a header

The kind of a source is read off its first logical line, which is found without regard to
semicolons, while the reader may get the lines cut at semicolons.  The first word of the header ends
at a semicolon too, so the first piece of the header still holds that word, and the reader finds a
header line in any case.

1. Trimming and splitting in front of a character that is no blank.
2. `exists_head_of_ofLine?`: a line that names a kind starts with a letter of the keyword.
3. `scan_ne_nil`.
-/

namespace DiagramText

namespace Text

theorem trimEnd_cons {c : Char} (hc : isBlank c = false) (r : List Char) :
    trimEnd (c :: r) = c :: trimEnd r := by
  rw [trimEnd]
  split
  · rename_i h
    rw [h, hc]
    rfl
  · rename_i d r' h
    rw [h]

theorem trimStart_append {b : List Char} {c : Char} (hb : ∀ d ∈ b, isBlank d = true)
    (hc : isBlank c = false) (r : List Char) : trimStart (b ++ c :: r) = c :: r := by
  unfold trimStart
  rw [List.dropWhile_append_of_pos hb, List.dropWhile_cons_of_neg (by rw [hc]; nofun)]

theorem trim_append {b : List Char} {c : Char} (hb : ∀ d ∈ b, isBlank d = true)
    (hc : isBlank c = false) (r : List Char) : trim (b ++ c :: r) = c :: trimEnd r := by
  unfold trim
  rw [trimStart_append hb hc, trimEnd_cons hc]

/-- In front of the first character of a trimmed text there were blanks only. -/
theorem exists_append_of_trim {s : List Char} {c : Char} {t : List Char} (h : trim s = c :: t) :
    ∃ b r, s = b ++ c :: r ∧ ∀ d ∈ b, isBlank d = true := by
  obtain ⟨r, hr⟩ : ∃ r, trimStart s = c :: r := by
    have hprefix := trimEnd_isPrefix (trimStart s)
    rw [show trimEnd (trimStart s) = c :: t from h] at hprefix
    obtain ⟨r, hr⟩ := hprefix
    exact ⟨t ++ r, hr.symm⟩
  refine ⟨s.takeWhile isBlank, r, ?_, List.all_eq_true.1 List.all_takeWhile⟩
  rw [← hr]
  exact List.takeWhile_append_dropWhile.symm

/-- What stands in front of the first separator is the front of the first piece. -/
theorem splitWhere_append {p : Char → Bool} {b : List Char} (hb : ∀ d ∈ b, p d = false)
    (s : List Char) : ∃ f fs, splitWhere p (b ++ s) = (b ++ f) :: fs := by
  induction b with
  | nil =>
    cases hs : splitWhere p s with
    | nil => exact absurd hs (splitWhere_ne_nil p s)
    | cons f fs => exact ⟨f, fs, hs⟩
  | cons d b ih =>
    obtain ⟨hd, hb⟩ := List.forall_mem_cons.1 hb
    obtain ⟨f, fs, hsplit⟩ := ih hb
    refine ⟨f, fs, ?_⟩
    rw [List.cons_append, splitWhere, hd, hsplit]
    rfl

end Text

open Text

namespace DiagramKind

theorem head_keywords : ∀ k ∈ keywords, ∃ c r, k.1.toList = c :: r ∧ c ≠ '%' := by
  intro k hk
  have hall : ∀ k ∈ keywords, k.1.toList.head?.any (· != '%') := by decide
  have h := hall k hk
  cases hs : k.1.toList with
  | nil =>
    rw [hs] at h
    cases h
  | cons c r =>
    rw [hs] at h
    exact ⟨c, r, rfl, by simpa using h⟩

/-- A line that names a kind starts with a character that no scanner takes for a blank, a separator
or the start of a comment. -/
theorem exists_head_of_ofLine? {l : Source.Line} {kind : DiagramKind} (h : ofLine? l = some kind) :
    ∃ c r, l.text.toList = c :: r ∧ isBlank c = false ∧ c ≠ ';' ∧ c ≠ '%' := by
  obtain ⟨before, after, hkeywords, -⟩ := List.lookup_eq_some_iff.1 h
  have hmem : (String.ofList (firstToken l.text.toList), kind) ∈ keywords := by
    rw [hkeywords]
    exact List.mem_append_right _ List.mem_cons_self
  obtain ⟨d, w, hw, hd⟩ := head_keywords _ hmem
  rw [String.toList_ofList] at hw
  unfold firstToken at hw
  cases hs : l.text.toList with
  | nil =>
    rw [hs] at hw
    cases hw
  | cons c r =>
    rw [hs, List.takeWhile_cons] at hw
    split at hw
    · rename_i hc
      have hc' : isBlank c = false ∧ c ≠ ';' := by simpa using hc
      refine ⟨c, r, rfl, hc'.1, hc'.2, ?_⟩
      rintro rfl
      -- The small form of a percent sign is a percent sign, with which no keyword starts.
      exact hd (List.cons.inj hw).1.symm
    · cases hw

end DiagramKind

namespace Source

theorem isComment_cons {c : Char} (hc : c ≠ '%') (r : List Char) : isComment (c :: r) = false := by
  unfold isComment
  split
  · rename_i h
    exact absurd (List.cons.inj h).1 hc
  · rfl

theorem statement?_ne_none {number indent offset : Nat} {b : List Char} {c : Char} (r : List Char)
    (hb : ∀ d ∈ b, isBlank d = true) (hc : isBlank c = false) (hcomment : c ≠ '%') :
    statement? number indent offset (b ++ c :: r) ≠ none := by
  unfold statement?
  dsimp only
  rw [trim_append hb hc, isComment_cons hcomment]
  nofun

/-- A line that starts with a word holds a statement, cut at semicolons or not. -/
theorem ofPhysical_ne_nil {number : Nat} {b : List Char} {c : Char} (r : List Char) (split : Bool)
    (hb : ∀ d ∈ b, isBlank d = true) (hc : isBlank c = false) (hsep : c ≠ ';')
    (hcomment : c ≠ '%') : ofPhysical split number (b ++ c :: r) ≠ [] := by
  have hword : ∀ d ∈ b ++ [c], (d == ';') = false := by
    intro d hd
    rcases List.mem_append.1 hd with hd | hd
    · refine beq_false_of_ne ?_
      rintro rfl
      exact absurd (hb _ hd) (by decide)
    · rw [List.mem_singleton.1 hd]
      exact beq_false_of_ne hsep
  unfold ofPhysical
  dsimp only
  rw [trim_append hb hc, isComment_cons hcomment]
  cases split with
  | false =>
    intro hnil
    exact statement?_ne_none r hb hc hcomment (Option.toList_eq_nil_iff.1 hnil)
  | true =>
    -- The first piece starts like the line: there is no semicolon up to the start of the word.
    obtain ⟨f, fs, hsplit⟩ := splitWhere_append hword r
    rw [List.append_assoc, List.append_assoc] at hsplit
    intro hnil
    replace hnil : statements number _ 0 (splitWhere (· == ';') (b ++ ([c] ++ r))) = [] := hnil
    rw [hsplit] at hnil
    obtain ⟨hfirst, -⟩ := List.append_eq_nil_iff.1 hnil
    exact statement?_ne_none f hb hc hcomment (Option.toList_eq_nil_iff.1 hfirst)

theorem text_of_mem_ofPhysical {number : Nat} {raw : List Char} {l : Line}
    (h : l ∈ ofPhysical false number raw) : l.text.toList = trim raw := by
  unfold ofPhysical at h
  dsimp only at h
  split at h
  · cases h
  · replace h : statement? number (indentWidth raw) 0 raw = some l := Option.mem_toList.1 h
    unfold statement? at h
    dsimp only at h
    split at h
    · cases h
    · cases h
      exact String.toList_ofList

/-- If a line starts with a word, the same lines cut at semicolons are not all empty. -/
theorem ofBody_ne_nil {number : Nat} {raws : List (List Char)} {l : Line} (split : Bool)
    (hl : l ∈ ofBody false number raws) {c : Char} {r : List Char} (htext : l.text.toList = c :: r)
    (hc : isBlank c = false) (hsep : c ≠ ';') (hcomment : c ≠ '%') :
    ofBody split number raws ≠ [] := by
  induction raws generalizing number with
  | nil => cases hl
  | cons raw raws ih =>
    intro hnil
    obtain ⟨hfirst, hrest⟩ := List.append_eq_nil_iff.1 hnil
    rcases List.mem_append.1 hl with hl | hl
    · rw [text_of_mem_ofPhysical hl] at htext
      obtain ⟨b, u, rfl, hb⟩ := exists_append_of_trim htext
      exact ofPhysical_ne_nil u split hb hc hsep hcomment hfirst
    · exact ih hl hrest

/-- **Headers.** A source of a known kind has a header line, cut at semicolons or not. -/
theorem scan_ne_nil {source : String} {kind : DiagramKind}
    (h : DiagramKind.detect? source = some kind) (split : Bool) : scan source split ≠ [] := by
  obtain ⟨l, hl, hkind⟩ := Option.bind_eq_some_iff.1 h
  obtain ⟨c, r, htext, hc, hsep, hcomment⟩ := DiagramKind.exists_head_of_ofLine? hkind
  exact ofBody_ne_nil split (List.mem_of_head? hl) htext hc hsep hcomment

end Source

end DiagramText
