import DiagramText.Er.Parse
import DiagramText.Proofs.Er.Roster
import DiagramText.Proofs.Text.Words

/-!
# Glyphs and words for relationships

A relationship says how many entities stand at either end and whether it identifies them, in glyphs
around a line or in words around a preposition.  Both forms have several spellings, and all that
mean the same are read as the same relationship.

1. `RelationText`, what a relationship says, and `RelationText.Spelling`, the texts that say it.
2. Gaps and names.
3. A glyph is read by its characters, and a phrase because none goes on as another one.
4. The end of a relationship: the second name and the label.
5. `RelationText.Joins`, what a relationship does to a diagram, and `spellings_mean_the_same`.
-/

namespace DiagramText.Er

open Source (Line)
open Text

/-! ## Written relationships -/

/-- The name of an entity as it is written: word characters and hyphens, or any text between double
quotes. -/
inductive NameText where
  | plain (text : List Char)
  | quoted (text : List Char)

namespace NameText

/-- The name without its quotes. -/
def text : NameText → List Char
  | plain t | quoted t => t

/-- The name with its quotes. -/
def written : NameText → List Char
  | plain t => t
  | quoted t => '"' :: (t ++ ['"'])

/-- A name has characters, and only such as may stand in it. -/
def IsLegal : NameText → Prop
  | plain t => t ≠ [] ∧ ∀ c ∈ t, isWordOrHyphen c = true
  | quoted t => t ≠ [] ∧ '"' ∉ t

instance : DecidablePred IsLegal
  | plain t => inferInstanceAs (Decidable (t ≠ [] ∧ ∀ c ∈ t, isWordOrHyphen c = true))
  | quoted t => inferInstanceAs (Decidable (t ≠ [] ∧ '"' ∉ t))

end NameText

/-- What a relationship says, in whichever spelling. -/
structure RelationText where
  first : NameText
  second : NameText
  cardinality1 : Cardinality
  cardinality2 : Cardinality
  identifying : Bool
  label : List Char

/-- A text between double quotes. -/
def IsQuoted (s : List Char) : Prop := ∃ t, s = '"' :: (t ++ ['"'])

/-- The line between two glyphs. -/
def stroke (identifying : Bool) : List Char :=
  if identifying then "--".toList else "..".toList

/-- The words between two phrases. -/
def preposition (identifying : Bool) : List Char :=
  if identifying then "to".toList else "optionally to".toList

namespace RelationText

variable (r : RelationText)

/-- The texts that say what stands between the two names. -/
inductive Between : List Char → Prop
  | glyphs (g g' : String) (hg : (g, r.cardinality1) ∈ glyphs)
      (hg' : (g', r.cardinality2) ∈ glyphs) :
      Between (g.toList ++ (stroke r.identifying ++ g'.toList))
  | words (w w' : String) {gap gap' : List Char} (hw : (w, r.cardinality1) ∈ phrases)
      (hw' : (w', r.cardinality2) ∈ phrases) (hgap : IsGap gap) (hgap' : IsGap gap') :
      Between (w.toList ++ (gap ++ (preposition r.identifying ++ (gap' ++ w'.toList))))

/-- The second name, a colon with blanks or none around it, and the label. -/
def endWith (b b' : List Char) : List Char :=
  r.second.written ++ (b ++ ':' :: (b' ++ r.label))

/-- The texts that say the whole relationship. -/
inductive Spelling : List Char → Prop
  | mk {between gap gap' b b' : List Char} (hbetween : r.Between between) (hgap : IsGap gap)
      (hgap' : IsGap gap') (hb : ∀ c ∈ b, isBlank c = true) (hb' : ∀ c ∈ b', isBlank c = true) :
      Spelling (r.first.written ++ (gap ++ (between ++ (gap' ++ r.endWith b b'))))

/-- The names are legal, and the label is a text of its own that is not between quotes. -/
structure IsLegal : Prop where
  first : r.first.IsLegal
  second : r.second.IsLegal
  label_ne_nil : r.label ≠ []
  label_trimmed : trim r.label = r.label
  label_unquoted : ¬ IsQuoted r.label

/-- The label has no line feed. -/
def OneLine : Prop := '\n' ∉ r.label

/-- The relationship as a reader gives it. -/
def link : Link where
  entity1 := String.ofList r.first.text
  entity2 := String.ofList r.second.text
  mark1 := .known r.cardinality1
  mark2 := .known r.cardinality2
  identifying := r.identifying
  label := some (String.ofList r.label)

end RelationText

/-! ## Gaps and names -/

theorem isBlank_of_isWordOrHyphen {c : Char} (h : isWordOrHyphen c = true) : isBlank c = false := by
  rcases Bool.or_eq_true_iff.1 h with h | h
  · exact isBlank_of_isWord h
  · obtain rfl : c = '-' := by simpa using h
    decide

theorem not_isWordOrHyphen_of_isBlank {c : Char} (h : isBlank c = true) :
    isWordOrHyphen c = false := by
  by_contra hword
  rw [isBlank_of_isWordOrHyphen (by simpa using hword)] at h
  cases h

namespace NameText

variable {n : NameText}

theorem IsLegal.head?_written (h : n.IsLegal) (s : List Char) :
    ∃ c, (n.written ++ s).head? = some c ∧ isBlank c = false ∧ c ≠ '\x7d' := by
  cases n with
  | plain t =>
    obtain ⟨hne, hchars⟩ := h
    obtain ⟨c, r, rfl⟩ := List.exists_cons_of_ne_nil hne
    have hc := hchars c List.mem_cons_self
    refine ⟨c, rfl, isBlank_of_isWordOrHyphen hc, ?_⟩
    rintro rfl
    exact absurd hc (by decide)
  | quoted t => exact ⟨'"', rfl, by decide, by decide⟩

/-- A name is read up to its end; a plain one ends in front of any other character. -/
theorem IsLegal.name?_written (h : n.IsLegal) {s : List Char}
    (hs : ∀ c ∈ s.head?, isWordOrHyphen c = false) :
    name? (n.written ++ s) = some (n.written, s) := by
  cases n with
  | plain t =>
    obtain ⟨hne, hchars⟩ := h
    obtain ⟨c, r, rfl⟩ := List.exists_cons_of_ne_nil hne
    have hquote : c ≠ '"' := by
      rintro rfl
      exact absurd (hchars _ List.mem_cons_self) (by decide)
    show name? (c :: r ++ s) = some (c :: r, s)
    unfold name?
    split
    · simp_all
    · rw [takeWhile_append_of_head hchars hs, dropWhile_append_of_head hchars hs]
  | quoted t =>
    obtain ⟨hne, hquote⟩ := h
    obtain ⟨c, r, rfl⟩ := List.exists_cons_of_ne_nil hne
    have hall := bne_of_notMem hquote
    have hwritten : (quoted (c :: r)).written ++ s = '"' :: (c :: r ++ '"' :: s) := by
      simp [written]
    rw [hwritten, name?, takeWhile_append_cons hall (by decide),
      dropWhile_append_cons hall (by decide)]
    rfl

theorem IsLegal.unquote_written (h : n.IsLegal) : unquote n.written = n.text := by
  cases n with
  | plain t =>
    obtain ⟨hne, hchars⟩ := h
    obtain ⟨c, r, rfl⟩ := List.exists_cons_of_ne_nil hne
    have hquote : c ≠ '"' := by
      rintro rfl
      exact absurd (hchars _ List.mem_cons_self) (by decide)
    simp [written, text, unquote, between?, hquote]
  | quoted t => simp [written, text, unquote, between?]

end NameText

theorem unquote_of_not_isQuoted {s : List Char} (h : ¬ IsQuoted s) : unquote s = s := by
  unfold unquote between?
  cases s with
  | nil => rfl
  | cons c r =>
    dsimp only
    split
    · rename_i hquoted
      obtain ⟨rfl, hlast⟩ := hquoted
      obtain ⟨t, rfl⟩ := List.getLast?_eq_some_iff.1 hlast
      exact absurd ⟨t, rfl⟩ h
    · rfl

/-! ## Glyphs and phrases -/

theorem glyph?_of_mem {g : String} {c : Cardinality} (h : (g, c) ∈ glyphs) {s : List Char}
    (hs : ∀ d ∈ s.head?, isGlyphChar d = false) : glyph? (g.toList ++ s) = some (g, s) := by
  have hall : ∀ e ∈ glyphs, e.1.toList.length = 2 ∧ ∀ d ∈ e.1.toList, isGlyphChar d = true := by
    decide
  obtain ⟨hlength, hchars⟩ := hall _ h
  rw [glyph?, takeWhile_append_of_head hchars hs, dropWhile_append_of_head hchars hs]
  simp [hlength]

theorem ofGlyph_of_mem {g : String} {c : Cardinality} (h : (g, c) ∈ glyphs) :
    Mark.ofGlyph g = .known c := by
  have hall : ∀ e ∈ glyphs, glyphs.lookup e.1 = some e.2 := by decide
  rw [Mark.ofGlyph, hall _ h]

/-- No phrase goes on behind a blank as another one. -/
theorem eq_of_phrase {e e' : String × Cardinality} (he : e ∈ phrases) (he' : e' ∈ phrases)
    {u u' : List Char} (h : e.1.toList ++ u = e'.1.toList ++ u')
    (hu : ∀ c ∈ u.head?, isBlank c = true) (hu' : ∀ c ∈ u'.head?, isBlank c = true) : e = e' := by
  have hsame : ∀ e ∈ phrases, ∀ e' ∈ phrases, e.1.toList = e'.1.toList → e = e' := by
    decide +kernel
  have hother : ∀ e ∈ phrases, ∀ e' ∈ phrases, e.1.toList <+: e'.1.toList →
      ∀ c ∈ (e'.1.toList.drop e.1.toList.length).head?, isBlank c = false := by decide +kernel
  -- A longer phrase would go on behind a shorter one with the blank that ends it.
  have hlonger : ∀ e ∈ phrases, ∀ e' ∈ phrases, ∀ a u : List Char, e'.1.toList = e.1.toList ++ a →
      (∀ c ∈ (a ++ u).head?, isBlank c = true) → e = e' := by
    intro e he e' he' a u ha hu
    cases a with
    | nil => exact hsame e he e' he' (by simpa using ha.symm)
    | cons c a =>
      have hsolid := hother e he e' he' ⟨_, ha.symm⟩ c (by simp [ha])
      rw [hu c rfl] at hsolid
      cases hsolid
  rcases List.append_eq_append_iff.1 h with ⟨a, ha, rfl⟩ | ⟨a, ha, rfl⟩
  · exact hlonger e he e' he' a u' ha hu
  · exact (hlonger e' he' e he a u ha hu').symm

theorem phrase?_of_mem {w : String} {c : Cardinality} (h : (w, c) ∈ phrases) {gap s : List Char}
    (hgap : IsGap gap) (hs : ∀ d ∈ s.head?, isBlank d = false) :
    phrase? (w.toList ++ (gap ++ s)) = some (c, s) := by
  have hhead : ∀ d ∈ (gap ++ s).head?, isBlank d = true := by
    intro d hd
    rw [List.head?_append_of_ne_nil gap hgap.1] at hd
    exact hgap.2 d (List.mem_of_mem_head? hd)
  obtain ⟨before, behind, hsplit, hfirst⟩ := List.eq_append_cons_of_mem h
  refine List.findSome?_eq_some_iff.2 ⟨before, (w, c), behind, hsplit, ?_, fun e he => ?_⟩
  · simp [literal?_eq_some_iff.2 rfl, gap?_append hgap hs]
  · by_contra hne
    obtain ⟨a, ha⟩ := Option.ne_none_iff_exists'.1 hne
    obtain ⟨u, hu, ha⟩ := Option.bind_eq_some_iff.1 ha
    obtain ⟨v, hv, -⟩ := Option.bind_eq_some_iff.1 ha
    obtain ⟨b, r, rfl, hb, -⟩ := exists_of_gap? hv
    have hmem : e ∈ phrases := hsplit ▸ List.mem_append_left _ he
    have heq := eq_of_phrase h hmem (literal?_eq_some_iff.1 hu) hhead (by simpa using hb)
    exact hfirst (heq ▸ he)

/-- A phrase is no glyph: a blank follows the characters of glyphs in front of it. -/
theorem exists_blank_behind_glyph {w gap s : List Char}
    (hw : ∀ c ∈ w, isGlyphChar c = true ∨ isBlank c = true) (hgap : IsGap gap) :
    ∃ b r, (w ++ (gap ++ s)).dropWhile isGlyphChar = b :: r ∧ isBlank b = true := by
  have hblank : ∀ b, isBlank b = true → isGlyphChar b = false := by
    intro b hb
    simp [isGlyphChar, hb]
  induction w with
  | nil =>
    obtain ⟨b, g, rfl⟩ := List.exists_cons_of_ne_nil hgap.1
    have hb := hgap.2 b List.mem_cons_self
    exact ⟨b, g ++ s, List.dropWhile_cons_of_neg (by simp [hblank b hb]), hb⟩
  | cons c w ih =>
    obtain ⟨hc, hw⟩ := List.forall_mem_cons.1 hw
    rw [List.cons_append]
    rcases hc with hc | hc
    · rw [List.dropWhile_cons_of_pos hc]
      exact ih hw
    · exact ⟨c, w ++ (gap ++ s), List.dropWhile_cons_of_neg (by simp [hblank c hc]), hc⟩

/-! ## The second name and the label -/

namespace RelationText

variable {r : RelationText}

theorem IsLegal.linkEnd?_endWith (h : r.IsLegal) (hline : r.OneLine) {b b' : List Char}
    (hb : ∀ c ∈ b, isBlank c = true) (hb' : ∀ c ∈ b', isBlank c = true) :
    linkEnd? (r.endWith b b') =
      some (String.ofList r.second.text, some (String.ofList r.label)) := by
  have hhead : ∀ c ∈ (b ++ ':' :: (b' ++ r.label)).head?, isWordOrHyphen c = false := by
    intro c hc
    cases b with
    | nil =>
      obtain rfl : ':' = c := by simpa using hc
      decide
    | cons d b =>
      obtain rfl : d = c := by simpa using hc
      exact not_isWordOrHyphen_of_isBlank (hb d List.mem_cons_self)
  have hlabel : trimStart (b' ++ r.label) = r.label := by
    rw [trimStart, dropWhile_append_of_head hb' (head_of_trim h.label_trimmed)]
  have hend : labelEnd? (b ++ ':' :: (b' ++ r.label)) = some (some r.label) := by
    rw [labelEnd?, trimStart_append hb (by decide)]
    simp only [hlabel, lineRest?_of_notMem hline]
    rfl
  rw [linkEnd?, endWith, h.second.name?_written hhead]
  simp [hend, h.second.unquote_written, h.label_trimmed,
    unquote_of_not_isQuoted h.label_unquoted]

theorem head?_gap {gap : List Char} (hgap : IsGap gap) (s : List Char) :
    ∀ c ∈ (gap ++ s).head?, isBlank c = true := by
  intro c hc
  rw [List.head?_append_of_ne_nil gap hgap.1] at hc
  exact hgap.2 c (List.mem_of_mem_head? hc)

theorem IsLegal.head?_endWith (h : r.IsLegal) (b b' : List Char) :
    ∀ c ∈ (r.endWith b b').head?, isBlank c = false := by
  obtain ⟨d, hd, hsolid, -⟩ := h.second.head?_written (b ++ ':' :: (b' ++ r.label))
  intro c hc
  obtain rfl : d = c := Option.some.inj (hd.symm.trans hc)
  exact hsolid

theorem IsLegal.name?_first (h : r.IsLegal) {gap : List Char} (hgap : IsGap gap) (s : List Char) :
    name? (r.first.written ++ (gap ++ s)) = some (r.first.written, gap ++ s) :=
  h.first.name?_written fun c hc => not_isWordOrHyphen_of_isBlank (head?_gap hgap s c hc)

/-! ## Both forms -/

variable {gap gap' b b' : List Char}

theorem IsLegal.glyphRelationship?_glyphs (h : r.IsLegal) (hline : r.OneLine) {g g' : String}
    (hg : (g, r.cardinality1) ∈ glyphs) (hg' : (g', r.cardinality2) ∈ glyphs) (hgap : IsGap gap)
    (hgap' : IsGap gap') (hb : ∀ c ∈ b, isBlank c = true) (hb' : ∀ c ∈ b', isBlank c = true) :
    glyphRelationship? (r.first.written ++
      (gap ++ (g.toList ++ (stroke r.identifying ++ (g'.toList ++ (gap' ++ r.endWith b b')))))) =
      some r.link := by
  have hsolid : ∀ e ∈ glyphs, ∃ d t, e.1.toList = d :: t ∧ isBlank d = false := by
    intro e he
    have hall : ∀ e ∈ glyphs, e.1.toList ≠ [] ∧ ∀ d ∈ e.1.toList.head?, isBlank d = false := by
      decide
    obtain ⟨d, t, hcons⟩ := List.exists_cons_of_ne_nil (hall e he).1
    exact ⟨d, t, hcons, (hall e he).2 d (by rw [hcons]; rfl)⟩
  obtain ⟨d, t, hcons, hd⟩ := hsolid _ hg
  have hfirst := gap?_append (s := g.toList ++ (stroke r.identifying ++ (g'.toList ++
    (gap' ++ r.endWith b b')))) hgap (by simpa [hcons] using hd)
  have hglyph := glyph?_of_mem hg (s := stroke r.identifying ++ (g'.toList ++
    (gap' ++ r.endWith b b'))) (by cases r.identifying <;> simp [stroke] <;> decide)
  have hglyph' := glyph?_of_mem hg' (s := gap' ++ r.endWith b b') fun c hc => by
    simp [isGlyphChar, head?_gap hgap' _ c hc]
  have hsecond := gap?_append hgap' (h.head?_endWith b b')
  have hend := h.linkEnd?_endWith hline hb hb'
  rw [glyphRelationship?, h.name?_first hgap]
  simp only [Option.bind_eq_bind, Option.bind_some, hfirst, hglyph]
  cases hidentifying : r.identifying <;>
    simp [stroke, literal?, hglyph', hsecond, hend, h.first.unquote_written, ofGlyph_of_mem hg,
      ofGlyph_of_mem hg', link, hidentifying]

theorem glyph_or_blank_of_mem {w : String} {c : Cardinality} (h : (w, c) ∈ phrases) :
    ∀ d ∈ w.toList, isGlyphChar d = true ∨ isBlank d = true := by
  have hall : ∀ e ∈ phrases, ∀ d ∈ e.1.toList, isGlyphChar d = true ∨ isBlank d = true := by
    decide +kernel
  exact hall _ h

theorem head?_phrase {w : String} {c : Cardinality} (h : (w, c) ∈ phrases) (s : List Char) :
    ∀ d ∈ (w.toList ++ s).head?, isBlank d = false := by
  have hall : ∀ e ∈ phrases, e.1.toList ≠ [] ∧ ∀ d ∈ e.1.toList.head?, isBlank d = false := by
    decide +kernel
  obtain ⟨hne, hsolid⟩ := hall _ h
  rwa [List.head?_append_of_ne_nil _ hne]

/-- No glyphs stand where phrases do. -/
theorem IsLegal.glyphRelationship?_words (h : r.IsLegal) {w : String} {c : Cardinality}
    (hw : (w, c) ∈ phrases) (hgap : IsGap gap) (hgap' : IsGap gap') (s : List Char) :
    glyphRelationship? (r.first.written ++ (gap ++ (w.toList ++ (gap' ++ s)))) = none := by
  have hfirst := gap?_append (s := w.toList ++ (gap' ++ s)) hgap (head?_phrase hw _)
  obtain ⟨d, t, hdrop, hd⟩ := exists_blank_behind_glyph (s := s) (glyph_or_blank_of_mem hw) hgap'
  rw [glyphRelationship?, h.name?_first hgap]
  simp only [Option.bind_eq_bind, Option.bind_some, hfirst]
  cases hglyph : glyph? (w.toList ++ (gap' ++ s)) with
  | none => rfl
  | some p =>
    unfold glyph? at hglyph
    dsimp only at hglyph
    split at hglyph
    · cases hglyph
    · cases hglyph
      have hdash : '-' ≠ d := by rintro rfl; exact absurd hd (by decide)
      have hdot : '.' ≠ d := by rintro rfl; exact absurd hd (by decide)
      simp [hdrop, literal?, hdash, hdot]

theorem IsLegal.wordRelationship?_words (h : r.IsLegal) (hline : r.OneLine) {w w' : String}
    {inner inner' : List Char} (hw : (w, r.cardinality1) ∈ phrases)
    (hw' : (w', r.cardinality2) ∈ phrases) (hinner : IsGap inner) (hinner' : IsGap inner')
    (hgap : IsGap gap) (hgap' : IsGap gap') (hb : ∀ c ∈ b, isBlank c = true)
    (hb' : ∀ c ∈ b', isBlank c = true) :
    wordRelationship? (r.first.written ++ (gap ++ (w.toList ++ (inner ++
      (preposition r.identifying ++ (inner' ++ (w'.toList ++ (gap' ++ r.endWith b b')))))))) =
      some r.link := by
  have hfirst := gap?_append (s := w.toList ++ (inner ++ (preposition r.identifying ++
    (inner' ++ (w'.toList ++ (gap' ++ r.endWith b b')))))) hgap (head?_phrase hw _)
  have hphrase := phrase?_of_mem hw (s := preposition r.identifying ++ (inner' ++ (w'.toList ++
    (gap' ++ r.endWith b b')))) hinner (by cases r.identifying <;> simp [preposition] <;> decide)
  have hmiddle := gap?_append hinner' (head?_phrase hw' (gap' ++ r.endWith b b'))
  have hphrase' := phrase?_of_mem hw' hgap' (h.head?_endWith b b')
  have hend := h.linkEnd?_endWith hline hb hb'
  rw [wordRelationship?, h.name?_first hgap]
  simp only [Option.bind_eq_bind, Option.bind_some, hfirst, hphrase]
  cases hidentifying : r.identifying <;>
    simp [preposition, literal?, hmiddle, hphrase', hend, h.first.unquote_written, link,
      hidentifying]

/-- Every spelling of a relationship is recognised as the relationship. -/
theorem IsLegal.recognise_spelling (h : r.IsLegal) (hline : r.OneLine) {s : List Char}
    (hs : r.Spelling s) : Statement.recognise (String.ofList s) = .relationship r.link := by
  have hlink : (glyphRelationship? s <|> wordRelationship? s) = some r.link := by
    cases hs with
    | mk hbetween hgap hgap' hb hb' =>
      cases hbetween with
      | glyphs _ _ hg hg' =>
        simp only [List.append_assoc]
        rw [h.glyphRelationship?_glyphs hline hg hg' hgap hgap' hb hb']
        rfl
      | words _ _ hw hw' hinner hinner' =>
        simp only [List.append_assoc]
        rw [h.glyphRelationship?_words hw hgap hinner,
          h.wordRelationship?_words hline hw hw' hinner hinner' hgap hgap' hb hb']
        rfl
  have hclose : String.ofList s ≠ "\x7d" := by
    cases hs with
    | mk =>
      obtain ⟨c, hc, -, hbrace⟩ := h.first.head?_written _
      intro he
      have hhead := congrArg (fun s : String => s.toList.head?) he
      rw [String.toList_ofList, hc] at hhead
      exact hbrace (Option.some.inj hhead)
  rw [Statement.recognise, if_neg hclose, String.toList_ofList, hlink]

end RelationText

/-! ## The relationship in the diagram -/

theorem get?_mention (st : State) (id j : String) :
    (st.mention id).entities.get? j = (st.entities.get? j).or
      (if j = id then some (Entity.mentioned id st.entities.size) else none) := by
  by_cases hj : j = id
  · subst hj
    rw [if_pos rfl]
    refine (Registry.get?_ensure_self st.entities j _).trans ?_
    cases st.entities.get? j <;> rfl
  · rw [if_neg hj, Option.or_none]
    exact Registry.get?_ensure_of_ne st.entities _ hj

namespace RelationText

variable {r : RelationText}

/-- The relationship on a line. -/
def relationship (r : RelationText) (line : Int) : Relationship where
  entity1 := String.ofList r.first.text
  entity2 := String.ofList r.second.text
  cardinality1 := r.cardinality1
  cardinality2 := r.cardinality2
  identifying := r.identifying
  label := some (String.ofList r.label)
  line := line

/-- The ids of the two entities. -/
def ids (r : RelationText) : List String :=
  [String.ofList r.first.text, String.ofList r.second.text]

/-- What a line does to a state, if it says the relationship `r`. -/
structure Joins (r : RelationText) (line : Int) (st st' : State) : Prop where
  /-- The relationship is added behind those so far. -/
  relationships : st'.relationships = st.relationships ++ [r.relationship line]
  /-- The entities are registered in order. -/
  keys : st'.entities.keys = addAllNew st.entities.keys r.ids
  known : ∀ id e, st.entities.get? id = some e → st'.entities.get? id = some e
  new : ∀ id ∈ r.ids, st.entities.get? id = none →
    ∃ order, st'.entities.get? id = some (Entity.mentioned id order)
  reports : st'.reports = st.reports
  /-- Apart from the relationships, the entities are mentioned one after the other. -/
  mentions : st' = { r.ids.foldl State.mention st with relationships := st'.relationships }

/-- The relationship is read from every line that says it, in whichever spelling, unless a body is
open. -/
def IsRead (r : RelationText) : Prop :=
  ∀ (s : List Char) (l : Line) (st : State), r.Spelling s → st.body = none →
    l.text = String.ofList s → r.Joins l.number st (st.step l)

theorem IsLegal.relate_eq (h : r.IsLegal) (l : Line) (st : State) :
    st.relate l r.link = { r.ids.foldl State.mention st with
      relationships := st.relationships ++ [r.relationship l.number] } := by
  have hlabel : String.ofList r.label ≠ "" := by simpa using h.label_ne_nil
  simp [State.relate, State.linkProblems, State.reportAll, State.mention, State.cardinality, link,
    ids, relationship, hlabel]

theorem IsLegal.joins_relate (h : r.IsLegal) (l : Line) (st : State) :
    r.Joins l.number st (st.relate l r.link) := by
  have hget : ∀ j, (r.ids.foldl State.mention st).entities.get? j = (st.entities.get? j).or _ :=
    fun j => (get?_mention _ _ j).trans (by rw [get?_mention, Option.or_assoc])
  have hkeys : (st.relate l r.link).entities.keys = addAllNew st.entities.keys r.ids :=
    (st.enrols_relate l r.link).keys
  rw [h.relate_eq] at hkeys ⊢
  refine ⟨rfl, hkeys, fun id e he => ?_, fun id hid hnone => ?_, rfl, rfl⟩
  · exact (hget id).trans (by rw [he]; rfl)
  · by_cases hfirst : id = String.ofList r.first.text
    · subst hfirst
      exact ⟨_, (hget _).trans (by rw [hnone, if_pos rfl]; rfl)⟩
    · obtain rfl : id = String.ofList r.second.text := by simpa [ids, hfirst] using hid
      exact ⟨_, (hget _).trans (by rw [hnone, if_neg hfirst, if_pos rfl]; rfl)⟩

end RelationText

/-- **Glyphs and words.** A relationship is read from each of its spellings, in glyphs and in words:
all of them join the same two entities by the same relationship, without any report. -/
theorem spellings_mean_the_same {r : RelationText} (h : r.IsLegal) (hline : r.OneLine) :
    r.IsRead := by
  intro s l st hs hbody htext
  have hstep : st.step l = st.relate l r.link := by
    simp [State.step, hbody, htext, h.recognise_spelling hline hs]
  rw [hstep]
  exact h.joins_relate l st

/-- A relationship whose names are phrases and prepositions. -/
def wordyRelation : RelationText where
  first := .quoted "1 to 1".toList
  second := .plain "to".toList
  cardinality1 := .oneOrMany
  cardinality2 := .exactlyOne
  identifying := false
  label := "a -- b : \"c".toList

theorem spellings_mean_the_same_wordy :
    (wordyRelation.IsLegal ∧ wordyRelation.OneLine ∧ wordyRelation.IsRead) ∧
      wordyRelation.Spelling "\"1 to 1\" \x7d|..|| to : a -- b : \"c".toList ∧
      wordyRelation.Spelling "\"1 to 1\" 1+ optionally to 1 to : a -- b : \"c".toList := by
  have hquoted : ¬ IsQuoted wordyRelation.label := by
    rintro ⟨t, ht⟩
    cases ht
  have hlegal : wordyRelation.IsLegal := ⟨by decide, by decide, by decide, by decide, hquoted⟩
  have hline : wordyRelation.OneLine := by simp [RelationText.OneLine, wordyRelation]
  have hspace : ∀ c ∈ [' '], isBlank c = true := by decide
  have hgap : IsGap [' '] := by decide
  refine ⟨⟨hlegal, hline, spellings_mean_the_same hlegal hline⟩, ?_, ?_⟩
  · have hparts : "\"1 to 1\" \x7d|..|| to : a -- b : \"c".toList = wordyRelation.first.written ++
        ([' '] ++ (("\x7d|".toList ++ (stroke false ++ "||".toList)) ++
          ([' '] ++ wordyRelation.endWith [' '] [' ']))) := by
      decide +kernel
    rw [hparts]
    exact .mk (.glyphs _ _ (by decide) (by decide)) hgap hgap hspace hspace
  · have hparts : "\"1 to 1\" 1+ optionally to 1 to : a -- b : \"c".toList =
        wordyRelation.first.written ++ ([' '] ++ (("1+".toList ++ ([' '] ++ (preposition false ++
          ([' '] ++ "1".toList)))) ++ ([' '] ++ wordyRelation.endWith [' '] [' ']))) := by
      decide +kernel
    rw [hparts]
    exact .mk (.words _ _ (by decide) (by decide) hgap hgap) hgap hgap hspace hspace

/-- A relationship with a line feed in its label. -/
def brokenLabel : RelationText where
  first := .plain ['A']
  second := .plain ['B']
  cardinality1 := .exactlyOne
  cardinality2 := .exactlyOne
  identifying := true
  label := "x\ny".toList

/-- A label that goes on behind a line feed is no label. -/
theorem brokenLabel_not_isRead : brokenLabel.IsLegal ∧ ¬ brokenLabel.IsRead := by
  have hquoted : ¬ IsQuoted brokenLabel.label := by
    rintro ⟨t, ht⟩
    cases ht
  refine ⟨⟨by decide, by decide, by decide, by decide, hquoted⟩, fun hread => ?_⟩
  have hgap : IsGap [' '] := by decide
  have hspace : ∀ c ∈ [' '], isBlank c = true := by decide
  have hbetween : brokenLabel.Between "||--||".toList :=
    .glyphs "||" "||" (by decide) (by decide)
  have hspelled : brokenLabel.Spelling "A ||--|| B : x\ny".toList :=
    .mk hbetween hgap hgap hspace hspace
  have hjoins := hread _ ⟨2, "A ||--|| B : x\ny", 0, 1⟩ {} hspelled rfl (by decide)
  have hnone : (({} : State).step ⟨2, "A ||--|| B : x\ny", 0, 1⟩).relationships = [] := by
    decide +kernel
  rw [hjoins.relationships] at hnone
  cases hnone

end DiagramText.Er
