import DiagramText.Proofs.Classes.Connectors
import DiagramText.Proofs.Classes.Identity

/-!
# Relationships written with blanks

A relationship between two words is written with one blank between any two of its parts, with
multiplicities between quotes and a label behind a colon.  The reader finds the same parts again: a
part without blanks ends at the first blank, and no cut inside the first name is in front of one.

1. `RelationText.spaced` and `RelationText.IsPlain`.
2. Multiplicities, quoted and bare, and the first connector that can be read.
3. The second end, and all that stands behind the first name.
4. The forms that are tried in front of relationships start with a keyword and a gap.
5. `RelationText.Joins`, what a relationship does to a diagram, and `spaced_relationship_is_read`.
-/

namespace DiagramText.Classes

open Source (Line)
open Text

/-! ## Written relationships -/

/-- A multiplicity between quotes in front of `s`, if there is one. -/
def quotedFront (m : Option (List Char)) (s : List Char) : List Char :=
  match m with
  | some m => '"' :: (m ++ '"' :: ' ' :: s)
  | none => s

/-- A label behind a colon, if there is one. -/
def labelBehind : Option (List Char) → List Char
  | some t => ' ' :: ':' :: ' ' :: t
  | none => []

namespace RelationText

variable (r : RelationText)

/-- The second multiplicity, the second name and the label. -/
def far : List Char := quotedFront r.targetMultiplicity (r.target ++ labelBehind r.label)

/-- The first multiplicity, the connector, and all that stands behind it. -/
def middle : List Char :=
  quotedFront r.sourceMultiplicity (r.connector.token.toList ++ ' ' :: r.far)

/-- The relationship with one blank between any two parts. -/
def spaced : List Char := r.source ++ ' ' :: r.middle

/-- A relationship between two words. -/
structure IsPlain : Prop where
  source_ne_nil : r.source ≠ []
  source_word : ∀ c ∈ r.source, isWord c = true
  target_ne_nil : r.target ≠ []
  target_word : ∀ c ∈ r.target, isWord c = true
  sourceMultiplicity : ∀ m ∈ r.sourceMultiplicity, '"' ∉ m
  targetMultiplicity : ∀ m ∈ r.targetMultiplicity, '"' ∉ m
  label : ∀ t ∈ r.label, t ≠ [] ∧ trim t = t

/-- The first name is no keyword of a declaration or of a note. -/
def Leads : Prop := r.source ≠ "class".toList ∧ r.source ≠ "note".toList

/-- The label has no line feed. -/
def OneLine : Prop := ∀ t ∈ r.label, '\n' ∉ t

end RelationText

/-! ## Multiplicities -/

theorem quotedText?_quoted {m : List Char} (h : '"' ∉ m) (s : List Char) :
    quotedText? ('"' :: (m ++ '"' :: s)) = some (m, s) := by
  have hm : ∀ c ∈ m, (c != '"') = true := fun c hc => by
    simpa using fun he : c = '"' => h (he ▸ hc)
  show (do return ((m ++ '"' :: s).takeWhile (· != '"'),
    ← literal? ['"'] ((m ++ '"' :: s).dropWhile (· != '"')))) = some (m, s)
  rw [takeWhile_append_cons hm (by decide), dropWhile_append_cons hm (by decide)]
  rfl

theorem quotedText?_of_head {s : List Char} (h : ∀ c ∈ s.head?, c ≠ '"') :
    quotedText? s = none := by
  cases s with
  | nil => rfl
  | cons c s => simp [quotedText?, literal?, (h c rfl).symm]

theorem isBlank_of_isDigit {c : Char} (h : isDigit c = true) : isBlank c = false := by
  by_contra hblank
  have hdigit : isDigit c = false :=
    forall_isBlank (P := (isDigit · = false)) (by decide +kernel) (by simpa using hblank)
  rw [h] at hdigit
  cases hdigit

/-- A bound is a part of the text without blanks. -/
theorem solid_of_mem_bounds {s b rest : List Char} (h : (b, rest) ∈ bounds s) :
    s = b ++ rest ∧ ∀ c ∈ b, isBlank c = false := by
  rcases List.mem_append.1 h with h | h
  · obtain ⟨n, hn, heq⟩ := List.mem_map.1 h
    cases heq
    refine ⟨(List.take_append_drop _ s).symm, fun c hc => isBlank_of_isDigit ?_⟩
    have hdigits : s.take (n + 1) <+: s.takeWhile isDigit := by
      refine List.prefix_of_prefix_length_le (List.take_prefix _ _) (List.takeWhile_prefix _) ?_
      have hlength : n < (s.takeWhile isDigit).length := by simpa using hn
      exact (List.length_take_le _ _).trans hlength
    exact List.mem_takeWhile_imp (hdigits.subset hc)
  · obtain ⟨w, hw, h⟩ := List.mem_filterMap.1 h
    obtain ⟨u, hu, heq⟩ := Option.map_eq_some_iff.1 h
    cases heq
    have hall : ∀ w ∈ ["*", "n", "many"], ∀ c ∈ w.toList, isBlank c = false := by decide
    exact ⟨literal?_eq_some_iff.1 hu, hall w hw⟩

theorem solid_of_mem_multiplicities {s m rest : List Char} (h : (m, rest) ∈ multiplicities s) :
    s = m ++ rest ∧ ∀ c ∈ m, isBlank c = false := by
  obtain ⟨⟨low, u⟩, hlow, hrange⟩ := List.mem_flatMap.1 h
  obtain ⟨hs, hsolid⟩ := solid_of_mem_bounds hlow
  rcases List.mem_append.1 hrange with hrange | hsingle
  · dsimp only at hrange
    split at hrange
    · rename_i v hdots
      obtain ⟨⟨high, w⟩, hhigh, heq⟩ := List.mem_map.1 hrange
      obtain ⟨hv, hsolid'⟩ := solid_of_mem_bounds hhigh
      cases heq
      refine ⟨by rw [hs, literal?_eq_some_iff.1 hdots, hv]; simp, ?_⟩
      have hdot : isBlank '.' = false := by decide
      simpa [or_imp, forall_and, hdot] using ⟨hsolid, hsolid'⟩
    · cases hrange
  · cases List.mem_singleton.1 hsingle
    exact ⟨hs, hsolid⟩

/-! ## The connector -/

theorem head_token (c : Connector) (s : List Char) :
    ∀ d ∈ (c.token.toList ++ s).head?, isBlank d = false ∧ d ≠ '"' := by
  intro d hd
  have hmem := Connector.mem_token_of_head hd
  exact ⟨c.solid_token d hmem, fun he => c.quote_notMem_token (he ▸ hmem)⟩

theorem trimStart_token (c : Connector) (s : List Char) :
    trimStart (c.token.toList ++ s) = c.token.toList ++ s :=
  trimStart_of_head fun d hd => (head_token c s d hd).1

/-- A connector is read, if no other one that is as long can be read in its place. -/
theorem connection?_of_token {spaced : Bool} {source s behind far target : List Char}
    {m targetMultiplicity label : Option (List Char)} {c : Connector}
    (hfront : around? spaced s = some (c.token.toList ++ behind))
    (hbehind : around? spaced behind = some far)
    (hfar : targetEnd? far = some (targetMultiplicity, target, label))
    (hother : ∀ c' u, c.token.length ≤ c'.token.length →
      c.token.toList ++ behind = c'.token.toList ++ u → around? spaced u ≠ none → c' = c) :
    connection? spaced source m s =
      some { source, sourceMultiplicity := m, connector := c, targetMultiplicity, target,
             label } := by
  rw [connection?, hfront, Option.bind_eq_bind, Option.bind_some]
  refine Connector.findSome?_longestFirst (c := c) ?_ fun c' hlength hne => ?_
  · simp [literal?_eq_some_iff.2 rfl, hbehind, hfar]
  · cases hu : literal? c'.token.toList (c.token.toList ++ behind) with
    | none => rfl
    | some u =>
      cases haround : around? spaced u with
      | none => simp [haround]
      | some v =>
        exact absurd (hother c' u hlength (literal?_eq_some_iff.1 hu) (by simp [haround])) hne

theorem connection?_eq_none {spaced : Bool} {s rest : List Char}
    (hfront : around? spaced s = some rest)
    (h : ∀ c : Connector, literal? c.token.toList rest = none) (source : List Char)
    (m : Option (List Char)) : connection? spaced source m s = none := by
  simp [connection?, hfront, h]

/-- Where neither a gap nor a quote stands, there is no multiplicity. -/
theorem multiplicityEnd?_of_head {spaced : Bool} {s : List Char}
    (h : ∀ c ∈ s.head?, isBlank c = false ∧ c ≠ '"') (source : List Char) :
    multiplicityEnd? spaced source s = connection? spaced source none s := by
  cases s with
  | nil => rfl
  | cons c s =>
    have htrim : trimStart (c :: s) = c :: s := trimStart_of_head fun d hd => (h d hd).1
    have hquoted : quotedText? (c :: s) = none := quotedText?_of_head fun d hd => (h d hd).2
    rw [multiplicityEnd?, htrim, hquoted, gap?_of_solid (h c rfl).1]
    rfl

theorem connection?_of_head {s : List Char} (h : ∀ c ∈ s.head?, isBlank c = false)
    (source : List Char) (m : Option (List Char)) : connection? true source m s = none := by
  cases s with
  | nil => rfl
  | cons c s => simp [connection?, around?, gap?_of_solid (h c rfl)]

theorem isNameChar_of_isWord {c : Char} (h : isWord c = true) : isNameChar c = true := by
  simp [isNameChar, isNameStart, h]

/-- The first name is the whole word in front, if no connector can be read inside it. -/
theorem spacedRelationship?_word {spaced : Bool} {s u : List Char} {r : RelationText} (hne : s ≠ [])
    (hs : ∀ c ∈ s, isWord c = true)
    (hinside : ∀ x d y, x ≠ [] → s = x ++ d :: y → connection? spaced x none (d :: y ++ u) = none)
    (hend : multiplicityEnd? spaced s u = some r) :
    spacedRelationship? spaced (s ++ u) = some r := by
  obtain ⟨c, t, rfl⟩ := List.exists_cons_of_ne_nil hne
  obtain ⟨hc, ht⟩ := List.forall_mem_cons.1 hs
  have hstart : isNameStart c = true := by simp [isNameStart, hc]
  rw [List.cons_append, spacedRelationship?, if_pos hstart]
  refine shortest_append (fun d hd => isNameChar_of_isWord (ht d hd)) (fun x d y hy => ?_) hend
  have hd : isWord d = true := ht d (by simp [hy])
  rw [multiplicityEnd?_of_head (by simpa [isBlank_of_isWord hd] using ne_of_isWord hd (by decide))]
  exact hinside (c :: x) d y (List.cons_ne_nil c x) (by rw [hy]; rfl)

/-! ## The second end -/

variable {r : RelationText}

/-- The second name ends in front of its label. -/
theorem target?_word {t : List Char} {label : Option (List Char)} (hne : t ≠ [])
    (ht : ∀ c ∈ t, isWord c = true) (hlabel : labelEnd? (labelBehind label) = some label) :
    target? (t ++ labelBehind label) = some (t, label) := by
  have hname : ∀ c ∈ t, isNameChar c = true := fun c hc => isNameChar_of_isWord (ht c hc)
  have htake : (t ++ labelBehind label).takeWhile isNameChar = t := by
    cases label with
    | none => rw [labelBehind, List.append_nil, List.takeWhile_eq_self_iff.2 hname]
    | some u => exact takeWhile_append_cons hname (by decide) _
  have hdrop : (t ++ labelBehind label).dropWhile isNameChar = labelBehind label := by
    cases label with
    | none => rw [labelBehind, List.append_nil, List.dropWhile_eq_nil_iff.2 hname]
    | some u => exact dropWhile_append_cons hname (by decide) _
  obtain ⟨c, u, rfl⟩ := List.exists_cons_of_ne_nil hne
  have hstart : isNameStart c = true := by simp [isNameStart, ht c List.mem_cons_self]
  show (if isNameStart c then (labelEnd? ((c :: u ++ labelBehind label).dropWhile isNameChar)).map
    ((c :: u ++ labelBehind label).takeWhile isNameChar, ·) else none) = _
  rw [if_pos hstart, htake, hdrop, hlabel]
  rfl

namespace RelationText

theorem IsPlain.labelEnd?_labelBehind (h : r.IsPlain) (hline : r.OneLine) :
    labelEnd? (labelBehind r.label) = some r.label := by
  cases hlabel : r.label with
  | none => rfl
  | some t =>
    show (lineRest? (trimStart (' ' :: t))).map some = some (some t)
    have htrim : trimStart (' ' :: t) = t := trimStart_of_head (head_of_trim (h.label t hlabel).2)
    rw [htrim, lineRest?_of_notMem (hline t hlabel)]
    rfl

theorem IsPlain.source_solid (h : r.IsPlain) : ∀ c ∈ r.source, isBlank c = false :=
  fun c hc => isBlank_of_isWord (h.source_word c hc)

theorem IsPlain.target_solid (h : r.IsPlain) : ∀ c ∈ r.target, isBlank c = false :=
  fun c hc => isBlank_of_isWord (h.target_word c hc)

/-- The second end starts with a quote, or with the second name. -/
theorem IsPlain.exists_far (h : r.IsPlain) :
    ∃ c u, r.far = c :: u ∧ (c = '"' ∨ isWord c = true) := by
  unfold far
  cases r.targetMultiplicity with
  | some m => exact ⟨'"', _, rfl, .inl rfl⟩
  | none =>
    obtain ⟨c, u, hcons⟩ := List.exists_cons_of_ne_nil h.target_ne_nil
    refine ⟨c, u ++ labelBehind r.label, by rw [quotedFront, hcons]; rfl, .inr ?_⟩
    exact h.target_word c (by rw [hcons]; exact List.mem_cons_self)

theorem IsPlain.mem_far (h : r.IsPlain) : ∃ c ∈ r.far, isWord c = true := by
  obtain ⟨c, hc⟩ := List.exists_mem_of_ne_nil _ h.target_ne_nil
  refine ⟨c, ?_, h.target_word c hc⟩
  unfold far
  cases r.targetMultiplicity <;> simp [quotedFront, hc]

/-- Behind a bare multiplicity that is read from the second name, no name can be read: the
multiplicity is the name itself, and behind it stands a colon at most. -/
theorem IsPlain.target?_behind_multiplicity (h : r.IsPlain) {m rest v : List Char}
    (hmem : (m, rest) ∈ multiplicities (r.target ++ labelBehind r.label))
    (hgap : gap? rest = some v) : target? v = none := by
  obtain ⟨hsplit, hsolid⟩ := solid_of_mem_multiplicities hmem
  cases hlabel : r.label with
  | none =>
    obtain ⟨d, s, hrest, hblank, -⟩ := exists_of_gap? hgap
    rw [hlabel, labelBehind, List.append_nil] at hsplit
    have hmem : d ∈ r.target := by simp [hsplit, hrest]
    rw [h.target_solid d hmem] at hblank
    cases hblank
  | some t =>
    rw [hlabel] at hsplit
    rw [(eq_of_gap? h.target_solid hsolid hsplit hgap).2]
    rfl

theorem IsPlain.targetEnd?_far (h : r.IsPlain) (hline : r.OneLine) :
    targetEnd? r.far = some (r.targetMultiplicity, r.target, r.label) := by
  have htarget := target?_word h.target_ne_nil h.target_word (h.labelEnd?_labelBehind hline)
  obtain ⟨c, u, hcons⟩ := List.exists_cons_of_ne_nil h.target_ne_nil
  have hc : isWord c = true := h.target_word c (by rw [hcons]; exact List.mem_cons_self)
  cases hm : r.targetMultiplicity with
  | some m =>
    have hquoted : quotedText? r.far = some (m, ' ' :: (r.target ++ labelBehind r.label)) := by
      rw [far, hm]
      exact quotedText?_quoted (h.targetMultiplicity m hm) _
    have htrim : trimStart (' ' :: (r.target ++ labelBehind r.label)) =
        r.target ++ labelBehind r.label :=
      trimStart_of_head (s := r.target ++ _) (by simp [hcons, isBlank_of_isWord hc])
    simp [targetEnd?, hquoted, htrim, htarget]
  | none =>
    have hfar : r.far = r.target ++ labelBehind r.label := by rw [far, hm]; rfl
    have hquoted : quotedText? r.far = none := by
      rw [hfar, hcons]
      exact quotedText?_of_head (by simpa using ne_of_isWord hc (by decide))
    rw [targetEnd?, hquoted, List.findSome?_eq_none_iff.2, hfar, htarget]
    · rfl
    · rintro ⟨m, rest⟩ hmem
      cases hgap : gap? rest with
      | none => simp [hgap]
      | some v => simp [hgap, h.target?_behind_multiplicity (hfar ▸ hmem) hgap]

/-! ## From the first name on -/

theorem IsPlain.trimStart_far (h : r.IsPlain) : trimStart r.far = r.far := by
  obtain ⟨c, u, hfar, hc⟩ := h.exists_far
  refine trimStart_of_head ?_
  rcases hc with rfl | hc
  · simp [hfar]; decide
  · simpa [hfar] using isBlank_of_isWord hc

/-- No connector starts in the second end. -/
theorem IsPlain.literal?_token_far (h : r.IsPlain) (c : Connector) :
    literal? c.token.toList r.far = none := by
  unfold far
  cases r.targetMultiplicity with
  | some m =>
    exact c.literal?_token_eq_none (t := []) (List.forall_mem_nil _) (by simp; decide)
  | none =>
    refine c.literal?_token_eq_none h.target_word ?_
    cases r.label with
    | none => exact fun d hd => by cases hd
    | some t => simp [labelBehind]; decide

/-- Between two blanks, the connector is the only one that can be read. -/
theorem IsPlain.connection?_token (h : r.IsPlain) (hline : r.OneLine)
    (m : Option (List Char)) :
    connection? true r.source m (' ' :: (r.connector.token.toList ++ ' ' :: r.far)) =
      some { r with sourceMultiplicity := m } := by
  refine connection?_of_token (congrArg some (trimStart_token _ _))
    (congrArg some h.trimStart_far) (h.targetEnd?_far hline) fun c u _ hu haround => ?_
  obtain ⟨v, hgap⟩ := Option.ne_none_iff_exists'.1 haround
  exact (Connector.eq_of_token (eq_of_gap? r.connector.solid_token c.solid_token hu hgap).1).symm

/-- A bare multiplicity in front of the connector is the connector itself, and behind it there is no
further one. -/
theorem IsPlain.connection?_behind_multiplicity (h : r.IsPlain) {m rest : List Char}
    (hmem : (m, rest) ∈ multiplicities (r.connector.token.toList ++ ' ' :: r.far)) :
    connection? true r.source (some m) rest = none := by
  obtain ⟨hsplit, hsolid⟩ := solid_of_mem_multiplicities hmem
  cases hgap : gap? rest with
  | none => simp [connection?, around?, hgap]
  | some v =>
    have hv : v = r.far := by
      rw [(eq_of_gap? r.connector.solid_token hsolid hsplit hgap).2, h.trimStart_far]
    have hfront : around? true rest = some r.far := hgap.trans (congrArg some hv)
    exact connection?_eq_none hfront h.literal?_token_far _ _

/-- The connector and a quote have no blank in front. -/
theorem trimStart_middle (r : RelationText) : trimStart r.middle = r.middle := by
  unfold middle
  cases r.sourceMultiplicity with
  | some m => exact trimStart_of_head (by simp [quotedFront]; decide)
  | none => exact trimStart_token _ _

theorem IsPlain.multiplicityEnd?_middle (h : r.IsPlain) (hline : r.OneLine) :
    multiplicityEnd? true r.source (' ' :: r.middle) = some r := by
  have htoken : connection? true r.source r.sourceMultiplicity
      (' ' :: (r.connector.token.toList ++ ' ' :: r.far)) = some r := h.connection?_token hline _
  cases hm : r.sourceMultiplicity with
  | some m =>
    have hquoted : quotedText? (trimStart (' ' :: r.middle)) =
        some (m, ' ' :: (r.connector.token.toList ++ ' ' :: r.far)) := by
      rw [middle, hm]
      exact quotedText?_quoted (h.sourceMultiplicity m hm) _
    rw [multiplicityEnd?, hquoted]
    simp [← hm, htoken]
  | none =>
    have hmiddle : r.middle = r.connector.token.toList ++ ' ' :: r.far := by rw [middle, hm]; rfl
    have htrim : trimStart (' ' :: r.middle) = r.middle := r.trimStart_middle
    have hgap : gap? (' ' :: r.middle) = some r.middle := congrArg some htrim
    have hquoted : quotedText? r.middle = none := by
      rw [hmiddle]
      exact quotedText?_of_head fun d hd => (head_token _ _ d hd).2
    rw [hm, ← hmiddle] at htoken
    rw [multiplicityEnd?, htrim, hgap, hquoted, Option.bind_eq_bind, Option.bind_eq_bind,
      Option.bind_some, List.findSome?_eq_none_iff.2, htoken]
    · rfl
    · rintro ⟨m, rest⟩ hmem
      exact h.connection?_behind_multiplicity (hmiddle ▸ hmem)

/-- A plain relationship is read as it is written. -/
theorem IsPlain.relationship?_spaced (h : r.IsPlain) (hline : r.OneLine) :
    relationship? r.spaced = some r := by
  have hread : spacedRelationship? true r.spaced = some r := by
    refine spacedRelationship?_word h.source_ne_nil h.source_word (fun x d y _ hsource => ?_)
      (h.multiplicityEnd?_middle hline)
    exact connection?_of_head (by simpa using h.source_solid d (by simp [hsource])) x none
  rw [relationship?, hread]
  rfl

end RelationText

/-! ## Forms in front of relationships -/

/-- A relationship is recognised in front of which no keyword can be read. -/
theorem recognise?_relate {s u : List Char} {r : RelationText} (hne : s ≠ [])
    (hs : ∀ c ∈ s, isWord c = true) (hgroup : namespace? (s ++ u) = none)
    (hdeclaration : declaration? (s ++ u) = none) (hdirection : direction? (s ++ u) = none)
    (hnote : note? (s ++ u) = none) (hr : relationship? (s ++ u) = some r) :
    Statement.recognise? (s ++ u) = some (.relate r) := by
  obtain ⟨c, t, rfl⟩ := List.exists_cons_of_ne_nil hne
  have hc := hs c List.mem_cons_self
  have hbrace : c :: t ++ u ≠ ['\x7d'] :=
    fun he => ne_of_isWord hc (by decide) (List.cons.inj he).1
  have hstereotype : stereotypeLine? (c :: t ++ u) = none := by
    have hangle : ¬ '<' = c := (ne_of_isWord hc (by decide)).symm
    simp [stereotypeLine?, stereotype?, literal?, hangle]
  rw [Statement.recognise?, hgroup, if_neg hbrace, hdeclaration, hstereotype, hdirection, hnote, hr]
  rfl

namespace RelationText

/-- A keyword in front of a gap is the first name. -/
theorem IsPlain.eq_of_keyword (h : r.IsPlain) {w u v : List Char}
    (hw : ∀ c ∈ w, isBlank c = false) (hs : r.spaced = w ++ u) (hgap : gap? u = some v) :
    r.source = w ∧ v = r.middle := by
  obtain ⟨hword, hv⟩ := eq_of_gap? h.source_solid hw hs hgap
  exact ⟨hword, hv.trans r.trimStart_middle⟩

/-- A word stands behind the first gap of the middle. -/
theorem IsPlain.mem_dropWhile_middle (h : r.IsPlain) :
    ∃ d ∈ r.middle.dropWhile (!isBlank ·), isWord d = true := by
  obtain ⟨d, hd, hword⟩ := h.mem_far
  obtain ⟨x, hx⟩ : ∃ x, r.middle = x ++ ' ' :: r.far := by
    unfold middle
    cases r.sourceMultiplicity with
    | some m => exact ⟨'"' :: (m ++ '"' :: ' ' :: r.connector.token.toList), by simp [quotedFront]⟩
    | none => exact ⟨r.connector.token.toList, rfl⟩
  refine ⟨d, ?_, hword⟩
  rw [hx]
  exact (suffix_dropWhile_append (by decide) x r.far).subset (List.mem_cons_of_mem _ hd)

theorem IsPlain.namespace?_spaced (h : r.IsPlain) : namespace? r.spaced = none := by
  refine keyword_eq_none fun u v hs hgap => ?_
  rw [(h.eq_of_keyword (by decide) hs hgap).2]
  obtain ⟨d, hd, hword⟩ := h.mem_dropWhile_middle
  have hend : atEnd (r.middle.dropWhile (!isBlank ·)) = false := atEnd_of_isWord hd hword
  have hmem := mem_trimStart (isBlank_of_isWord hword) hd
  dsimp only
  split
  · rename_i w hbrace
    rw [hbrace] at hmem
    have hbehind : atEnd w = false :=
      atEnd_of_isWord (List.mem_of_ne_of_mem (ne_of_isWord hword (by decide)) hmem) hword
    simp [hbehind]
  · simp [hend]

theorem IsPlain.direction?_spaced (h : r.IsPlain) : direction? r.spaced = none := by
  refine keyword_eq_none fun u v hs hgap => ?_
  rw [(h.eq_of_keyword (by decide) hs hgap).2]
  obtain ⟨d, hd, hword⟩ := h.mem_dropWhile_middle
  simp [solidEnd?, atEnd_of_isWord hd hword]

theorem IsPlain.declaration?_spaced (h : r.IsPlain) (hleads : r.Leads) :
    declaration? r.spaced = none :=
  keyword_eq_none fun _ _ hs hgap => absurd (h.eq_of_keyword (by decide) hs hgap).1 hleads.1

theorem IsPlain.note?_spaced (h : r.IsPlain) (hleads : r.Leads) : note? r.spaced = none :=
  keyword_eq_none fun _ _ hs hgap => absurd (h.eq_of_keyword (by decide) hs hgap).1 hleads.2

/-- A plain relationship is recognised on its line. -/
theorem IsPlain.recognise?_spaced (h : r.IsPlain) (hleads : r.Leads) (hline : r.OneLine) :
    Statement.recognise? r.spaced = some (.relate r) :=
  recognise?_relate h.source_ne_nil h.source_word h.namespace?_spaced
    (h.declaration?_spaced hleads) h.direction?_spaced (h.note?_spaced hleads)
    (h.relationship?_spaced hline)

end RelationText

/-! ## What a relationship does -/

namespace State

theorem get?_mention_of_some {st : State} {id : String} {e : Entity}
    (h : st.classes.get? id = some e) (j : String) : (st.mention j).classes.get? id = some e := by
  by_cases hid : id = j
  · subst hid
    exact (Registry.get?_ensure_self _ _ _).trans (by rw [h]; rfl)
  · exact (Registry.get?_ensure_of_ne _ _ hid).trans h

theorem get?_mention_self {st : State} {id : String} (h : st.classes.get? id = none) :
    (st.mention id).classes.get? id = some (Entity.mentioned id st.classes.size) :=
  (Registry.get?_ensure_self _ _ _).trans (by rw [h]; rfl)

end State

namespace RelationText

/-- The relationship on a line. -/
def relationship (r : RelationText) (line : Int) : Relationship :=
  { source := String.ofList r.source, target := String.ofList r.target,
    kind := r.connector.kind, markedEnd := r.connector.markedEnd,
    sourceMultiplicity := r.sourceMultiplicity.map String.ofList,
    targetMultiplicity := r.targetMultiplicity.map String.ofList,
    label := r.label.map String.ofList, line }

/-- The ids of the two classes, the source first. -/
def ids (r : RelationText) : List String := [String.ofList r.source, String.ofList r.target]

/-- What a line does to a state, if it is the relationship `r`. -/
structure Joins (r : RelationText) (line : Int) (st st' : State) : Prop where
  /-- The relationship is added behind those so far. -/
  relationships : st'.relationships = st.relationships ++ [r.relationship line]
  /-- The classes are registered in order. -/
  keys : st'.classes.keys = addAllNew st.classes.keys r.ids
  known : ∀ id e, st.classes.get? id = some e → st'.classes.get? id = some e
  new : ∀ id ∈ r.ids, st.classes.get? id = none →
    ∃ order, st'.classes.get? id = some (Entity.mentioned id order)
  reports : st'.reports = st.reports
  /-- Apart from the relationships, the classes are mentioned one after the other. -/
  mentions : st' = { r.ids.foldl State.mention st with relationships := st'.relationships }

/-- The relationship is read from every line on which it is written, unless a body is open. -/
def IsRead (r : RelationText) : Prop :=
  ∀ (l : Line) (st : State), st.body = none → l.text = String.ofList r.spaced →
    r.Joins l.number st (st.step l)

theorem IsPlain.relate_eq (h : r.IsPlain) (l : Line) (st : State) :
    st.relate l r = { r.ids.foldl State.mention st with
      relationships := st.relationships ++ [r.relationship l.number] } := by
  have hlabel : (r.label.map fun t => String.ofList (trim t)).filter (· ≠ "") =
      r.label.map String.ofList := by
    cases ht : r.label with
    | none => rfl
    | some t =>
      obtain ⟨hne, htrim⟩ := h.label t ht
      simp [htrim, hne]
  simp only [State.relate, ofToken_word h.source_ne_nil h.source_word,
    ofToken_word h.target_ne_nil h.target_word, hlabel]
  rfl

theorem IsPlain.joins_relate (h : r.IsPlain) (l : Line) (st : State) :
    r.Joins l.number st (st.relate l r) := by
  rw [h.relate_eq]
  refine ⟨rfl, ?_, fun id e he => ?_, fun id hid hnone => ?_, rfl, rfl⟩
  · show ((st.mention _).mention _).classes.keys = _
    exact (Registry.keys_ensure _ _ _).trans (congrArg (addNew · _) (Registry.keys_ensure _ _ _))
  · exact State.get?_mention_of_some (State.get?_mention_of_some he _) _
  · show ∃ order, ((st.mention _).mention _).classes.get? id = _
    by_cases hsource : id = String.ofList r.source
    · subst hsource
      exact ⟨_, State.get?_mention_of_some (State.get?_mention_self hnone) _⟩
    · obtain rfl : id = String.ofList r.target := by simpa [ids, hsource] using hid
      exact ⟨_, State.get?_mention_self ((Registry.get?_ensure_of_ne _ _ hsource).trans hnone)⟩

end RelationText

theorem step_relate {st : State} {l : Line} {r : RelationText} (hbody : st.body = none)
    (h : Statement.recognise? l.text.toList = some (.relate r)) : st.step l = st.relate l r := by
  simp [State.step, hbody, State.stepOutside, Statement.recognise, h]

theorem RelationText.IsPlain.step_spaced (h : r.IsPlain) (hleads : r.Leads) (hline : r.OneLine)
    {l : Line} {st : State} (hbody : st.body = none) (htext : l.text = String.ofList r.spaced) :
    st.step l = st.relate l r := by
  refine step_relate hbody ?_
  rw [htext, String.toList_ofList]
  exact h.recognise?_spaced hleads hline

/-- **Relationships.** A plain relationship that is written with blanks is read as it is written: it
joins its two classes by its connector, with its multiplicities and its label. -/
theorem spaced_relationship_is_read {r : RelationText} (h : r.IsPlain) (hleads : r.Leads)
    (hline : r.OneLine) : r.IsRead := by
  intro l st hbody htext
  rw [h.step_spaced hleads hline hbody htext]
  exact h.joins_relate l st

/-- A relationship whose parts look like multiplicities and connectors. -/
def crowdedRelation : RelationText where
  source := ['n']
  sourceMultiplicity := some "1".toList
  connector := ⟨some .filledDiamond, .dashed, some .filledDiamond⟩
  targetMultiplicity := none
  target := "many".toList
  label := some "o -- 1".toList

theorem spaced_relationship_is_read_crowded :
    crowdedRelation.spaced = "n \"1\" *..* many : o -- 1".toList ∧ crowdedRelation.IsPlain ∧
      crowdedRelation.Leads ∧ crowdedRelation.OneLine ∧ crowdedRelation.IsRead := by
  have hplain : crowdedRelation.IsPlain :=
    ⟨by decide, by decide, by decide, by decide, by decide, by decide, by decide⟩
  have hleads : crowdedRelation.Leads := ⟨by decide, by decide⟩
  have hline : crowdedRelation.OneLine := by simp [RelationText.OneLine, crowdedRelation]
  exact ⟨by decide, hplain, hleads, hline, spaced_relationship_is_read hplain hleads hline⟩

/-- A relationship with a line feed in its label. -/
def brokenRelation : RelationText where
  source := ['A']
  sourceMultiplicity := none
  connector := ⟨none, .solid, none⟩
  targetMultiplicity := none
  target := ['B']
  label := some "x\ny".toList

/-- A label that goes on behind a line feed is no label. -/
theorem brokenRelation_not_isRead :
    brokenRelation.IsPlain ∧ brokenRelation.Leads ∧ ¬ brokenRelation.IsRead := by
  refine ⟨⟨by decide, by decide, by decide, by decide, by decide, by decide, by decide⟩,
    ⟨by decide, by decide⟩, fun hread => ?_⟩
  have hjoins := hread ⟨2, "A -- B : x\ny", 0, 1⟩ {} rfl (by decide)
  have hnone : (({} : State).step ⟨2, "A -- B : x\ny", 0, 1⟩).relationships = [] := by
    decide +kernel
  rw [hjoins.relationships] at hnone
  cases hnone

end DiagramText.Classes
