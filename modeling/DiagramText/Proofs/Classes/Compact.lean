import DiagramText.Proofs.Classes.Spaced

/-!
# Relationships written without blanks

A relationship between two words may be written without blanks, as in `A<|--B`.  The first name is
the shortest one behind which a connector can be read.  The only letter in a connector is `o`, so
that a name with an `o` at its end loses it to a connector without a marker there: `foo--bar` is
read as `fo o-- bar`.

1. `RelationText.compact`, and `RelationText.Swallows` for the names that lose their last letter.
2. All other relationships are read as they are written.
3. A relationship that loses a letter is written like another one that loses none.
4. `compact_agrees_iff`.
-/

namespace DiagramText.Classes

open Source (Line)
open Text

/-! ## Written relationships -/

namespace RelationText

variable (r : RelationText)

/-- The two names and the connector, without blanks between them. -/
def compact : List Char := r.source ++ (r.connector.token.toList ++ r.target)

/-- A relationship between two words, without multiplicities and without a label, whose second name
cannot be taken for a connector that goes on. -/
structure IsBare : Prop extends r.IsPlain where
  no_sourceMultiplicity : r.sourceMultiplicity = none
  no_targetMultiplicity : r.targetMultiplicity = none
  no_label : r.label = none
  target_head : r.target.head? ≠ some 'o'

/-- The connector takes the last letter of the first name for its marker. -/
def Swallows : Prop := r.connector.left = none ∧ ∃ s, s ≠ [] ∧ r.source = s ++ ['o']

/-- The relationship with the last letter of the first name as a marker of the connector. -/
def swallowed : RelationText :=
  { r with
    source := r.source.dropLast
    connector := { r.connector with left := some .openDiamond } }

end RelationText

variable {r : RelationText}

namespace RelationText

/-! ## Reading without blanks -/

theorem IsBare.far_eq (h : r.IsBare) : r.far = r.target := by
  simp [far, h.no_targetMultiplicity, h.no_label, quotedFront, labelBehind]

theorem IsBare.oneLine (h : r.IsBare) : r.OneLine := by
  simp [OneLine, h.no_label]

theorem IsBare.head_target (h : r.IsBare) : ∀ d ∈ r.target.head?, isWord d = true ∧ d ≠ 'o' :=
  fun d hd => ⟨h.target_word d (List.mem_of_mem_head? hd), fun he => h.target_head (he ▸ hd)⟩

/-- In front of the second name, the connector is read. -/
theorem IsBare.connection?_compact (h : r.IsBare) :
    connection? false r.source none (r.connector.token.toList ++ r.target) = some r := by
  have hread : connection? false r.source none (r.connector.token.toList ++ r.target) =
      some { r with sourceMultiplicity := none } := by
    have hfar := h.targetEnd?_far h.oneLine
    rw [h.far_eq] at hfar
    have htarget : trimStart r.target = r.target := by
      rw [← h.far_eq, h.trimStart_far]
    exact connection?_of_token (congrArg some (trimStart_token _ _)) (congrArg some htarget) hfar
      fun c u hlength hu _ => Connector.eq_of_word_behind h.head_target hu hlength
  rw [hread, ← h.no_sourceMultiplicity]

/-- Inside the first name no connector is read, unless its last letter is swallowed. -/
theorem IsBare.connection?_inside (h : r.IsBare) (hkeeps : ¬ r.Swallows) {x y : List Char}
    {d : Char} (hx : x ≠ []) (hsource : r.source = x ++ d :: y) :
    connection? false x none (d :: y ++ (r.connector.token.toList ++ r.target)) = none := by
  have hword : ∀ e ∈ d :: y, isWord e = true := fun e he => h.source_word e (by simp [hsource, he])
  have hfront : around? false (d :: y ++ (r.connector.token.toList ++ r.target)) =
      some (d :: y ++ (r.connector.token.toList ++ r.target)) :=
    congrArg some (trimStart_of_head (by simpa using isBlank_of_isWord (hword d (by simp))))
  refine connection?_eq_none hfront (fun c => ?_) x none
  by_contra hne
  obtain ⟨hletter, hleft⟩ := Connector.eq_of_literal?_word (List.cons_ne_nil d y) hword hne
  exact hkeeps ⟨hleft, x, hx, by rw [hsource, hletter]⟩

theorem IsBare.solid_compact (h : r.IsBare) : ∀ d ∈ r.compact, isBlank d = false := by
  simp only [compact, List.mem_append]
  rintro d (hd | hd | hd)
  · exact h.source_solid d hd
  · exact r.connector.solid_token d hd
  · exact h.target_solid d hd

/-- In a text without blanks there is no connector between two gaps. -/
theorem spacedRelationship?_of_solid {s : List Char} (hs : ∀ d ∈ s, isBlank d = false)
    (hquote : '"' ∉ s) : spacedRelationship? true s = none := by
  cases s with
  | nil => rfl
  | cons c s =>
    rw [spacedRelationship?]
    split
    · refine shortest_eq_none fun t u hsplit _ => ?_
      have hhead : ∀ d ∈ u.head?, isBlank d = false ∧ d ≠ '"' := by
        intro d hd
        have hmem : d ∈ c :: s := by simp [hsplit, List.mem_of_mem_head? hd]
        exact ⟨hs d hmem, fun he => hquote (he ▸ hmem)⟩
      rw [multiplicityEnd?_of_head hhead, connection?_of_head fun d hd => (hhead d hd).1]
    · rfl

theorem IsBare.quote_notMem_compact (h : r.IsBare) : '"' ∉ r.compact := by
  have hword : isWord '"' = false := by decide
  simp only [compact, List.mem_append, not_or]
  exact ⟨fun hd => ne_of_isWord (h.source_word _ hd) hword rfl, r.connector.quote_notMem_token,
    fun hd => ne_of_isWord (h.target_word _ hd) hword rfl⟩

/-- A relationship that keeps its first name is read as it is written. -/
theorem IsBare.relationship?_compact (h : r.IsBare) (hkeeps : ¬ r.Swallows) :
    relationship? r.compact = some r := by
  have hread : spacedRelationship? false r.compact = some r := by
    refine spacedRelationship?_word h.source_ne_nil h.source_word
      (fun x d y hx hsource => h.connection?_inside hkeeps hx hsource) ?_
    rw [multiplicityEnd?_of_head (head_token _ _)]
    exact h.connection?_compact
  rw [relationship?, spacedRelationship?_of_solid h.solid_compact h.quote_notMem_compact, hread]
  rfl

/-! ## Swallowed letters -/

theorem Swallows.dropLast (hswallows : r.Swallows) :
    r.source.dropLast ≠ [] ∧ r.source = r.source.dropLast ++ ['o'] := by
  obtain ⟨-, s, hne, hsource⟩ := hswallows
  simp [hsource, hne]

theorem Swallows.compact_swallowed (hswallows : r.Swallows) : r.swallowed.compact = r.compact := by
  have htoken : r.swallowed.connector.token.toList = 'o' :: r.connector.token.toList := by
    simp [swallowed, Connector.token, Connector.leftToken, hswallows.1]
  obtain ⟨-, hsource⟩ := hswallows.dropLast
  calc r.swallowed.compact
      = r.source.dropLast ++ ('o' :: r.connector.token.toList ++ r.target) := by
        rw [compact, htoken]; rfl
    _ = r.source.dropLast ++ ['o'] ++ (r.connector.token.toList ++ r.target) := by simp
    _ = r.compact := by rw [← hsource]; rfl

theorem IsBare.swallowed (h : r.IsBare) (hswallows : r.Swallows) : r.swallowed.IsBare :=
  { h with
    source_ne_nil := hswallows.dropLast.1
    source_word := fun c hc => h.source_word c (List.mem_of_mem_dropLast hc) }

theorem not_swallows_swallowed (r : RelationText) : ¬ r.swallowed.Swallows := by
  simp [Swallows, RelationText.swallowed]

/-! ## Lines -/

/-- No keyword stands in front of a gap in a text without blanks. -/
theorem keyword_of_solid {α : Type} {w s : List Char} (hs : ∀ d ∈ s, isBlank d = false)
    (k : List Char → Option α) : (do k (← gap? (← literal? w s))) = none := by
  refine keyword_eq_none fun u v hu hgap => ?_
  obtain ⟨d, rest, rfl, hd, -⟩ := exists_of_gap? hgap
  rw [hs d (by simp [hu])] at hd
  cases hd

theorem IsBare.recognise?_compact (h : r.IsBare) (hkeeps : ¬ r.Swallows) :
    Statement.recognise? r.compact = some (.relate r) := by
  have hsolid := h.solid_compact
  exact recognise?_relate h.source_ne_nil h.source_word (keyword_of_solid hsolid _)
    (keyword_of_solid hsolid _) (keyword_of_solid hsolid _) (keyword_of_solid hsolid _)
    (h.relationship?_compact hkeeps)

/-- A line without blanks adds the same relationships and leads to the same classes as one with
blanks. -/
def Agrees (r : RelationText) (l : Line) (st : State) : Prop :=
  let withBlanks := st.step { l with text := String.ofList r.spaced }
  let withoutBlanks := st.step { l with text := String.ofList r.compact }
  withoutBlanks.relationships = withBlanks.relationships ∧
    withoutBlanks.classes = withBlanks.classes

instance (r : RelationText) (l : Line) (st : State) : Decidable (r.Agrees l st) :=
  inferInstanceAs (Decidable (_ ∧ _))

theorem IsBare.step_compact (h : r.IsBare) (hkeeps : ¬ r.Swallows) {l : Line} {st : State}
    (hbody : st.body = none) (htext : l.text = String.ofList r.compact) :
    st.step l = st.relate l r := by
  refine step_relate hbody ?_
  rw [htext, String.toList_ofList]
  exact h.recognise?_compact hkeeps

/-- A line on which a letter is swallowed is the line of the shortened relationship. -/
theorem IsBare.step_compact_of_swallows (h : r.IsBare) (hswallows : r.Swallows) {l : Line}
    {st : State} (hbody : st.body = none) (htext : l.text = String.ofList r.compact) :
    st.step l = st.relate l r.swallowed := by
  refine (h.swallowed hswallows).step_compact r.not_swallows_swallowed hbody ?_
  rw [htext, hswallows.compact_swallowed]

theorem Swallows.source_ne (hswallows : r.Swallows) :
    String.ofList r.source.dropLast ≠ String.ofList r.source := by
  intro heq
  have hlength := congrArg List.length hswallows.dropLast.2
  rw [String.ofList_inj.1 heq] at hlength
  simp at hlength

end RelationText

/-- **Blanks.** A relationship is the same with blanks around the connector and without, if and only
if the connector does not swallow the last letter of the first name.  If it does, the shortened name
is joined instead. -/
theorem compact_agrees_iff (h : r.IsBare) (hleads : r.Leads) (l : Line) {st : State}
    (hbody : st.body = none) :
    (r.Agrees l st ↔ ¬ r.Swallows) ∧
      (¬ r.Swallows → r.Joins l.number st (st.step { l with text := String.ofList r.compact })) ∧
      (r.Swallows →
        r.swallowed.Joins l.number st (st.step { l with text := String.ofList r.compact })) := by
  have hspaced : st.step { l with text := String.ofList r.spaced } = st.relate l r :=
    h.step_spaced hleads h.oneLine hbody rfl
  by_cases hswallows : r.Swallows
  · have hcompact : st.step { l with text := String.ofList r.compact } = st.relate l r.swallowed :=
      h.step_compact_of_swallows hswallows hbody rfl
    have hjoins := (h.swallowed hswallows).joins_relate l st
    have hdiffers : ¬ r.Agrees l st := by
      rintro ⟨hrelationships, -⟩
      rw [hcompact, hspaced, hjoins.relationships, (h.joins_relate l st).relationships]
        at hrelationships
      have hlast := List.append_cancel_left hrelationships
      exact hswallows.source_ne (congrArg Relationship.source (List.cons.inj hlast).1)
    rw [hcompact]
    exact ⟨by simp [hdiffers, hswallows], by simp [hswallows], fun _ => hjoins⟩
  · have hcompact : st.step { l with text := String.ofList r.compact } = st.relate l r :=
      h.step_compact hswallows hbody rfl
    have hagrees : r.Agrees l st := by
      unfold RelationText.Agrees
      rw [hcompact, hspaced]
      exact ⟨rfl, rfl⟩
    rw [hcompact]
    exact ⟨by simp [hagrees, hswallows], fun _ => h.joins_relate l st, by simp [hswallows]⟩

/-- A relationship whose names look like multiplicities. -/
def manyToOne : RelationText where
  source := "many".toList
  sourceMultiplicity := none
  connector := ⟨some .filledDiamond, .dashed, some .triangle⟩
  targetMultiplicity := none
  target := "1".toList
  label := none

theorem compact_agrees_iff_manyToOne :
    manyToOne.compact = "many*..|>1".toList ∧ manyToOne.IsBare ∧ manyToOne.Leads ∧
      ∀ (l : Line) (st : State), st.body = none → manyToOne.Agrees l st := by
  have hbare : manyToOne.IsBare :=
    ⟨⟨by decide, by decide, by decide, by decide, by decide, by decide, by decide⟩, rfl, rfl, rfl,
      by decide⟩
  have hleads : manyToOne.Leads := ⟨by decide, by decide⟩
  have hkeeps : ¬ manyToOne.Swallows := by simp [RelationText.Swallows, manyToOne]
  exact ⟨by decide, hbare, hleads, fun l st hbody =>
    (compact_agrees_iff hbare hleads l hbody).1.2 hkeeps⟩

/-- A relationship from a class whose name ends in `o`. -/
def fooToBar : RelationText where
  source := "foo".toList
  sourceMultiplicity := none
  connector := ⟨none, .solid, none⟩
  targetMultiplicity := none
  target := "bar".toList
  label := none

/-- The line `foo--bar` is no association of `foo`. -/
theorem fooToBar_not_agrees : fooToBar.IsBare ∧ fooToBar.Leads ∧
    fooToBar.compact = "foo--bar".toList ∧ ¬ fooToBar.Agrees ⟨2, "foo--bar", 0, 1⟩ {} := by
  refine ⟨⟨⟨by decide, by decide, by decide, by decide, by decide, by decide, by decide⟩, rfl, rfl,
    rfl, by decide⟩, ⟨by decide, by decide⟩, by decide, by decide +kernel⟩

end DiagramText.Classes
