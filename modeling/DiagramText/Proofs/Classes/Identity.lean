import DiagramText.Proofs.Classes.Roster
import DiagramText.Proofs.Faults
import DiagramText.Proofs.Text.Solid

/-!
# One class, one id

The id of a class is its name without type arguments, so that `Square~Shape~` is the class `Square`.
Declarations, stereotypes and relationships cut the arguments off; notes and lines of the form
`NAME : member` take the name as it is written.

1. `HasArguments`, and what `ClassName.ofToken` makes of a name.
2. `IsNormal`: ids that name themselves.  On one line these are the names without arguments.
3. `Statement.verbatim`, what a statement takes as it is written; all else that it mentions is
   normal.
4. `class_ids_normal_iff` for whole diagrams.
-/

namespace DiagramText.Classes

open Source (Line)
open Text

/-! ## Names -/

/-- A name with type arguments between tildes. -/
def HasArguments (t : List Char) : Prop :=
  ∃ name arguments, t = name ++ '~' :: (arguments ++ ['~']) ∧ name ≠ [] ∧
    (∀ c ∈ name, isIdChar c = true) ∧ arguments ≠ [] ∧ '\n' ∉ arguments

theorem ofToken_of_idChars {t : List Char} (hne : t ≠ []) (h : ∀ c ∈ t, isIdChar c = true) :
    ClassName.ofToken t = ⟨t, none⟩ := by
  unfold ClassName.ofToken
  rw [List.takeWhile_eq_self_iff.2 h, List.dropWhile_eq_nil_iff.2 h]
  exact if_neg hne

theorem isIdChar_of_isWord {c : Char} (h : isWord c = true) : isIdChar c = true := by
  simp [isIdChar, isNameStart, h]

theorem ofToken_word {t : List Char} (hne : t ≠ []) (h : ∀ c ∈ t, isWord c = true) :
    ClassName.ofToken t = ⟨t, none⟩ :=
  ofToken_of_idChars hne fun c hc => isIdChar_of_isWord (h c hc)

theorem arguments?_eq_some_iff {s a : List Char} (hline : '\n' ∉ s) :
    arguments? s = some a ↔ s = '~' :: (a ++ ['~']) ∧ a ≠ [] := by
  unfold arguments?
  simp only [Option.bind_eq_bind, Option.bind_eq_some_iff, literal?_eq_some_iff,
    dropSuffix?_eq_some_iff]
  constructor
  · rintro ⟨rest, rfl, u, hu, inside, rfl, hinside⟩
    have hrest : '\n' ∉ rest := fun hmem => hline (List.mem_cons_of_mem _ hmem)
    rw [lineRest?_of_notMem hrest] at hu
    split at hinside
    · cases hinside
    · rename_i hne
      cases hu
      cases hinside
      exact ⟨rfl, hne⟩
  · rintro ⟨rfl, hne⟩
    have hrest : '\n' ∉ a ++ ['~'] := fun hmem => hline (List.mem_cons_of_mem _ hmem)
    exact ⟨a ++ ['~'], rfl, a ++ ['~'], lineRest?_of_notMem hrest, a, rfl, if_neg hne⟩

/-- A name is an id as a whole, or the characters of ids at its front are the id. -/
theorem ofToken_cases (t : List Char) : ClassName.ofToken t = ⟨t, none⟩ ∨
    t.takeWhile isIdChar ≠ [] ∧ (ClassName.ofToken t).id = t.takeWhile isIdChar ∧
      ((∃ a, arguments? (t.dropWhile isIdChar) = some a) ∨
        atEnd (t.dropWhile isIdChar) = true) := by
  by_cases hid : t.takeWhile isIdChar = []
  · exact .inl (if_pos hid)
  · unfold ClassName.ofToken
    dsimp only
    rw [if_neg hid]
    cases arguments? (t.dropWhile isIdChar) with
    | some a => exact .inr ⟨hid, rfl, .inl ⟨a, rfl⟩⟩
    | none =>
      by_cases hend : atEnd (t.dropWhile isIdChar) = true
      · simp [hid, hend]
      · simp [hend]

/-- The arguments of a name do not belong to its id. -/
theorem id_ofToken_of_arguments {name arguments : List Char} (hne : name ≠ [])
    (hname : ∀ c ∈ name, isIdChar c = true) (harguments : arguments ≠ [])
    (hline : '\n' ∉ arguments) :
    (ClassName.ofToken (name ++ '~' :: (arguments ++ ['~']))).id = name := by
  have hinside : arguments? ('~' :: (arguments ++ ['~'])) = some arguments :=
    (arguments?_eq_some_iff (by simpa using hline)).2 ⟨rfl, harguments⟩
  unfold ClassName.ofToken
  dsimp only
  rw [takeWhile_append_cons hname (by decide), dropWhile_append_cons hname (by decide), hinside,
    if_neg hne]

/-! ## Normal ids -/

/-- An id that is the id of the name that it is. -/
def IsNormal (id : String) : Prop := (ClassName.ofToken id.toList).id = id.toList

instance (id : String) : Decidable (IsNormal id) :=
  inferInstanceAs (Decidable ((ClassName.ofToken id.toList).id = id.toList))

/-- What is left of a name without its arguments is normal. -/
theorem isNormal_ofToken (t : List Char) : IsNormal (String.ofList (ClassName.ofToken t).id) := by
  unfold IsNormal
  rw [String.toList_ofList]
  rcases ofToken_cases t with h | ⟨hne, hid, -⟩
  · rw [h]
    exact congrArg ClassName.id h
  · rw [hid, ofToken_of_idChars hne fun c hc => List.mem_takeWhile_imp hc]

theorem not_isNormal_of_hasArguments {id : String} (h : HasArguments id.toList) :
    ¬ IsNormal id := by
  obtain ⟨name, arguments, ht, hne, hname, harguments, hline⟩ := h
  intro hnormal
  unfold IsNormal at hnormal
  rw [ht, id_ofToken_of_arguments hne hname harguments hline] at hnormal
  simpa using congrArg List.length hnormal

/-- On one line, only names with arguments are not normal. -/
theorem hasArguments_of_not_isNormal {id : String} (hline : '\n' ∉ id.toList)
    (h : ¬ IsNormal id) : HasArguments id.toList := by
  unfold IsNormal at h
  generalize id.toList = t at hline h
  have hsplit := List.takeWhile_append_dropWhile (p := isIdChar) (l := t)
  have hrest : '\n' ∉ t.dropWhile isIdChar :=
    fun hmem => hline (hsplit ▸ List.mem_append_right _ hmem)
  rcases ofToken_cases t with hwhole | ⟨hne, hid, ⟨a, ha⟩ | hend⟩
  · rw [hwhole] at h
    exact absurd rfl h
  · obtain ⟨hbehind, harguments⟩ := (arguments?_eq_some_iff hrest).1 ha
    refine ⟨t.takeWhile isIdChar, a, ?_, hne, fun c hc => List.mem_takeWhile_imp hc, harguments, ?_⟩
    · rw [← hbehind, hsplit]
    · exact fun hmem => hrest (by rw [hbehind]; simp [hmem])
  · -- Nothing stands behind the id, so that it is the whole name.
    rcases atEnd_iff.1 hend with hnil | hfeed
    · rw [hnil, List.append_nil] at hsplit
      exact absurd (hid.trans hsplit) h
    · rw [hfeed] at hrest
      exact absurd List.mem_cons_self hrest

/-! ## Statements -/

/-- The ids that a statement takes as they are written. -/
def Statement.verbatim : Statement → List String
  | .note classId _ => classId.toList
  | .member id _ => [id]
  | _ => []

theorem notMem_takeWhile_solid (s : List Char) : '\n' ∉ s.takeWhile (!isBlank ·) :=
  fun h => absurd (List.mem_takeWhile_imp h) (by decide)

theorem notMem_of_note? (s : List Char) : ∀ n, note? s = some n → ∀ t ∈ n.1, '\n' ∉ t := by
  refine forall_of_bind fun _ _ => forall_of_bind fun _ _ => forall_of_orElse ?_ ?_
  · refine forall_of_bind fun _ _ => forall_of_bind fun u _ => forall_of_bind fun _ _ =>
      forall_of_bind fun _ _ n hn t ht => ?_
    cases hn
    cases ht
    exact notMem_takeWhile_solid u
  · exact forall_of_map fun _ _ t ht => by cases ht

theorem notMem_of_inlineMember? {s name text : List Char}
    (h : inlineMember? s = some (name, text)) :
    '\n' ∉ name := by
  obtain ⟨t, u, -, ht, h⟩ := exists_run_of_shortest₁ h
  obtain ⟨v, -, h⟩ := Option.bind_eq_some_iff.1 h
  obtain ⟨w, -, h⟩ := Option.bind_eq_some_iff.1 h
  cases h
  exact fun hmem => absurd (ht _ hmem) (by decide)

theorem exists_name_of_declaration? (s : List Char) :
    ∀ d, declaration? s = some d → ∃ t, d.name = .ofToken t := by
  refine forall_of_bind fun _ _ => forall_of_bind fun rest _ d hd => ?_
  dsimp only at hd
  split at hd
  · cases hd
  · revert d
    refine forall_of_orElse ?_ ?_
    · refine forall_of_bind fun _ _ => forall_of_bind fun _ _ d hd => ?_
      cases hd
      exact ⟨_, rfl⟩
    · refine forall_of_bind fun _ _ d hd => ?_
      cases hd
      exact ⟨_, rfl⟩

/-- An id that a statement mentions is normal, or it is taken as it is written on the line. -/
theorem isNormal_or_verbatim (s : List Char) : ∀ t, Statement.recognise? s = some t →
    ∀ id ∈ t.mentions, IsNormal id ∨ id ∈ t.verbatim ∧ '\n' ∉ id.toList := by
  unfold Statement.recognise?
  repeat' apply forall_of_orElse
  · exact forall_of_map fun _ _ => List.forall_mem_nil _
  · intro t ht
    split at ht <;> cases ht
    exact List.forall_mem_nil _
  · refine forall_of_map fun d hd => List.forall_mem_singleton.2 (.inl ?_)
    obtain ⟨t, ht⟩ := exists_name_of_declaration? s d hd
    rw [ht]
    exact isNormal_ofToken t
  · exact forall_of_map fun _ _ => List.forall_mem_singleton.2 (.inl (isNormal_ofToken _))
  · exact forall_of_map fun _ _ => List.forall_mem_nil _
  · refine forall_of_map fun n hn id hid => ?_
    obtain ⟨t, ht, rfl⟩ := Option.map_eq_some_iff.1 (Option.mem_toList.1 hid)
    refine .inr ⟨hid, ?_⟩
    rw [String.toList_ofList]
    exact notMem_of_note? s n hn t ht
  · refine forall_of_map fun r _ => List.forall_mem_cons.2 ⟨.inl (isNormal_ofToken _), ?_⟩
    exact List.forall_mem_singleton.2 (.inl (isNormal_ofToken _))
  · refine forall_of_map fun _ _ => ?_
    split <;> exact List.forall_mem_nil _
  · refine forall_of_map fun _ h => List.forall_mem_singleton.2 (.inr ⟨List.mem_cons_self, ?_⟩)
    rw [String.toList_ofList]
    exact notMem_of_inlineMember? h

theorem mem_mentions_of_verbatim {s : Statement} {id : String} (h : id ∈ s.verbatim) :
    id ∈ s.mentions := by
  cases s with
  | note classId text => exact h
  | member id' line => exact h
  | _ => cases h

/-! ## Diagrams -/

theorem mem_classes_iff {ls : List Line} {id : String} :
    id ∈ (parse ls).diagram.classes.map (·.id) ↔ id ∈ mentions ls := by
  obtain ⟨r, hvalues, hdense, hkeys⟩ := dense_parse ls
  have hids : r.values.map Entity.id = r.keys := hdense.keyed.map_values
  rw [hvalues]
  show id ∈ r.values.map Entity.id ↔ _
  rw [hids, hkeys, mem_addAllNew]
  simp

/-- **Identity.** The classes whose ids are not normal are those that a statement takes as they are
written, with type arguments.  So all ids are normal if and only if no statement does this. -/
theorem class_ids_normal_iff (ls : List Line) :
    (∀ id, id ∈ (parse ls).diagram.classes.map (·.id) ∧ ¬ IsNormal id ↔
      HasArguments id.toList ∧
        ∃ l ∈ outside false ls.tail, id ∈ (Statement.recognise l.text).verbatim) ∧
    ((∀ e ∈ (parse ls).diagram.classes, IsNormal e.id) ↔
      ∀ l ∈ outside false ls.tail, ∀ id ∈ (Statement.recognise l.text).verbatim,
        ¬ HasArguments id.toList) := by
  have hline {l : Line} {id : String} (h : id ∈ (Statement.recognise l.text).mentions) :
      IsNormal id ∨ id ∈ (Statement.recognise l.text).verbatim ∧ '\n' ∉ id.toList := by
    unfold Statement.recognise at h ⊢
    cases hs : Statement.recognise? l.text.toList with
    | none =>
      rw [hs] at h
      cases h
    | some t =>
      rw [hs] at h
      exact isNormal_or_verbatim _ t hs id h
  have hids (id : String) : id ∈ (parse ls).diagram.classes.map (·.id) ∧ ¬ IsNormal id ↔
      HasArguments id.toList ∧
        ∃ l ∈ outside false ls.tail, id ∈ (Statement.recognise l.text).verbatim := by
    rw [mem_classes_iff]
    constructor
    · rintro ⟨hmem, hnot⟩
      obtain ⟨l, hl, hid⟩ := List.mem_flatMap.1 hmem
      obtain ⟨hverbatim, hfeed⟩ := (hline hid).resolve_left hnot
      exact ⟨hasArguments_of_not_isNormal hfeed hnot, l, hl, hverbatim⟩
    · rintro ⟨harguments, l, hl, hid⟩
      exact ⟨List.mem_flatMap.2 ⟨l, hl, mem_mentions_of_verbatim hid⟩,
        not_isNormal_of_hasArguments harguments⟩
  refine ⟨hids, fun h l hl id hid harguments => ?_, fun h e he => ?_⟩
  · obtain ⟨hmem, hnot⟩ := (hids id).2 ⟨harguments, l, hl, hid⟩
    obtain ⟨e, he, rfl⟩ := List.mem_map.1 hmem
    exact hnot (h e he)
  · by_contra hnot
    obtain ⟨harguments, l, hl, hid⟩ := (hids e.id).1 ⟨List.mem_map_of_mem he, hnot⟩
    exact h l hl _ hid harguments

/-- A class that is declared, and then gets a member under its name as it is written. -/
def squareTwice : List Line :=
  [⟨1, "classDiagram", 0, 1⟩, ⟨2, "class Square~Shape~", 0, 1⟩,
   ⟨3, "Square~Shape~ : +int size", 0, 1⟩]

/-- The member goes to a second class. -/
theorem squareTwice_not_normal :
    (parse squareTwice).diagram.classes.map (fun e => (e.id, e.members.length)) =
        [("Square", 0), ("Square~Shape~", 1)] ∧
      ¬ ∀ e ∈ (parse squareTwice).diagram.classes, IsNormal e.id := by
  have hclasses : (parse squareTwice).diagram.classes.map (fun e => (e.id, e.members.length)) =
      [("Square", 0), ("Square~Shape~", 1)] := by decide +kernel
  refine ⟨hclasses, fun h => ?_⟩
  have hsecond : ("Square~Shape~", 1) ∈
      (parse squareTwice).diagram.classes.map (fun e => (e.id, e.members.length)) := by
    rw [hclasses]
    decide
  obtain ⟨e, he, hid⟩ := List.mem_map.1 hsecond
  have hnormal := h e he
  rw [(Prod.mk.inj hid).1] at hnormal
  revert hnormal
  decide

end DiagramText.Classes
