import DiagramText.Proofs.Classes.Generics

/-!
# Members as they are written

A member is written as its visibility, its type, its name and its classifier, or, if it is a method,
with parameters between parentheses and the type behind them.  What is written is read again, and a
text that is no written form of a member still gives a member with a name, or none.

1. `Member.IsPlain` and `Member.spellings`.
2. Types and parameter lists without tildes are rendered as they are.
3. The visibility in front of a member and the classifier behind it.
4. Written fields and written methods.
5. `Member.IsWellFormed`, and what any text can be read as.
6. `members_round_trip`.
-/

namespace DiagramText.Classes

open Text

/-! ## Written members -/

/-- The sign of a classifier. -/
def Classifier.sign : Classifier → List Char
  | .ordinary => []
  | .static => ['$']
  | .abstract => ['*']

/-- A text of word characters that is not empty. -/
def IsWordText (s : String) : Prop := s ≠ "" ∧ ∀ c ∈ s.toList, isWord c = true

instance (s : String) : Decidable (IsWordText s) := inferInstanceAs (Decidable (_ ∧ _))

/-- A parameter list that ends at its closing parenthesis and has no type arguments. -/
def IsParameterText (s : String) : Prop :=
  s ≠ "" ∧ trim s.toList = s.toList ∧ ')' ∉ s.toList ∧ '~' ∉ s.toList

instance (s : String) : Decidable (IsParameterText s) := inferInstanceAs (Decidable (_ ∧ _))

namespace Member

/-- A member whose name and type are words. -/
structure IsPlain (m : Member) : Prop where
  name : IsWordText m.name
  type : ∀ t ∈ m.type, IsWordText t
  parameters : ∀ p ∈ m.parameters, IsParameterText p
  /-- Only methods have parameters. -/
  kind : m.kind = .field → m.parameters = none

/-- The type in front of the name of a field. -/
def typeInFront (m : Member) : List Char := m.type.elim [] fun t => t.toList ++ [' ']

/-- The type behind the parentheses of a method. -/
def typeBehind (m : Member) : List Char := m.type.elim [] fun t => ' ' :: t.toList

/-- The ways to write a member; the classifier of a method stands directly behind the parentheses or
behind the type. -/
def spellings (m : Member) : List (List Char) :=
  let sign := m.classifier.sign
  match m.kind with
  | .field => [m.visibility.sign.toList ++ (m.typeInFront ++ (m.name.toList ++ sign))]
  | .method =>
    [sign ++ m.typeBehind, m.typeBehind ++ sign].map fun tail =>
      m.visibility.sign.toList ++
        (m.name.toList ++ '(' :: ((m.parameters.getD "").toList ++ ')' :: tail))

end Member

/-! ## Rendered texts -/

theorem rendered?_ne_empty (s : List Char) : rendered? s ≠ some "" := by
  unfold rendered?
  split
  · nofun
  · rename_i hne
    intro he
    have hlength := length_renderGenerics s
    have hnil : renderGenerics s = [] := by simpa using he
    rw [hnil] at hlength
    exact hne (List.length_eq_zero_iff.1 hlength.symm)

theorem rendered?_of_no_tilde {s : List Char} (hne : s ≠ []) (h : ∀ c ∈ s, c ≠ '~') :
    rendered? s = some (String.ofList s) := by
  rw [rendered?, if_neg hne, renderGenerics_of_no_tilde h]

/-! ## Visibilities and classifiers -/

/-- A classifier as it is found behind a text. -/
def Classifier.found : Classifier → Option Classifier
  | .ordinary => none
  | k => some k

theorem Classifier.getD_found (k : Classifier) : k.found.getD .ordinary = k := by cases k <;> rfl

theorem Classifier.ofChar?_of_isWord {c : Char} (h : isWord c = true) : ofChar? c = none := by
  have hdollar := ne_of_isWord h (show isWord '$' = false by decide)
  have hstar := ne_of_isWord h (show isWord '*' = false by decide)
  simp [ofChar?, hdollar, hstar]

/-- The sign of a classifier is found behind a trimmed text that ends in a word character. -/
theorem trailingClassifier_sign {t : List Char} (htrim : trim t = t)
    (hlast : ∀ d ∈ t.getLast?, isWord d = true) (k : Classifier) :
    trailingClassifier (t ++ k.sign) = (k.found, t) := by
  cases k with
  | static =>
    simp [trailingClassifier, Classifier.sign, Classifier.ofChar?, Classifier.found, htrim]
  | «abstract» =>
    simp [trailingClassifier, Classifier.sign, Classifier.ofChar?, Classifier.found, htrim]
  | ordinary =>
    have hnone : t.getLast?.bind Classifier.ofChar? = none := by
      cases ht : t.getLast? with
      | none => rfl
      | some d => exact Classifier.ofChar?_of_isWord (hlast d ht)
    simp [trailingClassifier, Classifier.sign, Classifier.found, hnone]

theorem leadingVisibility_of_isWord {c : Char} (hc : isWord c = true) (r : List Char) :
    leadingVisibility (c :: r) = (.unmarked, c :: r) := by
  unfold leadingVisibility
  split
  case h_5 => rfl
  all_goals
    rename_i heq
    cases heq
    exact absurd hc (by decide)

theorem dropTrailing_append {c : Char} {y : List Char} (hne : y ≠ []) (h : c ∉ y)
    (x : List Char) : dropTrailing c (x ++ y) = x ++ y := by
  obtain ⟨u, d, rfl⟩ := (List.eq_nil_or_concat y).resolve_left hne
  have hd : d ≠ c := fun he => h (by simp [he])
  rw [List.concat_eq_append, dropTrailing, ← List.append_assoc, List.reverse_append,
    List.reverse_singleton, List.singleton_append, List.dropWhile_cons_of_neg (by simpa using hd)]
  simp

/-- A text is read behind its visibility as it is, if it starts with a word character and ends in a
word without semicolons. -/
theorem parse?_of_sign (v : Visibility) {s x y : List Char}
    (hhead : ∃ c ∈ s.head?, isWord c = true) (hs : s = x ++ y) (hy : IsSolid y) (hend : ';' ∉ y) :
    Member.parse? (v.sign.toList ++ s) = (method? v s <|> some (field v s)) := by
  obtain ⟨c, hcons, hc⟩ := hhead
  obtain ⟨r, rfl⟩ := List.head?_eq_some_iff.1 hcons
  have htrimEnd (b : List Char) : trimEnd (b ++ c :: r) = b ++ c :: r := by
    rw [hs, ← List.append_assoc]
    exact hy.trimEnd_append _
  have hcore : trim (c :: r) = c :: r := by
    rw [trim, trimStart_of_head (by simpa using isBlank_of_isWord hc)]
    exact htrimEnd []
  have htrim : trim (v.sign.toList ++ c :: r) = v.sign.toList ++ c :: r := by
    rw [trim, trimStart_of_head ?_, htrimEnd]
    cases v with
    | unmarked => simpa [Visibility.sign] using isBlank_of_isWord hc
    | _ => simp [Visibility.sign]; decide
  have hdrop : dropTrailing ';' (v.sign.toList ++ c :: r) = v.sign.toList ++ c :: r := by
    rw [hs, ← List.append_assoc]
    exact dropTrailing_append hy.1 hend _
  have hlead : leadingVisibility (v.sign.toList ++ c :: r) = (v, c :: r) := by
    cases v with
    | unmarked => exact leadingVisibility_of_isWord hc r
    | _ => exact congrArg (Prod.mk _) hcore
  have hdollar := ne_of_isWord hc (show isWord '$' = false by decide)
  have hstar := ne_of_isWord hc (show isWord '*' = false by decide)
  rw [Member.parse?, htrim, hdrop, htrim, hlead]
  simp [hdollar, hstar]

/-! ## Written fields -/

theorem methodParts?_of_no_parenthesis {s : List Char} (h : '(' ∉ s) : methodParts? s = none := by
  unfold methodParts?
  rw [dropWhile_of_notMem h]
  split <;> simp_all

theorem method?_of_no_parenthesis (v : Visibility) {s : List Char} (h : '(' ∉ s) :
    method? v s = none := by simp [method?, methodParts?_of_no_parenthesis h]

namespace Member

variable {m : Member}

theorem IsPlain.name_solid (h : m.IsPlain) : IsSolid m.name.toList :=
  .of_words (by simpa using h.name.1) h.name.2

theorem IsPlain.type_solid (h : m.IsPlain) {t : String} (ht : m.type = some t) :
    IsSolid t.toList :=
  .of_words (by simpa using (h.type t ht).1) (h.type t ht).2

theorem IsPlain.rendered?_type (h : m.IsPlain) {t : String} (ht : m.type = some t) :
    rendered? t.toList = some t := by
  rw [rendered?_of_no_tilde (h.type_solid ht).1 fun c hc => ?_, String.ofList_toList]
  exact ne_of_isWord ((h.type t ht).2 c hc) (by decide)

theorem IsPlain.getLast?_name (h : m.IsPlain) (s : List Char) :
    ∀ d ∈ (s ++ m.name.toList).getLast?, isWord d = true := by
  intro d hd
  rw [List.getLast?_append_of_ne_nil s h.name_solid.1] at hd
  exact h.name.2 d (List.mem_of_getLast? hd)

/-- The type and the name of a field are found without its classifier. -/
theorem IsPlain.trailingClassifier_field (h : m.IsPlain) :
    trailingClassifier (m.typeInFront ++ (m.name.toList ++ m.classifier.sign)) =
      (m.classifier.found, m.typeInFront ++ m.name.toList) := by
  have htrim : trim (m.typeInFront ++ m.name.toList) = m.typeInFront ++ m.name.toList := by
    rw [trim, trimStart_of_head ?_, h.name_solid.trimEnd_append]
    intro c hc
    cases ht : m.type with
    | none =>
      simp only [typeInFront, ht, Option.elim_none, List.nil_append] at hc
      exact h.name_solid.2 c (List.mem_of_mem_head? hc)
    | some t =>
      simp only [typeInFront, ht, Option.elim_some, List.append_assoc] at hc
      rw [List.head?_append_of_ne_nil _ (h.type_solid ht).1] at hc
      exact (h.type_solid ht).2 c (List.mem_of_mem_head? hc)
  rw [← List.append_assoc]
  exact trailingClassifier_sign htrim (h.getLast?_name _) _

theorem IsPlain.field_eq (h : m.IsPlain) (hkind : m.kind = .field) :
    field m.visibility (m.typeInFront ++ (m.name.toList ++ m.classifier.sign)) = m := by
  have hparameters := h.kind hkind
  rw [field, h.trailingClassifier_field]
  cases ht : m.type with
  | none =>
    have hwords : words m.name.toList = [m.name.toList] := words_of_isSolid h.name_solid
    cases m
    simp_all [typeInFront, Classifier.getD_found]
  | some t =>
    have hwords : words (t.toList ++ ' ' :: m.name.toList) = [t.toList, m.name.toList] := by
      rw [words_append_cons (h.type_solid ht) (by decide), words_of_isSolid h.name_solid]
    have hrendered := h.rendered?_type ht
    cases m
    simp_all [typeInFront, Classifier.getD_found, List.intercalate]

end Member

/-! ## Written methods -/

theorem methodParts?_written {name parameters : List Char} (hne : name ≠ []) (hname : '(' ∉ name)
    (hparameters : ')' ∉ parameters) (tail : List Char) :
    methodParts? (name ++ '(' :: (parameters ++ ')' :: tail)) = some (name, parameters, tail) := by
  have hopen := bne_of_notMem hname
  have hclose := bne_of_notMem hparameters
  obtain ⟨c, r, rfl⟩ := List.exists_cons_of_ne_nil hne
  rw [methodParts?, takeWhile_append_cons hopen (by decide),
    dropWhile_append_cons hopen (by decide)]
  simp only [takeWhile_append_cons hclose (show (')' != ')') = false by decide),
    dropWhile_append_cons hclose (show (')' != ')') = false by decide)]

/-- A method whose parts are known, with a classifier or none directly behind the parentheses. -/
theorem method?_of_parts (v : Visibility) {s name parameters rest ending type : List Char}
    {early : Classifier} {late : Option Classifier}
    (hparts : methodParts? s = some (name, parameters, early.sign ++ rest))
    (hearly : early = .ordinary → ∀ c ∈ rest.head?, Classifier.ofChar? c = none)
    (hrest : lineRest? (trimStart rest) = some ending)
    (hlate : trailingClassifier (trim ending) = (late, type)) :
    method? v s = some
      { visibility := v
        name := String.ofList (trim name)
        kind := .method
        type := rendered? (trim (type.dropWhile (· == ':')))
        parameters := rendered? (trim parameters)
        classifier := (early.found <|> late).getD .ordinary } := by
  cases early with
  | ordinary =>
    cases rest with
    | nil => simp_all [method?, Classifier.sign, Classifier.found]
    | cons c r => simp_all [method?, Classifier.sign, Classifier.found]
  | _ => simp_all [method?, Classifier.sign, Classifier.found, Classifier.ofChar?]

namespace Member

variable {m : Member}

/-- Behind the parentheses stand the type and a classifier, both without blanks. -/
theorem IsPlain.solid_end (h : m.IsPlain) (k : Classifier) :
    ∀ c ∈ (m.type.getD "").toList ++ k.sign, isBlank c = false := by
  refine List.forall_mem_append.2 ⟨?_, ?_⟩
  · cases ht : m.type with
    | none => exact List.forall_mem_nil _
    | some t => exact (h.type_solid ht).2
  · cases k <;> decide

theorem IsPlain.lineRest?_end (h : m.IsPlain) (k : Classifier) :
    lineRest? (trimStart (m.typeBehind ++ k.sign)) =
      some ((m.type.getD "").toList ++ k.sign) := by
  have hsolid := h.solid_end k
  have hstart : trimStart (m.typeBehind ++ k.sign) = (m.type.getD "").toList ++ k.sign := by
    have hhead := trimStart_of_head fun c hc => hsolid c (List.mem_of_mem_head? hc)
    cases ht : m.type with
    | none => simpa [typeBehind, ht] using hhead
    | some t => simpa [typeBehind, ht, trimStart, List.dropWhile_cons_of_pos, isBlank] using hhead
  rw [hstart]
  refine lineRest?_of_notMem fun hmem => ?_
  exact absurd (hsolid _ hmem) (by decide)

theorem IsPlain.trailingClassifier_end (h : m.IsPlain) (k : Classifier) :
    trailingClassifier (trim ((m.type.getD "").toList ++ k.sign)) =
      (k.found, (m.type.getD "").toList) := by
  have htype : ∀ c ∈ (m.type.getD "").toList, isWord c = true := by
    cases ht : m.type with
    | none => exact List.forall_mem_nil _
    | some t => exact (h.type t ht).2
  rw [trim_of_solid (h.solid_end k)]
  exact trailingClassifier_sign (trim_of_solid fun c hc => isBlank_of_isWord (htype c hc))
    (fun d hd => htype d (List.mem_of_getLast? hd)) k

/-- The type of a method is read from behind its parentheses. -/
theorem IsPlain.rendered?_end (h : m.IsPlain) :
    rendered? (trim ((m.type.getD "").toList.dropWhile (· == ':'))) = m.type := by
  cases ht : m.type with
  | none => rfl
  | some t =>
    obtain ⟨c, r, hcons⟩ := List.exists_cons_of_ne_nil (h.type_solid ht).1
    have hcolon : c ≠ ':' := by
      refine ne_of_isWord ((h.type t ht).2 c ?_) (by decide)
      rw [hcons]
      exact List.mem_cons_self
    have hdrop : t.toList.dropWhile (· == ':') = t.toList := by
      rw [hcons, List.dropWhile_cons_of_neg (by simpa using hcolon)]
    rw [Option.getD_some, hdrop, trim_of_solid (h.type_solid ht).2, h.rendered?_type ht]

theorem IsPlain.rendered?_parameters (h : m.IsPlain) :
    rendered? (trim (m.parameters.getD "").toList) = m.parameters := by
  cases hp : m.parameters with
  | none => rfl
  | some p =>
    obtain ⟨hne, htrim, -, htilde⟩ := h.parameters p hp
    rw [Option.getD_some, htrim, rendered?_of_no_tilde (by simpa using hne), String.ofList_toList]
    exact fun c hc he => htilde (he ▸ hc)

theorem IsPlain.methodParts?_eq (h : m.IsPlain) (tail : List Char) :
    methodParts? (m.name.toList ++ '(' :: ((m.parameters.getD "").toList ++ ')' :: tail)) =
      some (m.name.toList, (m.parameters.getD "").toList, tail) := by
  refine methodParts?_written h.name_solid.1 (fun hmem => ?_) ?_ tail
  · exact absurd (h.name.2 _ hmem) (by decide)
  · cases hp : m.parameters with
    | none => exact List.not_mem_nil
    | some p => exact (h.parameters p hp).2.2.1

theorem IsPlain.method?_eq (h : m.IsPlain) (hkind : m.kind = .method) {tail : List Char}
    (htail : tail ∈ [m.classifier.sign ++ m.typeBehind, m.typeBehind ++ m.classifier.sign]) :
    method? m.visibility
        (m.name.toList ++ '(' :: ((m.parameters.getD "").toList ++ ')' :: tail)) = some m := by
  have hparts := h.methodParts?_eq tail
  have hname : String.ofList (trim m.name.toList) = m.name := by
    rw [trim_of_solid h.name_solid.2, String.ofList_toList]
  have hread (early k : Classifier) (htail : tail = early.sign ++ (m.typeBehind ++ k.sign))
      (hearly : early = .ordinary →
        ∀ c ∈ (m.typeBehind ++ k.sign).head?, Classifier.ofChar? c = none)
      (hclassifier : (early.found <|> k.found).getD .ordinary = m.classifier) :
      method? m.visibility
        (m.name.toList ++ '(' :: ((m.parameters.getD "").toList ++ ')' :: tail)) = some m := by
    rw [htail] at hparts ⊢
    rw [method?_of_parts m.visibility hparts hearly (h.lineRest?_end k) (h.trailingClassifier_end k),
      hname, h.rendered?_end, h.rendered?_parameters, hclassifier, ← hkind]
  have hhead : ∀ t, m.type = some t → ∀ k : Classifier,
      ∀ c ∈ (m.typeBehind ++ k.sign).head?, Classifier.ofChar? c = none := by
    intro t ht k c hc
    obtain rfl : ' ' = c := by simpa [typeBehind, ht] using hc
    decide
  have hearly : m.classifier = .ordinary →
      ∀ c ∈ (m.typeBehind ++ Classifier.ordinary.sign).head?, Classifier.ofChar? c = none := by
    intro _ c hc
    cases ht : m.type with
    | none => simp [typeBehind, ht, Classifier.sign] at hc
    | some t => exact hhead t ht _ c hc
  have hfirst : (m.classifier.found <|> Classifier.ordinary.found).getD .ordinary =
      m.classifier := by cases m.classifier <;> rfl
  rcases List.mem_pair.1 htail with rfl | rfl
  · exact hread _ .ordinary (by simp [Classifier.sign]) hearly hfirst
  · cases ht : m.type with
    | none =>
      -- Without a type there is only one place for the classifier.
      exact hread _ .ordinary (by simp [typeBehind, ht, Classifier.sign]) hearly hfirst
    | some t =>
      refine hread .ordinary _ rfl (fun _ => hhead t ht _) ?_
      cases m.classifier <;> rfl

theorem semicolon_notMem_sign (k : Classifier) : ';' ∉ k.sign := by cases k <;> decide

theorem IsPlain.semicolon_notMem (h : m.IsPlain) :
    ';' ∉ m.name.toList ∧ ';' ∉ (m.type.getD "").toList := by
  refine ⟨fun hmem => absurd (h.name.2 _ hmem) (by decide), fun hmem => ?_⟩
  cases ht : m.type with
  | none => simp [ht] at hmem
  | some t => exact absurd ((h.type t ht).2 _ (by simpa [ht] using hmem)) (by decide)

theorem IsPlain.head?_name (h : m.IsPlain) (s : List Char) :
    ∃ c ∈ (m.name.toList ++ s).head?, isWord c = true := by
  obtain ⟨c, r, hcons⟩ := List.exists_cons_of_ne_nil h.name_solid.1
  exact ⟨c, by rw [hcons]; rfl, h.name.2 c (by rw [hcons]; exact List.mem_cons_self)⟩

theorem IsPlain.parse?_field (h : m.IsPlain) (hkind : m.kind = .field) :
    parse? (m.visibility.sign.toList ++
      (m.typeInFront ++ (m.name.toList ++ m.classifier.sign))) = some m := by
  have hhead : ∃ c ∈ (m.typeInFront ++ (m.name.toList ++ m.classifier.sign)).head?,
      isWord c = true := by
    cases ht : m.type with
    | none => simpa [typeInFront, ht] using h.head?_name _
    | some t =>
      obtain ⟨c, r, hcons⟩ := List.exists_cons_of_ne_nil (h.type_solid ht).1
      refine ⟨c, by simp [typeInFront, ht, hcons], (h.type t ht).2 c ?_⟩
      rw [hcons]
      exact List.mem_cons_self
  have hsolid : IsSolid (m.name.toList ++ m.classifier.sign) := by
    refine ⟨List.append_ne_nil_of_left_ne_nil h.name_solid.1 _,
      List.forall_mem_append.2 ⟨h.name_solid.2, ?_⟩⟩
    cases m.classifier <;> decide
  have hend : ';' ∉ m.name.toList ++ m.classifier.sign := by
    simpa using ⟨h.semicolon_notMem.1, semicolon_notMem_sign _⟩
  have hmethod : method? m.visibility
      (m.typeInFront ++ (m.name.toList ++ m.classifier.sign)) = none := by
    refine method?_of_no_parenthesis _ ?_
    have hsign : '(' ∉ m.classifier.sign := by cases m.classifier <;> decide
    have hname : '(' ∉ m.name.toList := fun hmem => absurd (h.name.2 _ hmem) (by decide)
    cases ht : m.type with
    | none => simpa [typeInFront, ht] using ⟨hname, hsign⟩
    | some t =>
      have htype : '(' ∉ t.toList := fun hmem => absurd ((h.type t ht).2 _ hmem) (by decide)
      simpa [typeInFront, ht] using ⟨htype, hname, hsign⟩
  rw [parse?_of_sign m.visibility hhead rfl hsolid hend, hmethod, h.field_eq hkind]
  rfl

theorem IsPlain.parse?_method (h : m.IsPlain) (hkind : m.kind = .method) {tail : List Char}
    (htail : tail ∈ [m.classifier.sign ++ m.typeBehind, m.typeBehind ++ m.classifier.sign]) :
    parse? (m.visibility.sign.toList ++
      (m.name.toList ++ '(' :: ((m.parameters.getD "").toList ++ ')' :: tail))) = some m := by
  -- The text ends in the type and a classifier, or in the parenthesis and a classifier.
  have hend : ∃ x y, ')' :: tail = x ++ y ∧ IsSolid y ∧ ';' ∉ y := by
    have hlast {x t : List Char} (k : Classifier) (htail : ')' :: tail = x ++ (t ++ k.sign))
        (ht : IsSolid t) (hsemicolon : ';' ∉ t) :
        ∃ x y, ')' :: tail = x ++ y ∧ IsSolid y ∧ ';' ∉ y := by
      refine ⟨x, t ++ k.sign, htail, ⟨List.append_ne_nil_of_left_ne_nil ht.1 _,
        List.forall_mem_append.2 ⟨ht.2, ?_⟩⟩, by simpa using ⟨hsemicolon, semicolon_notMem_sign k⟩⟩
      cases k <;> decide
    cases ht : m.type with
    | none =>
      have htail' : tail = m.classifier.sign := by simpa [typeBehind, ht] using htail
      exact hlast (x := []) (t := [')']) m.classifier (by rw [htail']; rfl) (by decide) (by decide)
    | some t =>
      have hsemicolon : ';' ∉ t.toList := by simpa [ht] using h.semicolon_notMem.2
      rcases List.mem_pair.1 htail with rfl | rfl
      · exact hlast (x := ')' :: (m.classifier.sign ++ [' '])) .ordinary
          (by simp [typeBehind, ht, Classifier.sign]) (h.type_solid ht) hsemicolon
      · exact hlast (x := [')', ' ']) m.classifier (by simp [typeBehind, ht]) (h.type_solid ht)
          hsemicolon
  obtain ⟨x, y, hxy, hy, hsemicolon⟩ := hend
  rw [parse?_of_sign m.visibility (h.head?_name _)
    (x := m.name.toList ++ '(' :: ((m.parameters.getD "").toList ++ x)) (by simp [hxy]) hy
    hsemicolon, h.method?_eq hkind htail]
  rfl

/-- A plain member is read from each of its spellings. -/
theorem IsPlain.parse?_eq (h : m.IsPlain) {s : List Char} (hs : s ∈ m.spellings) :
    parse? s = some m := by
  cases hkind : m.kind with
  | field =>
    obtain rfl : s = _ := by simpa [spellings, hkind] using hs
    exact h.parse?_field hkind
  | method =>
    simp only [spellings, hkind, List.mem_map] at hs
    obtain ⟨tail, htail, rfl⟩ := hs
    exact h.parse?_method hkind htail

/-! ## Members of any text -/

/-- A member with a trimmed name, without empty parts, and with one classifier at most. -/
structure IsWellFormed (m : Member) : Prop where
  name_ne_empty : m.name ≠ ""
  name_trimmed : trim m.name.toList = m.name.toList
  type_ne_empty : m.type ≠ some ""
  parameters_ne_empty : m.parameters ≠ some ""
  classifier : ¬ (m.classifier = .static ∧ m.classifier = .abstract)

theorem not_static_and_abstract (k : Classifier) : ¬ (k = .static ∧ k = .abstract) := by
  rintro ⟨rfl, h⟩
  cases h

/-- A text with a character in front that is no blank does not vanish when it is trimmed. -/
theorem trim_ne_nil {c : Char} {r : List Char} (hc : isBlank c = false) : trim (c :: r) ≠ [] :=
  List.ne_nil_of_mem (mem_trim hc List.mem_cons_self)

theorem name_of_methodParts? {s name parameters rest : List Char}
    (h : methodParts? s = some (name, parameters, rest)) :
    name ≠ [] ∧ name = s.takeWhile (· != '(') := by
  unfold methodParts? at h
  split at h
  · cases h
  · rename_i hne
    split at h
    · cases h
      exact ⟨hne, rfl⟩
    · cases h
  · cases h

theorem isWellFormed_of_method? {v : Visibility} {c : Char} {r : List Char}
    (hc : isBlank c = false) (h : method? v (c :: r) = some m) : m.IsWellFormed := by
  obtain ⟨⟨name, parameters, rest⟩, hparts, h⟩ := Option.bind_eq_some_iff.1 h
  obtain ⟨ending, -, h⟩ := Option.bind_eq_some_iff.1 h
  cases h
  obtain ⟨hne, hname⟩ := name_of_methodParts? hparts
  obtain ⟨u, rfl⟩ : ∃ u, name = c :: u := by
    rw [List.takeWhile_cons] at hname
    split at hname
    · exact ⟨_, hname⟩
    · exact absurd hname hne
  refine ⟨?_, ?_, rendered?_ne_empty _, rendered?_ne_empty _, not_static_and_abstract _⟩
  · simpa using trim_ne_nil hc
  · rw [String.toList_ofList, trim_trim]

/-- Without its classifier, a text that is not a classifier alone is still there. -/
theorem trailingClassifier_snd {s : List Char} (hs : trim s = s) (hne : s ≠ [])
    (hdollar : s ≠ ['$']) (hstar : s ≠ ['*']) :
    (trailingClassifier s).2 ≠ [] ∧
      trim (trailingClassifier s).2 = (trailingClassifier s).2 := by
  unfold trailingClassifier
  split
  · rename_i k hk
    refine ⟨?_, trim_trim _⟩
    obtain ⟨d, hd, hchar⟩ := Option.bind_eq_some_iff.1 hk
    obtain ⟨x, rfl⟩ := List.getLast?_eq_some_iff.1 hd
    cases x with
    | nil =>
      unfold Classifier.ofChar? at hchar
      split at hchar
      · simp_all
      · split at hchar
        · simp_all
        · cases hchar
    | cons c x =>
      rw [List.dropLast_concat]
      exact trim_ne_nil (head_of_trim hs c rfl)
  · exact ⟨hne, hs⟩

theorem isWellFormed_field (v : Visibility) {s : List Char} (hs : trim s = s) (hne : s ≠ [])
    (hdollar : s ≠ ['$']) (hstar : s ≠ ['*']) : (field v s).IsWellFormed := by
  obtain ⟨hrest, htrim⟩ := trailingClassifier_snd hs hne hdollar hstar
  unfold field
  dsimp only
  split
  · rename_i type w ws hwords
    have hsolid : ∀ w' ∈ w :: ws, IsSolid w' := fun w' hw' =>
      isSolid_of_mem_words (hwords ▸ List.mem_cons_of_mem type hw')
    refine ⟨?_, ?_, rendered?_ne_empty _, nofun, not_static_and_abstract _⟩
    · obtain ⟨c, r, rfl⟩ := List.exists_cons_of_ne_nil (hsolid w List.mem_cons_self).1
      cases ws <;> simp [List.intercalate]
    · rw [String.toList_ofList, trim_intercalate hsolid]
  · exact ⟨by simpa using hrest, by simpa using htrim, nofun, nofun, not_static_and_abstract _⟩

theorem trim_leadingVisibility {s : List Char} (h : trim s = s) :
    trim (leadingVisibility s).2 = (leadingVisibility s).2 := by
  unfold leadingVisibility
  split
  case h_5 => exact h
  all_goals exact trim_trim _

/-- Whatever text a member is read from, it is well formed. -/
theorem isWellFormed_of_parse? {s : List Char} (h : parse? s = some m) : m.IsWellFormed := by
  unfold parse? at h
  dsimp only at h
  split at h
  · cases h
  · rename_i hnamed
    push Not at hnamed
    obtain ⟨hne, hdollar, hstar⟩ := hnamed
    have htrim := trim_leadingVisibility (trim_trim (dropTrailing ';' (trim s)))
    rw [Option.orElse_eq_orElse, Option.orElse_eq_or] at h
    rcases Option.or_eq_some_iff.1 h with hmethod | ⟨-, hfield⟩
    · obtain ⟨c, r, hcons⟩ := List.exists_cons_of_ne_nil hne
      rw [hcons] at hmethod htrim
      exact isWellFormed_of_method? (head_of_trim htrim c rfl) hmethod
    · cases hfield
      exact isWellFormed_field _ htrim hne hdollar hstar

end Member

/-- **Members.** A plain member is read from each of its spellings, and a member that is read from
any text at all has a name and no empty parts. -/
theorem members_round_trip :
    (∀ m : Member, m.IsPlain → ∀ s ∈ m.spellings, Member.parse? s = some m) ∧
      ∀ (s : List Char) (m : Member), Member.parse? s = some m → m.IsWellFormed :=
  ⟨fun _ h _ hs => h.parse?_eq hs, fun _ _ h => Member.isWellFormed_of_parse? h⟩

/-- A method whose parameters hold other signs of members. -/
def signedMethod : Member where
  visibility := .inPackage
  name := "get"
  kind := .method
  type := some "List"
  parameters := some "f(x: $*;"
  classifier := .static

/-- What is read from a text of signs. -/
def signMember : Member where
  visibility := .everywhere
  name := "$"
  kind := .field
  type := some "~"
  classifier := .static

theorem members_round_trip_signs :
    (signedMethod.IsPlain ∧ "~get(f(x: $*;) List$".toList ∈ signedMethod.spellings ∧
      Member.parse? "~get(f(x: $*;) List$".toList = some signedMethod) ∧
    (Member.parse? " + ~ $$;; ".toList = some signMember ∧ signMember.IsWellFormed) := by
  have hplain : signedMethod.IsPlain := ⟨by decide, by decide, by decide, by decide⟩
  have hspelled : "~get(f(x: $*;) List$".toList ∈ signedMethod.spellings := by decide
  have hsigns : Member.parse? " + ~ $$;; ".toList = some signMember := by decide +kernel
  exact ⟨⟨hplain, hspelled, members_round_trip.1 signedMethod hplain _ hspelled⟩, hsigns,
    members_round_trip.2 _ _ hsigns⟩

end DiagramText.Classes
