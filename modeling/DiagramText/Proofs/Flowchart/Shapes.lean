import DiagramText.Flowchart.Parse
import DiagramText.Proofs.OrderedMap
import DiagramText.Proofs.ScopeGraph.Moves
import DiagramText.Proofs.Text.Solid

/-!
# Shapes of nodes

A node with a label between the brackets of a shape is read as exactly that.  The rows of `brackets`
are tried in order, and no row in front of the right one succeeds: its opener is no prefix of the
text, or its closer does not end the label.

1. `Ident`, an id as words, and `ident?_chars`.
2. `Label`, bare or quoted, and how it is read in front of the closer of its own row.
3. `Apart`, the reason why a row in front of the right one reads nothing: its opener is no prefix
   (`prefix_of_literal?`), or its closer does not stand behind the label (`label?_of_ne`).
4. `form?_label`, and `node_shape`.
-/

namespace DiagramText.Flowchart

open Source (Line)
open ScopeGraph (Shape State)
open Text

/-! ## Ids -/

/-- An id as its words, which single hyphens join. -/
structure Ident where
  first : List Char
  more : List (List Char)
  words : ∀ w ∈ first :: more, w ≠ [] ∧ ∀ c ∈ w, isWord c = true

namespace Ident

/-- The id as it is written. -/
def chars (i : Ident) : List Char := i.first ++ i.more.flatMap ('-' :: ·)

/-- The id as a string. -/
def string (i : Ident) : String := String.ofList i.chars

/-- An id starts with a word character. -/
theorem exists_cons (i : Ident) : ∃ c r, i.chars = c :: r ∧ isWord c = true := by
  obtain ⟨hne, hword⟩ := i.words i.first List.mem_cons_self
  obtain ⟨c, r, hfirst⟩ := List.exists_cons_of_ne_nil hne
  refine ⟨c, r ++ i.more.flatMap ('-' :: ·), ?_, hword c (by rw [hfirst]; exact List.mem_cons_self)⟩
  unfold chars
  rw [hfirst]
  rfl

end Ident

theorem identTail_append {w : List Char} (hw : ∀ c ∈ w, isWord c = true) (s : List Char) :
    identTail (w ++ s) = (w ++ (identTail s).1, (identTail s).2) := by
  induction w with
  | nil => rfl
  | cons c w ih =>
    obtain ⟨hc, hw⟩ := List.forall_mem_cons.1 hw
    rw [List.cons_append]
    cases hrest : w ++ s with
    | nil =>
      obtain ⟨rfl, rfl⟩ := List.append_eq_nil_iff.1 hrest
      simp [identTail, hc]
    | cons d r =>
      rw [identTail, if_pos hc, ← hrest, ih hw]
      rfl

theorem identTail_hyphen {c : Char} (hc : isWord c = true) (s : List Char) :
    identTail ('-' :: c :: s) = ('-' :: c :: (identTail s).1, (identTail s).2) := by
  have hhyphen : isWord '-' = false := by decide
  rw [identTail]
  simp [hhyphen, hc]

/-- Further words of an id are read up to what neither continues the last one nor adds another. -/
theorem identTail_more {ws : List (List Char)} {s : List Char}
    (hws : ∀ w ∈ ws, w ≠ [] ∧ ∀ c ∈ w, isWord c = true)
    (hs : ∀ c ∈ s.head?, isWordOrHyphen c = false) :
    identTail (ws.flatMap ('-' :: ·) ++ s) = (ws.flatMap ('-' :: ·), s) := by
  induction ws with
  | nil =>
    rw [List.flatMap_nil, List.nil_append]
    cases s with
    | nil => rfl
    | cons c s =>
      have hc : isWord c = false ∧ (c == '-') = false := Bool.or_eq_false_iff.1 (hs c rfl)
      cases s <;> simp [identTail, hc]
  | cons w ws ih =>
    obtain ⟨⟨hne, hword⟩, hmore⟩ := List.forall_mem_cons.1 hws
    obtain ⟨c, w, rfl⟩ := List.exists_cons_of_ne_nil hne
    obtain ⟨hc, hw⟩ := List.forall_mem_cons.1 hword
    rw [List.flatMap_cons, List.append_assoc, List.cons_append, List.cons_append,
      identTail_hyphen hc, identTail_append hw, ih hmore]
    rfl

/-- An id is read up to its end. -/
theorem ident?_chars (i : Ident) {s : List Char} (hs : ∀ c ∈ s.head?, isWordOrHyphen c = false) :
    ident? (i.chars ++ s) = some (i.chars, s) := by
  obtain ⟨⟨hne, hword⟩, hmore⟩ := List.forall_mem_cons.1 i.words
  obtain ⟨c, w, hfirst⟩ := List.exists_cons_of_ne_nil hne
  obtain ⟨hc, hw⟩ := List.forall_mem_cons.1 (hfirst ▸ hword)
  unfold Ident.chars
  rw [hfirst, List.append_assoc, List.cons_append, ident?, if_pos hc, identTail_append hw,
    identTail_more hmore hs]
  rfl

/-! ## Labels -/

/-- The characters of brackets and quotes. -/
def isBracket (c : Char) : Bool :=
  ['[', ']', '(', ')', '\x7b', '\x7d', '<', '>', '/', '\\', '"'].contains c

/-- A label, as a plain text without brackets and quotes or between double quotes. -/
inductive Label where
  | bare (s : List Char) (ne_nil : s ≠ []) (plain : ∀ c ∈ s, isBracket c = false)
  | quoted (s : List Char) (plain : '"' ∉ s)

namespace Label

/-- The label as it is written. -/
def chars : Label → List Char
  | bare s _ _ => s
  | quoted s _ => '"' :: (s ++ ['"'])

/-- The label as it is read. -/
def read : Label → List Char
  | bare s _ _ => trim s
  | quoted s _ => s

end Label

/-- The shapes with slanted sides, whose openers do not tell them apart. -/
def isSlanted : Shape → Bool
  | .trapezoid | .trapezoidAlt | .parallelogram | .parallelogramAlt => true
  | _ => false

/-- A label in front of a closer. -/
def label? (closer s : List Char) : Option (List Char × List Char) :=
  quotedLabel? closer s <|> bareLabel? closer s

theorem quotedLabel?_quoted (closer : List Char) {s : List Char} (hs : '"' ∉ s) (u : List Char) :
    quotedLabel? closer ('"' :: (s ++ '"' :: u)) = (literal? closer u).map (s, ·) := by
  have hplain : ∀ c ∈ s, (c != '"') = true := by
    intro c hc
    simpa using fun he : c = '"' => hs (he ▸ hc)
  unfold quotedLabel?
  simp only [literal?, if_pos, Option.bind_eq_bind, Option.bind_some,
    dropWhile_append_cons hplain (bne_self_eq_false '"') u,
    takeWhile_append_cons hplain (bne_self_eq_false '"') u]
  cases literal? closer u <;> rfl

theorem quotedLabel?_of_ne (closer : List Char) {c : Char} (hc : c ≠ '"') (r : List Char) :
    quotedLabel? closer (c :: r) = none := by
  simp [quotedLabel?, literal?, Ne.symm hc]

/-- A bare label ends where the closer stands, since its characters are no brackets. -/
theorem bareLabel?_bare {closer s : List Char} (hcloser : closer ≠ [])
    (hbrackets : ∀ c ∈ closer, isBracket c = true) (hs : s ≠ [])
    (hplain : ∀ c ∈ s, isBracket c = false) (u : List Char) :
    bareLabel? closer (s ++ (closer ++ u)) = some (trim s, u) := by
  have hdiffer {c d : Char} (hc : c ∈ closer) (hd : d ∈ s) : c ≠ d := by
    rintro rfl
    exact absurd (hbrackets c hc) (by simp [hplain c hd])
  have hclass : ∀ c ∈ s, (closer.getLast? != some c) = true := by
    intro c hc
    simpa using fun hlast : closer.getLast? = some c => hdiffer (List.mem_of_getLast? hlast) hc rfl
  obtain ⟨c, t, rfl⟩ := List.exists_cons_of_ne_nil hs
  obtain ⟨d, closer, rfl⟩ := List.exists_cons_of_ne_nil hcloser
  obtain ⟨hc, ht⟩ := List.forall_mem_cons.1 hclass
  show (if _ then _ else none) = _
  rw [if_pos hc]
  refine shortest_append ht ?_ ?_
  · intro x e y hsplit
    have he : d ≠ e := by
      refine hdiffer List.mem_cons_self (List.mem_cons_of_mem c ?_)
      rw [hsplit]
      exact List.mem_append_right _ List.mem_cons_self
    simp [literal?, he]
  · have hliteral : literal? (d :: closer) (d :: closer ++ u) = some u :=
      literal?_eq_some_iff.2 rfl
    simp only [hliteral, Option.bind_eq_bind, Option.bind_some, Option.pure_def]

/-- A label is read in front of the closer of its row. -/
theorem label?_chars (label : Label) {closer : List Char} (hcloser : closer ≠ [])
    (hbrackets : ∀ c ∈ closer, isBracket c = true) (u : List Char) :
    label? closer (label.chars ++ (closer ++ u)) = some (label.read, u) := by
  have hliteral : literal? closer (closer ++ u) = some u := literal?_eq_some_iff.2 rfl
  unfold label?
  cases label with
  | bare s ne_nil plain =>
    have hbare := bareLabel?_bare hcloser hbrackets ne_nil plain u
    obtain ⟨c, r, rfl⟩ := List.exists_cons_of_ne_nil ne_nil
    have hc : c ≠ '"' := by
      rintro rfl
      exact absurd (plain '"' List.mem_cons_self) (by decide)
    show (quotedLabel? closer (c :: (r ++ (closer ++ u))) <|> _) = _
    rw [quotedLabel?_of_ne closer hc]
    exact hbare
  | quoted s plain =>
    have hchars : (Label.quoted s plain).chars ++ (closer ++ u) =
        '"' :: (s ++ '"' :: (closer ++ u)) := by
      simp [Label.chars]
    rw [hchars, quotedLabel?_quoted closer plain, hliteral]
    rfl

/-! ## Rows in front -/

/-- A label starts with a character that no opener holds. -/
theorem label_cons (label : Label) :
    ∃ c r, label.chars = c :: r ∧ ∀ row ∈ brackets, c ∉ row.1.toList := by
  have hopeners : ∀ row ∈ brackets, ∀ c ∈ row.1.toList, isBracket c = true ∧ c ≠ '"' := by decide
  cases label with
  | bare s ne_nil plain =>
    obtain ⟨c, r, rfl⟩ := List.exists_cons_of_ne_nil ne_nil
    refine ⟨c, r, rfl, fun row hrow hc => ?_⟩
    exact absurd (hopeners row hrow c hc).1 (by simp [plain c List.mem_cons_self])
  | quoted s plain => exact ⟨'"', _, rfl, fun row hrow hc => (hopeners row hrow '"' hc).2 rfl⟩

/-- A label does not end in front of a closer of two characters, if another character stands in
front of the first closing bracket. -/
theorem label?_of_ne (label : Label) (hlabel : ']' ∉ label.chars) {x y : Char} (hxy : x ≠ y)
    (hx : x ≠ ']') (hy : y ≠ ']') (u : List Char) :
    label? [x, ']'] (label.chars ++ y :: ']' :: u) = none := by
  have hquoted : quotedLabel? [x, ']'] (label.chars ++ y :: ']' :: u) = none := by
    cases label with
    | bare s ne_nil plain =>
      obtain ⟨c, r, rfl⟩ := List.exists_cons_of_ne_nil ne_nil
      refine quotedLabel?_of_ne _ ?_ _
      rintro rfl
      exact absurd (plain '"' List.mem_cons_self) (by decide)
    | quoted s plain =>
      have hchars : (Label.quoted s plain).chars ++ y :: ']' :: u =
          '"' :: (s ++ '"' :: (y :: ']' :: u)) := by
        simp [Label.chars]
      rw [hchars, quotedLabel?_quoted _ plain]
      simp [literal?, hxy]
  have hbare : bareLabel? [x, ']'] (label.chars ++ y :: ']' :: u) = none := by
    refine shortest₁_eq_none fun t v hsplit ht => ?_
    cases hv : literal? [x, ']'] v with
    | none => rfl
    | some w =>
      -- A cut would put the first closing bracket behind two different characters.
      obtain rfl := literal?_eq_some_iff.1 hv
      have ht' : ']' ∉ t := fun hmem => by simpa using ht ']' hmem
      have hopen {s : List Char} (hs : ']' ∉ s) : ∀ c ∈ s, (c != ']') = true := by
        intro c hc
        simpa using fun he : c = ']' => hs (he ▸ hc)
      have hstop (r : List Char) : ∀ c ∈ (']' :: r).head?, (c != ']') = false := by simp
      have hsame : t ++ [x] = label.chars ++ [y] := by
        refine eq_of_append_head (hopen ?_) (hopen ?_) (hstop w) (hstop u) ?_
        · simp [ht', Ne.symm hx]
        · simp [hlabel, Ne.symm hy]
        · simpa using hsplit.symm
      exact absurd (List.cons.inj (List.append_inj_right' hsame rfl)).1 hxy
  unfold label?
  rw [hquoted, hbare]
  rfl

/-! ## Nodes -/

/-- The form behind an id, read by one row of the table. -/
def rowForm? (s : List Char) (row : String × String × Shape) :
    Option ((String × Shape) × List Char) := do
  let rest ← literal? row.1.toList s
  let (label, rest) ← label? row.2.1.toList rest
  return ((String.ofList label, row.2.2), rest)

theorem form?_eq (s : List Char) : form? s = brackets.findSome? (rowForm? s) := rfl

/-- Two rows of which the first does not read what is written with the second: its opener is no
prefix, or both have the same opener, for slanted shapes, and differ in front of the closing
bracket. -/
def Apart (row row' : String × String × Shape) : Prop :=
  row.1.toList <+: row'.1.toList →
    row.1 = row'.1 ∧ isSlanted row'.2.2 = true ∧ row.2.1.toList.head? ≠ row'.2.1.toList.head? ∧
      ∀ r ∈ [row, row'], r.2.1.toList.length = 2 ∧ r.2.1.toList.head? ≠ some ']' ∧
        r.2.1.toList.getLast? = some ']'

instance (row row' : String × String × Shape) : Decidable (Apart row row') := by
  unfold Apart
  infer_instance

theorem brackets_apart : brackets.Pairwise Apart := by decide

/-- The label of a slanted shape holds no closing bracket. -/
def Label.Fits (label : Label) (shape : Shape) : Prop :=
  isSlanted shape = true → ']' ∉ label.chars

/-- A row in front of the right one reads nothing. -/
theorem rowForm?_of_apart {row row' : String × String × Shape} {label : Label}
    (hrow : row ∈ brackets) (hapart : Apart row row') (hfits : label.Fits row'.2.2)
    (rest : List Char) :
    rowForm? (row'.1.toList ++ (label.chars ++ (row'.2.1.toList ++ rest))) row = none := by
  obtain ⟨c, r, hchars, hc⟩ := label_cons label
  unfold rowForm?
  cases hopener : literal? row.1.toList
      (row'.1.toList ++ (label.chars ++ (row'.2.1.toList ++ rest))) with
  | none => rfl
  | some u =>
    have hprefix : row.1.toList <+: row'.1.toList := by
      rw [hchars, List.cons_append] at hopener
      exact prefix_of_literal? (hc row hrow) hopener
    obtain ⟨hsame, hslanted, hhead, htwo⟩ := hapart hprefix
    obtain ⟨hlength, hx, hlast⟩ := htwo row List.mem_cons_self
    obtain ⟨hlength', hy, hlast'⟩ := htwo row' (List.mem_cons_of_mem _ List.mem_cons_self)
    obtain ⟨x, z, hcloser⟩ := List.length_eq_two.1 hlength
    obtain ⟨y, z', hcloser'⟩ := List.length_eq_two.1 hlength'
    rw [hcloser] at hhead hx hlast
    rw [hcloser'] at hhead hy hlast'
    obtain rfl : z = ']' := by simpa using hlast
    obtain rfl : z' = ']' := by simpa using hlast'
    obtain rfl : label.chars ++ (row'.2.1.toList ++ rest) = u := by
      rw [← hsame, literal?_eq_some_iff] at hopener
      exact List.append_cancel_left hopener
    have hlabel := label?_of_ne label (hfits hslanted) (x := x) (y := y) (by simpa using hhead)
      (by simpa using hx) (by simpa using hy) rest
    rw [hcloser, hcloser', Option.bind_eq_bind, Option.bind_some, List.cons_append,
      List.cons_append, List.nil_append, hlabel]
    rfl

/-- A label between brackets is read with its shape. -/
theorem form?_label {row : String × String × Shape} {label : Label} (hrow : row ∈ brackets)
    (hfits : label.Fits row.2.2) (rest : List Char) :
    form? (row.1.toList ++ (label.chars ++ (row.2.1.toList ++ rest))) =
      some ((String.ofList label.read, row.2.2), rest) := by
  obtain ⟨before, after, hsplit⟩ := List.append_of_mem hrow
  rw [form?_eq, List.findSome?_eq_some_iff]
  refine ⟨before, row, after, hsplit, ?_, fun row' hrow' => ?_⟩
  · have hclosers : ∀ row ∈ brackets, row.2.1.toList ≠ [] ∧
        ∀ c ∈ row.2.1.toList, isBracket c = true := by decide
    obtain ⟨hne, hbrackets⟩ := hclosers row hrow
    have hopener : literal? row.1.toList
        (row.1.toList ++ (label.chars ++ (row.2.1.toList ++ rest))) =
        some (label.chars ++ (row.2.1.toList ++ rest)) := literal?_eq_some_iff.2 rfl
    unfold rowForm?
    rw [hopener, Option.bind_eq_bind, Option.bind_some, label?_chars label hne hbrackets]
    rfl
  · have hpairwise := brackets_apart
    rw [hsplit, List.pairwise_append] at hpairwise
    refine rowForm?_of_apart ?_ (hpairwise.2.2 row' hrow' row List.mem_cons_self) hfits rest
    rw [hsplit]
    exact List.mem_append_left _ hrow'

/-- What a mention registers for a node that is not known yet. -/
theorem nodes_mention_of_new (st : State) (l : Line) {id label : String} {shape : Shape}
    (hnew : st.nodes.get? id = none) :
    (mention st l ⟨id, some (label, shape), none⟩).nodes =
      st.nodes.insert id { id, label, shape, declaredOrder := st.nodes.size, implicit := false,
                           line := l.number } := by
  show (st.declare id label shape l.number).nodes = _
  unfold State.declare
  rw [State.nodes_claim, hnew]

/-- **Shapes.** A label between the brackets of a row is read with the shape of the row, whatever
follows but a class, and a node that is not known yet gets this label and this shape. -/
theorem node_shape (i : Ident) {opener closer : String} {shape : Shape} (label : Label)
    (rest : List Char) (hrow : (opener, closer, shape) ∈ brackets) (hfits : label.Fits shape)
    (hrest : ¬ ":::".toList <+: rest) :
    ∃ m, node? (i.chars ++ (opener.toList ++ (label.chars ++ (closer.toList ++ rest)))) =
        some (m, rest) ∧ m.id = i.string ∧
      ∀ (st : State) (l : Line), st.nodes.get? i.string = none →
        (mention st l m).nodes = st.nodes.insert i.string
          { id := i.string, label := String.ofList label.read, shape,
            declaredOrder := st.nodes.size, implicit := false, line := l.number } := by
  have hid : ident? (i.chars ++ (opener.toList ++ (label.chars ++ (closer.toList ++ rest)))) =
      some (i.chars, opener.toList ++ (label.chars ++ (closer.toList ++ rest))) := by
    have hopeners : ∀ row ∈ brackets, row.1.toList ≠ [] ∧
        ∀ c ∈ row.1.toList, isWordOrHyphen c = false := by decide
    obtain ⟨hne, hsigns⟩ := hopeners _ hrow
    obtain ⟨c, r, hopener⟩ := List.exists_cons_of_ne_nil hne
    dsimp only at hopener hsigns
    rw [hopener] at hsigns ⊢
    exact ident?_chars i fun d hd => hsigns d (by cases hd; exact List.mem_cons_self)
  have hclass : className? rest = none := by
    unfold className?
    cases h : literal? [':', ':', ':'] rest with
    | none => rfl
    | some u => exact absurd ⟨u, (literal?_eq_some_iff.1 h).symm⟩ hrest
  refine ⟨⟨i.string, some (String.ofList label.read, shape), none⟩, ?_, rfl, fun st l hnew => ?_⟩
  · unfold node?
    rw [hid, Option.bind_eq_bind, Option.bind_some]
    dsimp only
    rw [form?_label hrow hfits]
    dsimp only
    rw [hclass]
    rfl
  · exact nodes_mention_of_new st l hnew

/-- The id `a-1`. -/
def hyphenated : Ident := ⟨['a'], [['1']], by decide⟩

/-- A quoted label with the brackets of other shapes in it. -/
def bracketed : Label := .quoted "x)) -\x7d".toList (by decide)

theorem node_shape_bracketed :
    ∃ m, node? "a-1[/\"x)) -\x7d\"/] --> b".toList = some (m, " --> b".toList) ∧ m.id = "a-1" ∧
      ∀ (st : State) (l : Line), st.nodes.get? "a-1" = none →
        (mention st l m).nodes = st.nodes.insert "a-1"
          { id := "a-1", label := "x)) -\x7d", shape := .parallelogram,
            declaredOrder := st.nodes.size, implicit := false, line := l.number } :=
  @node_shape hyphenated "[/" "/]" .parallelogram bracketed " --> b".toList (by decide)
    (fun _ => by decide) (by decide)

end DiagramText.Flowchart
