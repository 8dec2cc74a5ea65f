import DiagramText.Classes.Relationship
import DiagramText.Proofs.Text.Solid

/-!
# Spellings of connectors

The readers of relationships try all connectors, longer spellings first.

1. Different connectors have different spellings.
2. `token_cases`: a spelling starts with a sign, or with the marker `o` and the sign of a line.
3. `findSome?_longestFirst`: the connector that is found if no other one of its length can be read.
4. Where a spelling ends in front of a word, and where one may start inside a word.
-/

namespace DiagramText.Classes.Connector

open Text

/-! ## All connectors -/

theorem mem_all (c : Connector) : c ∈ all := by
  obtain ⟨left, link, right⟩ := c
  rcases left with _ | _ | _ | _ | _ <;> rcases link with _ | _ <;>
    rcases right with _ | _ | _ | _ | _ <;> decide

theorem mem_longestFirst (c : Connector) : c ∈ longestFirst := by
  have hall : ∀ c ∈ all, c ∈ longestFirst := by decide +kernel
  exact hall c c.mem_all

/-- Different connectors are spelled differently. -/
theorem find?_token (c : Connector) : all.find? (·.token == c.token) = some c := by
  have hall : ∀ c ∈ all, all.find? (·.token == c.token) = some c := by decide +kernel
  exact hall c c.mem_all

theorem eq_of_token {a b : Connector} (h : a.token.toList = b.token.toList) : a = b := by
  have ha := a.find?_token
  rw [String.toList_inj.1 h, b.find?_token] at ha
  exact (Option.some.inj ha).symm

/-! ## Characters -/

theorem solid_token (c : Connector) : ∀ d ∈ c.token.toList, isBlank d = false := by
  have hall : ∀ c ∈ all, ∀ d ∈ c.token.toList, isBlank d = false := by decide +kernel
  exact hall c c.mem_all

theorem quote_notMem_token (c : Connector) : '"' ∉ c.token.toList := by
  have hall : ∀ c ∈ all, '"' ∉ c.token.toList := by decide +kernel
  exact hall c c.mem_all

/-- The only letter in a spelling is `o`. -/
theorem eq_of_isWord (c : Connector) : ∀ d ∈ c.token.toList, isWord d = true → d = 'o' := by
  have hall : ∀ c ∈ all, ∀ d ∈ c.token.toList, isWord d = true → d = 'o' := by decide +kernel
  exact hall c c.mem_all

/-- The signs with which a spelling may start. -/
def signs : List Char := ['-', '.', '<', '*']

theorem mem_signs {d : Char} (h : d ∈ ['-', '.']) : d ∈ signs := by
  have hall : ∀ d ∈ ['-', '.'], d ∈ signs := by decide
  exact hall d h

theorem isWord_of_mem_signs {d : Char} (h : d ∈ signs) : isWord d = false := by
  have hall : ∀ d ∈ signs, isWord d = false := by decide
  exact hall d h

/-- A spelling starts with a sign, or with the marker `o` and the sign of a line.  With the sign of
a line in front, there is no marker at the left end. -/
theorem token_cases (c : Connector) :
    (∃ d r, c.token.toList = d :: r ∧ d ∈ signs ∧ (d ∈ ['-', '.'] → c.left = none)) ∨
      ∃ d r, c.token.toList = 'o' :: d :: r ∧ d ∈ ['-', '.'] := by
  obtain ⟨left, link, right⟩ := c
  rcases left with _ | _ | _ | _ | _ <;> rcases link with _ | _ <;>
    simp [token, leftToken, linkToken, String.toList_append, signs]

theorem mem_token_of_head {c : Connector} {s : List Char} {d : Char}
    (hd : d ∈ (c.token.toList ++ s).head?) : d ∈ c.token.toList := by
  rcases c.token_cases with ⟨e, r, htoken, -⟩ | ⟨e, r, htoken, -⟩ <;> rw [htoken] at hd ⊢ <;>
    cases hd <;> exact List.mem_cons_self

/-! ## The longest spelling -/

/-- The first answer is that of `c`, if no other connector with a spelling of at least its length
has one. -/
theorem findSome?_longestFirst {β : Type} {f : Connector → Option β} {c : Connector} {b : β}
    (hc : f c = some b)
    (hother : ∀ c', c.token.length ≤ c'.token.length → c' ≠ c → f c' = none) :
    longestFirst.findSome? f = some b := by
  have hpairwise : longestFirst.Pairwise fun a b => b.token.length ≤ a.token.length := by
    decide +kernel
  obtain ⟨before, behind, hsplit, hfirst⟩ := List.eq_append_cons_of_mem c.mem_longestFirst
  rw [hsplit] at hpairwise
  refine List.findSome?_eq_some_iff.2 ⟨before, c, behind, hsplit, hc, fun c' hc' => ?_⟩
  refine hother c' ?_ fun heq => hfirst (heq ▸ hc')
  exact (List.pairwise_append.1 hpairwise).2.2 c' hc' c List.mem_cons_self

/-! ## Spellings in a line -/

variable {c c' : Connector} {s t u : List Char}

/-- In front of a word that does not start with `o`, no other spelling of the same length or a
greater one can be read. -/
theorem eq_of_word_behind (ht : ∀ d ∈ t.head?, isWord d = true ∧ d ≠ 'o')
    (h : c.token.toList ++ t = c'.token.toList ++ u) (hlength : c.token.length ≤ c'.token.length) :
    c' = c := by
  rw [← String.length_toList, ← String.length_toList] at hlength
  rcases List.append_eq_append_iff.1 h with ⟨a, ha, hbehind⟩ | ⟨a, ha, -⟩
  · cases a with
    | nil => exact eq_of_token (by simpa using ha)
    | cons d a =>
      obtain ⟨hword, hne⟩ := ht d (by simp [hbehind])
      exact absurd (c'.eq_of_isWord d (by simp [ha]) hword) hne
  · have hnil : a = [] := by
      rw [ha, List.length_append] at hlength
      exact List.length_eq_zero_iff.1 (by omega)
    rw [hnil, List.append_nil] at ha
    exact (eq_of_token ha).symm

/-- No spelling starts in a word with something else behind it. -/
theorem literal?_token_eq_none (c : Connector) (ht : ∀ d ∈ t, isWord d = true)
    (hs : ∀ d ∈ s.head?, isWord d = false ∧ d ∉ signs) :
    literal? c.token.toList (t ++ s) = none := by
  by_contra hne
  obtain ⟨u, hu⟩ := Option.ne_none_iff_exists'.1 hne
  replace hu := literal?_eq_some_iff.1 hu
  rcases c.token_cases with ⟨d, r, htoken, hd, -⟩ | ⟨d, r, htoken, hd⟩
  · rw [htoken] at hu
    match t, hu with
    | [], hu => exact (hs d (by simp_all)).2 hd
    | e :: _, hu =>
      obtain rfl : e = d := (List.cons.inj hu).1
      exact absurd (ht e List.mem_cons_self) (by simp [isWord_of_mem_signs hd])
  · have hsign := mem_signs hd
    rw [htoken] at hu
    match t, hu with
    | [], hu => exact absurd (hs 'o' (by simp_all)).1 (by decide)
    | [_], hu => exact (hs d (by simp_all)).2 hsign
    | _ :: e :: _, hu =>
      obtain rfl : e = d := (List.cons.inj (List.cons.inj hu).2).1
      exact absurd (ht e (by simp)) (by simp [isWord_of_mem_signs hsign])

/-- A spelling that starts inside a word starts with the last letter `o` of the word, in front of a
spelling without a marker at its left end. -/
theorem eq_of_literal?_word (hne : t ≠ []) (ht : ∀ d ∈ t, isWord d = true)
    (h : literal? c'.token.toList (t ++ (c.token.toList ++ s)) ≠ none) :
    t = ['o'] ∧ c.left = none := by
  obtain ⟨u, hu⟩ := Option.ne_none_iff_exists'.1 h
  replace hu := literal?_eq_some_iff.1 hu
  obtain ⟨e, t, rfl⟩ := List.exists_cons_of_ne_nil hne
  obtain ⟨he, ht⟩ := List.forall_mem_cons.1 ht
  rcases c'.token_cases with ⟨d, r, htoken, hd, -⟩ | ⟨d, r, htoken, hd⟩ <;> rw [htoken] at hu
  · obtain rfl : e = d := (List.cons.inj hu).1
    exact absurd he (by simp [isWord_of_mem_signs hd])
  · obtain ⟨hletter, hrest⟩ := List.cons.inj hu
    cases t with
    | cons f t =>
      obtain rfl : f = d := (List.cons.inj hrest).1
      exact absurd (ht f List.mem_cons_self) (by simp [isWord_of_mem_signs (mem_signs hd)])
    | nil =>
      refine ⟨by rw [hletter], ?_⟩
      rcases c.token_cases with ⟨d', r', htoken', -, hleft⟩ | ⟨d', r', htoken', -⟩ <;>
        rw [htoken'] at hrest
      · obtain rfl : d' = d := (List.cons.inj hrest).1
        exact hleft hd
      · obtain rfl : 'o' = d := (List.cons.inj hrest).1
        exact absurd hd (by decide)

end DiagramText.Classes.Connector
