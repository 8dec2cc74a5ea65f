import DiagramText.Proofs.Flowchart.WrittenChain
import DiagramText.Proofs.ScopeGraph.DirectiveLines

/-!
# Lines that are chains

A line is tried for all other statements before it is read as a chain.  Every one of them starts
with a keyword, and behind the keyword stands a blank or the end of a word.  So the keyword is the
id in front of the chain, or its first word, or it is `direction`, and then no direction follows.

1. `Ident.Leads`: the ids that may stand in front, and `LedBy`, what follows them.
2. What a keyword in front of the line is: `LedBy.eq_of_blank` and `LedBy.eq_of_wordEnd`.
3. The other statements, one after the other, and `LedBy.recognise`.
-/

namespace DiagramText.Flowchart

open Text
open ScopeGraph (Directive)

/-! ## Ids in front -/

/-- An id that may stand first in a chain. -/
structure Ident.Leads (i : Ident) : Prop where
  id : i.string ∉ ["class", "classDef", "style", "linkStyle", "end"]
  word : String.ofList i.first ∉ ["subgraph", "click", "href", "callback"]

/-- An id in front of nothing, or of a blank and a sign. -/
structure LedBy (i : Ident) (s t : List Char) : Prop where
  eq : s = i.chars ++ t
  behind : t = [] ∨ ∃ c r, t = ' ' :: c :: r ∧ c ∈ '&' :: arrowSigns

theorem WrittenChain.ledBy (c : WrittenChain) : ∃ t, LedBy c.first.first c.chars t := by
  refine ⟨c.first.more.flatMap Ident.joined ++ c.links.flatMap Link.chars, ?_, ?_⟩
  · simp [WrittenChain.chars, Group.chars]
  · cases c.first.more with
    | cons i is => exact .inr ⟨'&', _, rfl, List.mem_cons_self⟩
    | nil =>
      cases c.links with
      | nil => exact .inl rfl
      | cons k ks =>
        obtain ⟨d, r, hchars, hd⟩ := links_cons k ks
        exact .inr ⟨d, r, hchars, List.mem_cons_of_mem _ hd⟩

/-- No blank is a case of a letter. -/
theorem isBlank_of_mem_fold {c : Char} (hc : fold c ∈ "direction".toList.map fold) :
    isBlank c = false := by
  by_contra hblank
  have hnot : fold c ∉ "direction".toList.map fold :=
    forall_isBlank (P := (fold · ∉ "direction".toList.map fold)) (by decide) (by simpa using hblank)
  exact hnot hc

/-- No name of a direction starts with a sign. -/
theorem ofName?_of_sign {c : Char} (hc : c ∈ '&' :: arrowSigns) (r : List Char) :
    Direction.ofName? (String.ofList (upper (c :: r))) = none := by
  have hheads : ∀ d ∈ Direction.all, ∀ c ∈ '&' :: arrowSigns,
      d.name.toList.head? ≠ some c.toUpper := by decide
  refine List.find?_eq_none.2 fun d hd heq => hheads d hd c hc ?_
  have hname : d.name = String.ofList (upper (c :: r)) := by simpa using heq
  rw [hname, String.toList_ofList]
  rfl

namespace LedBy

variable {i : Ident} {s t u w : List Char}

theorem blank_behind (h : LedBy i s t) : ∀ c ∈ t.head?, (!isBlank c) = false := by
  rcases h.behind with rfl | ⟨c, r, rfl, -⟩
  · exact fun c hc => by cases hc
  · exact fun d hd => by cases hd; decide

/-- A solid text in front of a blank, or of nothing, is the id. -/
theorem eq_of_blank (h : LedBy i s t) (hw : ∀ c ∈ w, isBlank c = false) (hs : s = w ++ u)
    (hu : ∀ c ∈ u.head?, (!isBlank c) = false) : i.chars = w :=
  eq_of_append_head (p := (!isBlank ·)) (fun c hc => by simp [i.solid c hc])
    (fun c hc => by simp [hw c hc]) h.blank_behind hu (h.eq.symm.trans hs)

/-- A word in front of the end of a word is the first word of the id. -/
theorem eq_of_wordEnd (h : LedBy i s t) (hw : ∀ c ∈ w, isWord c = true) (hs : s = w ++ u)
    (hu : atWordEnd u = true) : i.first = w := by
  have hsplit : i.first ++ (i.more.flatMap ('-' :: ·) ++ t) = w ++ u := by
    rw [← hs, h.eq]
    simp [Ident.chars]
  have hbehind : ∀ c ∈ (i.more.flatMap ('-' :: ·) ++ t).head?, isWord c = false := by
    cases i.more with
    | cons w ws => exact fun c hc => by cases hc; decide
    | nil =>
      rcases h.behind with rfl | ⟨c, r, rfl, -⟩
      · exact fun c hc => by cases hc
      · exact fun c hc => by cases hc; decide
  refine eq_of_append_head (i.words i.first List.mem_cons_self).2 hw hbehind ?_ hsplit
  cases u with
  | nil => exact fun c hc => by cases hc
  | cons d u => exact fun c hc => by cases hc; simpa [atWordEnd] using hu

theorem bind_gap?_eq_none (h : LedBy i s t) (hw : ∀ c ∈ w, isBlank c = false)
    (hne : i.chars ≠ w) : (literal? w s).bind gap? = none := by
  cases hu : literal? w s with
  | none => rfl
  | some u =>
    cases u with
    | nil => rfl
    | cons c r =>
      by_cases hc : isBlank c = true
      · exact absurd (h.eq_of_blank hw (literal?_eq_some_iff.1 hu) (by simp [hc])) hne
      · exact gap?_of_solid (by simpa using hc) r

theorem any_atWordEnd (h : LedBy i s t) (hw : ∀ c ∈ w, isWord c = true) (hne : i.first ≠ w) :
    (literal? w s).any atWordEnd = false := by
  cases hu : literal? w s with
  | none => rfl
  | some u =>
    by_contra hend
    exact hne (h.eq_of_wordEnd hw (literal?_eq_some_iff.1 hu) (by simpa using hend))

theorem recognise?_eq_none (h : LedBy i s t) (hi : i.Leads) :
    Directive.recognise? s = .ok none := by
  have hkeywords : ∀ w ∈ ["classDef", "class", "style", "linkStyle"],
      (∀ c ∈ w.toList, isBlank c = false) ∧
        w ∈ ["class", "classDef", "style", "linkStyle", "end"] := by decide
  refine ScopeGraph.recognise?_of_gap fun w hw => ?_
  obtain ⟨hsolid, hmem⟩ := hkeywords w hw
  refine h.bind_gap?_eq_none hsolid fun hchars => hi.id ?_
  rw [Ident.string, hchars, String.ofList_toList]
  exact hmem

theorem direction?_eq_none (h : LedBy i s t) : ScopeGraph.direction? s = none := by
  unfold ScopeGraph.direction? caselessRest?
  cases hcaseless : caseless? "direction".toList s with
  | none => rfl
  | some found =>
    obtain ⟨v, u⟩ := found
    obtain ⟨hs, hfold⟩ := caseless?_eq_some_iff.1 hcaseless
    have hv : ∀ c ∈ v, isBlank c = false := by
      intro c hc
      refine isBlank_of_mem_fold ?_
      rw [← hfold]
      exact List.mem_map_of_mem hc
    rw [Option.map_some, Option.bind_eq_bind, Option.bind_some]
    cases u with
    | nil => rfl
    | cons b r =>
      by_cases hb : isBlank b = true
      · -- The id is the keyword, and what follows is a sign.
        have hid : i.chars = v := h.eq_of_blank hv hs (by simp [hb])
        have ht : b :: r = t := by
          rw [h.eq, hid] at hs
          exact (List.append_cancel_left hs).symm
        rcases h.behind with rfl | ⟨c, r', rfl, hc⟩
        · cases ht
        · cases ht
          have hblank : isBlank c = false := by
            rcases List.mem_cons.1 hc with rfl | hc
            · decide
            · exact (solid_of_mem_arrowSigns hc).1
          have hgap : gap? (' ' :: c :: r') = some (c :: r') := by
            show some (trimStart (c :: r')) = _
            rw [trimStart_of_head fun d hd => by cases hd; exact hblank]
          have hname : (c :: r').takeWhile (!isBlank ·) = c :: r'.takeWhile (!isBlank ·) :=
            List.takeWhile_cons_of_pos (by simp [hblank])
          rw [hgap, Option.bind_some, hname]
          dsimp only
          split
          · exact ofName?_of_sign hc _
          · rfl
      · rw [gap?_of_solid (by simpa using hb)]
        rfl

theorem subgraph?_eq_none (h : LedBy i s t) (hi : i.Leads) : subgraph? s = none := by
  have hend : (literal? "subgraph".toList s).any atWordEnd = false := by
    refine h.any_atWordEnd (by decide) fun hfirst => hi.word ?_
    rw [hfirst]
    decide
  unfold subgraph?
  cases hu : literal? "subgraph".toList s with
  | none => rfl
  | some u =>
    rw [hu] at hend
    rw [Option.bind_eq_bind, Option.bind_some]
    exact if_neg (by simpa using hend)

theorem isInteraction_eq_false (h : LedBy i s t) (hi : i.Leads) : isInteraction s = false := by
  have hkeywords : ∀ w ∈ ["click", "href", "callback"],
      (∀ c ∈ w.toList, isWord c = true) ∧ w ∈ ["subgraph", "click", "href", "callback"] := by
    decide
  refine List.any_eq_false.2 fun w hw => ?_
  obtain ⟨hword, hmem⟩ := hkeywords w hw
  have hend : (literal? w.toList s).any atWordEnd = false := by
    refine h.any_atWordEnd hword fun hfirst => hi.word ?_
    rw [hfirst, String.ofList_toList]
    exact hmem
  rw [hend]
  exact Bool.false_ne_true

theorem ne_end (h : LedBy i s t) (hi : i.Leads) : s ≠ "end".toList := by
  intro hs
  refine hi.id ?_
  have hchars : i.chars = "end".toList :=
    h.eq_of_blank (by decide) (hs.trans (List.append_nil _).symm) fun c hc => by cases hc
  rw [Ident.string, hchars]
  decide

/-- A line that an id leads is read as a chain. -/
theorem recognise (h : LedBy i s t) (hi : i.Leads) :
    Statement.recognise (String.ofList s) = .ok (.chain (chain s)) := by
  have hplain : Statement.plain s = .chain (chain s) := by
    unfold Statement.plain
    rw [h.direction?_eq_none, h.subgraph?_eq_none hi, if_neg (h.ne_end hi),
      h.isInteraction_eq_false hi]
    rfl
  unfold Statement.recognise
  rw [String.toList_ofList, ← hplain]
  dsimp only
  rw [h.recognise?_eq_none hi]
  rfl

end LedBy

end DiagramText.Flowchart
