import DiagramText.Flowchart.Chain
import DiagramText.Proofs.Text.Solid

/-!
# The places of the parts of a chain

A chain is read from left to right, part by part, and blanks are cut off in between.  A line has no
blanks at its end, so cutting off blanks takes them from the front only: what is left to read is
always a suffix of the line, and the number of characters in front of it is its place.

1. What stands behind an arrow or a group is a suffix.
2. `readIn_of_mem_chain`: a mentioned node is read in some part of the line.
3. `Step.Quotes`: a step that quotes a text says where the text stands in the line.
-/

namespace DiagramText

namespace Flowchart

open Text
open ScopeGraph (LineStyle)

/-! ## Arrows and groups -/

theorem run?_suffix {n : Nat} {c : Char} {s u : List Char} (h : run? n c s = some u) :
    u <:+ s := by
  unfold run? at h
  split at h
  · cases h
    exact List.dropWhile_suffix _
  · cases h

theorem opening?_suffix {s u : List Char} {style : LineStyle} (h : opening? s = some (style, u)) :
    u <:+ s := by
  simp only [opening?, Option.orElse_eq_orElse, Option.orElse_eq_or, Option.or_eq_some_iff,
    Option.map_eq_some_iff, Prod.mk.injEq] at h
  rcases h with ⟨v, hv, -, rfl⟩ | ⟨-, ⟨v, hv, -, rfl⟩ | ⟨-, v, hv, -, rfl⟩⟩
  · exact literal?_suffix hv
  · exact literal?_suffix hv
  · exact literal?_suffix hv

theorem closing?_suffix {s u : List Char} (h : closing? s = some u) : u <:+ s := by
  simp only [closing?, Option.orElse_eq_orElse, Option.orElse_eq_or, Option.or_eq_some_iff,
    Option.bind_eq_bind, Option.bind_eq_some_iff] at h
  rcases h with h | ⟨-, ⟨v, hv, h⟩ | ⟨-, h⟩⟩
  · exact run?_suffix h
  · exact (literal?_suffix h).trans (run?_suffix hv)
  · exact run?_suffix h

theorem line?_suffix {s u : List Char} {style : LineStyle} (h : line? s = some (style, u)) :
    u <:+ s := by
  have getD_suffix (w r : List Char) : (literal? w r).getD r <:+ r := by
    cases hw : literal? w r with
    | none => exact List.suffix_rfl
    | some v => exact literal?_suffix hw
  simp only [line?, Option.orElse_eq_orElse, Option.orElse_eq_or, Option.or_eq_some_iff,
    Option.bind_eq_bind, Option.bind_eq_some_iff, Option.map_eq_some_iff, Prod.mk.injEq,
    Option.pure_def, Option.some.injEq] at h
  rcases h with ⟨v, hv, -, rfl⟩ | ⟨-, ⟨v, hv, r, hr, -, rfl⟩ |
    ⟨-, ⟨v, hv, -, rfl⟩ | ⟨-, v, hv, -, rfl⟩⟩⟩
  · exact run?_suffix hv
  · exact (getD_suffix ['-'] r).trans ((run?_suffix hr).trans (literal?_suffix hv))
  · exact run?_suffix hv
  · exact run?_suffix hv

theorem textArrow?_suffix {s u : List Char} {a : Arrow} (h : textArrow? s = some (a, u)) :
    u <:+ s := by
  simp only [textArrow?, Option.bind_eq_bind, Option.bind_eq_some_iff] at h
  obtain ⟨⟨style, rest⟩, ho, h⟩ := h
  obtain ⟨t, v, rfl, h⟩ := exists_cut_of_longest₁ h
  obtain ⟨t', v', rfl, h⟩ := exists_cut_of_shortest₁ h
  simp only [Option.bind_eq_some_iff, Option.pure_def, Option.some.injEq, Prod.mk.injEq] at h
  obtain ⟨w, hw, x, hx, -, rfl⟩ := h
  have hfront : t ++ (t' ++ v') <:+ s := (opening?_suffix ho).trans (startMark_suffix s)
  have hlabel : v' <:+ t ++ (t' ++ v') :=
    (List.suffix_append t' v').trans (List.suffix_append t _)
  have hend : (endMark isBlank x).2 <:+ v' :=
    ((endMark_suffix isBlank x).trans (closing?_suffix hx)).trans (gap?_suffix hw)
  exact (hend.trans hlabel).trans hfront

theorem plainArrow?_suffix {s u : List Char} {a : Arrow} (h : plainArrow? s = some (a, u)) :
    u <:+ s := by
  simp only [plainArrow?, Option.bind_eq_bind, Option.bind_eq_some_iff, Option.pure_def,
    Option.some.injEq, Prod.mk.injEq] at h
  obtain ⟨⟨style, rest⟩, ho, -, rfl⟩ := h
  have hline : rest <:+ s := (line?_suffix ho).trans (startMark_suffix s)
  exact ((barLabel_suffix _).trans (endMark_suffix _ rest)).trans hline

/-- An unknown arrow is a token of at least two characters at the front. -/
theorem unknownArrow?_suffix {s u t : List Char} {a : Arrow}
    (h : unknownArrow? s = some (t, a, u)) : t ≠ [] ∧ t <+: s ∧ u <:+ s := by
  simp only [unknownArrow?, Option.ite_none_right_eq_some, Option.some.injEq, Prod.mk.injEq] at h
  obtain ⟨⟨hlength, -⟩, rfl, -, rfl⟩ := h
  refine ⟨?_, List.takeWhile_prefix _, (barLabel_suffix _).trans (List.dropWhile_suffix _)⟩
  intro hnil
  rw [hnil] at hlength
  simp at hlength

/-- Behind an arrow stands a suffix of the text, and the token of an unknown one at its front. -/
theorem arrow?_suffix {s u : List Char} {t : Option (List Char)} {a : Arrow}
    (h : arrow? s = some (t, a, u)) : u <:+ s ∧ ∀ w, t = some w → w ≠ [] ∧ w <+: s := by
  unfold arrow? at h
  split at h
  · rename_i b rest hb
    cases h
    simp only [Option.orElse_eq_orElse, Option.orElse_eq_or, Option.or_eq_some_iff] at hb
    refine ⟨?_, by rintro w ⟨⟩⟩
    rcases hb with hb | ⟨-, hb⟩
    · exact textArrow?_suffix hb
    · exact plainArrow?_suffix hb
  · simp only [Option.map_eq_some_iff, Prod.mk.injEq] at h
    obtain ⟨⟨token, b, rest⟩, hb, rfl, -, rfl⟩ := h
    obtain ⟨hne, hpre, hsuf⟩ := unknownArrow?_suffix hb
    refine ⟨hsuf, ?_⟩
    rintro w ⟨⟩
    exact ⟨hne, hpre⟩

theorem moreNodes_suffix {s : List Char} (hs : trimEnd s = s) : (moreNodes s).2 <:+ s := by
  fun_induction moreNodes s with
  | case1 r m u h ms v hv ih =>
    have htail : r <:+ '&' :: r := List.suffix_cons _ _
    have hr := trim_suffix hs htail
    have hu : u <:+ '&' :: r := (node?_suffix h).1.trans (hr.trans htail)
    have htrim := trim_suffix hs hu
    rw [hv] at ih
    exact (ih (trimEnd_of_suffix hs (htrim.trans hu))).trans (htrim.trans hu)
  | case2 r h =>
    have htail : r <:+ '&' :: r := List.suffix_cons _ _
    exact (trim_suffix hs htail).trans htail
  | case3 => exact List.suffix_rfl

/-- Behind a group stands a suffix of the text. -/
theorem group?_suffix {s u : List Char} {ms : List Mention} (hs : trimEnd s = s)
    (h : group? s = some (ms, u)) : u <:+ s := by
  simp only [group?, Option.bind_eq_bind, Option.bind_eq_some_iff, Option.pure_def,
    Option.some.injEq, Prod.mk.injEq] at h
  obtain ⟨⟨m, rest⟩, hm, -, rfl⟩ := h
  have hrest := (node?_suffix hm).1
  have htrim := (trim_suffix hs hrest).trans hrest
  exact (moreNodes_suffix (trimEnd_of_suffix hs htrim)).trans htrim

/-! ## Mentions -/

/-- A node is read in front of some part of a text. -/
def ReadIn (s : List Char) (m : Mention) : Prop := ∃ t u, t <:+: s ∧ node? t = some (m, u)

theorem ReadIn.mono {s t : List Char} {m : Mention} (h : ReadIn t m) (hst : t <:+: s) :
    ReadIn s m := by
  obtain ⟨v, u, hv, hnode⟩ := h
  exact ⟨v, u, hv.trans hst, hnode⟩

theorem readIn_of_mem_moreNodes (s : List Char) :
    (moreNodes s).2 <:+: s ∧ ∀ m ∈ (moreNodes s).1, ReadIn s m := by
  fun_induction moreNodes s with
  | case1 r m u h ms v hv ih =>
    have hr : trim r <:+: '&' :: r := (trim_isInfix r).trans (List.suffix_cons _ _).isInfix
    have hu : trim u <:+: '&' :: r :=
      ((trim_isInfix u).trans (node?_suffix h).1.isInfix).trans hr
    rw [hv] at ih
    refine ⟨ih.1.trans hu, List.forall_mem_cons.2 ⟨⟨_, u, hr, h⟩, fun m' hm' => ?_⟩⟩
    exact (ih.2 m' hm').mono hu
  | case2 r h =>
    exact ⟨(trim_isInfix r).trans (List.suffix_cons _ _).isInfix, List.forall_mem_nil _⟩
  | case3 => exact ⟨List.infix_rfl, List.forall_mem_nil _⟩

theorem readIn_of_group? {s u : List Char} {ms : List Mention} (h : group? s = some (ms, u)) :
    u <:+: s ∧ ∀ m ∈ ms, ReadIn s m := by
  simp only [group?, Option.bind_eq_bind, Option.bind_eq_some_iff, Option.pure_def,
    Option.some.injEq, Prod.mk.injEq] at h
  obtain ⟨⟨m, rest⟩, hm, rfl, rfl⟩ := h
  have hrest : trim rest <:+: s := (trim_isInfix rest).trans (node?_suffix hm).1.isInfix
  obtain ⟨hend, hmore⟩ := readIn_of_mem_moreNodes (trim rest)
  refine ⟨hend.trans hrest, List.forall_mem_cons.2 ⟨⟨s, rest, List.infix_rfl, hm⟩, ?_⟩⟩
  intro m' hm'
  exact (hmore m' hm').mono hrest

theorem readIn_of_mem_links {total : Nat} {sources : List String} {s : List Char} {m : Mention}
    (h : .mention m ∈ links total sources s) : ReadIn s m := by
  fun_induction links total sources s with
  | case1 => cases h
  | case2 => cases List.mem_singleton.1 h
  | case3 sources s _ token arrow rest harrow ih =>
    have hrest : trim rest <:+: s :=
      (trim_isInfix rest).trans (arrow?_suffix harrow).1.isInfix
    rcases List.mem_append.1 h with h | h
    · cases token with
      | none => cases h
      | some token => cases List.mem_singleton.1 h
    · split at h
      · cases List.mem_singleton.1 h
      · rename_i ms u hgroup
        obtain ⟨hu, hms⟩ := readIn_of_group? hgroup
        rcases List.mem_append.1 h with h | h
        · obtain ⟨m', hm', heq⟩ := List.mem_map.1 h
          cases heq
          exact (hms m hm').mono hrest
        · rcases List.mem_cons.1 h with h | h
          · cases h
          · exact (ih ms u hgroup h).mono ((trim_isInfix u).trans (hu.trans hrest))

/-- The nodes that a chain mentions are read in parts of its line. -/
theorem readIn_of_mem_chain {s : List Char} {m : Mention} (h : .mention m ∈ chain s) :
    ReadIn s m := by
  unfold chain at h
  split at h
  · cases List.mem_singleton.1 h
  · rename_i ms u hgroup
    obtain ⟨hu, hms⟩ := readIn_of_group? hgroup
    rcases List.mem_append.1 h with h | h
    · obtain ⟨m', hm', heq⟩ := List.mem_map.1 h
      cases heq
      exact hms m hm'
    · exact (readIn_of_mem_links h).mono ((trim_isInfix u).trans hu)

/-! ## Steps -/

/-- A step that quotes a text gives the place of that text in the line. -/
def Step.Quotes (line : List Char) : Step → Prop
  | .unknownArrow text offset | .unrecognisedText text offset =>
    text.toList ≠ [] ∧ text.toList <+: line.drop offset
  | _ => True

theorem quotes_mentions (line : List Char) (ms : List Mention) :
    ∀ s ∈ ms.map Step.mention, s.Quotes line := by
  intro s hs
  obtain ⟨m, -, rfl⟩ := List.mem_map.1 hs
  exact trivial

/-- What is left of a line stands behind as many characters as are gone. -/
theorem drop_of_suffix {line s : List Char} (h : s <:+ line) :
    line.drop (line.length - s.length) = s := (List.suffix_iff_eq_drop.1 h).symm

theorem quotes_unknownSteps {line s : List Char} (hs : s <:+ line) {token : Option (List Char)}
    (h : ∀ w, token = some w → w ≠ [] ∧ w <+: s) :
    ∀ step ∈ unknownSteps line.length s.length token, step.Quotes line := by
  cases token with
  | none => exact List.forall_mem_nil _
  | some w =>
    refine List.forall_mem_singleton.2 ?_
    show (String.ofList w).toList ≠ [] ∧ (String.ofList w).toList <+: _
    rw [String.toList_ofList, drop_of_suffix hs]
    exact h w rfl

/-- What is left to read of a line is a suffix of it, so every quoted text stands where its step
says. -/
theorem quotes_links {line s : List Char} (hline : trimEnd line = line) (hs : s <:+ line)
    (sources : List String) : ∀ step ∈ links line.length sources s, step.Quotes line := by
  fun_induction links line.length sources s with
  | case1 => exact List.forall_mem_nil _
  | case2 sources s hne harrow =>
    refine List.forall_mem_singleton.2 ?_
    show (String.ofList s).toList ≠ [] ∧ (String.ofList s).toList <+: _
    rw [String.toList_ofList, drop_of_suffix hs]
    exact ⟨hne, List.prefix_rfl⟩
  | case3 sources s hne token arrow rest harrow ih =>
    obtain ⟨hsuf, htoken⟩ := arrow?_suffix harrow
    have hrest : rest <:+ line := hsuf.trans hs
    have htarget : trim rest <:+ line := (trim_suffix hline hrest).trans hrest
    refine List.forall_mem_append.2 ⟨quotes_unknownSteps hs htoken, ?_⟩
    split
    · exact List.forall_mem_singleton.2 trivial
    · rename_i ms u hgroup
      have hu : u <:+ line :=
        (group?_suffix (trimEnd_of_suffix hline htarget) hgroup).trans htarget
      have hnext : trim u <:+ line := (trim_suffix hline hu).trans hu
      refine List.forall_mem_append.2 ⟨quotes_mentions line ms, ?_⟩
      exact List.forall_mem_cons.2 ⟨trivial, ih ms u hgroup hnext⟩

/-- The steps of a line quote texts that stand in the line where they say. -/
theorem quotes_chain {line : List Char} (hline : trimEnd line = line) :
    ∀ step ∈ chain line, step.Quotes line := by
  unfold chain
  split
  · exact List.forall_mem_singleton.2 trivial
  · rename_i ms u hgroup
    have hu := group?_suffix hline hgroup
    refine List.forall_mem_append.2 ⟨quotes_mentions line ms, ?_⟩
    exact quotes_links hline ((trim_suffix hline hu).trans hu) _

end Flowchart

end DiagramText
