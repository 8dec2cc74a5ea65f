import DiagramText.Proofs.ScopeGraph.OwnerHistory
import DiagramText.Proofs.ScopeGraph.Roster
import DiagramText.Proofs.Text.Solid
import Mathlib.Data.Nat.Find

/-!
# Numbered subgraphs

A subgraph without a usable text gets a number for its id.  The number is one more than the count of
the lines without any text, and a line with a label is not counted, so a later subgraph may get the
same number again.

1. `NoUsableText`: which texts give a numbered id.
2. `idsFrom`, the ids that opening lines give in order, and what the reader does (`foldl_step_ids`).
3. When two numbered ids are equal, from the count of the lines between them.
4. `numbered_ids_distinct_iff`.
-/

namespace DiagramText.Flowchart

open Source (Line)
open Text (isWord unquote)
open ScopeGraph (State SameScopes SameCounters)

/-! ## Numbered heads -/

/-- Whether the id of a subgraph is made from a number. -/
def SubgraphHead.isNumbered : SubgraphHead → Bool
  | .named _ _ => false
  | .labelled _ | .unnamed => true

theorem idOfLabel_eq_nil_iff {s : List Char} :
    idOfLabel s = [] ↔ ∀ c ∈ s, isWord c = false ∧ c ≠ ' ' := by
  have hunderscore : isWord '_' = true := by decide
  unfold idOfLabel
  rw [List.filter_eq_nil_iff, List.forall_mem_map]
  refine forall₂_congr fun c _ => ?_
  by_cases hc : c = ' '
  · simp [hc, hunderscore]
  · simp [hc]

/-- The text behind the keyword has nothing for an id: it is empty, or nothing but a label with
neither a word character nor a space in it. -/
def NoUsableText (s : List Char) : Prop :=
  s = [] ∨ bracketedHead? s = none ∧ ∀ c ∈ unquote s, isWord c = false ∧ c ≠ ' '

theorem isNumbered_ofText_iff {s : List Char} :
    (SubgraphHead.ofText s).isNumbered ↔ NoUsableText s := by
  rw [NoUsableText, ← idOfLabel_eq_nil_iff]
  unfold SubgraphHead.ofText
  by_cases hs : s = []
  · simp [hs, SubgraphHead.isNumbered]
  · rw [if_neg hs]
    cases hhead : bracketedHead? s with
    | some head => simp [hs, SubgraphHead.isNumbered]
    | none =>
      cases hid : idOfLabel (unquote s) <;> simp [hs, hid, SubgraphHead.isNumbered]

/-! ## The ids of a run -/

/-- The id with a number. -/
def numberedId (n : Nat) : String := s!"subgraph{n}"

theorem numberedId_injective : Function.Injective numberedId := by
  intro m n h
  have hchars : "subgraph".toList ++ (toString m).toList =
      "subgraph".toList ++ (toString n).toList := by
    simpa [numberedId] using congrArg String.toList h
  exact Text.toString_nat_injective (String.ext (List.append_cancel_left hchars))

/-- The id of a subgraph behind `n` lines without any text. -/
def SubgraphHead.idAfter (n : Nat) : SubgraphHead → String
  | .named id _ => id
  | .labelled _ | .unnamed => numberedId (n + 1)

/-- The ids of subgraphs in order, behind `n` lines without any text. -/
def idsFrom : (n : Nat) → List SubgraphHead → List String
  | _, [] => []
  | n, head :: heads => head.idAfter n :: idsFrom (n + [head].count .unnamed) heads

theorem idsFrom_eq_mapCounting (n : Nat) (heads : List SubgraphHead) :
    idsFrom n heads = mapCounting .unnamed SubgraphHead.idAfter n heads := by
  induction heads generalizing n with
  | nil => rfl
  | cons head heads ih => rw [idsFrom, ih, mapCounting]

theorem getElem?_idsFrom (n : Nat) (heads : List SubgraphHead) (i : Nat) :
    (idsFrom n heads)[i]? =
      heads[i]?.map (·.idAfter (n + (heads.take i).count .unnamed)) := by
  rw [idsFrom_eq_mapCounting, getElem?_mapCounting]

theorem length_idsFrom (n : Nat) (heads : List SubgraphHead) :
    (idsFrom n heads).length = heads.length := by
  rw [idsFrom_eq_mapCounting, length_mapCounting]

/-- The subgraph that a statement opens. -/
def Statement.head? : Statement → Option SubgraphHead
  | .openSubgraph head => some head
  | _ => none

/-- The subgraph that a line opens. -/
def lineHead? (l : Line) : Option SubgraphHead :=
  match Statement.recognise l.text with
  | .ok s => s.head?
  | .error _ => none

/-- A line that opens a subgraph has the keyword and a text behind it. -/
theorem exists_text_of_lineHead? {l : Line} {head : SubgraphHead} (h : lineHead? l = some head) :
    ∃ s, subgraph? l.text.toList = some s ∧ head = .ofText s := by
  unfold lineHead? at h
  split at h
  · rename_i statement hstatement
    obtain ⟨directive, -, hstatement⟩ := bind_eq_ok_iff.1 hstatement
    cases directive with
    | some d =>
      cases hstatement
      cases h
    | none =>
      cases hstatement
      unfold Statement.plain at h
      split at h
      · cases h
      · split at h
        · rename_i s hs
          cases h
          exact ⟨s, hs, rfl⟩
        · split at h
          · cases h
          · split at h <;> cases h
  · cases h

/-- The subgraphs that the lines below the header open, in order. -/
def subgraphHeads (ls : List Line) : List SubgraphHead := ls.tail.filterMap lineHead?

theorem sameCounters_takeStep (l : Line) (st : State) (s : Step) :
    SameCounters st (takeStep l st s) := by
  cases s with
  | mention m =>
    obtain ⟨id, form, className⟩ := m
    have hform : SameCounters st (mention st l ⟨id, form, none⟩) := by
      cases form with
      | none => exact .mention st id .rectangle l.number
      | some form => exact .declare st id form.1 form.2 l.number
    cases className with
    | none => exact hform
    | some c => exact hform.trans ⟨rfl, rfl, rfl⟩
  | join sources targets a => exact ⟨rfl, rfl, rfl⟩
  | unknownArrow token offset => exact ⟨rfl, rfl, rfl⟩
  | missingTarget => exact ⟨rfl, rfl, rfl⟩
  | unrecognisedText text offset => exact ⟨rfl, rfl, rfl⟩
  | unrecognisedLine => exact ⟨rfl, rfl, rfl⟩

/-- The ids of all scopes, in the order in which they were opened. -/
def scopeIds (st : State) : List String := st.allScopes.map (·.id)

theorem scopeIds_openScope (st : State) (l : Line) (id label : String) :
    scopeIds (st.openScope l id label) = scopeIds st ++ [id] := by
  unfold scopeIds
  rw [State.allScopes_openScope, List.map_append]
  rfl

/-- What a statement does to the ids of the scopes and to the count of lines without any text. -/
theorem step_ids (st : State) (l : Line) (s : Statement) :
    scopeIds (step st (l, s)) = scopeIds st ++ idsFrom st.unnamed s.head?.toList ∧
      (step st (l, s)).unnamed = st.unnamed + s.head?.toList.count .unnamed := by
  -- Only an opening line numbers anything.
  have plain {st' : State} (hscopes : SameScopes st st') (hcounters : SameCounters st st') :
      scopeIds st' = scopeIds st ++ [] ∧ st'.unnamed = st.unnamed + 0 := by
    rw [List.append_nil]
    exact ⟨hscopes.map_allScopes fun _ => rfl, hcounters.unnamed⟩
  cases s with
  | directive d => exact plain (.applyDirective st l d) (.applyDirective st l d)
  | direction d => exact plain (.setDirection st d) (.setDirection st d)
  | openSubgraph head =>
    cases head with
    | unnamed => exact ⟨scopeIds_openScope _ _ _ _, rfl⟩
    | named id label => exact ⟨scopeIds_openScope st _ _ _, rfl⟩
    | labelled label => exact ⟨scopeIds_openScope st _ _ _, rfl⟩
  | close =>
    have hcounters := SameCounters.closeOrReport st .flowchart l
    refine ⟨?_, hcounters.unnamed⟩
    unfold scopeIds
    show (st.closeOrReport .flowchart l).allScopes.map _ = _ ++ []
    rw [List.append_nil]
    unfold State.closeOrReport
    split
    · rfl
    · rw [State.allScopes_closeScope]
  | interaction => exact plain (.addReport st fun _ => rfl) ⟨rfl, rfl, rfl⟩
  | chain steps =>
    exact plain (.foldl (sameScopes_takeStep l) steps st)
      (.foldl (sameCounters_takeStep l) steps st)

theorem foldl_step_ids (xs : List (Line × Statement)) (st : State) :
    scopeIds (xs.foldl step st) =
      scopeIds st ++ idsFrom st.unnamed (xs.filterMap fun x => x.2.head?) := by
  induction xs generalizing st with
  | nil => exact (List.append_nil _).symm
  | cons x xs ih =>
    obtain ⟨hids, hunnamed⟩ := step_ids st x.1 x.2
    rw [List.foldl_cons, ih, hids, hunnamed, List.append_assoc, List.filterMap_cons]
    cases x.2.head? with
    | none => rfl
    | some head => rfl

theorem ids_of_parse {ls : List Line} {direction : String} {p : Parsed ScopeGraph.Graph}
    (h : parse ls direction = .ok p) :
    p.diagram.allSubgraphs.map (·.value.id) = idsFrom 0 (subgraphHeads ls) := by
  obtain ⟨xs, hx, h⟩ := bind_eq_ok_iff.1 h
  cases h
  have hheads : xs.filterMap (fun x => x.2.head?) = subgraphHeads ls := by
    refine ScopeGraph.filterMap_of_readLines (f := fun _ s => s.head?) ?_ hx
    intro l s hs
    rw [lineHead?, hs]
  have hstart : scopeIds (start ls direction) = [] ∧ (start ls direction).unnamed = 0 := by
    unfold start scopeIds
    cases ls with
    | nil => exact ⟨rfl, rfl⟩
    | cons l ls =>
      dsimp only
      unfold readHeader
      split
      · exact ⟨rfl, rfl⟩
      · exact ⟨rfl, rfl⟩
      · split <;> exact ⟨rfl, rfl⟩
  have hvalues := congrArg (List.map (·.id))
    (ScopeGraph.values_allSubgraphs_finish (xs.foldl step (start ls direction)) .flowchart)
  rw [List.map_map, State.allScopes_closeAll] at hvalues
  have hids := foldl_step_ids xs (start ls direction)
  rw [hstart.1, hstart.2, hheads] at hids
  exact hvalues.trans hids

/-! ## Equal numbers -/

section

variable {heads : List SubgraphHead} {i j : Nat} {a b : SubgraphHead}

theorem getElem?_idsFrom_of_isNumbered (hi : heads[i]? = some a) (ha : a.isNumbered) :
    (idsFrom 0 heads)[i]? = some (numberedId ((heads.take i).count .unnamed + 1)) := by
  rw [getElem?_idsFrom, hi, Nat.zero_add]
  cases a with
  | named => cases ha
  | labelled => rfl
  | unnamed => rfl

/-- Two numbered subgraphs have the same id just if no line without text stands from the first one
on up to the second one. -/
theorem idsFrom_eq_iff (hij : i < j) (hi : heads[i]? = some a) (hj : heads[j]? = some b)
    (ha : a.isNumbered) (hb : b.isNumbered) :
    (idsFrom 0 heads)[i]? = (idsFrom 0 heads)[j]? ↔ .unnamed ∉ (heads.take j).drop i := by
  have hcount : (heads.take j).count .unnamed =
      (heads.take i).count .unnamed + ((heads.take j).drop i).count .unnamed := by
    have htake : (heads.take j).take i = heads.take i := by
      rw [List.take_take, Nat.min_eq_left (Nat.le_of_lt hij)]
    rw [← htake, ← List.count_append, List.take_append_drop]
  rw [getElem?_idsFrom_of_isNumbered hi ha, getElem?_idsFrom_of_isNumbered hj hb,
    Option.some.injEq, numberedId_injective.eq_iff, ← List.count_eq_zero]
  omega

/-- The subgraphs from one on up to another one. -/
theorem mem_between_iff : a ∈ (heads.take j).drop i ↔ ∃ k, i ≤ k ∧ k < j ∧ heads[k]? = some a := by
  rw [List.mem_iff_getElem?]
  constructor
  · rintro ⟨k, hk⟩
    rw [List.getElem?_drop, List.getElem?_take] at hk
    split at hk
    · exact ⟨i + k, Nat.le_add_right i k, by assumption, hk⟩
    · cases hk
  · rintro ⟨k, hik, hkj, hk⟩
    refine ⟨k - i, ?_⟩
    rw [List.getElem?_drop, Nat.add_sub_cancel' hik, List.getElem?_take, if_pos hkj, hk]

end

/-- The ids of numbered subgraphs are pairwise distinct. -/
def NumberedDistinct (heads : List SubgraphHead) (ids : List String) : Prop :=
  ∀ (i j : Nat) (a b : SubgraphHead), i < j → heads[i]? = some a → heads[j]? = some b →
    a.isNumbered → b.isNumbered → ids[i]? ≠ ids[j]?

/-- Of the numbered subgraphs, only the last one may have a label. -/
def LabelsLast (heads : List SubgraphHead) : Prop :=
  ∀ (i j : Nat) (a b : SubgraphHead), i < j → heads[i]? = some a → heads[j]? = some b →
    a.isNumbered → b.isNumbered → a = .unnamed

theorem numberedDistinct_iff {heads : List SubgraphHead} :
    NumberedDistinct heads (idsFrom 0 heads) ↔ LabelsLast heads := by
  constructor
  · intro hdistinct i j a b hij hi hj ha hb
    by_contra hne
    -- Of the numbered subgraphs behind the labelled one, the first has the same number.
    have hex : ∃ k, i < k ∧ ∃ c, heads[k]? = some c ∧ c.isNumbered := ⟨j, hij, b, hj, hb⟩
    classical
    obtain ⟨hik, c, hk, hc⟩ := Nat.find_spec hex
    refine hdistinct i _ a c hik hi hk ha hc ((idsFrom_eq_iff hik hi hk ha hc).2 fun hmem => ?_)
    obtain ⟨m, him, hmk, hm⟩ := mem_between_iff.1 hmem
    rcases Nat.eq_or_lt_of_le him with rfl | him
    · exact hne (Option.some.inj (hi.symm.trans hm))
    · exact Nat.find_min hex hmk ⟨him, _, hm, rfl⟩
  · intro hunnamed i j a b hij hi hj ha hb heq
    refine (idsFrom_eq_iff hij hi hj ha hb).1 heq (mem_between_iff.2 ⟨i, Nat.le_refl i, hij, ?_⟩)
    rw [hi, hunnamed i j a b hij hi hj ha hb]

/-- **Numbered subgraphs.** A subgraph without a usable text, and no other one, is numbered by the
lines without any text in front of it.  So the ids of these subgraphs are pairwise distinct just if
none but the last of them has a label; those without any text always have different ids. -/
theorem numbered_ids_distinct_iff {ls : List Line} {direction : String}
    {p : Parsed ScopeGraph.Graph} (h : parse ls direction = .ok p) :
    let heads := subgraphHeads ls
    let ids := p.diagram.allSubgraphs.map (·.value.id)
    ids.length = heads.length ∧
      (∀ l ∈ ls.tail, ∀ head ∈ lineHead? l, ∃ s, subgraph? l.text.toList = some s ∧
        (head.isNumbered ↔ NoUsableText s)) ∧
      (∀ (i : Nat) (head : SubgraphHead), heads[i]? = some head → head.isNumbered →
        ids[i]? = some (numberedId ((heads.take i).count .unnamed + 1))) ∧
      (NumberedDistinct heads ids ↔ LabelsLast heads) ∧
      ∀ i j : Nat, i < j → heads[i]? = some .unnamed → heads[j]? = some .unnamed →
        ids[i]? ≠ ids[j]? := by
  dsimp only
  rw [ids_of_parse h]
  refine ⟨length_idsFrom 0 _, fun l _ head hhead => ?_,
    fun i head => getElem?_idsFrom_of_isNumbered, numberedDistinct_iff,
    fun i j hij hi hj heq => ?_⟩
  · obtain ⟨s, hs, rfl⟩ := exists_text_of_lineHead? hhead
    exact ⟨s, hs, isNumbered_ofText_iff⟩
  · exact (idsFrom_eq_iff hij hi hj rfl rfl).1 heq (mem_between_iff.2 ⟨i, Nat.le_refl i, hij, hi⟩)

/-- Two subgraphs with labels in which nothing can serve as an id. -/
def clashingSubgraphs : List Line :=
  [⟨1, "graph TD", 0, 1⟩, ⟨2, "subgraph !!", 0, 1⟩, ⟨3, "end", 0, 1⟩, ⟨4, "subgraph ??", 0, 1⟩,
   ⟨5, "end", 0, 1⟩]

theorem numbered_ids_distinct_iff_clashing :
    ∃ p, parse clashingSubgraphs "TD" = .ok p ∧
      p.diagram.allSubgraphs.map (·.value.id) = ["subgraph1", "subgraph1"] ∧
      (NumberedDistinct (subgraphHeads clashingSubgraphs)
          (p.diagram.allSubgraphs.map (·.value.id)) ↔
        LabelsLast (subgraphHeads clashingSubgraphs)) := by
  have hids : ((parse clashingSubgraphs "TD").toOption.map fun p =>
      p.diagram.allSubgraphs.map (·.value.id)) = some ["subgraph1", "subgraph1"] := by
    decide +kernel
  obtain ⟨p, hp, hids⟩ := exists_ok_of_toOption hids
  exact ⟨p, hp, hids, (numbered_ids_distinct_iff hp).2.2.2.1⟩

/-- Not all numbered subgraphs have different ids. -/
theorem clashingSubgraphs_not_distinct :
    ¬ ∀ ls direction p, parse ls direction = .ok p →
      NumberedDistinct (subgraphHeads ls) (p.diagram.allSubgraphs.map (·.value.id)) := by
  intro hdistinct
  have hheads : subgraphHeads clashingSubgraphs = [.labelled "!!", .labelled "??"] := by
    decide +kernel
  have hids : ((parse clashingSubgraphs "TD").toOption.map fun p =>
      p.diagram.allSubgraphs.map (·.value.id)) = some ["subgraph1", "subgraph1"] := by
    decide +kernel
  obtain ⟨p, hp, hids⟩ := exists_ok_of_toOption hids
  have hclash := hdistinct _ _ p hp 0 1 (.labelled "!!") (.labelled "??")
  rw [hheads, hids] at hclash
  exact hclash Nat.zero_lt_one rfl rfl rfl rfl rfl

end DiagramText.Flowchart
