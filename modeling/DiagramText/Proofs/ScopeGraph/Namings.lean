import DiagramText.Proofs.Flowchart.Chain
import DiagramText.Proofs.ScopeGraph.Roster
import DiagramText.Proofs.Text.Solid

/-!
# Where nodes are named

A node is named by its id alone, or declared with a label and a shape.

1. `Flowchart.namings` and `StateChart.namings` list the places in the order of the source.  A star
   declares a node whose id tells the number of stars in its place.
2. Ids are made of word characters and hyphens (`IsId`).
-/

namespace DiagramText

open Source (Line)
open ScopeGraph (Shape)
open Text (isWord isWordOrHyphen)

/-- A place where a node is named, with label and shape if it is declared there. -/
structure ScopeGraph.Naming where
  id : String
  form : Option (String × Shape)
  line : Int
deriving Repr, DecidableEq

open ScopeGraph (Naming)

/-! ## Namings -/

namespace Flowchart

/-- Where a step of a chain names a node. -/
def Step.namings (line : Int) : Step → List Naming
  | .mention m => [⟨m.id, m.form, line⟩]
  | _ => []

/-- Where a line names nodes, in order. -/
def lineNamings (l : Line) : List Naming :=
  match Statement.recognise l.text with
  | .ok (.chain steps) => steps.flatMap (Step.namings l.number)
  | _ => []

/-- Where the lines below the header name nodes, in order. -/
def namings (ls : List Line) : List Naming := ls.tail.flatMap lineNamings

end Flowchart

namespace StateChart

/-- Where an end of a transition names a state, behind `count` stars in its place. -/
def Endpoint.naming (role : String) (shape : Shape) (count : Nat) (line : Int) :
    Endpoint → Naming
  | .star => ⟨starName role (count + 1), some ("", shape), line⟩
  | .state id => ⟨id, none, line⟩

/-- Where lines name states, in order, behind the given numbers of start and end states. -/
def namingsFrom : (starts ends : Nat) → List Line → List Naming
  | _, _, [] => []
  | starts, ends, l :: ls =>
    match Statement.recognise l.text with
    | .ok (.declare id label shape) =>
      ⟨id, some (label, shape), l.number⟩ :: namingsFrom starts ends ls
    | .ok (.mention id) => ⟨id, none, l.number⟩ :: namingsFrom starts ends ls
    | .ok (.transition source target _) =>
      source.naming "start" .stateStart starts l.number ::
        target.naming "end" .stateEnd ends l.number ::
          namingsFrom (starts + source.stars) (ends + target.stars) ls
    | _ => namingsFrom starts ends ls

/-- Where the lines below the header name states, in order; those of a note block name none. -/
def namings (ls : List Line) : List Naming := namingsFrom 0 0 (outsideNotes false ls.tail).1

end StateChart

/-! ## Ids -/

/-- Made of word characters and hyphens. -/
def ScopeGraph.IsId (id : String) : Prop := ∀ c ∈ id.toList, isWordOrHyphen c = true

instance (id : String) : Decidable (ScopeGraph.IsId id) :=
  List.decidableBAll (fun c => isWordOrHyphen c = true) id.toList

open ScopeGraph (IsId)

theorem ScopeGraph.IsId.append {id id' : String} (h : IsId id) (h' : IsId id') :
    IsId (id ++ id') := by
  unfold IsId
  rw [String.toList_append]
  exact List.forall_mem_append.2 ⟨h, h'⟩

theorem isWordOrHyphen_of_isWord {c : Char} (h : isWord c = true) : isWordOrHyphen c = true := by
  unfold isWordOrHyphen
  rw [h]
  rfl

theorem isId_ofList {s : List Char} (h : ∀ c ∈ s, isWordOrHyphen c = true) :
    IsId (String.ofList s) := by
  unfold IsId
  rw [String.toList_ofList]
  exact h

namespace Flowchart

theorem forall_mem_identTail (s : List Char) : ∀ c ∈ (identTail s).1, isWordOrHyphen c = true := by
  fun_induction identTail s with
  | case1 => exact List.forall_mem_nil _
  | case2 c hc => exact List.forall_mem_singleton.2 (isWordOrHyphen_of_isWord hc)
  | case3 => exact List.forall_mem_nil _
  | case4 c d r hc t u h ih =>
    rw [h] at ih
    exact List.forall_mem_cons.2 ⟨isWordOrHyphen_of_isWord hc, ih⟩
  | case5 c d r _ hd t u h ih =>
    rw [h] at ih
    obtain ⟨hc, hd⟩ := Bool.and_eq_true_iff.1 hd
    rw [beq_iff_eq.1 hc]
    exact List.forall_mem_cons.2 ⟨rfl, List.forall_mem_cons.2 ⟨isWordOrHyphen_of_isWord hd, ih⟩⟩
  | case6 => exact List.forall_mem_nil _

theorem isId_of_node? {s u : List Char} {m : Mention} (h : node? s = some (m, u)) : IsId m.id := by
  simp only [node?, Option.bind_eq_bind, Option.bind_eq_some_iff, Option.pure_def,
    Option.some.injEq, Prod.mk.injEq] at h
  obtain ⟨⟨id, rest⟩, hid, rfl, -⟩ := h
  apply isId_ofList
  cases s with
  | nil => cases hid
  | cons c r =>
    simp only [ident?, Option.ite_none_right_eq_some, Option.some.injEq, Prod.mk.injEq] at hid
    obtain ⟨hc, rfl, -⟩ := hid
    exact List.forall_mem_cons.2 ⟨isWordOrHyphen_of_isWord hc, forall_mem_identTail r⟩

theorem isId_of_mem_chain {s : List Char} {m : Mention} (h : .mention m ∈ chain s) :
    IsId m.id := by
  obtain ⟨t, u, -, hnode⟩ := readIn_of_mem_chain h
  exact isId_of_node? hnode

theorem isId_of_mem_namings {ls : List Line} {x : Naming} (h : x ∈ namings ls) : IsId x.id := by
  obtain ⟨l, -, hl⟩ := List.mem_flatMap.1 h
  unfold lineNamings at hl
  split at hl
  · rename_i steps hsteps
    obtain ⟨s, hs, hx⟩ := List.mem_flatMap.1 hl
    rw [eq_chain_of_recognise hsteps] at hs
    cases s with
    | mention m =>
      rw [List.mem_singleton.1 hx]
      exact isId_of_mem_chain hs
    | join _ _ _ | unknownArrow _ _ | missingTarget | unrecognisedText _ _ | unrecognisedLine =>
      cases hx
  · cases hl

end Flowchart

namespace StateChart

theorem isId_of_id? {s t u : List Char} (h : id? s = some (t, u)) : IsId (String.ofList t) := by
  unfold id? at h
  split at h
  · cases h
  · cases h
    exact isId_ofList fun c hc => List.mem_takeWhile_imp hc

/-- The ids that an end of a transition spells. -/
def Endpoint.ids : Endpoint → List String
  | .star => []
  | .state id => [id]

/-- The ids of states that a statement spells. -/
def Statement.ids : Statement → List String
  | .declare id _ _ | .mention id => [id]
  | .transition source target _ => source.ids ++ target.ids
  | _ => []

theorem isId_of_target? {s : List Char} {e : Endpoint} {label : Option (List Char)}
    (h : target? s = some (e, label)) : ∀ id ∈ e.ids, IsId id := by
  simp only [target?, Option.orElse_eq_orElse, Option.orElse_eq_or, Option.or_eq_some_iff,
    Option.bind_eq_bind, Option.bind_eq_some_iff, Option.pure_def, Option.some.injEq,
    Prod.mk.injEq] at h
  rcases h with ⟨rest, -, label', -, rfl, -⟩ | ⟨-, h⟩
  · exact List.forall_mem_nil _
  · split at h
    · cases h
    · obtain ⟨label', -, heq⟩ := Option.map_eq_some_iff.1 h
      cases heq
      exact List.forall_mem_singleton.2 (isId_ofList fun c hc => List.mem_takeWhile_imp hc)

theorem isId_of_arrow? {s : List Char} {e : Endpoint} {label : Option (List Char)}
    (h : arrow? s = some (e, label)) : ∀ id ∈ e.ids, IsId id := by
  obtain ⟨rest, -, h⟩ := Option.bind_eq_some_iff.1 h
  exact isId_of_target? h

theorem isId_of_transition? {s : List Char} {source target : Endpoint}
    {label : Option (List Char)} (h : transition? s = some (source, target, label)) :
    ∀ id ∈ source.ids ++ target.ids, IsId id := by
  simp only [transition?, Option.orElse_eq_orElse, Option.orElse_eq_or, Option.or_eq_some_iff,
    Option.bind_eq_bind, Option.bind_eq_some_iff, Option.pure_def, Option.some.injEq,
    Prod.mk.injEq] at h
  rcases h with ⟨rest, -, ⟨e, label'⟩, harrow, rfl, rfl, -⟩ | ⟨-, h⟩
  · exact isId_of_arrow? harrow
  · obtain ⟨t, u, -, -, ht, hk⟩ := Text.exists_run_of_longest₁ h
    simp only [Option.bind_eq_some_iff, Option.some.injEq, Prod.mk.injEq] at hk
    obtain ⟨⟨e, label'⟩, harrow, rfl, rfl, -⟩ := hk
    exact List.forall_mem_cons.2 ⟨isId_ofList ht, isId_of_arrow? harrow⟩

theorem isId_of_aliased? {s id label : List Char} (h : aliased? s = some (id, label)) :
    IsId (String.ofList id) := by
  simp only [aliased?, Option.bind_eq_bind, Option.bind_eq_some_iff,
    Option.ite_none_right_eq_some, Option.some.injEq, Prod.mk.injEq] at h
  obtain ⟨_, -, _, -, _, hid, -, rfl, -⟩ := h
  exact isId_of_id? hid

theorem isId_of_pseudo? {s id : List Char} {shape : Shape} (h : pseudo? s = some (id, shape)) :
    IsId (String.ofList id) := by
  simp only [pseudo?, Option.bind_eq_bind, Option.bind_eq_some_iff] at h
  obtain ⟨_, -, _, hid, _, -, _, -, h⟩ := h
  obtain ⟨_, -, h⟩ := List.exists_of_findSome?_eq_some h
  simp only [Option.bind_eq_some_iff, Option.ite_none_right_eq_some, Option.some.injEq,
    Prod.mk.injEq] at h
  obtain ⟨_, -, _, -, -, rfl, -⟩ := h
  exact isId_of_id? hid

theorem isId_of_description? {s id t : List Char} (h : description? s = some (id, t)) :
    IsId (String.ofList id) := by
  simp only [description?, Option.bind_eq_bind, Option.bind_eq_some_iff, Option.pure_def,
    Option.some.injEq, Prod.mk.injEq] at h
  obtain ⟨_, hid, _, -, _, -, rfl, -⟩ := h
  exact isId_of_id? hid

theorem isId_of_bare? {s id : List Char} (h : bare? s = some id) : IsId (String.ofList id) := by
  simp only [bare?, Option.orElse_eq_orElse, Option.orElse_eq_or, Option.or_eq_some_iff,
    Option.bind_eq_bind, Option.bind_eq_some_iff, Option.ite_none_right_eq_some,
    Option.some.injEq] at h
  rcases h with ⟨_, -, _, hid, -, rfl⟩ | ⟨-, _, hid, -, rfl⟩ <;> exact isId_of_id? hid

theorem isId_of_plain? (s : List Char) :
    ∀ t, Statement.plain? s = some t → ∀ id ∈ t.ids, IsId id := by
  unfold Statement.plain?
  repeat' apply forall_of_orElse
  · exact forall_of_map fun _ _ => List.forall_mem_nil _
  · exact forall_of_map fun _ _ => List.forall_mem_nil _
  · intro t ht
    split at ht <;> cases ht
    exact List.forall_mem_nil _
  · intro t ht
    split at ht <;> cases ht
    exact List.forall_mem_nil _
  · exact forall_of_map fun _ _ => List.forall_mem_nil _
  · exact forall_of_map fun _ h => List.forall_mem_singleton.2 (isId_of_aliased? h)
  · exact forall_of_map fun _ h => List.forall_mem_singleton.2 (isId_of_pseudo? h)
  · exact forall_of_map fun _ h => isId_of_transition? h
  · exact forall_of_map fun _ h => List.forall_mem_singleton.2 (isId_of_description? h)
  · exact forall_of_map fun _ h => List.forall_mem_singleton.2 (isId_of_bare? h)

theorem isId_of_recognise {text : String} {s : Statement}
    (h : Statement.recognise text = .ok s) : ∀ id ∈ s.ids, IsId id := by
  obtain ⟨d, -, h⟩ := bind_eq_ok_iff.1 h
  cases d with
  | some d =>
    cases h
    exact List.forall_mem_nil _
  | none =>
    cases h
    cases hplain : Statement.plain? text.toList with
    | none => exact List.forall_mem_nil _
    | some t => exact isId_of_plain? _ t hplain

theorem isId_toString (n : Nat) : IsId (toString n) := by
  rw [Nat.toString_eq_ofList_toDigits]
  apply isId_ofList
  intro c hc
  have hdigit : c.isDigit = true := Nat.isDigit_of_mem_toDigits (by decide) (by decide) hc
  obtain ⟨-, hlast⟩ := Char.isDigit_iff_toNat.1 hdigit
  have hsmall : c.toNat < 128 := Nat.lt_of_le_of_lt hlast (by decide)
  apply isWordOrHyphen_of_isWord
  simp [isWord, hsmall, Char.isAlphanum, hdigit]

theorem isId_starName {role : String} (hrole : IsId role) (n : Nat) : IsId (starName role n) := by
  have hstem : IsId ("_" ++ role) := .append (by decide) hrole
  unfold starName
  split
  · exact hstem.append (isId_toString n)
  · exact hstem

theorem isId_naming {role : String} (hrole : IsId role) {e : Endpoint}
    (h : ∀ id ∈ e.ids, IsId id) (shape : Shape) (count : Nat) (line : Int) :
    IsId (e.naming role shape count line).id := by
  cases e with
  | star => exact isId_starName hrole _
  | state id => exact h id (List.mem_singleton_self id)

theorem isId_of_mem_namingsFrom {starts ends : Nat} {ls : List Line} {x : Naming}
    (h : x ∈ namingsFrom starts ends ls) : IsId x.id := by
  fun_induction namingsFrom starts ends ls with
  | case1 => cases h
  | case2 starts ends l ls id label shape hs ih =>
    rcases List.mem_cons.1 h with rfl | h
    · exact isId_of_recognise hs id (List.mem_singleton_self id)
    · exact ih h
  | case3 starts ends l ls id hs ih =>
    rcases List.mem_cons.1 h with rfl | h
    · exact isId_of_recognise hs id (List.mem_singleton_self id)
    · exact ih h
  | case4 starts ends l ls source target label hs ih =>
    obtain ⟨hsource, htarget⟩ := List.forall_mem_append.1 (isId_of_recognise hs)
    rcases List.mem_cons.1 h with rfl | h
    · exact isId_naming (by decide) hsource _ _ _
    · rcases List.mem_cons.1 h with rfl | h
      · exact isId_naming (by decide) htarget _ _ _
      · exact ih h
  | case5 starts ends l ls _ _ _ ih => exact ih h

theorem isId_of_mem_namings {ls : List Line} {x : Naming} (h : x ∈ namings ls) : IsId x.id :=
  isId_of_mem_namingsFrom h

end StateChart

end DiagramText
