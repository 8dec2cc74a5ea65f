import DiagramText.Proofs.ScopeGraph.Brackets
import DiagramText.Proofs.ScopeGraph.Roster

/-!
# Claims

A line that names nodes claims them for the innermost open scope.  Who owned a node before, and
whether that scope is still open, decides what the claim does.

1. `settle`, the decision, from the open scopes and the present owner alone.
2. `Settles`, a step that names some nodes and decides on each of them so; steps of this kind
   compose, and `Settles.claim` is the one that does the work.
3. Every statement of a flowchart or a state diagram decides so on the nodes that it names.
-/

namespace DiagramText

open Source (Line)

namespace ScopeGraph

/-! ## Claims as decisions -/

/-- The owner of a node behind a line that names it, from the numbers of the open scopes, innermost
first, and the owner before.  A closed scope keeps its nodes. -/
def settle : (opened : List Nat) → (owner : Option Nat) → Option Nat
  | [], owner => owner
  | k :: _, none => some k
  | k :: ks, some owner => if owner ∈ k :: ks then some k else some owner

theorem settle_none (opened : List Nat) : settle opened none = opened.head? := by
  cases opened <;> rfl

theorem settle_of_mem {opened : List Nat} {k : Nat} (h : k ∈ opened) :
    settle opened (some k) = opened.head? := by
  cases opened with
  | nil => cases h
  | cons k' ks => exact if_pos h

theorem settle_of_not_mem {opened : List Nat} {k : Nat} (h : k ∉ opened) :
    settle opened (some k) = some k := by
  cases opened with
  | nil => rfl
  | cons k' ks => exact if_neg h

/-- Naming a node twice decides as naming it once. -/
theorem settle_settle (opened : List Nat) (owner : Option Nat) :
    settle opened (settle opened owner) = settle opened owner := by
  cases opened with
  | nil => rfl
  | cons k ks =>
    have hhead : settle (k :: ks) (some k) = some k := settle_of_mem List.mem_cons_self
    cases owner with
    | none => exact hhead
    | some owner =>
      by_cases h : owner ∈ k :: ks
      · rw [settle_of_mem h]
        exact hhead
      · rw [settle_of_not_mem h, settle_of_not_mem h]

/-- The numbers of the open scopes, innermost first. -/
def State.openSerials (st : State) : List Nat := st.scopes.map (·.value.serial)

theorem SameScopes.openSerials {st st' : State} (h : SameScopes st st') :
    st'.openSerials = st.openSerials := h.map_scopes fun _ => rfl

/-- The owners behind a step that names the nodes `ids`. -/
def SettlesOwners (st : State) (ids : List String) (st' : State) : Prop :=
  ∀ n, st'.owners.get? n =
    if n ∈ ids then settle st.openSerials (st.owners.get? n) else st.owners.get? n

/-- A step that names the nodes `ids` and opens or closes no scope. -/
structure Settles (st : State) (ids : List String) (st' : State) : Prop where
  openSerials : st'.openSerials = st.openSerials
  owners : SettlesOwners st ids st'

theorem settlesOwners_nil {st st' : State} (h : st'.owners = st.owners) :
    SettlesOwners st [] st' := by
  intro n
  rw [h, if_neg List.not_mem_nil]

namespace Settles

variable {st st' st'' : State} {ids more : List String}

theorem of_eq (hscopes : st'.scopes = st.scopes) (howners : st'.owners = st.owners) :
    Settles st [] st' where
  openSerials := by
    unfold State.openSerials
    rw [hscopes]
  owners := settlesOwners_nil howners

theorem trans (h : Settles st ids st') (h' : Settles st' more st'') :
    Settles st (ids ++ more) st'' where
  openSerials := h'.openSerials.trans h.openSerials
  owners := by
    intro n
    rw [h'.owners n, h.owners n, h.openSerials]
    by_cases hids : n ∈ ids
    · rw [if_pos hids, if_pos (List.mem_append_left _ hids)]
      split
      · exact settle_settle _ _
      · rfl
    · by_cases hmore : n ∈ more
      · rw [if_neg hids, if_pos hmore, if_pos (List.mem_append_right _ hmore)]
      · rw [if_neg hids, if_neg hmore, if_neg fun h => (List.mem_append.1 h).elim hids hmore]

/-- A change of neither scopes nor owners in front of a step. -/
theorem behind (h : Settles st' ids st'') (hscopes : st'.scopes = st.scopes)
    (howners : st'.owners = st.owners) : Settles st ids st'' := (of_eq hscopes howners).trans h

theorem foldl {α : Type} {f : State → α → State} {names : α → List String}
    (hf : ∀ st a, Settles st (names a) (f st a)) (as : List α) (st : State) :
    Settles st (as.flatMap names) (as.foldl f st) := by
  induction as generalizing st with
  | nil => exact of_eq rfl rfl
  | cons a as ih =>
    rw [List.flatMap_cons]
    exact (hf st a).trans (ih _)

/-- The one step that decides on an owner. -/
theorem claim (st : State) (id : String) : Settles st [id] (st.claim id) where
  openSerials := (SameScopes.claim st id).openSerials
  owners := by
    -- The number of the new owner is stored under the id and nowhere else.
    have taken (k : Nat) (hk : settle st.openSerials (st.owners.get? id) = some k) (n : String) :
        (st.owners.insert id k).get? n =
          if n ∈ [id] then settle st.openSerials (st.owners.get? n) else st.owners.get? n := by
      by_cases hn : n = id
      · rw [hn, OrderedMap.get?_insert_self, if_pos (List.mem_singleton_self id), hk]
      · rw [OrderedMap.get?_insert_of_ne _ _ hn, if_neg (by simpa using hn)]
    have kept (hk : settle st.openSerials (st.owners.get? id) = st.owners.get? id) (n : String) :
        st.owners.get? n =
          if n ∈ [id] then settle st.openSerials (st.owners.get? n) else st.owners.get? n := by
      split
      · rename_i hn
        rw [List.mem_singleton.1 hn, hk]
      · rfl
    intro n
    unfold State.claim
    cases hs : st.scopes with
    | nil =>
      refine kept ?_ n
      unfold State.openSerials
      rw [hs]
      rfl
    | cons f fs =>
      have hopened : st.openSerials = f.value.serial :: fs.map (·.value.serial) := by
        unfold State.openSerials
        rw [hs]
        rfl
      cases ho : st.owners.get? id with
      | none =>
        refine taken f.value.serial ?_ n
        rw [ho, settle_none, hopened]
        rfl
      | some owner =>
        dsimp only
        split
        · rename_i howner
          refine kept ?_ n
          rw [ho, howner, settle_of_mem (by rw [hopened]; exact List.mem_cons_self), hopened]
          rfl
        · rename_i howner
          split
          · rename_i hany
            refine taken f.value.serial ?_ n
            have hmem : owner ∈ fs.map (·.value.serial) := by simpa using hany
            rw [ho, settle_of_mem (by rw [hopened]; exact List.mem_cons_of_mem _ hmem), hopened]
            rfl
          · rename_i hany
            refine kept ?_ n
            have hmem : owner ∉ fs.map (·.value.serial) := by simpa using hany
            rw [ho, settle_of_not_mem]
            rw [hopened]
            exact List.not_mem_cons_of_ne_of_not_mem howner hmem

theorem mention (st : State) (id : String) (shape : Shape) (line : Int) :
    Settles st [id] (st.mention id shape line) := by
  unfold State.mention
  exact behind (claim _ id) rfl rfl

theorem declare (st : State) (id label : String) (shape : Shape) (line : Int) :
    Settles st [id] (st.declare id label shape line) := by
  obtain ⟨nodes, reports, -, hd⟩ := st.declare_eq_claim id label shape line
  rw [hd]
  exact behind (claim _ id) rfl rfl

end Settles

namespace State

theorem owners_setDirection (st : State) (d : Direction) :
    (st.setDirection d).owners = st.owners := by
  unfold setDirection
  split <;> rfl

theorem owners_closeScope (st : State) : st.closeScope.owners = st.owners := by
  unfold closeScope
  split <;> rfl

theorem owners_closeOrReport (st : State) (family : Family) (l : Line) :
    (st.closeOrReport family l).owners = st.owners := by
  unfold closeOrReport
  split
  · rfl
  · exact owners_closeScope st

theorem owners_closeAll (st : State) (family : Family) :
    (st.closeAll family).owners = st.owners := by
  refine List.foldlRecOn (motive := fun st' : State => st'.owners = st.owners) st.scopes _ rfl ?_
  intro st' h f _
  exact (owners_closeScope _).trans h

end State

end ScopeGraph

open ScopeGraph (State SettlesOwners settlesOwners_nil Settles)

/-! ## Statements -/

namespace Flowchart

/-- The nodes that a statement names, in order. -/
def Statement.names : Statement → List String
  | .chain steps => steps.flatMap Step.mentions
  | _ => []

theorem settles_takeStep (l : Line) (st : State) (s : Step) :
    Settles st s.mentions (takeStep l st s) := by
  cases s with
  | mention m =>
    obtain ⟨id, form, className⟩ := m
    have hform : Settles st [id] (mention st l ⟨id, form, none⟩) := by
      cases form with
      | none => exact .mention st id .rectangle l.number
      | some form => exact .declare st id form.1 form.2 l.number
    cases className with
    | none => exact hform
    | some c => exact hform.trans (.of_eq rfl rfl)
  | join _ _ _ | unknownArrow _ _ | missingTarget | unrecognisedText _ _ | unrecognisedLine =>
    exact .of_eq rfl rfl

theorem settlesOwners_step (st : State) (l : Line) (s : Statement) :
    SettlesOwners st s.names (step st (l, s)) := by
  cases s with
  | directive d => exact settlesOwners_nil (st.sameGraph_applyDirective l d).owners
  | direction d => exact settlesOwners_nil (st.owners_setDirection d)
  | openSubgraph head => cases head <;> exact settlesOwners_nil rfl
  | close => exact settlesOwners_nil (st.owners_closeOrReport .flowchart l)
  | interaction => exact settlesOwners_nil rfl
  | chain steps => exact (Settles.foldl (settles_takeStep l) steps st).owners

end Flowchart

namespace StateChart

/-- The states that a statement names, in order, behind the given numbers of start and end
states. -/
def Statement.names (starts ends : Nat) : Statement → List String
  | .declare id _ _ | .mention id => [id]
  | .transition source target _ => [source.idAfter "start" starts, target.idAfter "end" ends]
  | _ => []

theorem settles_readSource (st : State) (l : Line) (e : Endpoint) :
    Settles st [e.idAfter "start" st.starts] (readSource st l e).1 := by
  cases e with
  | star => exact .behind (.declare _ _ _ _ _) rfl rfl
  | state id => exact .mention st id .rounded l.number

theorem settles_readTarget (st : State) (l : Line) (e : Endpoint) :
    Settles st [e.idAfter "end" st.ends] (readTarget st l e).1 := by
  cases e with
  | star => exact .behind (.declare _ _ _ _ _) rfl rfl
  | state id => exact .mention st id .rounded l.number

theorem settlesOwners_step (st : State) (l : Line) (s : Statement) :
    SettlesOwners st (s.names st.starts st.ends) (step st (l, s)) := by
  cases s with
  | directive d => exact settlesOwners_nil (st.sameGraph_applyDirective l d).owners
  | direction d => exact settlesOwners_nil (st.owners_setDirection d)
  | close => exact settlesOwners_nil (st.owners_closeOrReport .state l)
  | declare id label shape => exact (Settles.declare st id label shape l.number).owners
  | transition source target label =>
    obtain ⟨-, -, hends⟩ := enrols_readSource st l source
    have htarget := settles_readTarget (readSource st l source).1 l target
    rw [hends] at htarget
    exact ((settles_readSource st l source).trans htarget).owners
  | mention id => exact (Settles.mention st id .rounded l.number).owners
  | openComposite _ _ | separator | note _ | unrecognised => exact settlesOwners_nil rfl

end StateChart

end DiagramText
