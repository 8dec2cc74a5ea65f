import DiagramText.Flowchart.Parse
import DiagramText.Proofs.Faults
import DiagramText.Proofs.ScopeGraph.Moves

/-!
# Runs of the flowchart reader

Whatever the lines of a flowchart are, reading them makes moves only.

1. `Grounded`: in the steps of a chain, groups are joined only after all their nodes have been
   mentioned (`grounded_chain`).
2. `moves_takeSteps`: grounded steps are moves.  The ids that a chain has mentioned so far are the
   invariant: they are registered.
3. `Reachable`, the states that reading passes through, and `Reachable.moves`.
-/

namespace DiagramText.Flowchart

open Source (Line)
open ScopeGraph (State Moves SameGraph)

/-! ## Grounded steps -/

/-- Every join is between ids that are known or have been mentioned by then. -/
def Grounded : (known : List String) → List Step → Prop
  | _, [] => True
  | known, .mention m :: steps => Grounded (m.id :: known) steps
  | known, .join sources targets _ :: steps =>
    (∀ n ∈ sources, n ∈ known) ∧ (∀ n ∈ targets, n ∈ known) ∧ Grounded known steps
  | known, .unknownArrow _ _ :: steps => Grounded known steps
  | known, .missingTarget :: steps => Grounded known steps
  | known, .unrecognisedText _ _ :: steps => Grounded known steps
  | known, .unrecognisedLine :: steps => Grounded known steps

theorem Grounded.left {known : List String} {steps more : List Step}
    (h : Grounded known (steps ++ more)) : Grounded known steps := by
  induction steps generalizing known with
  | nil => exact trivial
  | cons s steps ih =>
    cases s with
    | mention m => exact ih (show Grounded (m.id :: known) _ from h)
    | join sources targets a => exact ⟨h.1, h.2.1, ih h.2.2⟩
    | unknownArrow token offset => exact ih (show Grounded known _ from h)
    | missingTarget => exact ih (show Grounded known _ from h)
    | unrecognisedText text offset => exact ih (show Grounded known _ from h)
    | unrecognisedLine => exact ih (show Grounded known _ from h)

theorem Grounded.mentions {known : List String} {ms : List Mention} {steps : List Step}
    (h : ∀ known', (∀ n ∈ known, n ∈ known') → (∀ n ∈ ms.map (·.id), n ∈ known') →
      Grounded known' steps) : Grounded known (ms.map .mention ++ steps) := by
  induction ms generalizing known with
  | nil => exact h known (fun n hn => hn) (fun n hn => by cases hn)
  | cons m ms ih =>
    show Grounded (m.id :: known) (ms.map .mention ++ steps)
    refine ih fun known' hknown hms => h known' ?_ ?_
    · exact fun n hn => hknown n (List.mem_cons_of_mem _ hn)
    · exact List.forall_mem_cons.2 ⟨hknown m.id List.mem_cons_self, hms⟩

theorem grounded_unknownSteps {known : List String} {steps : List Step} (h : Grounded known steps)
    (total remaining : Nat) (token : Option (List Char)) :
    Grounded known (unknownSteps total remaining token ++ steps) := by
  cases token with
  | none => exact h
  | some t => exact h

theorem grounded_links {known sources : List String} (total : Nat) (s : List Char)
    (h : ∀ n ∈ sources, n ∈ known) : Grounded known (links total sources s) := by
  fun_induction links total sources s generalizing known with
  | case1 => exact trivial
  | case2 => exact trivial
  | case3 sources s _ token arrow rest _ ih =>
    refine grounded_unknownSteps ?_ total s.length token
    split
    · exact trivial
    · rename_i ms u hg
      refine Grounded.mentions fun known' hknown hms => ?_
      exact ⟨fun n hn => hknown n (h n hn), hms, ih ms u hg hms⟩

/-- The steps of a line join only what the line has mentioned. -/
theorem grounded_chain (s : List Char) : Grounded [] (chain s) := by
  unfold chain
  split
  · exact trivial
  · rename_i ms u _
    exact Grounded.mentions fun known' _ hms => grounded_links _ _ hms

/-! ## Steps are moves -/

theorem moves_mention (st : State) (l : Line) (m : Mention) :
    Moves st (mention st l m) ∧ m.id ∈ (mention st l m).nodes.keys := by
  have hform : ∃ st', Moves st st' ∧ m.id ∈ st'.nodes.keys ∧
      SameGraph st' (mention st l m) := by
    unfold mention
    dsimp only
    cases m.form with
    | none =>
      refine ⟨_, .single (.mention st m.id .rectangle l.number), ?_, ?_⟩
      · exact State.mem_keys_mention.2 (.inr rfl)
      · cases m.className with
        | none => exact .refl _
        | some c => exact ⟨rfl, rfl, rfl, rfl, rfl, rfl⟩
    | some form =>
      refine ⟨_, .single (.declare st m.id form.1 form.2 l.number), ?_, ?_⟩
      · exact State.mem_keys_declare.2 (.inr rfl)
      · cases m.className with
        | none => exact .refl _
        | some c => exact ⟨rfl, rfl, rfl, rfl, rfl, rfl⟩
  obtain ⟨st', hmoves, hid, hsame⟩ := hform
  refine ⟨hmoves.trans hsame.moves, ?_⟩
  rw [hsame.nodes]
  exact hid

theorem mem_edges {line : Int} {sources targets : List String} {a : Arrow} {e : ScopeGraph.Edge}
    (h : e ∈ edges line sources targets a) : e.source ∈ sources ∧ e.target ∈ targets := by
  obtain ⟨s, hs, h⟩ := List.mem_flatMap.1 h
  obtain ⟨t, ht, rfl⟩ := List.mem_map.1 h
  exact ⟨hs, ht⟩

/-- Grounded steps are moves, as long as the known ids are registered. -/
theorem moves_takeSteps (l : Line) {known : List String} {steps : List Step} {st : State}
    (h : Grounded known steps) (hk : ∀ n ∈ known, n ∈ st.nodes.keys) :
    Moves st (steps.foldl (takeStep l) st) := by
  induction steps generalizing known st with
  | nil => exact .refl
  | cons s steps ih =>
    -- The steps that only report something.
    have aside (st' : State) (hg : Grounded known steps) (hs : SameGraph st st') :
        Moves st (steps.foldl (takeStep l) st') :=
      hs.moves.trans (ih hg fun n hn => by rw [hs.nodes]; exact hk n hn)
    cases s with
    | mention m =>
      obtain ⟨hmoves, hid⟩ := moves_mention st l m
      refine hmoves.trans (ih (show Grounded (m.id :: known) _ from h) ?_)
      exact List.forall_mem_cons.2 ⟨hid, fun n hn => hmoves.keys_subset n (hk n hn)⟩
    | join sources targets a =>
      obtain ⟨hsources, htargets, hsteps⟩ := h
      refine .head (.join st (edges l.number sources targets a) ?_) (ih hsteps hk)
      intro e he
      obtain ⟨hes, het⟩ := mem_edges he
      exact ⟨hk _ (hsources _ hes), hk _ (htargets _ het)⟩
    | unknownArrow token offset => exact aside _ h ⟨rfl, rfl, rfl, rfl, rfl, rfl⟩
    | missingTarget => exact aside _ h ⟨rfl, rfl, rfl, rfl, rfl, rfl⟩
    | unrecognisedText text offset => exact aside _ h ⟨rfl, rfl, rfl, rfl, rfl, rfl⟩
    | unrecognisedLine => exact aside _ h ⟨rfl, rfl, rfl, rfl, rfl, rfl⟩

theorem moves_openSubgraph (st : State) (l : Line) (head : SubgraphHead) :
    Moves st (openSubgraph st l head) := by
  cases head with
  | unnamed =>
    unfold openSubgraph
    refine .head (.aside ?_) (.single (.openScope ..))
    exact ⟨rfl, rfl, rfl, rfl, rfl, rfl⟩
  | named id label => exact .single (.openScope ..)
  | labelled label => exact .single (.openScope ..)

/-- A chain that is recognised on a line is the chain of its text. -/
theorem eq_chain_of_recognise {text : String} {steps : List Step}
    (h : Statement.recognise text = .ok (.chain steps)) : steps = chain text.toList := by
  unfold Statement.recognise at h
  obtain ⟨d, -, h⟩ := bind_eq_ok_iff.1 h
  cases d with
  | some d => cases h
  | none =>
    have hp : Statement.plain text.toList = .chain steps := Except.ok.inj h
    unfold Statement.plain at hp
    split at hp
    · cases hp
    · split at hp
      · cases hp
      · split at hp
        · cases hp
        · split at hp
          · cases hp
          · exact (Statement.chain.inj hp).symm

theorem moves_step {st : State} {l : Line} {s : Statement}
    (hs : Statement.recognise l.text = .ok s) : Moves st (step st (l, s)) := by
  cases s with
  | directive d => exact (st.sameGraph_applyDirective l d).moves
  | direction d => exact .single (.setDirection st d)
  | openSubgraph head => exact moves_openSubgraph st l head
  | close => exact st.moves_closeOrReport .flowchart l
  | interaction => exact SameGraph.moves ⟨rfl, rfl, rfl, rfl, rfl, rfl⟩
  | chain steps =>
    rw [eq_chain_of_recognise hs]
    exact moves_takeSteps l (grounded_chain _) fun n hn => by cases hn

/-! ## Reachable states -/

/-- The states that reading a flowchart passes through: behind the header, behind every line, behind
every step of a chain, and while the scopes left open are closed. -/
inductive Reachable : State → Prop
  | start (ls : List Line) (defaultDirection : String) : Reachable (start ls defaultDirection)
  | step {st : State} {l : Line} {s : Statement} (h : Reachable st)
      (hs : Statement.recognise l.text = .ok s) : Reachable (step st (l, s))
  | within {st : State} {l : Line} {steps more : List Step} (h : Reachable st)
      (hs : Statement.recognise l.text = .ok (.chain (steps ++ more))) :
      Reachable (steps.foldl (takeStep l) st)
  | unwind {st : State} (f : Frame ScopeGraph.Scope) (h : Reachable st) :
      Reachable (State.closeUnclosed .flowchart st f)

theorem sameGraph_start (ls : List Line) (defaultDirection : String) :
    SameGraph { direction := defaultDirection } (start ls defaultDirection) := by
  unfold start
  cases ls with
  | nil => exact .refl _
  | cons l ls =>
    dsimp only
    unfold readHeader
    split
    · exact ⟨rfl, rfl, rfl, rfl, rfl, rfl⟩
    · exact .refl _
    · split
      · exact ⟨rfl, rfl, rfl, rfl, rfl, rfl⟩
      · exact ⟨rfl, rfl, rfl, rfl, rfl, rfl⟩

/-- Every reachable state is reached by moves from an empty graph. -/
theorem Reachable.moves {st : State} (h : Reachable st) : ∃ direction, Moves { direction } st := by
  induction h with
  | start ls defaultDirection => exact ⟨_, (sameGraph_start ls defaultDirection).moves⟩
  | step _ hs ih =>
    obtain ⟨direction, hmoves⟩ := ih
    exact ⟨direction, hmoves.trans (moves_step hs)⟩
  | within _ hs ih =>
    obtain ⟨direction, hmoves⟩ := ih
    have hg := eq_chain_of_recognise hs ▸ grounded_chain _
    exact ⟨direction, hmoves.trans (moves_takeSteps _ hg.left fun n hn => by cases hn)⟩
  | unwind f _ ih =>
    obtain ⟨direction, hmoves⟩ := ih
    exact ⟨direction, hmoves.trans (State.moves_closeUnclosed .flowchart _ f)⟩

theorem Reachable.foldl_step {st : State} {ls : List Line} {xs : List (Line × Statement)}
    (h : Reachable st)
    (hx : List.Forall₂ (fun l x => l = x.1 ∧ Statement.recognise l.text = .ok x.2) ls xs) :
    Reachable (xs.foldl Flowchart.step st) := by
  induction hx generalizing st with
  | nil => exact h
  | cons hl _ ih =>
    obtain ⟨rfl, hs⟩ := hl
    exact ih (h.step hs)

theorem Reachable.closeAll {st : State} (h : Reachable st) :
    Reachable (st.closeAll .flowchart) := by
  refine List.foldlRecOn st.scopes _ h ?_
  intro st' h' f _
  exact h'.unwind f

/-- A flowchart that has been read is the graph of a reachable state without open scopes. -/
theorem exists_reachable_of_parse {ls : List Line} {direction : String}
    {p : Parsed ScopeGraph.Graph} (h : parse ls direction = .ok p) :
    ∃ st, Reachable st ∧ st.scopes = [] ∧ p.diagram.nodes = st.nodes ∧
      p.diagram.edges = st.edges ∧ p.diagram.subgraphs = st.finished := by
  obtain ⟨xs, hx, h⟩ := bind_eq_ok_iff.1 h
  cases h
  have hr := (Reachable.start ls direction).foldl_step (readLines_eq_ok_iff.1 hx)
  exact ⟨_, hr.closeAll, State.scopes_closeAll _ .flowchart, rfl, rfl, rfl⟩

end DiagramText.Flowchart
