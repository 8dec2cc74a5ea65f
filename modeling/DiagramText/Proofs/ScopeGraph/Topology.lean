import DiagramText.Proofs.ScopeGraph.Columns
import DiagramText.Proofs.ScopeGraph.DirectiveLines

/-!
# Topology

Nodes, edges, scopes and directions are the topology of a graph.  What is done to it never depends
on the styles, on the places where styles are given or on the reports, and a style directive does
nothing to it.  So directives may be left out of a run without a change of the topology.

1. `State.topology` forgets everything else.
2. `Topological`: an operation whose effect on the topology depends on the topology alone, and that
   gives no styles to targets.  All operations but the directives are topological.
3. `ObeysDirectives.topology_foldl`: a run with directives and one without.
-/

namespace DiagramText.ScopeGraph

open Source (Line)

/-- Whether a problem is with the target of a style, which is found out at the end only. -/
def Problem.isLate : Problem → Bool
  | .undeclaredTarget _ | .linkRange _ _ => true
  | _ => false

/-- A report on something else than the target of a style. -/
def Early (r : Report Problem) : Prop := r.problem.isLate = false

theorem adds_early {rs : List (Report Problem)} {r : Report Problem}
    (h : r.problem.isLate = false) : Adds Early rs (rs ++ [r]) :=
  Adds.append (List.forall_mem_singleton.2 h)

namespace State

/-- A state without its styles, the lines where they are given, and the reports. -/
def topology (st : State) : State :=
  { st with styles := {}, targetLines := {}, linkLines := {}, reports := [] }

end State

/-- An operation that treats the topology alike whatever else the state holds, and that refers to no
target of a style. -/
structure Topological (f : State → State) : Prop where
  topology : ∀ st, (f st).topology = (f st.topology).topology
  targetLines : ∀ st, (f st).targetLines = st.targetLines
  linkLines : ∀ st, (f st).linkLines = st.linkLines
  reports : ∀ st, Adds Early st.reports (f st).reports

namespace Topological

theorem id : Topological fun st => st :=
  ⟨fun _ => rfl, fun _ => rfl, fun _ => rfl, fun _ => .refl _⟩

theorem comp {f g : State → State} (hg : Topological g) (hf : Topological f) :
    Topological fun st => g (f st) where
  topology st := by rw [hg.topology, hf.topology, ← hg.topology]
  targetLines st := by rw [hg.targetLines, hf.targetLines]
  linkLines st := by rw [hg.linkLines, hf.linkLines]
  reports st := (hf.reports st).trans (hg.reports (f st))

theorem foldl {α : Type} {f : State → α → State} (hf : ∀ a, Topological (f · a)) (as : List α) :
    Topological fun st => as.foldl f st := by
  induction as with
  | nil => exact id
  | cons a as ih => exact ih.comp (hf a)

/-- An operation on the topology that passes everything else on. -/
theorem of_frame {f : State → State}
    (h : ∀ st, f st = { f st.topology with
      styles := st.styles, targetLines := st.targetLines, linkLines := st.linkLines,
      reports := st.reports }) : Topological f where
  topology st := by
    rw [h st]
    rfl
  targetLines st := by rw [h st]
  linkLines st := by rw [h st]
  reports st := by
    rw [h st]
    exact .refl _

/-- An operation may choose what to do, as long as the choice depends on the topology. -/
theorem of_choice {f : State → State}
    (h : ∀ st, ∃ g, Topological g ∧ f st = g st ∧ f st.topology = g st.topology) :
    Topological f where
  topology st := by
    obtain ⟨g, hg, hst, htopology⟩ := h st
    rw [hst, htopology]
    exact hg.topology st
  targetLines st := by
    obtain ⟨g, hg, hst, -⟩ := h st
    rw [hst]
    exact hg.targetLines st
  linkLines st := by
    obtain ⟨g, hg, hst, -⟩ := h st
    rw [hst]
    exact hg.linkLines st
  reports st := by
    obtain ⟨g, hg, hst, -⟩ := h st
    rw [hst]
    exact hg.reports st

/-! ## Operations of both families -/

theorem addReport (r : Report Problem) (h : r.problem.isLate = false) :
    Topological fun st => { st with reports := st.reports ++ [r] } :=
  ⟨fun _ => rfl, fun _ => rfl, fun _ => rfl, fun _ => adds_early h⟩

theorem openScope (l : Line) (id label : String) : Topological (·.openScope l id label) :=
  of_frame fun _ => rfl

theorem addEdges (es : List Edge) : Topological fun st => { st with edges := st.edges ++ es } :=
  of_frame fun _ => rfl

theorem closeScope : Topological State.closeScope := by
  refine of_frame fun st => ?_
  have hscopes : st.topology.scopes = st.scopes := rfl
  unfold State.closeScope
  rw [hscopes]
  rcases st.scopes with _ | ⟨f, _ | ⟨g, fs⟩⟩ <;> rfl

theorem closeOrReport (family : Family) (l : Line) : Topological (·.closeOrReport family l) := by
  refine of_choice fun st => ?_
  have hscopes : st.topology.scopes = st.scopes := rfl
  unfold State.closeOrReport
  rw [hscopes]
  cases st.scopes.isEmpty with
  | true => exact ⟨_, addReport (l.report (.strayClose family)) rfl, rfl, rfl⟩
  | false => exact ⟨_, closeScope, rfl, rfl⟩

theorem setDirection (d : Direction) : Topological (·.setDirection d) := by
  refine of_frame fun st => ?_
  unfold State.setDirection
  rcases h : st.scopes with _ | ⟨f, fs⟩ <;> simp only [State.topology, h]

theorem claim (id : String) : Topological (·.claim id) := by
  refine of_frame fun st => ?_
  have hscopes : st.topology.scopes = st.scopes := rfl
  have howners : st.topology.owners = st.owners := rfl
  unfold State.claim
  rw [hscopes, howners]
  rcases st.scopes with _ | ⟨f, fs⟩
  · rfl
  · cases st.owners.get? id with
    | none => rfl
    | some k =>
      dsimp only
      by_cases hk : k = f.value.serial
      · rw [if_pos hk, if_pos hk]
        rfl
      · rw [if_neg hk, if_neg hk]
        cases fs.any fun g => g.value.serial == k with
        | false => rfl
        | true => rfl

theorem mention (id : String) (shape : Shape) (line : Int) :
    Topological (·.mention id shape line) :=
  (claim id).comp (f := fun st => { st with nodes := Registry.ensure st.nodes id _ })
    (of_frame fun _ => rfl)

theorem declare (id label : String) (shape : Shape) (line : Int) :
    Topological (·.declare id label shape line) := by
  refine (claim id).comp (f := fun st => _) (of_choice fun st => ?_)
  have hnodes : st.topology.nodes = st.nodes := rfl
  dsimp only
  rw [hnodes]
  cases st.nodes.get? id with
  | none =>
    exact ⟨fun st => { st with nodes := st.nodes.insert id _ }, of_frame fun _ => rfl, rfl, rfl⟩
  | some n =>
    dsimp only
    by_cases hi : n.implicit
    · rw [if_pos hi, if_pos hi]
      exact ⟨fun st => { st with nodes := st.nodes.modify id _ }, of_frame fun _ => rfl, rfl, rfl⟩
    · rw [if_neg hi, if_neg hi]
      by_cases hd : n.label = label ∧ n.shape = shape
      · rw [if_pos hd, if_pos hd]
        exact ⟨_, Topological.id, rfl, rfl⟩
      · rw [if_neg hd, if_neg hd]
        exact ⟨_, addReport ⟨.redeclared id n.line, line, none⟩ rfl, rfl, rfl⟩

theorem assignClass (id className : String) : Topological (·.assignClass id className) :=
  ⟨fun _ => rfl, fun _ => rfl, fun _ => rfl, fun _ => .refl _⟩

theorem closeUnclosed (family : Family) (f : Frame Scope) :
    Topological (State.closeUnclosed family · f) :=
  closeScope.comp (addReport ⟨.unclosed family f.value.id, f.value.line, none⟩ rfl)

theorem closeAll (family : Family) : Topological (·.closeAll family) :=
  of_choice fun st => ⟨_, foldl (closeUnclosed family) st.scopes, rfl, rfl⟩

end Topological

/-! ## Directives -/

namespace State

/-- A loop keeps what every round of it keeps. -/
theorem foldl_keeps {α β : Type} (part : State → β) {f : State → α → State}
    (hf : ∀ st a, part (f st a) = part st) (as : List α) (st : State) :
    part (as.foldl f st) = part st := by
  induction as generalizing st with
  | nil => rfl
  | cons a as ih => rw [List.foldl_cons, ih, hf]

theorem topology_noteLink (st : State) (l : Line) (t : LinkTarget) :
    (st.noteLink l t).topology = st.topology := by
  cases t with
  | default => rfl
  | index n =>
    unfold noteLink
    dsimp only
    split <;> rfl

/-- A directive does nothing to the topology. -/
theorem topology_applyDirective (st : State) (l : Line) (d : Directive) :
    (st.applyDirective l d).topology = st.topology := by
  cases d with
  | classDef names properties =>
    have hreport : (if properties.entries.isEmpty then st.report l .emptyClassDef else
        st).topology = st.topology := by
      split <;> rfl
    rw [← hreport]
    apply foldl_keeps topology
    intro st name
    rfl
  | assign ids className =>
    apply foldl_keeps topology
    intro st id
    rfl
  | style ids properties =>
    apply foldl_keeps topology
    intro st id
    rfl
  | linkStyle targets properties =>
    apply foldl_keeps topology
    intro st t
    rw [topology_noteLink]
    rfl
  | malformed => rfl

end State

/-! ## Runs -/

section

variable {σ : Type} {read : String → Except Fault σ} {step : State → Line × σ → State}
  {directive? : σ → Option Directive}

/-- Statements that are no directives build the same topology with directives among them. -/
theorem ObeysDirectives.topology_foldl (h : ObeysDirectives read step directive?)
    (hplain : ∀ x, directive? x.2 = none → Topological (step · x)) (xs : List (Line × σ))
    {st st' : State} (hst : st.topology = st'.topology) :
    (xs.foldl step st).topology =
      ((xs.filter fun x => (directive? x.2).isNone).foldl step st').topology := by
  induction xs generalizing st st' with
  | nil => exact hst
  | cons x xs ih =>
    obtain ⟨l, s⟩ := x
    rw [List.foldl_cons]
    cases hs : directive? s with
    | some d =>
      rw [List.filter_cons_of_neg (by simp [hs]), h.step hs]
      exact ih ((st.topology_applyDirective l d).trans hst)
    | none =>
      rw [List.filter_cons_of_pos (by simp [hs]), List.foldl_cons]
      refine ih ?_
      rw [(hplain (l, s) hs).topology st, hst, ← (hplain (l, s) hs).topology st']

/-- The lines that are no directives have the statements that are none. -/
theorem ObeysDirectives.readLines_filter (h : ObeysDirectives read step directive?)
    {ls : List Line} {xs : List (Line × σ)} (hxs : readLines read ls = .ok xs) :
    readLines read (ls.filter (!isDirective ·)) =
      .ok (xs.filter fun x => (directive? x.2).isNone) := by
  refine readLines_eq_ok_iff.2 ?_
  induction readLines_eq_ok_iff.1 hxs with
  | nil => exact .nil
  | @cons l x ls xs hx hrest ih =>
    obtain ⟨rfl, hs⟩ := hx
    have hsame : (!isDirective x.1) = (directive? x.2).isNone := by
      rw [h.isDirective_eq hs]
      cases directive? x.2 <;> rfl
    rw [List.filter_cons, List.filter_cons, hsame]
    split
    · exact .cons ⟨rfl, hs⟩ (ih (readLines_eq_ok_iff.2 hrest))
    · exact ih (readLines_eq_ok_iff.2 hrest)

end

end DiagramText.ScopeGraph

namespace DiagramText

open Source (Line)
open ScopeGraph (State Topological)

/-! ## The two families -/

namespace Flowchart

theorem topological_mention (l : Line) (m : Mention) : Topological (mention · l m) := by
  obtain ⟨id, form, className⟩ := m
  have hform : Topological (mention · l ⟨id, form, none⟩) := by
    cases form with
    | none => exact .mention id .rectangle l.number
    | some form => exact .declare id form.1 form.2 l.number
  cases className with
  | none => exact hform
  | some c => exact (Topological.assignClass id c).comp hform

theorem topological_takeStep (l : Line) (s : Step) : Topological (takeStep l · s) := by
  cases s with
  | mention m => exact topological_mention l m
  | join sources targets a => exact .addEdges _
  | unknownArrow token offset => exact .addReport _ rfl
  | missingTarget => exact .addReport _ rfl
  | unrecognisedText text offset => exact .addReport _ rfl
  | unrecognisedLine => exact .addReport _ rfl

theorem topological_openSubgraph (l : Line) (head : SubgraphHead) :
    Topological (openSubgraph · l head) := by
  cases head with
  | unnamed => exact ⟨fun _ => rfl, fun _ => rfl, fun _ => rfl, fun _ => ScopeGraph.adds_early rfl⟩
  | named id label => exact .openScope l id label
  | labelled label => exact ⟨fun _ => rfl, fun _ => rfl, fun _ => rfl, fun _ => .refl _⟩

theorem topological_step (x : Line × Statement) (h : x.2.directive? = none) :
    Topological (step · x) := by
  obtain ⟨l, s⟩ := x
  cases s with
  | directive d => cases h
  | direction d => exact .setDirection d
  | openSubgraph head => exact topological_openSubgraph l head
  | close => exact .closeOrReport .flowchart l
  | interaction => exact .addReport _ rfl
  | chain steps => exact .foldl (topological_takeStep l) steps

end Flowchart

namespace StateChart

theorem topological_readSource (l : Line) (e : Endpoint) :
    Topological fun st => (readSource st l e).1 := by
  cases e with
  | state id => exact .mention id .rounded l.number
  | star =>
    refine .of_choice fun st => ⟨fun st' => State.declare { st' with starts := st'.starts + 1 }
      (starName "start" (st.starts + 1)) "" .stateStart l.number, ?_, rfl, rfl⟩
    exact (Topological.declare _ "" .stateStart l.number).comp (.of_frame fun _ => rfl)

theorem topological_readTarget (l : Line) (e : Endpoint) :
    Topological fun st => (readTarget st l e).1 := by
  cases e with
  | state id => exact .mention id .rounded l.number
  | star =>
    refine .of_choice fun st => ⟨fun st' => State.declare { st' with ends := st'.ends + 1 }
      (starName "end" (st.ends + 1)) "" .stateEnd l.number, ?_, rfl, rfl⟩
    exact (Topological.declare _ "" .stateEnd l.number).comp (.of_frame fun _ => rfl)

/-- The name of a target depends on the topology, which counts the end states. -/
theorem name_readTarget {st st' : State} (h : st.topology = st'.topology) (l : Line)
    (e : Endpoint) : (readTarget st l e).2 = (readTarget st' l e).2 := by
  cases e with
  | state id => rfl
  | star =>
    have hends : st.topology.ends = st'.topology.ends := congrArg State.ends h
    exact congrArg (fun n => starName "end" (n + 1)) hends

theorem topological_addTransition (l : Line) (source target : Endpoint) (label : Option String) :
    Topological (addTransition · l source target label) := by
  have hends := (topological_readTarget l target).comp (topological_readSource l source)
  refine .of_choice fun st => ⟨_, (Topological.addEdges [_]).comp hends, rfl, ?_⟩
  have hsource : (readSource st.topology l source).2 = (readSource st l source).2 := by
    cases source <;> rfl
  have htarget := name_readTarget ((topological_readSource l source).topology st) l target
  unfold addTransition
  dsimp only
  rw [hsource, ← htarget]
  rfl

theorem topological_step (x : Line × Statement) (h : x.2.directive? = none) :
    Topological (step · x) := by
  obtain ⟨l, s⟩ := x
  cases s with
  | directive d => cases h
  | direction d => exact .setDirection d
  | openComposite id label => exact .openScope l id label
  | close => exact .closeOrReport .state l
  | separator => exact .id
  | note kind => exact .id
  | declare id label shape => exact .declare id label shape l.number
  | transition source target label => exact topological_addTransition l source target label
  | mention id => exact .mention id .rounded l.number
  | unrecognised => exact .addReport _ rfl

end StateChart

end DiagramText
