import DiagramText.Proofs.Flowchart.Run
import DiagramText.Proofs.Roster
import DiagramText.Proofs.StateChart.Run

/-!
# The nodes of a graph in order of first mention

1. A mention or a declaration of a node enrols its id and nothing else.
2. `Flowchart.mentions`: a flowchart mentions the nodes of its chains.
3. `StateChart.mentions`: a state diagram mentions what it declares and the ends of transitions.  A
   star has no id of its own; it is named by the number of stars in its place before it.
-/

namespace DiagramText

open Source (Line)

namespace ScopeGraph

/-- Mentioning ids takes the nodes of one state to those of another one. -/
abbrev EnrolsNodes (st : State) (ids : List String) (st' : State) : Prop :=
  Registry.Enrols Node.id Node.declaredOrder st.nodes ids st'.nodes

theorem enrols_of_eq {st st' : State} (h : st'.nodes = st.nodes) : EnrolsNodes st [] st' := by
  unfold EnrolsNodes
  rw [h]
  exact .refl _

namespace State

theorem enrols_mention (st : State) (id : String) (shape : Shape) (line : Int) :
    EnrolsNodes st [id] (st.mention id shape line) := by
  unfold mention EnrolsNodes
  rw [nodes_claim]
  exact .ensure st.nodes (fun _ => rfl) (fun _ => rfl)

theorem enrols_declare (st : State) (id label : String) (shape : Shape) (line : Int) :
    EnrolsNodes st [id] (st.declare id label shape line) := by
  unfold declare EnrolsNodes
  rw [nodes_claim]
  cases h : st.nodes.get? id with
  | none =>
    refine ⟨OrderedMap.keys_insert st.nodes id _, fun hr => ?_⟩
    exact hr.insert h rfl rfl
  | some n =>
    -- A known id enrols nothing new, whether or not the node is changed.
    have hknown : addAllNew st.nodes.keys [id] = st.nodes.keys := by
      have hid : id ∈ st.nodes.keys := OrderedMap.mem_keys_iff.2 ⟨n, h⟩
      show addNew st.nodes.keys id = st.nodes.keys
      unfold addNew
      rw [if_pos (by simpa using hid)]
    dsimp only
    split
    · refine ⟨?_, fun hr => hr.modify id (fun _ => rfl) (fun _ => rfl)⟩
      rw [OrderedMap.keys_modify, hknown]
    · split
      · exact ⟨hknown.symm, fun hr => hr⟩
      · exact ⟨hknown.symm, fun hr => hr⟩

theorem nodes_setDirection (st : State) (d : Direction) :
    (st.setDirection d).nodes = st.nodes := by
  unfold setDirection
  split <;> rfl

theorem nodes_closeScope (st : State) : st.closeScope.nodes = st.nodes := by
  unfold closeScope
  split <;> rfl

theorem nodes_closeOrReport (st : State) (family : Family) (l : Line) :
    (st.closeOrReport family l).nodes = st.nodes := by
  unfold closeOrReport
  split
  · rfl
  · exact nodes_closeScope st

theorem nodes_closeAll (st : State) (family : Family) : (st.closeAll family).nodes = st.nodes := by
  refine List.foldlRecOn (motive := fun st' : State => st'.nodes = st.nodes) st.scopes _ rfl ?_
  intro st' h f _
  exact (nodes_closeScope _).trans h

end State

/-- Two states that have numbered as many subgraphs, start states and end states. -/
structure SameCounters (st st' : State) : Prop where
  unnamed : st'.unnamed = st.unnamed
  starts : st'.starts = st.starts
  ends : st'.ends = st.ends

namespace SameCounters

theorem refl (st : State) : SameCounters st st := ⟨rfl, rfl, rfl⟩

theorem trans {st st' st'' : State} (h : SameCounters st st') (h' : SameCounters st' st'') :
    SameCounters st st'' :=
  ⟨h'.unnamed.trans h.unnamed, h'.starts.trans h.starts, h'.ends.trans h.ends⟩

theorem foldl {α : Type} {f : State → α → State} (hf : ∀ st a, SameCounters st (f st a))
    (as : List α) (st : State) : SameCounters st (as.foldl f st) := by
  refine List.foldlRecOn as f (refl st) ?_
  intro st' h a _
  exact h.trans (hf st' a)

theorem claim (st : State) (id : String) : SameCounters st (st.claim id) := by
  obtain h | ⟨f, fs, rest, -, -, h⟩ := st.claim_cases id <;> rw [h] <;> exact ⟨rfl, rfl, rfl⟩

theorem mention (st : State) (id : String) (shape : Shape) (line : Int) :
    SameCounters st (st.mention id shape line) := by
  unfold State.mention
  refine trans ?_ (claim _ id)
  exact ⟨rfl, rfl, rfl⟩

theorem declare (st : State) (id label : String) (shape : Shape) (line : Int) :
    SameCounters st (st.declare id label shape line) := by
  obtain ⟨nodes, reports, -, h⟩ := st.declare_eq_claim id label shape line
  rw [h]
  refine trans ?_ (claim _ id)
  exact ⟨rfl, rfl, rfl⟩

theorem applyDirective (st : State) (l : Line) (d : Directive) :
    SameCounters st (st.applyDirective l d) := by
  cases d with
  | classDef names properties =>
    have hreport : SameCounters st
        (if properties.entries.isEmpty then st.report l .emptyClassDef else st) := by
      split <;> exact ⟨rfl, rfl, rfl⟩
    refine hreport.trans (foldl ?_ names _)
    intro st name
    exact ⟨rfl, rfl, rfl⟩
  | assign ids className =>
    refine foldl ?_ ids st
    intro st id
    exact ⟨rfl, rfl, rfl⟩
  | style ids properties =>
    refine foldl ?_ ids st
    intro st id
    exact ⟨rfl, rfl, rfl⟩
  | linkStyle targets properties =>
    refine foldl ?_ targets st
    intro st t
    cases t with
    | default => exact ⟨rfl, rfl, rfl⟩
    | index n =>
      dsimp only [State.noteLink]
      split <;> exact ⟨rfl, rfl, rfl⟩
  | malformed => exact ⟨rfl, rfl, rfl⟩

theorem setDirection (st : State) (d : Direction) : SameCounters st (st.setDirection d) := by
  unfold State.setDirection
  split <;> exact ⟨rfl, rfl, rfl⟩

theorem closeOrReport (st : State) (family : Family) (l : Line) :
    SameCounters st (st.closeOrReport family l) := by
  unfold State.closeOrReport State.closeScope
  split
  · exact ⟨rfl, rfl, rfl⟩
  · split <;> exact ⟨rfl, rfl, rfl⟩

end SameCounters

/-- The nodes of a graph, as id and number, in the order in which they are listed. -/
def Graph.roster (g : Graph) : List (String × Nat) :=
  g.nodes.values.map fun n => (n.id, n.declaredOrder)

/-- A run from an empty graph to the end lists what it mentions. -/
theorem dense_of_enrols {direction : String} {st : State} {ids : List String} (family : Family)
    (h : EnrolsNodes { direction } ids st) :
    Registry.Dense Node.id Node.declaredOrder (st.finish family).diagram.nodes ∧
      (st.finish family).diagram.nodes.keys = addAllNew [] ids := by
  have hnodes : (st.finish family).diagram.nodes = st.nodes := State.nodes_closeAll st family
  rw [hnodes]
  exact ⟨h.dense .empty, h.keys⟩

end ScopeGraph

open ScopeGraph (State EnrolsNodes SameCounters enrols_of_eq)

/-! ## Flowcharts -/

namespace Flowchart

/-- The nodes that a step of a chain mentions. -/
def Step.mentions : Step → List String
  | .mention m => [m.id]
  | _ => []

/-- The nodes that a line mentions, in order. -/
def lineMentions (l : Line) : List String :=
  match Statement.recognise l.text with
  | .ok (.chain steps) => steps.flatMap Step.mentions
  | _ => []

/-- The nodes that the lines below the header mention, in order. -/
def mentions (ls : List Line) : List String := ls.tail.flatMap lineMentions

theorem enrols_takeStep (l : Line) (st : State) (s : Step) :
    EnrolsNodes st s.mentions (takeStep l st s) := by
  cases s with
  | mention m =>
    obtain ⟨id, form, className⟩ := m
    have hform : EnrolsNodes st [id] (mention st l ⟨id, form, none⟩) := by
      cases form with
      | none => exact st.enrols_mention id .rectangle l.number
      | some form => exact st.enrols_declare id form.1 form.2 l.number
    cases className with
    | none => exact hform
    | some c => exact hform
  | join sources targets a => exact .refl _
  | unknownArrow token offset => exact .refl _
  | missingTarget => exact .refl _
  | unrecognisedText text offset => exact .refl _
  | unrecognisedLine => exact .refl _

theorem enrols_openSubgraph (st : State) (l : Line) (head : SubgraphHead) :
    EnrolsNodes st [] (openSubgraph st l head) := by
  cases head <;> exact .refl _

theorem enrols_step (st : State) {l : Line} {s : Statement}
    (hs : Statement.recognise l.text = .ok s) : EnrolsNodes st (lineMentions l) (step st (l, s)) := by
  unfold lineMentions
  rw [hs]
  cases s with
  | directive d => exact enrols_of_eq (st.sameGraph_applyDirective l d).nodes
  | direction d => exact enrols_of_eq (st.nodes_setDirection d)
  | openSubgraph head => exact enrols_openSubgraph st l head
  | close => exact enrols_of_eq (st.nodes_closeOrReport .flowchart l)
  | interaction => exact .refl _
  | chain steps => exact Registry.Enrols.foldl (enrols_takeStep l) steps st

theorem enrols_foldl_step (st : State) {ls : List Line} {xs : List (Line × Statement)}
    (hx : List.Forall₂ (fun l x => l = x.1 ∧ Statement.recognise l.text = .ok x.2) ls xs) :
    EnrolsNodes st (ls.flatMap lineMentions) (xs.foldl step st) := by
  induction hx generalizing st with
  | nil => exact .refl _
  | @cons l x ls xs hl _ ih =>
    obtain ⟨rfl, hs⟩ := hl
    rw [List.flatMap_cons]
    exact (enrols_step st hs).trans (ih _)

theorem dense_of_parse {ls : List Line} {direction : String} {p : Parsed ScopeGraph.Graph}
    (h : parse ls direction = .ok p) :
    Registry.Dense ScopeGraph.Node.id ScopeGraph.Node.declaredOrder p.diagram.nodes ∧
      p.diagram.nodes.keys = addAllNew [] (mentions ls) := by
  obtain ⟨xs, hx, h⟩ := bind_eq_ok_iff.1 h
  cases h
  have hstart : EnrolsNodes { direction } [] (start ls direction) :=
    enrols_of_eq (sameGraph_start ls direction).nodes
  have hrun := hstart.trans (enrols_foldl_step _ (readLines_eq_ok_iff.1 hx))
  exact ScopeGraph.dense_of_enrols .flowchart hrun

theorem mentions_prefix {ls ls' : List Line} (h : ls <+: ls') : mentions ls <+: mentions ls' := by
  obtain ⟨more, rfl⟩ := h
  unfold mentions
  cases ls with
  | nil => exact List.nil_prefix
  | cons l ls => exact (List.prefix_append ls more).flatMap _

end Flowchart

/-! ## State diagrams -/

namespace StateChart

/-- The number of stars at an end of a transition. -/
def Endpoint.stars : Endpoint → Nat
  | .star => 1
  | .state _ => 0

/-- The id of an end of a transition behind `count` stars in its place. -/
def Endpoint.idAfter (role : String) (count : Nat) : Endpoint → String
  | .star => starName role (count + 1)
  | .state id => id

/-- The states that lines mention, in order, behind the given numbers of start and end states. -/
def mentionsFrom : (starts ends : Nat) → List Line → List String
  | _, _, [] => []
  | starts, ends, l :: ls =>
    match Statement.recognise l.text with
    | .ok (.declare id _ _) => id :: mentionsFrom starts ends ls
    | .ok (.mention id) => id :: mentionsFrom starts ends ls
    | .ok (.transition source target _) =>
      source.idAfter "start" starts :: target.idAfter "end" ends ::
        mentionsFrom (starts + source.stars) (ends + target.stars) ls
    | _ => mentionsFrom starts ends ls

/-- The states that the lines below the header mention, in order; those of a note block mention
none. -/
def mentions (ls : List Line) : List String := mentionsFrom 0 0 (outsideNotes false ls.tail).1

/-- Two states with the same numbers of start and end states. -/
def SameStars (st st' : State) : Prop := st'.starts = st.starts ∧ st'.ends = st.ends

theorem sameStars_of_sameCounters {st st' : State} (h : ScopeGraph.SameCounters st st') :
    SameStars st st' := ⟨h.starts, h.ends⟩

theorem enrols_readSource (st : State) (l : Line) (e : Endpoint) :
    EnrolsNodes st [e.idAfter "start" st.starts] (readSource st l e).1 ∧
      (readSource st l e).1.starts = st.starts + e.stars ∧
      (readSource st l e).1.ends = st.ends := by
  cases e with
  | star =>
    obtain ⟨-, hstarts, hends⟩ := SameCounters.declare { st with starts := st.starts + 1 }
      (starName "start" (st.starts + 1)) "" .stateStart l.number
    exact ⟨State.enrols_declare { st with starts := st.starts + 1 } .., hstarts, hends⟩
  | state id =>
    obtain ⟨-, hstarts, hends⟩ := SameCounters.mention st id .rounded l.number
    exact ⟨st.enrols_mention .., hstarts, hends⟩

theorem enrols_readTarget (st : State) (l : Line) (e : Endpoint) :
    EnrolsNodes st [e.idAfter "end" st.ends] (readTarget st l e).1 ∧
      (readTarget st l e).1.starts = st.starts ∧
      (readTarget st l e).1.ends = st.ends + e.stars := by
  cases e with
  | star =>
    obtain ⟨-, hstarts, hends⟩ := SameCounters.declare { st with ends := st.ends + 1 }
      (starName "end" (st.ends + 1)) "" .stateEnd l.number
    exact ⟨State.enrols_declare { st with ends := st.ends + 1 } .., hstarts, hends⟩
  | state id =>
    obtain ⟨-, hstarts, hends⟩ := SameCounters.mention st id .rounded l.number
    exact ⟨st.enrols_mention .., hstarts, hends⟩

/-- A run enrols what its lines mention, if the stars are counted from where the run starts. -/
theorem enrols_foldl_step (st : State) {ls : List Line} {xs : List (Line × Statement)}
    (hx : List.Forall₂ (fun l x => l = x.1 ∧ Statement.recognise l.text = .ok x.2) ls xs) :
    EnrolsNodes st (mentionsFrom st.starts st.ends ls) (xs.foldl step st) := by
  induction hx generalizing st with
  | nil => exact .refl _
  | @cons l x ls xs hl _ ih =>
    obtain ⟨l, s⟩ := x
    obtain ⟨rfl, hs⟩ := hl
    -- Most statements leave both the nodes and the stars alone, or enrol one id.
    have plain (ids : List String) (henrols : EnrolsNodes st ids (step st (l, s)))
        (hstars : SameStars st (step st (l, s))) :
        EnrolsNodes st (ids ++ mentionsFrom st.starts st.ends ls)
          (xs.foldl step (step st (l, s))) := by
      have hrest := ih (step st (l, s))
      rw [hstars.1, hstars.2] at hrest
      exact henrols.trans hrest
    rw [List.foldl_cons, mentionsFrom, hs]
    cases s with
    | directive d =>
      exact plain [] (enrols_of_eq (st.sameGraph_applyDirective l d).nodes)
        (sameStars_of_sameCounters (.applyDirective st l d))
    | direction d =>
      exact plain [] (enrols_of_eq (st.nodes_setDirection d))
        (sameStars_of_sameCounters (.setDirection st d))
    | openComposite id label => exact plain [] (.refl _) ⟨rfl, rfl⟩
    | close =>
      exact plain [] (enrols_of_eq (st.nodes_closeOrReport .state l))
        (sameStars_of_sameCounters (.closeOrReport st .state l))
    | separator => exact plain [] (.refl _) ⟨rfl, rfl⟩
    | note kind => exact plain [] (.refl _) ⟨rfl, rfl⟩
    | declare id label shape =>
      exact plain [id] (st.enrols_declare id label shape l.number)
        (sameStars_of_sameCounters (.declare st id label shape l.number))
    | transition source target label =>
      obtain ⟨hsource, hstarts, hends⟩ := enrols_readSource st l source
      obtain ⟨htarget, hstarts', hends'⟩ := enrols_readTarget (readSource st l source).1 l target
      rw [hends] at htarget
      have hrest := ih (step st (l, .transition source target label))
      have hcounts : (step st (l, .transition source target label)).starts =
          st.starts + source.stars ∧
          (step st (l, .transition source target label)).ends = st.ends + target.stars :=
        ⟨hstarts'.trans hstarts, hends'.trans (by rw [hends])⟩
      rw [hcounts.1, hcounts.2] at hrest
      exact (hsource.trans htarget).trans hrest
    | mention id =>
      exact plain [id] (st.enrols_mention id .rounded l.number)
        (sameStars_of_sameCounters (.mention st id .rounded l.number))
    | unrecognised => exact plain [] (.refl _) ⟨rfl, rfl⟩

theorem dense_of_parse {ls : List Line} {p : Parsed ScopeGraph.Graph} (h : parse ls = .ok p) :
    Registry.Dense ScopeGraph.Node.id ScopeGraph.Node.declaredOrder p.diagram.nodes ∧
      p.diagram.nodes.keys = addAllNew [] (mentions ls) := by
  obtain ⟨xs, hx, h⟩ := bind_eq_ok_iff.1 h
  cases h
  have hrun := enrols_foldl_step { direction := Direction.topDown.name }
    (readLines_eq_ok_iff.1 hx)
  have hnote := enrols_of_eq (sameGraph_reportOpenNote
    (xs.foldl step { direction := Direction.topDown.name }) (outsideNotes false ls.tail).2 ls).nodes
  exact ScopeGraph.dense_of_enrols .state (hrun.tail hnote)

theorem outsideNotes_prefix (inNote : Bool) (ls more : List Line) :
    (outsideNotes inNote ls).1 <+: (outsideNotes inNote (ls ++ more)).1 := by
  induction ls generalizing inNote with
  | nil => exact List.nil_prefix
  | cons l ls ih =>
    cases inNote with
    | true => exact ih _
    | false => exact List.cons_prefix_cons.2 ⟨rfl, ih _⟩

theorem mentionsFrom_prefix (starts ends : Nat) {ls ls' : List Line} (h : ls <+: ls') :
    mentionsFrom starts ends ls <+: mentionsFrom starts ends ls' := by
  obtain ⟨more, rfl⟩ := h
  induction ls generalizing starts ends with
  | nil => exact List.nil_prefix
  | cons l ls ih =>
    rw [List.cons_append, mentionsFrom, mentionsFrom]
    split
    · exact List.cons_prefix_cons.2 ⟨rfl, ih _ _⟩
    · exact List.cons_prefix_cons.2 ⟨rfl, ih _ _⟩
    · exact List.cons_prefix_cons.2 ⟨rfl, List.cons_prefix_cons.2 ⟨rfl, ih _ _⟩⟩
    · exact ih _ _

theorem mentions_prefix {ls ls' : List Line} (h : ls <+: ls') : mentions ls <+: mentions ls' := by
  obtain ⟨more, rfl⟩ := h
  unfold mentions
  cases ls with
  | nil => exact List.nil_prefix
  | cons l ls =>
    have houtside := outsideNotes_prefix false ls more
    exact mentionsFrom_prefix 0 0 houtside

end StateChart

end DiagramText
