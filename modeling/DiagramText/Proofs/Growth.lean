import DiagramText.Proofs.DeclarationOrder
import DiagramText.Proofs.Sequence.Order
import DiagramText.Proofs.Totality

/-!
# Appending is monotone

More lines can only add to a diagram: what the first lines have given is an initial part of what all
lines give.  The readers go on from the state behind the first lines, and the end of the source,
which closes what is open, moves nothing that is already there.

1. Edges of flowcharts and state diagrams.
2. Messages of sequence diagrams, which keep their places when open blocks are closed.
3. Relationships, notes and slices.
4. Sections of Gantt charts and their tasks.
5. Topics of mind maps in pre-order: a new topic comes last, wherever it is attached.
6. `appending_is_monotone`, for all kinds.
-/

namespace DiagramText

open Source (Line)

/-! ## Continued runs -/

section

variable {σ α β : Type}

/-- Steps that each keep a list as an initial part keep it together. -/
theorem prefix_foldl {view : σ → List β} {f : σ → α → σ} {as : List α}
    (h : ∀ st, ∀ a ∈ as, view st <+: view (f st a)) (st : σ) :
    view st <+: view (as.foldl f st) := by
  induction as generalizing st with
  | nil => exact List.prefix_rfl
  | cons a as ih =>
    obtain ⟨ha, has⟩ := List.forall_mem_cons.1 fun a ha st => h st a ha
    exact (ha st).trans (ih (fun st a ha => has a ha st) (f st a))

theorem prefix_foldl_append {view : σ → List β} {f : σ → α → σ} {as more : List α}
    (h : ∀ st, ∀ a ∈ more, view st <+: view (f st a)) (st : σ) :
    view (as.foldl f st) <+: view ((as ++ more).foldl f st) := by
  rw [List.foldl_append]
  exact prefix_foldl h _

end

/-! ## Graphs -/

namespace ScopeGraph

theorem State.edges_claim (st : State) (id : String) : (st.claim id).edges = st.edges := by
  obtain h | ⟨f, fs, rest, -, -, h⟩ := st.claim_cases id <;> rw [h]

theorem State.edges_closeScope (st : State) : st.closeScope.edges = st.edges := by
  unfold closeScope
  split <;> rfl

theorem State.edges_setDirection (st : State) (d : Direction) :
    (st.setDirection d).edges = st.edges := by
  unfold setDirection
  split <;> rfl

theorem State.edges_closeOrReport (st : State) (family : Family) (l : Line) :
    (st.closeOrReport family l).edges = st.edges := by
  unfold closeOrReport
  split
  · rfl
  · exact st.edges_closeScope

theorem State.edges_mention (st : State) (id : String) (shape : Shape) (line : Int) :
    (st.mention id shape line).edges = st.edges := edges_claim _ id

theorem State.edges_declare (st : State) (id label : String) (shape : Shape) (line : Int) :
    (st.declare id label shape line).edges = st.edges := by
  obtain ⟨nodes, reports, -, h⟩ := st.declare_eq_claim id label shape line
  rw [h, edges_claim]

theorem State.edges_closeAll (st : State) (family : Family) :
    (st.closeAll family).edges = st.edges := by
  refine List.foldlRecOn (motive := fun st' : State => st'.edges = st.edges) st.scopes _ rfl ?_
  intro st' h f _
  unfold closeUnclosed
  rw [edges_closeScope]
  exact h

/-- Edges are only ever added behind the others. -/
theorem Move.edges_grow {st st' : State} (h : Move st st') : st.edges <+: st'.edges := by
  cases h with
  | aside h => rw [h.edges]
  | setDirection d => rw [State.edges_setDirection]
  | openScope => exact List.prefix_rfl
  | closeScope => rw [State.edges_closeScope]
  | mention id shape line => rw [State.edges_mention]
  | declare id label shape line => rw [State.edges_declare]
  | join es h => exact List.prefix_append _ _

theorem Moves.edges_grow {st st' : State} (h : Moves st st') : st.edges <+: st'.edges := by
  induction h with
  | refl => exact List.prefix_rfl
  | tail _ hm ih => exact ih.trans hm.edges_grow

end ScopeGraph

theorem Flowchart.edges_grow {l : Line} {ls more : List Line} {direction : String}
    {p q : Parsed ScopeGraph.Graph} (hp : Flowchart.parse (l :: ls) direction = .ok p)
    (hq : Flowchart.parse (l :: ls ++ more) direction = .ok q) :
    p.diagram.edges <+: q.diagram.edges := by
  obtain ⟨xs, hxs, hp⟩ := bind_eq_ok_iff.1 hp
  obtain ⟨ys, hys, hq⟩ := bind_eq_ok_iff.1 hq
  cases hp
  cases hq
  obtain ⟨rest, hrest, rfl⟩ := exists_append_of_readLines hxs hys
  show (ScopeGraph.State.closeAll _ _).edges <+: (ScopeGraph.State.closeAll _ _).edges
  rw [ScopeGraph.State.edges_closeAll, ScopeGraph.State.edges_closeAll]
  apply prefix_foldl_append
  intro st x hx
  exact (Flowchart.moves_step (mem_of_readLines hrest x hx).2).edges_grow

theorem StateChart.edges_grow {l : Line} {ls more : List Line} {p q : Parsed ScopeGraph.Graph}
    (hp : StateChart.parse (l :: ls) = .ok p) (hq : StateChart.parse (l :: ls ++ more) = .ok q) :
    p.diagram.edges <+: q.diagram.edges := by
  obtain ⟨xs, hxs, hp⟩ := bind_eq_ok_iff.1 hp
  obtain ⟨ys, hys, hq⟩ := bind_eq_ok_iff.1 hq
  cases hp
  cases hq
  obtain ⟨outside, houtside⟩ := outsideNotes_prefix false ls more
  replace hys : readLines Statement.recognise (outsideNotes false (ls ++ more)).1 = .ok ys := hys
  rw [← houtside] at hys
  obtain ⟨rest, -, rfl⟩ := exists_append_of_readLines hxs hys
  have hnote (st : ScopeGraph.State) (isOpen : Bool) (ls : List Line) :
      (reportOpenNote st isOpen ls).edges = st.edges := (sameGraph_reportOpenNote st isOpen ls).edges
  show (ScopeGraph.State.closeAll _ _).edges <+: (ScopeGraph.State.closeAll _ _).edges
  rw [ScopeGraph.State.edges_closeAll, ScopeGraph.State.edges_closeAll, hnote, hnote]
  apply prefix_foldl_append
  intro st x _
  exact (moves_step st x.1 x.2).edges_grow

/-! ## Sequence diagrams -/

namespace Sequence

/-- Closing what is open at the end keeps the messages in their places. -/
theorem messages_finish (st : State) :
    st.finish.diagram.messages = st.entries.filterMap Item.message? := by
  have hbare : Item.message? ∘ Item.bare = Item.message? := by
    funext i
    exact Item.message?_bare i
  show (Item.walkAll st.finish.items).filterMap Item.message? = _
  rw [← State.entries_finish, List.filterMap_map, hbare]

theorem messages_grow {l : Line} {ls more : List Line} {p q : Parsed Diagram}
    (hp : parse (l :: ls) = .ok p) (hq : parse (l :: ls ++ more) = .ok q) :
    p.diagram.messages <+: q.diagram.messages := by
  obtain ⟨xs, hxs, hp⟩ := bind_eq_ok_iff.1 hp
  obtain ⟨ys, hys, hq⟩ := bind_eq_ok_iff.1 hq
  cases hp
  cases hq
  obtain ⟨rest, hrest, rfl⟩ := exists_append_of_readLines hxs hys
  show (State.finish _).diagram.messages <+: (State.finish _).diagram.messages
  rw [messages_finish, messages_finish]
  apply List.IsPrefix.filterMap
  apply prefix_foldl_append
  intro st x hx
  rcases st.step_cases (mem_of_readLines hrest x hx).2 with ⟨-, hentries, -⟩ | ⟨i, -, -, hentries, -⟩
  · rw [hentries]
  · rw [hentries]
    exact List.prefix_append _ _

end Sequence

/-! ## Class diagrams -/

namespace Classes

/-- Relationships and notes are only ever added behind the others. -/
structure Grows (st st' : State) : Prop where
  relationships : st.relationships <+: st'.relationships
  notes : st.notes <+: st'.notes

namespace Grows

variable {st st' st'' : State}

theorem of_eq (hrelationships : st'.relationships = st.relationships)
    (hnotes : st'.notes = st.notes) : Grows st st' := by
  constructor
  · rw [hrelationships]
  · rw [hnotes]

theorem of_same (h : Grows st' st'') (hrelationships : st'.relationships = st.relationships)
    (hnotes : st'.notes = st.notes) : Grows st st'' := by
  constructor
  · rw [← hrelationships]
    exact h.relationships
  · rw [← hnotes]
    exact h.notes

theorem foldl {α : Type} {f : State → α → State} (hf : ∀ st a, Grows st (f st a)) (as : List α)
    (st : State) : Grows st (as.foldl f st) :=
  ⟨prefix_foldl (fun st a _ => (hf st a).relationships) st,
    prefix_foldl (fun st a _ => (hf st a).notes) st⟩

theorem addBodyLine (st : State) (l : Line) (id : String) (b : BodyLine) :
    Grows st (st.addBodyLine l id b) := by
  cases b <;> exact of_eq rfl rfl

theorem readTail (st : State) (l : Line) (id : String) (t : Tail) :
    Grows st (st.readTail l id t) := by
  cases t with
  | inline parts => exact foldl (fun st p => addBodyLine st l id (.recognise p)) parts st
  | nothing | body | unexpected _ => exact of_eq rfl rfl

theorem stepOutside (st : State) (l : Line) : Grows st (st.stepOutside l) := by
  unfold State.stepOutside
  cases Statement.recognise l.text with
  | openGroup name =>
    dsimp only
    unfold State.openGroup
    cases st.group <;> exact of_eq rfl rfl
  | close =>
    dsimp only
    split <;> exact of_eq rfl rfl
  | declare d => exact (readTail _ l _ d.tail).of_same rfl rfl
  | note classId text => cases classId <;> exact ⟨List.prefix_rfl, List.prefix_append _ _⟩
  | relate r => exact ⟨List.prefix_append _ _, List.prefix_rfl⟩
  | member id b => exact (addBodyLine (st.mention id) l id b).of_same rfl rfl
  | stereotype _ _ | direction _ | unknownConnector _ | malformedRelationship | unrecognised =>
    exact of_eq rfl rfl

theorem step (st : State) (l : Line) : Grows st (st.step l) := by
  unfold State.step
  split
  · exact stepOutside st l
  · split
    · exact of_eq rfl rfl
    · split
      · exact (stepOutside _ l).of_same rfl rfl
      · exact addBodyLine st l _ _

end Grows

/-- The end of the source adds neither relationships nor notes. -/
theorem records_finish (st : State) :
    st.finishBody.finishGroup.relationships = st.relationships ∧
      st.finishBody.finishGroup.notes = st.notes := by
  have hbody : st.finishBody.relationships = st.relationships ∧
      st.finishBody.notes = st.notes := by
    unfold State.finishBody
    split <;> exact ⟨rfl, rfl⟩
  unfold State.finishGroup
  split <;> exact hbody

theorem grows_parse (l : Line) (ls more : List Line) :
    (parse (l :: ls)).diagram.relationships <+: (parse (l :: ls ++ more)).diagram.relationships ∧
      (parse (l :: ls)).diagram.notes <+: (parse (l :: ls ++ more)).diagram.notes := by
  have hgrows := Grows.foldl Grows.step more (ls.foldl State.step {})
  rw [← List.foldl_append] at hgrows
  obtain ⟨hrelationships, hnotes⟩ := records_finish (ls.foldl State.step {})
  obtain ⟨hrelationships', hnotes'⟩ := records_finish ((ls ++ more).foldl State.step {})
  constructor
  · show (ls.foldl State.step {}).finishBody.finishGroup.relationships <+:
      ((ls ++ more).foldl State.step {}).finishBody.finishGroup.relationships
    rw [hrelationships, hrelationships']
    exact hgrows.relationships
  · show (ls.foldl State.step {}).finishBody.finishGroup.notes <+:
      ((ls ++ more).foldl State.step {}).finishBody.finishGroup.notes
    rw [hnotes, hnotes']
    exact hgrows.notes

end Classes

/-! ## Entity-relationship diagrams and pie charts -/

theorem Er.relationships_step (st : Er.State) (l : Line) :
    st.relationships <+: (st.step l).relationships := by
  have hattribute (id : String) : (st.addAttribute l id).relationships = st.relationships := by
    unfold Er.State.addAttribute
    split <;> rfl
  unfold Er.State.step
  split
  · exact List.prefix_rfl
  · exact List.prefix_append _ _
  · rw [hattribute]
  · exact List.prefix_rfl
  · exact List.prefix_append _ _
  · exact List.prefix_rfl
  · exact List.prefix_rfl
  · exact List.prefix_rfl

theorem Er.relationships_grow (l : Line) (ls more : List Line) :
    (Er.parse (l :: ls)).diagram.relationships <+:
      (Er.parse (l :: ls ++ more)).diagram.relationships := by
  show (ls.foldl Er.State.step {}).relationships <+:
    ((ls ++ more).foldl Er.State.step {}).relationships
  exact prefix_foldl_append (fun st l _ => relationships_step st l) _

theorem Pie.slices_step (st : Pie.State) (l : Line) :
    st.chart.slices <+: (st.step l).chart.slices := by
  unfold Pie.State.step
  cases Pie.Statement.recognise l.text with
  | slice label value => exact List.prefix_append _ _
  | showData | title _ | badValue _ | unrecognised => exact List.prefix_rfl

theorem Pie.slices_grow (header : Line) (ls more : List Line) :
    (ls.foldl Pie.State.step (.ofHeader header)).chart.slices <+:
      ((ls ++ more).foldl Pie.State.step (.ofHeader header)).chart.slices :=
  prefix_foldl_append (fun st l _ => slices_step st l) _

/-! ## Gantt charts -/

namespace Gantt

/-- Each section keeps its place and its tasks; new tasks stand behind the old ones of their
section, and new sections behind the old ones. -/
inductive SectionsGrow : List (String × List Task) → List (String × List Task) → Prop
  | nil (sections : List (String × List Task)) : SectionsGrow [] sections
  | cons {name : String} {tasks tasks' : List Task} {rest rest' : List (String × List Task)}
      (htasks : tasks <+: tasks') (hrest : SectionsGrow rest rest') :
      SectionsGrow ((name, tasks) :: rest) ((name, tasks') :: rest')

namespace SectionsGrow

variable {old mid new : List (String × List Task)}

theorem append (sections more : List (String × List Task)) :
    SectionsGrow sections (sections ++ more) := by
  induction sections with
  | nil => exact .nil _
  | cons e rest ih => exact .cons List.prefix_rfl ih

theorem refl (sections : List (String × List Task)) : SectionsGrow sections sections := by
  simpa using append sections []

theorem trans (h : SectionsGrow old mid) (h' : SectionsGrow mid new) : SectionsGrow old new := by
  induction h generalizing new with
  | nil => exact .nil _
  | cons htasks _ ih =>
    cases h' with
    | cons htasks' hrest' => exact .cons (htasks.trans htasks') (ih hrest')

theorem names (h : SectionsGrow old new) : old.map (·.1) <+: new.map (·.1) := by
  induction h with
  | nil => exact List.nil_prefix
  | cons _ _ ih => exact (List.prefix_cons_inj _).2 ih

theorem modifyEntry (name : String) (t : Task) (sections : List (String × List Task)) :
    SectionsGrow sections (OrderedMap.modifyEntry name (· ++ [t]) sections) := by
  induction sections with
  | nil => exact .nil _
  | cons e rest ih =>
    rw [OrderedMap.modifyEntry]
    split
    · exact .cons (List.prefix_append _ _) (refl rest)
    · exact .cons List.prefix_rfl ih

theorem enter (st : State) (name : String) :
    SectionsGrow st.chart.sections.entries (st.enter name).chart.sections.entries := by
  show SectionsGrow _ (Registry.ensure st.chart.sections name fun _ => []).entries
  unfold Registry.ensure Registry.ensureUnless
  cases h : st.chart.sections.get? name with
  | none =>
    show SectionsGrow _ (st.chart.sections.insert name []).entries
    rw [OrderedMap.entries_insert_of_none _ h]
    exact append _ _
  | some tasks => exact refl _

theorem addTask (st : State) (t : Task) :
    SectionsGrow st.chart.sections.entries (st.addTask t).chart.sections.entries := by
  unfold State.addTask
  cases h : st.current with
  | some name =>
    simp only [h, Option.isSome_some, if_true]
    exact modifyEntry name t _
  | none => exact (enter st "").trans (modifyEntry "" t _)

theorem step (st : State) (l : Line) :
    SectionsGrow st.chart.sections.entries (st.step l).chart.sections.entries := by
  unfold State.step
  cases Statement.recognise l.text with
  | enter name => exact enter st name
  | task label metadata =>
    dsimp only
    split
    · exact addTask st _
    · exact refl _
  | title _ | dateFormat _ | axisFormat _ | excludes _ | includes _ | setting _ _ | invalid =>
    exact refl _

theorem foldl (ls : List Line) (st : State) :
    SectionsGrow st.chart.sections.entries (ls.foldl State.step st).chart.sections.entries := by
  induction ls generalizing st with
  | nil => exact refl _
  | cons l ls ih => exact (step st l).trans (ih (st.step l))

end SectionsGrow

theorem sections_grow (l : Line) (ls more : List Line) :
    SectionsGrow (parse (l :: ls)).diagram.sections.entries
      (parse (l :: ls ++ more)).diagram.sections.entries := by
  show SectionsGrow (ls.foldl State.step {}).chart.sections.entries
    ((ls ++ more).foldl State.step {}).chart.sections.entries
  rw [List.foldl_append]
  exact .foldl more _

end Gantt

/-! ## Mind maps -/

namespace Mindmap

/-- What a topic gets from its own line; icon and class names come from later lines. -/
def Topic.written (t : Topic) : String × String × Shape × Int := (t.id, t.label, t.shape, t.line)

/-- The topics in pre-order, as id, label, shape and line. -/
def Map.outline (m : Map) : List (String × String × Shape × Int) :=
  m.subtrees.map fun t => t.value.written

/-- The topics of a spine, in the order in which they were read. -/
def topics (spine : List Level) : List Topic := Frame.spineValues (spine.map (·.frame))

/-- Closing topics moves none of them. -/
theorem topics_settle (indent : Int) (v : Level) (rest : List Level) :
    topics (settle indent v rest).1 = topics (v :: rest) := by
  fun_induction settle indent v rest with
  | case1 v => rfl
  | case2 v w rest h => rfl
  | case3 v w rest h ih =>
    rw [ih]
    exact Frame.spineValues_adopt_close v.frame w.frame _

/-- A new topic stands behind all others, wherever in the tree it is attached. -/
theorem topics_attach (topic : Topic) (indent : Int) (spine : List Level) :
    topics (attach topic indent spine).1 = topics spine ++ [topic] := by
  cases spine with
  | nil => rfl
  | cons v rest =>
    rw [← topics_settle indent]
    exact Frame.spineValues_cons _ _

theorem topics_decorate (st : State) {g : Topic → Topic} (hg : ∀ t, (g t).written = t.written) :
    (topics (st.decorate g).spine).map Topic.written = (topics st.spine).map Topic.written := by
  unfold State.decorate
  cases h : st.spine with
  | nil => simp only [h]
  | cons v rest =>
    show (Frame.spineValues (v.frame.map g :: _)).map _ = (Frame.spineValues (v.frame :: _)).map _
    rw [Frame.spineValues_cons, Frame.spineValues_cons, List.map_append, List.map_append]
    show _ ++ (g v.frame.value).written :: _ = _
    rw [hg]
    rfl

theorem topics_step (st : State) (l : Line) :
    (topics st.spine).map Topic.written <+: (topics (st.step l).spine).map Topic.written := by
  unfold State.step
  cases Statement.recognise l.text with
  | icon text =>
    dsimp only
    split
    · exact List.prefix_rfl
    · rw [topics_decorate]
      intro t
      rfl
  | classes names =>
    dsimp only
    split
    · exact List.prefix_rfl
    · rw [topics_decorate]
      intro t
      rfl
  | emptyLabel => exact List.prefix_rfl
  | topic shape label =>
    dsimp only
    split <;>
    · show _ <+: (topics (attach _ _ _).1).map _
      rw [topics_attach, List.map_append]
      exact List.prefix_append _ _

theorem outline_finish (spine : List Level) :
    Map.outline ⟨finish spine⟩ = (topics spine).map Topic.written := by
  cases spine with
  | nil => rfl
  | cons v rest =>
    have hclosed := Frame.forestValues_closeAll v.frame (rest.map (·.frame))
    show (Tree.subtrees _).map _ = (Frame.spineValues (v.frame :: rest.map (·.frame))).map _
    rw [← hclosed, Tree.forestValues, Tree.forest, Tree.forest, List.append_nil, List.map_map]
    rfl

theorem outline_grows (l : Line) (ls more : List Line) :
    (parse (l :: ls)).diagram.outline <+: (parse (l :: ls ++ more)).diagram.outline := by
  show Map.outline ⟨finish (ls.foldl State.step {}).spine⟩ <+:
    Map.outline ⟨finish ((ls ++ more).foldl State.step {}).spine⟩
  rw [outline_finish, outline_finish]
  exact prefix_foldl_append (fun st l _ => topics_step st l) _

end Mindmap

/-! ## All kinds -/

namespace Diagram

/-- What the lines of a first diagram have added one after the other is an initial part of what a
second one has. -/
def RecordsGrow : Diagram → Diagram → Prop
  | .graph g, .graph g' => g.edges <+: g'.edges
  | .sequence d, .sequence d' => d.messages <+: d'.messages
  | .classes d, .classes d' => d.relationships <+: d'.relationships ∧ d.notes <+: d'.notes
  | .er d, .er d' => d.relationships <+: d'.relationships
  | .pie c, .pie c' => c.slices <+: c'.slices
  | .gantt c, .gantt c' => c.sections.keys <+: c'.sections.keys ∧
      Gantt.SectionsGrow c.sections.entries c'.sections.entries
  | .mindmap m, .mindmap m' => m.outline <+: m'.outline
  | _, _ => False

/-- The first diagram is an initial part of the second: in its nodes, participants, classes or
entities with their numbers, and in the records that are listed in source order. -/
structure InitialPart (d d' : Diagram) : Prop where
  roster : d.roster <+: d'.roster
  records : d.RecordsGrow d'

theorem roster_grows {kind : DiagramKind} {direction : String} {ls ls' : List Line}
    {p q : Parsed Diagram} (hpre : ls <+: ls') (hp : Diagram.parse kind direction ls = .ok p)
    (hq : Diagram.parse kind direction ls' = .ok q) : p.diagram.roster <+: q.diagram.roster := by
  rw [(inOrder_of_parse hp).roster_eq, (inOrder_of_parse hq).roster_eq]
  have hids := addAllNew_prefix [] (kind.mentions_prefix hpre)
  exact zipIdx_prefix hids

theorem records_grow {kind : DiagramKind} {direction : String} {l : Line} {ls more : List Line}
    {p q : Parsed Diagram} (hp : Diagram.parse kind direction (l :: ls) = .ok p)
    (hq : Diagram.parse kind direction (l :: ls ++ more) = .ok q) :
    p.diagram.RecordsGrow q.diagram := by
  cases kind with
  | flowchart =>
    obtain ⟨p', hp', rfl⟩ := map_eq_ok_iff.1 hp
    obtain ⟨q', hq', rfl⟩ := map_eq_ok_iff.1 hq
    exact Flowchart.edges_grow hp' hq'
  | state =>
    obtain ⟨p', hp', rfl⟩ := map_eq_ok_iff.1 hp
    obtain ⟨q', hq', rfl⟩ := map_eq_ok_iff.1 hq
    exact StateChart.edges_grow hp' hq'
  | sequence =>
    obtain ⟨p', hp', rfl⟩ := map_eq_ok_iff.1 hp
    obtain ⟨q', hq', rfl⟩ := map_eq_ok_iff.1 hq
    exact Sequence.messages_grow hp' hq'
  | classes =>
    cases hp
    cases hq
    exact Classes.grows_parse l ls more
  | er =>
    cases hp
    cases hq
    exact Er.relationships_grow l ls more
  | pie =>
    cases hp
    cases hq
    exact Pie.slices_grow l ls more
  | gantt =>
    cases hp
    cases hq
    have hsections := Gantt.sections_grow l ls more
    exact ⟨hsections.names, hsections⟩
  | mindmap =>
    cases hp
    cases hq
    exact Mindmap.outline_grows l ls more

end Diagram

/-- **Appending is monotone.** The diagram of some first lines is an initial part of the diagram of
all lines.  The first lines can be read wherever all lines can, which is always the case except for
sequence diagrams, and for graphs that style links with indices that are too long. -/
theorem appending_is_monotone (kind : DiagramKind) (direction : String) {xs : List Line}
    (hxs : xs ≠ []) (ys : List Line) :
    (∀ q, Diagram.parse kind direction (xs ++ ys) = .ok q →
      ∃ p, Diagram.parse kind direction xs = .ok p ∧ p.diagram.InitialPart q.diagram) ∧
    (kind ≠ .sequence →
      (kind = .flowchart ∨ kind = .state → ∀ l ∈ xs ++ ys, ScopeGraph.ShortIndices l) →
      ∃ q, Diagram.parse kind direction (xs ++ ys) = .ok q) := by
  constructor
  · intro q hq
    have hpre : xs <+: xs ++ ys := List.prefix_append _ _
    obtain ⟨p, hp⟩ := Diagram.exists_parse_of_prefix hq hpre hxs
    refine ⟨p, hp, Diagram.roster_grows hpre hp hq, ?_⟩
    obtain ⟨l, ls, rfl⟩ := List.exists_cons_of_ne_nil hxs
    exact Diagram.records_grow hp hq
  · intro hkind hshort
    have hall : xs ++ ys ≠ [] := List.append_ne_nil_of_left_ne_nil hxs ys
    by_cases hgraph : kind = .flowchart ∨ kind = .state
    · exact Diagram.exists_parse hkind direction hall (hshort hgraph)
    · obtain ⟨l, ls, hlines⟩ := List.exists_cons_of_ne_nil hall
      rw [hlines]
      cases kind with
      | flowchart => exact absurd (.inl rfl) hgraph
      | state => exact absurd (.inr rfl) hgraph
      | sequence => exact absurd rfl hkind
      | classes | er | pie | gantt | mindmap => exact ⟨_, rfl⟩

/-- A block that is still open after three lines. -/
def dailyLoop : List Line :=
  Source.scan "sequenceDiagram\nloop daily\nAnn->>Bob: hi\nend\nZoe->>Ann: ho" false

theorem appending_is_monotone_openLoop :
    ∃ p q : Parsed Diagram,
      Diagram.parse .sequence "TB" (dailyLoop.take 3) = .ok p ∧
      Diagram.parse .sequence "TB" (dailyLoop.take 3 ++ dailyLoop.drop 3) = .ok q ∧
      p.diagram.roster = [("Ann", 0), ("Bob", 1)] ∧
      q.diagram.roster = [("Ann", 0), ("Bob", 1), ("Zoe", 2)] ∧
      p.diagram.InitialPart q.diagram := by
  have hfirst : ((Diagram.parse .sequence "TB" (dailyLoop.take 3)).toOption.map
      fun p => p.diagram.roster) = some [("Ann", 0), ("Bob", 1)] := by
    decide +kernel
  have hall : ((Diagram.parse .sequence "TB" (dailyLoop.take 3 ++ dailyLoop.drop 3)).toOption.map
      fun q => q.diagram.roster) = some [("Ann", 0), ("Bob", 1), ("Zoe", 2)] := by
    decide +kernel
  obtain ⟨p, hp, hroster⟩ := exists_ok_of_toOption hfirst
  obtain ⟨q, hq, hroster'⟩ := exists_ok_of_toOption hall
  have hheader : dailyLoop.take 3 ≠ [] := by decide +kernel
  obtain ⟨p', hp', hinitial⟩ := (appending_is_monotone .sequence "TB" hheader _).1 q hq
  obtain rfl : p = p' := Except.ok.inj (hp.symm.trans hp')
  exact ⟨p, q, hp, hq, hroster, hroster', hinitial⟩

end DiagramText
