import DiagramText.Flowchart.Parse
import DiagramText.Proofs.Renumber
import DiagramText.StateChart.Parse

/-!
# Graphs on lines with other numbers

Flowcharts and state diagrams store the lines of nodes, edges, scopes and style directives, and the
report of a second declaration quotes the line of the first one.  No step looks at a line number, so
every step commutes with `State.renumber`.

1. `Problem.renumber`, `Graph.renumber` and `State.renumber`.
2. The steps by which both families build a graph, and the end of the source.
3. Flowcharts.
4. State diagrams.
-/

namespace DiagramText.ScopeGraph

open Source (Line)

variable {f : Int → Int}

/-! ## Graphs and states -/

/-- The problem with another line in its message, if it quotes one. -/
def Problem.renumber (f : Int → Int) : Problem → Problem
  | .redeclared id line => .redeclared id (f line)
  | p => p

/-- The report at another line. -/
def renumberReport (f : Int → Int) (r : Report Problem) : Report Problem :=
  { r with problem := r.problem.renumber f, line := f r.line }

/-- The node at another line. -/
def Node.renumber (f : Int → Int) (n : Node) : Node := { n with line := f n.line }

/-- The edge at another line. -/
def Edge.renumber (f : Int → Int) (e : Edge) : Edge := { e with line := f e.line }

/-- The scope at another line. -/
def Scope.renumber (f : Int → Int) (s : Scope) : Scope := { s with line := f s.line }

/-- The graph at other lines. -/
def Graph.renumber (f : Int → Int) (g : Graph) : Graph :=
  { g with
    nodes := g.nodes.mapValues (Node.renumber f)
    edges := g.edges.map (Edge.renumber f)
    subgraphs := Tree.relabelAll (Scope.renumber f) g.subgraphs }

/-- The graph being built, at other lines. -/
def State.renumber (f : Int → Int) (st : State) : State :=
  { st with
    nodes := st.nodes.mapValues (Node.renumber f)
    edges := st.edges.map (Edge.renumber f)
    finished := Tree.relabelAll (Scope.renumber f) st.finished
    scopes := st.scopes.map (Frame.relabel (Scope.renumber f))
    targetLines := st.targetLines.mapValues f
    linkLines := st.linkLines.mapValues f
    reports := st.reports.map (renumberReport f) }

/-- Only the report of a second declaration quotes a line. -/
theorem quotesNoLine_message {p : Problem} (h : ∀ id line, p ≠ .redeclared id line) :
    QuotesNoLine (Describe.message p) := by
  refine quotesNoLine_of_start ?_
  cases p with
  | redeclared id line => exact absurd rfl (h id line)
  | strayClose family => cases family <;> rfl
  | unclosed family id =>
    cases family <;>
      simp only [Describe.message, toString, String.toList_append, List.append_assoc] <;> rfl
  | _ =>
    simp only [Describe.message, toString, String.toList_append, List.append_assoc]
    rfl

theorem renumbered_toDiagnostic (r : Report Problem) :
    r.toDiagnostic.Renumbered f (renumberReport f r).toDiagnostic := by
  obtain ⟨p, line, column⟩ := r
  cases p with
  | redeclared id n => exact ⟨rfl, rfl, rfl, rfl, .inr ⟨id, n, rfl, rfl⟩⟩
  | _ => exact ⟨rfl, rfl, rfl, rfl, .inl ⟨quotesNoLine_message nofun, rfl⟩⟩

theorem renumbered_ofReports (g : Graph) (rs : List (Report Problem)) :
    (Parsed.ofReports g rs).Renumbered f (Graph.renumber f)
      (.ofReports (g.renumber f) (rs.map (renumberReport f))) where
  diagram := rfl
  diagnostics := by
    refine List.forall₂_map_left_iff.2 (List.forall₂_map_right_iff.2 ?_)
    refine List.forall₂_map_right_iff.2 (List.forall₂_same.2 fun r _ => ?_)
    exact renumbered_toDiagnostic r

namespace State

/-! ## Steps -/

variable (st : State) (l : Line)

theorem reportAt_renumber (line : Int) (p : Problem) :
    (st.renumber f).reportAt (f line) (p.renumber f) = (st.reportAt line p).renumber f := by
  unfold reportAt renumber
  rw [List.map_append]
  rfl

theorem report_renumber (p : Problem) :
    (st.renumber f).report (l.renumber f) (p.renumber f) = (st.report l p).renumber f := by
  unfold report renumber
  rw [List.map_append]
  rfl

theorem openScope_renumber (id label : String) :
    (st.renumber f).openScope (l.renumber f) id label = (st.openScope l id label).renumber f := by
  have hparent : (st.renumber f).scopes.head?.map (·.value.id) =
      st.scopes.head?.map (·.value.id) := by
    unfold renumber
    rw [List.head?_map, Option.map_map]
    rfl
  unfold openScope
  rw [hparent]
  rfl

theorem closeScope_renumber : (st.renumber f).closeScope = st.closeScope.renumber f := by
  unfold closeScope
  rcases h : st.scopes with _ | ⟨g, _ | ⟨g', gs⟩⟩
  · simp only [renumber, h, List.map_nil]
  · simp only [renumber, h, List.map_cons, List.map_nil, Tree.relabelAll_append]
    rfl
  · simp only [renumber, h, List.map_cons, Frame.relabel_adopt]
    rfl

theorem closeOrReport_renumber (family : Family) :
    (st.renumber f).closeOrReport family (l.renumber f) =
      (st.closeOrReport family l).renumber f := by
  have hscopes : (st.renumber f).scopes.isEmpty = st.scopes.isEmpty := by
    unfold renumber
    rw [List.isEmpty_map]
  unfold closeOrReport
  rw [hscopes]
  split
  · exact report_renumber st l (.strayClose family)
  · exact closeScope_renumber st

theorem setDirection_renumber (d : Direction) :
    (st.renumber f).setDirection d = (st.setDirection d).renumber f := by
  unfold setDirection
  rcases h : st.scopes with _ | ⟨g, gs⟩
  · simp only [renumber, h, List.map_nil]
  · simp only [renumber, h, List.map_cons]
    rfl

theorem serial_relabel (g : Frame Scope) :
    (g.relabel (Scope.renumber f)).value.serial = g.value.serial := rfl

theorem release_relabel (serial : Nat) (id : String) (g : Frame Scope) :
    release serial id (g.relabel (Scope.renumber f)) =
      (release serial id g).relabel (Scope.renumber f) := by
  unfold release
  rw [serial_relabel]
  by_cases hs : g.value.serial = serial
  · rw [if_pos hs, if_pos hs]
    rfl
  · rw [if_neg hs, if_neg hs]

theorem claim_renumber (id : String) : (st.renumber f).claim id = (st.claim id).renumber f := by
  unfold claim
  rcases h : st.scopes with _ | ⟨g, gs⟩
  · simp only [renumber, h, List.map_nil]
  · have hrelease (k : Nat) : (gs.map (Frame.relabel (Scope.renumber f))).map (release k id) =
        (gs.map (release k id)).map (Frame.relabel (Scope.renumber f)) := by
      rw [List.map_map, List.map_map]
      exact List.map_congr_left fun g' _ => release_relabel k id g'
    have hany (k : Nat) : ((gs.map (Frame.relabel (Scope.renumber f))).any fun g' =>
        g'.value.serial == k) = gs.any fun g' => g'.value.serial == k := by
      rw [List.any_map]
      rfl
    have howners : (st.renumber f).owners = st.owners := rfl
    have hscopes : (st.renumber f).scopes =
        g.relabel (Scope.renumber f) :: gs.map (Frame.relabel (Scope.renumber f)) := by
      rw [← List.map_cons, ← h]
      rfl
    rw [hscopes, howners]
    cases ho : st.owners.get? id with
    | none => rfl
    | some k =>
      dsimp only
      rw [hany, serial_relabel]
      by_cases hk : k = g.value.serial
      · rw [if_pos hk, if_pos hk]
      · rw [if_neg hk, if_neg hk]
        cases gs.any fun g' => g'.value.serial == k with
        | false => rfl
        | true =>
          rw [if_pos rfl, if_pos rfl, hrelease]
          rfl

theorem mention_renumber (id : String) (shape : Shape) (line : Int) :
    (st.renumber f).mention id shape (f line) = (st.mention id shape line).renumber f := by
  unfold mention
  rw [← claim_renumber]
  unfold renumber
  dsimp only
  rw [Registry.ensure_mapValues (g := Node.renumber f)]
  intro n
  rfl

theorem declare_renumber (id label : String) (shape : Shape) (line : Int) :
    (st.renumber f).declare id label shape (f line) =
      (st.declare id label shape line).renumber f := by
  have hnodes : (st.renumber f).nodes = st.nodes.mapValues (Node.renumber f) := rfl
  unfold declare
  rw [← claim_renumber, hnodes, OrderedMap.get?_mapValues, OrderedMap.size_mapValues]
  refine congrArg (claim · id) ?_
  cases st.nodes.get? id with
  | none =>
    dsimp only [Option.map_none, renumber]
    rw [← OrderedMap.insert_mapValues]
    rfl
  | some n =>
    dsimp only [Option.map_some, Node.renumber]
    by_cases hi : n.implicit
    · rw [if_pos hi, if_pos hi]
      dsimp only [renumber]
      rw [← OrderedMap.modify_mapValues]
      intro n'
      rfl
    · rw [if_neg hi, if_neg hi]
      by_cases hd : n.label = label ∧ n.shape = shape
      · rw [if_pos hd, if_pos hd]
      · rw [if_neg hd, if_neg hd]
        exact reportAt_renumber st line (.redeclared id n.line)

theorem assignClass_renumber (id className : String) :
    (st.renumber f).assignClass id className = (st.assignClass id className).renumber f := rfl

theorem noteTarget_renumber (id : String) :
    (st.renumber f).noteTarget (l.renumber f) id = (st.noteTarget l id).renumber f := by
  unfold noteTarget renumber
  dsimp only
  rw [Registry.ensure_mapValues (g := f)]
  intro n
  rfl

theorem noteLink_renumber (t : LinkTarget) :
    (st.renumber f).noteLink (l.renumber f) t = (st.noteLink l t).renumber f := by
  cases t with
  | default => rfl
  | index n =>
    have hlinks : (st.renumber f).linkLines = st.linkLines.mapValues f := rfl
    unfold noteLink
    dsimp only
    rw [hlinks, OrderedMap.contains_mapValues]
    split
    · rfl
    · dsimp only [renumber]
      rw [← OrderedMap.insert_mapValues]
      rfl

theorem applyDirective_renumber (d : Directive) :
    (st.renumber f).applyDirective (l.renumber f) d = (st.applyDirective l d).renumber f := by
  cases d with
  | classDef names properties =>
    unfold applyDirective
    dsimp only
    by_cases he : properties.entries.isEmpty
    · rw [if_pos he, if_pos he]
      rw [show (st.renumber f).report (l.renumber f) .emptyClassDef = _ from
        report_renumber st l .emptyClassDef]
      exact List.foldl_hom (renumber f) fun _ _ => rfl
    · rw [if_neg he, if_neg he]
      exact List.foldl_hom (renumber f) fun _ _ => rfl
  | assign ids className =>
    refine List.foldl_hom (renumber f) fun st id => ?_
    rw [assignClass_renumber, noteTarget_renumber]
  | style ids properties =>
    refine List.foldl_hom (renumber f) fun st id => ?_
    rw [← noteTarget_renumber]
    rfl
  | linkStyle targets properties =>
    refine List.foldl_hom (renumber f) fun st t => ?_
    rw [← noteLink_renumber]
    rfl
  | malformed => exact report_renumber st l (.malformedDirective l.text)

/-! ## The end -/

theorem closeUnclosed_renumber (family : Family) (g : Frame Scope) :
    closeUnclosed family (st.renumber f) (g.relabel (Scope.renumber f)) =
      (closeUnclosed family st g).renumber f := by
  unfold closeUnclosed
  rw [← closeScope_renumber]
  exact congrArg closeScope (reportAt_renumber st g.value.line (.unclosed family g.value.id))

theorem closeAll_renumber (family : Family) :
    (st.renumber f).closeAll family = (st.closeAll family).renumber f := by
  have key (gs : List (Frame Scope)) (st : State) :
      (gs.map (Frame.relabel (Scope.renumber f))).foldl (closeUnclosed family) (st.renumber f) =
        (gs.foldl (closeUnclosed family) st).renumber f := by
    rw [List.foldl_map]
    exact List.foldl_hom (renumber f) fun st g => closeUnclosed_renumber st family g
  exact key st.scopes st

theorem undeclaredTargets_renumber :
    (st.renumber f).undeclaredTargets = st.undeclaredTargets.map (renumberReport f) := by
  have hknown : (st.renumber f).nodes.keys ++
      (Tree.forestValues (st.renumber f).finished).map (·.id) =
        st.nodes.keys ++ (Tree.forestValues st.finished).map (·.id) := by
    unfold renumber
    dsimp only
    rw [OrderedMap.keys_mapValues, Tree.forestValues_relabelAll, List.map_map]
    rfl
  unfold undeclaredTargets
  rw [hknown]
  unfold renumber OrderedMap.mapValues
  dsimp only
  rw [List.filter_map, List.map_map, List.map_map]
  rfl

theorem missingLinks_renumber :
    (st.renumber f).missingLinks = st.missingLinks.map (renumberReport f) := by
  unfold missingLinks renumber OrderedMap.mapValues
  dsimp only
  rw [List.length_map, List.filter_map, List.map_map, List.map_map]
  rfl

/-- Finishing a graph at other lines gives the same graph at other lines. -/
theorem finish_renumber (family : Family) :
    (st.finish family).Renumbered f (Graph.renumber f) ((st.renumber f).finish family) := by
  unfold finish
  dsimp only
  rw [closeAll_renumber, undeclaredTargets_renumber, missingLinks_renumber]
  have hreports : ((st.closeAll family).renumber f).reports =
      (st.closeAll family).reports.map (renumberReport f) := rfl
  rw [hreports, ← List.map_append, ← List.map_append]
  exact renumbered_ofReports _ _

end State

end DiagramText.ScopeGraph

/-! ## Flowcharts -/

namespace DiagramText.Flowchart

open Source (Line)
open ScopeGraph (State Graph)

variable {f : Int → Int} (st : State) (l : Line)

theorem readHeader_renumber :
    readHeader (st.renumber f) (l.renumber f) = (readHeader st l).renumber f := by
  have htext : (l.renumber f).text = l.text := rfl
  unfold readHeader
  rw [htext]
  rcases header? l.text with _ | _ | token
  · exact st.report_renumber l (.invalidHeader l.text)
  · rfl
  · dsimp only
    cases Direction.ofName? (String.ofList (Text.upper token)) with
    | some d => rfl
    | none => exact st.report_renumber l (.unknownDirection (String.ofList token) st.direction)

theorem openSubgraph_renumber (head : SubgraphHead) :
    openSubgraph (st.renumber f) (l.renumber f) head = (openSubgraph st l head).renumber f := by
  cases head with
  | unnamed =>
    have hreport := State.report_renumber (f := f) { st with unnamed := st.unnamed + 1 } l .missingId
    unfold openSubgraph
    dsimp only
    rw [← State.openScope_renumber, ← hreport]
    rfl
  | named id label => exact st.openScope_renumber l id label
  | labelled label => exact st.openScope_renumber l _ label

theorem mention_renumber (m : Mention) :
    mention (st.renumber f) (l.renumber f) m = (mention st l m).renumber f := by
  have hnumber : (l.renumber f).number = f l.number := rfl
  unfold mention
  dsimp only
  cases m.form with
  | some form =>
    dsimp only
    rw [hnumber, State.declare_renumber]
    cases m.className with
    | some c => rfl
    | none => rfl
  | none =>
    dsimp only
    rw [hnumber, State.mention_renumber]
    cases m.className with
    | some c => rfl
    | none => rfl

theorem edges_renumber (line : Int) (sources targets : List String) (a : Arrow) :
    edges (f line) sources targets a =
      (edges line sources targets a).map (ScopeGraph.Edge.renumber f) := by
  unfold edges
  rw [List.map_flatMap]
  simp only [List.map_map]
  rfl

theorem reportWithin_renumber (offset : Nat) (p : ScopeGraph.Problem) :
    reportWithin (st.renumber f) (l.renumber f) offset (p.renumber f) =
      (reportWithin st l offset p).renumber f := by
  unfold reportWithin State.renumber
  rw [List.map_append]
  rfl

theorem takeStep_renumber (s : Step) :
    takeStep (l.renumber f) (st.renumber f) s = (takeStep l st s).renumber f := by
  cases s with
  | mention m => exact mention_renumber st l m
  | join sources targets a =>
    unfold takeStep State.renumber
    dsimp only
    rw [List.map_append, ← edges_renumber]
    rfl
  | unknownArrow token offset => exact reportWithin_renumber st l offset (.unknownArrow token)
  | missingTarget => exact st.report_renumber l (.missingTarget l.text)
  | unrecognisedText text offset =>
    exact reportWithin_renumber st l offset (.unrecognisedText text)
  | unrecognisedLine => exact st.report_renumber l (.unrecognisedLine l.text)

theorem step_renumber (s : Statement) :
    step (st.renumber f) (l.renumber f, s) = (step st (l, s)).renumber f := by
  cases s with
  | directive d => exact st.applyDirective_renumber l d
  | direction d => exact st.setDirection_renumber d
  | openSubgraph head => exact openSubgraph_renumber st l head
  | close => exact st.closeOrReport_renumber l .flowchart
  | interaction => exact st.report_renumber l (.interaction l.text)
  | chain steps => exact List.foldl_hom (State.renumber f) fun st s => takeStep_renumber st l s

theorem start_renumber (ls : List Line) (defaultDirection : String) :
    start (ls.map (Line.renumber f)) defaultDirection =
      (start ls defaultDirection).renumber f := by
  cases ls with
  | nil => rfl
  | cons l ls => exact readHeader_renumber { direction := defaultDirection } l

/-- A flowchart on lines with other numbers is the same flowchart at those lines. -/
theorem parse_renumber (ls : List Line) (defaultDirection : String) :
    SameOutcome (Parsed.Renumbered f (Graph.renumber f)) (parse ls defaultDirection)
      (parse (ls.map (Line.renumber f)) defaultDirection) := by
  have hread : statements (ls.map (Line.renumber f)).tail =
      (readLines Statement.recognise ls.tail).map fun xs => xs.map fun x => (x.1.renumber f, x.2) := by
    rw [← List.map_tail]
    exact readLines_renumber ls.tail
  unfold parse
  rw [hread, start_renumber]
  change SameOutcome _ (readLines Statement.recognise ls.tail >>= _) _
  cases readLines Statement.recognise ls.tail with
  | error e => exact .error e
  | ok xs =>
    have hsteps : (xs.map fun x => (x.1.renumber f, x.2)).foldl step
        ((start ls defaultDirection).renumber f) =
          (xs.foldl step (start ls defaultDirection)).renumber f := by
      rw [List.foldl_map]
      exact List.foldl_hom (State.renumber f) fun st x => step_renumber st x.1 x.2
    refine .ok ?_
    rw [hsteps]
    exact State.finish_renumber _ .flowchart

end DiagramText.Flowchart

/-! ## State diagrams -/

namespace DiagramText.StateChart

open Source (Line)
open ScopeGraph (State Graph)

variable {f : Int → Int} (st : State) (l : Line)

theorem outsideNotes_renumber (inNote : Bool) (ls : List Line) :
    outsideNotes inNote (ls.map (Line.renumber f)) =
      ((outsideNotes inNote ls).1.map (Line.renumber f), (outsideNotes inNote ls).2) := by
  induction ls generalizing inNote with
  | nil => cases inNote <;> rfl
  | cons l ls ih =>
    cases inNote with
    | true => exact ih _
    | false =>
      have htext : (l.renumber f).text = l.text := rfl
      rw [List.map_cons, outsideNotes, outsideNotes, htext, ih]
      rfl

theorem readSource_renumber (e : Endpoint) :
    readSource (st.renumber f) (l.renumber f) e =
      ((readSource st l e).1.renumber f, (readSource st l e).2) := by
  cases e with
  | state id => exact congrArg (·, id) (st.mention_renumber id .rounded l.number)
  | star =>
    refine congrArg (·, starName "start" (st.starts + 1)) ?_
    exact State.declare_renumber { st with starts := st.starts + 1 } _ "" .stateStart l.number

theorem readTarget_renumber (e : Endpoint) :
    readTarget (st.renumber f) (l.renumber f) e =
      ((readTarget st l e).1.renumber f, (readTarget st l e).2) := by
  cases e with
  | state id => exact congrArg (·, id) (st.mention_renumber id .rounded l.number)
  | star =>
    refine congrArg (·, starName "end" (st.ends + 1)) ?_
    exact State.declare_renumber { st with ends := st.ends + 1 } _ "" .stateEnd l.number

theorem addTransition_renumber (source target : Endpoint) (label : Option String) :
    addTransition (st.renumber f) (l.renumber f) source target label =
      (addTransition st l source target label).renumber f := by
  unfold addTransition
  rw [readSource_renumber]
  dsimp only
  rw [readTarget_renumber]
  dsimp only [State.renumber]
  rw [List.map_append]
  rfl

theorem step_renumber (s : Statement) :
    step (st.renumber f) (l.renumber f, s) = (step st (l, s)).renumber f := by
  cases s with
  | directive d => exact st.applyDirective_renumber l d
  | direction d => exact st.setDirection_renumber d
  | openComposite id label => exact st.openScope_renumber l id label
  | close => exact st.closeOrReport_renumber l .state
  | separator => rfl
  | note kind => rfl
  | declare id label shape => exact st.declare_renumber id label shape l.number
  | transition source target label => exact addTransition_renumber st l source target label
  | mention id => exact st.mention_renumber id .rounded l.number
  | unrecognised => exact st.report_renumber l (.unrecognisedLine l.text)

theorem reportOpenNote_renumber (isOpen : Bool) (ls : List Line) :
    reportOpenNote (st.renumber f) isOpen (ls.map (Line.renumber f)) =
      (reportOpenNote st isOpen ls).renumber f := by
  unfold reportOpenNote
  rw [List.getLast?_map]
  cases isOpen with
  | false => rfl
  | true =>
    cases ls.getLast? with
    | none => rfl
    | some l => exact st.reportAt_renumber l.number .unclosedNote

/-- A state diagram on lines with other numbers is the same state diagram at those lines. -/
theorem parse_renumber (ls : List Line) :
    SameOutcome (Parsed.Renumbered f (Graph.renumber f)) (parse ls)
      (parse (ls.map (Line.renumber f))) := by
  have hnotes := outsideNotes_renumber (f := f) false ls.tail
  rw [List.map_tail] at hnotes
  have hread : statements ((outsideNotes false ls.tail).1.map (Line.renumber f)) =
      (readLines Statement.recognise (outsideNotes false ls.tail).1).map fun xs =>
        xs.map fun x => (x.1.renumber f, x.2) := readLines_renumber _
  unfold parse
  rw [hnotes]
  dsimp only
  rw [hread]
  change SameOutcome _ (readLines Statement.recognise _ >>= _) _
  cases readLines Statement.recognise (outsideNotes false ls.tail).1 with
  | error e => exact .error e
  | ok xs =>
    have hsteps (st : State) : (xs.map fun x => (x.1.renumber f, x.2)).foldl step (st.renumber f) =
        (xs.foldl step st).renumber f := by
      rw [List.foldl_map]
      exact List.foldl_hom (State.renumber f) fun st x => step_renumber st x.1 x.2
    refine .ok ?_
    rw [show ({ direction := Direction.topDown.name } : State) =
      State.renumber f { direction := Direction.topDown.name } from rfl]
    rw [hsteps, reportOpenNote_renumber]
    exact State.finish_renumber _ .state

end DiagramText.StateChart
