import DiagramText.Proofs.ScopeGraph.Brackets

/-!
# Where the direction of a flowchart comes from

The direction that the caller wishes for stands in the state of a flowchart from the start, until
the header or a `direction` statement outside every subgraph replaces it.  Nothing but one report
about the header reads it, so it has no influence on the rest of the graph.

1. `State.headed`: a graph below a header that has left a direction and reports.  Every step
   commutes with it, except a direction that is set while no scope is open.
2. `outerDirections`, the directions that are set outside every subgraph.
3. `Flowchart.parse_eq_headed`: the graph without its direction, and the direction.
-/

namespace DiagramText.ScopeGraph

open Source (Line)

namespace State

/-! ## Steps below a header -/

/-- The graph being built below a header that has left a direction and reports. -/
def headed (direction : String) (rs : List (Report Problem)) (st : State) : State :=
  { st with direction, reports := rs ++ st.reports }

variable (st : State) (l : Line) (direction : String) (rs : List (Report Problem))

theorem addReport_headed (r : Report Problem) :
    { st.headed direction rs with reports := (st.headed direction rs).reports ++ [r] } =
      headed direction rs { st with reports := st.reports ++ [r] } := by
  unfold headed
  dsimp only
  rw [List.append_assoc]

theorem closeScope_headed :
    (st.headed direction rs).closeScope = st.closeScope.headed direction rs := by
  unfold closeScope
  rcases h : st.scopes with _ | ⟨g, _ | ⟨g', gs⟩⟩ <;> simp only [headed, h]

theorem closeOrReport_headed (family : Family) :
    (st.headed direction rs).closeOrReport family l =
      (st.closeOrReport family l).headed direction rs := by
  have hscopes : (st.headed direction rs).scopes = st.scopes := rfl
  unfold closeOrReport
  rw [hscopes]
  split
  · exact addReport_headed st direction rs _
  · exact closeScope_headed st direction rs

theorem claim_headed (id : String) :
    (st.headed direction rs).claim id = (st.claim id).headed direction rs := by
  have hscopes : (st.headed direction rs).scopes = st.scopes := rfl
  have howners : (st.headed direction rs).owners = st.owners := rfl
  unfold claim
  rw [hscopes, howners]
  rcases st.scopes with _ | ⟨g, gs⟩
  · rfl
  · cases st.owners.get? id with
    | none => rfl
    | some k =>
      dsimp only
      by_cases hk : k = g.value.serial
      · rw [if_pos hk, if_pos hk]
      · rw [if_neg hk, if_neg hk]
        cases gs.any fun g' => g'.value.serial == k with
        | false => rfl
        | true => rfl

theorem mention_headed (id : String) (shape : Shape) (line : Int) :
    (st.headed direction rs).mention id shape line =
      (st.mention id shape line).headed direction rs := by
  unfold mention
  rw [← claim_headed]
  rfl

theorem declare_headed (id label : String) (shape : Shape) (line : Int) :
    (st.headed direction rs).declare id label shape line =
      (st.declare id label shape line).headed direction rs := by
  have hnodes : (st.headed direction rs).nodes = st.nodes := rfl
  unfold declare
  rw [← claim_headed, hnodes]
  refine congrArg (claim · id) ?_
  cases st.nodes.get? id with
  | none => rfl
  | some n =>
    dsimp only
    by_cases hi : n.implicit
    · rw [if_pos hi, if_pos hi]
      rfl
    · rw [if_neg hi, if_neg hi]
      by_cases hd : n.label = label ∧ n.shape = shape
      · rw [if_pos hd, if_pos hd]
      · rw [if_neg hd, if_neg hd]
        exact addReport_headed st direction rs _

theorem noteLink_headed (t : LinkTarget) :
    (st.headed direction rs).noteLink l t = (st.noteLink l t).headed direction rs := by
  have hlinks : (st.headed direction rs).linkLines = st.linkLines := rfl
  cases t with
  | default => rfl
  | index n =>
    unfold noteLink
    dsimp only
    rw [hlinks]
    split
    · rfl
    · rfl

theorem applyDirective_headed (d : Directive) :
    (st.headed direction rs).applyDirective l d =
      (st.applyDirective l d).headed direction rs := by
  cases d with
  | classDef names properties =>
    unfold applyDirective
    dsimp only
    by_cases he : properties.entries.isEmpty
    · rw [if_pos he, if_pos he]
      rw [show (st.headed direction rs).report l .emptyClassDef = _ from
        addReport_headed st direction rs _]
      exact List.foldl_hom (headed direction rs) fun _ _ => rfl
    · rw [if_neg he, if_neg he]
      exact List.foldl_hom (headed direction rs) fun _ _ => rfl
  | assign ids className => exact List.foldl_hom (headed direction rs) fun _ _ => rfl
  | style ids properties => exact List.foldl_hom (headed direction rs) fun _ _ => rfl
  | linkStyle targets properties =>
    refine List.foldl_hom (headed direction rs) fun st t => ?_
    rw [← noteLink_headed]
    rfl
  | malformed => exact addReport_headed st direction rs _

theorem closeAll_headed (family : Family) :
    (st.headed direction rs).closeAll family = (st.closeAll family).headed direction rs := by
  refine List.foldl_hom (headed direction rs) fun st g => ?_
  unfold closeUnclosed
  rw [← closeScope_headed]
  exact congrArg closeScope (addReport_headed st direction rs _)

/-- The reports of a header come first, and its direction is that of the finished graph. -/
theorem finish_headed (family : Family) :
    (st.headed direction rs).finish family =
      ⟨{ (st.finish family).diagram with direction },
        rs.map Report.toDiagnostic ++ (st.finish family).diagnostics⟩ := by
  unfold finish Parsed.ofReports
  dsimp only
  rw [closeAll_headed, ← List.map_append, ← List.append_assoc, ← List.append_assoc]
  rfl

end State

end DiagramText.ScopeGraph

namespace DiagramText.Flowchart

open Source (Line)
open ScopeGraph (State Problem)

/-! ## Statements below a header -/

section

variable (st : State) (l : Line) (direction : String) (rs : List (Report Problem))

theorem mention_headed (m : Mention) :
    mention (st.headed direction rs) l m = (mention st l m).headed direction rs := by
  unfold mention
  dsimp only
  cases m.form with
  | some form =>
    dsimp only
    rw [State.declare_headed]
    cases m.className with
    | some c => rfl
    | none => rfl
  | none =>
    dsimp only
    rw [State.mention_headed]
    cases m.className with
    | some c => rfl
    | none => rfl

theorem takeStep_headed (s : Step) :
    takeStep l (st.headed direction rs) s = (takeStep l st s).headed direction rs := by
  cases s with
  | mention m => exact mention_headed st l direction rs m
  | join sources targets a => rfl
  | unknownArrow token offset => exact st.addReport_headed direction rs _
  | missingTarget => exact st.addReport_headed direction rs _
  | unrecognisedText text offset => exact st.addReport_headed direction rs _
  | unrecognisedLine => exact st.addReport_headed direction rs _

theorem openSubgraph_headed (head : SubgraphHead) :
    openSubgraph (st.headed direction rs) l head =
      (openSubgraph st l head).headed direction rs := by
  cases head with
  | unnamed =>
    have hreport := State.addReport_headed { st with unnamed := st.unnamed + 1 } direction rs
      (l.report .missingId)
    exact congrArg (State.openScope · l _ "") hreport
  | named id label => rfl
  | labelled label => rfl

end

/-! ## Directions outside every subgraph -/

/-- The number of open subgraphs behind a statement. -/
def Statement.depth (depth : Nat) : Statement → Nat
  | .openSubgraph _ => depth + 1
  | .close => depth - 1
  | _ => depth

/-- The direction that a statement sets while no subgraph is open. -/
def Statement.outerDirection? (depth : Nat) : Statement → Option Direction
  | .direction d => if depth = 0 then some d else none
  | _ => none

/-- The directions that statements set outside every subgraph, where `depth` subgraphs are open in
front of them. -/
def outerDirections : (depth : Nat) → List Statement → List Direction
  | _, [] => []
  | depth, s :: ss => (s.outerDirection? depth).toList ++ outerDirections (s.depth depth) ss

theorem length_scopes_step (st : State) (l : Line) (s : Statement) :
    (step st (l, s)).scopes.length = s.depth st.scopes.length := by
  have hturn := turn_step st l s
  cases s with
  | openSubgraph head => cases head <;> rfl
  | close =>
    show (State.closeOrReport st .flowchart l).scopes.length = st.scopes.length - 1
    unfold State.closeOrReport
    by_cases hs : st.scopes.isEmpty
    · rw [if_pos hs]
      have hnil : st.scopes = [] := List.isEmpty_iff.1 hs
      show st.scopes.length = _
      rw [hnil]
      rfl
    · rw [if_neg hs, State.length_scopes_closeScope]
  | directive _ | direction _ | interaction | chain _ =>
    cases hturn with
    | aside h => exact h.scopes.length_eq.symm

theorem setDirection_headed (st : State) (direction : String) (rs : List (Report Problem))
    (d : Direction) :
    (st.headed direction rs).setDirection d =
      (st.setDirection d).headed
        (((Statement.direction d).outerDirection? st.scopes.length).elim direction Direction.name)
        rs := by
  unfold State.setDirection
  rcases h : st.scopes with _ | ⟨g, gs⟩ <;> simp only [State.headed, h] <;> rfl

/-- A statement does the same below every header, and may replace the direction. -/
theorem step_headed (st : State) (direction : String) (rs : List (Report Problem)) (l : Line)
    (s : Statement) :
    step (st.headed direction rs) (l, s) =
      (step st (l, s)).headed
        ((s.outerDirection? st.scopes.length).elim direction Direction.name) rs := by
  cases s with
  | directive d => exact st.applyDirective_headed l direction rs d
  | direction d => exact setDirection_headed st direction rs d
  | openSubgraph head => exact openSubgraph_headed st l direction rs head
  | close => exact st.closeOrReport_headed l direction rs .flowchart
  | interaction => exact st.addReport_headed direction rs _
  | chain steps =>
    exact List.foldl_hom (State.headed direction rs) fun st s => takeStep_headed st l direction rs s

/-- Statements do the same below every header; the last direction that is set outside every
subgraph counts. -/
theorem foldl_step_headed (xs : List (Line × Statement)) (st : State) (direction : String)
    (rs : List (Report Problem)) :
    xs.foldl step (st.headed direction rs) =
      (xs.foldl step st).headed
        ((outerDirections st.scopes.length (xs.map (·.2))).getLast?.elim direction
          Direction.name) rs := by
  induction xs generalizing st direction with
  | nil => rfl
  | cons x xs ih =>
    obtain ⟨l, s⟩ := x
    rw [List.foldl_cons, List.foldl_cons, step_headed, ih, length_scopes_step]
    congr 1
    rw [List.map_cons, outerDirections]
    cases s.outerDirection? st.scopes.length with
    | none => rfl
    | some d =>
      rw [Option.toList_some, List.singleton_append, List.getLast?_cons]
      cases (outerDirections (s.depth st.scopes.length) (xs.map (·.2))).getLast? with
      | none => rfl
      | some d' => rfl

/-! ## Headers -/

/-- The direction that a header names, if it names one that exists. -/
def headerDirection? (l : Line) : Option Direction :=
  match header? l.text with
  | some (some token) => Direction.ofName? (String.ofList (Text.upper token))
  | _ => none

/-- A header leaves a direction and reports, and nothing else. -/
theorem readHeader_eq_headed (l : Line) (wish : String) :
    readHeader { direction := wish } l =
      State.headed ((headerDirection? l).elim wish Direction.name)
        (readHeader { direction := wish } l).reports { direction := "" } := by
  unfold readHeader headerDirection?
  rcases header? l.text with _ | _ | token
  · rfl
  · rfl
  · dsimp only
    cases Direction.ofName? (String.ofList (Text.upper token)) with
    | some d => rfl
    | none => rfl

theorem start_eq_headed (ls : List Line) (wish : String) :
    start ls wish =
      State.headed ((ls.head?.bind headerDirection?).elim wish Direction.name)
        (start ls wish).reports { direction := "" } := by
  cases ls with
  | nil => rfl
  | cons l ls => exact readHeader_eq_headed l wish

/-- The wish of the caller is quoted by at most one report. -/
theorem reports_readHeader (l : Line) (wish wish' : String) :
    (readHeader { direction := wish' } l).reports = (readHeader { direction := wish } l).reports ∨
      headerDirection? l = none ∧ ∃ token : String,
        (readHeader { direction := wish } l).reports = [l.report (.unknownDirection token wish)] ∧
        (readHeader { direction := wish' } l).reports =
          [l.report (.unknownDirection token wish')] := by
  unfold readHeader headerDirection?
  rcases header? l.text with _ | _ | token
  · exact .inl rfl
  · exact .inl rfl
  · dsimp only
    cases Direction.ofName? (String.ofList (Text.upper token)) with
    | some d => exact .inl rfl
    | none => exact .inr ⟨rfl, String.ofList token, rfl, rfl⟩

/-! ## Flowcharts -/

/-- The direction that lines name: the last one set outside every subgraph, or else that of the
header. -/
def namedDirection? (ls : List Line) (xs : List (Line × Statement)) : Option Direction :=
  (outerDirections 0 (xs.map (·.2))).getLast?.or (ls.head?.bind headerDirection?)

/-- **The caller's direction.** A flowchart is made of a graph that does not depend on the wish of
the caller and of a direction; the wish is the direction unless the lines name one.  The reports
about the header come first. -/
theorem parse_eq_headed (ls : List Line) (wish : String) :
    parse ls wish = (statements ls.tail).map fun xs =>
      let p := State.finish (xs.foldl step { direction := "" }) .flowchart
      ⟨{ p.diagram with direction := (namedDirection? ls xs).elim wish Direction.name },
        (start ls wish).reports.map Report.toDiagnostic ++ p.diagnostics⟩ := by
  unfold parse
  cases statements ls.tail with
  | error fault => rfl
  | ok xs =>
    have hdirection : (namedDirection? ls xs).elim wish Direction.name =
        (outerDirections 0 (xs.map (·.2))).getLast?.elim
          ((ls.head?.bind headerDirection?).elim wish Direction.name) Direction.name := by
      unfold namedDirection?
      cases (outerDirections 0 (xs.map (·.2))).getLast? with
      | none => rfl
      | some d => rfl
    refine congrArg Except.ok ?_
    rw [start_eq_headed, foldl_step_headed, State.finish_headed, ← start_eq_headed]
    dsimp only
    rw [hdirection]
    rfl

end DiagramText.Flowchart
