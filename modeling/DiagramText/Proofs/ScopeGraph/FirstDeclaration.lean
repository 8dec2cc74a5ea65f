import DiagramText.Proofs.Reports
import DiagramText.Proofs.ScopeGraph.Namings
import DiagramText.Proofs.Wording

/-!
# The first declaration wins

However the places where a node is named follow each other, the node is known from them: it has the
line of the first place, and label and shape of the first declaration.  A later declaration that
gives it another label or shape is answered with a warning.

1. `Node.FirstWins` says this of a node, the lines of the warnings about it, and the places where it
   is named; and it says what becomes of it at one more place.
2. `Told`, the same for an id in a graph that is being built, and `Tells`, what a step adds.  The
   relation composes, so that a reader needs one fact per statement.
3. The warnings about a node are known by the id that they quote, because ids hold no quotes.
-/

namespace DiagramText

open Source (Line)

namespace ScopeGraph

/-! ## One node -/

/-- A place where a node gets a label and a shape. -/
structure Declaration where
  label : String
  shape : Shape
  line : Int
deriving Repr, DecidableEq

/-- Whether a further declaration gives another label or shape. -/
def Declaration.conflicts (d c : Declaration) : Bool := d.label != c.label || d.shape != c.shape

/-- The declarations among some namings. -/
def declarations (xs : List Naming) : List Declaration :=
  xs.filterMap fun x => x.form.map fun f => ⟨f.1, f.2, x.line⟩

/-- A node without a declaration is implicit, without a label and of the usual shape.  Otherwise the
first declaration gives label and shape, and the later ones that conflict with it are warned of. -/
def Node.ObeysFirst (default : Shape) (n : Node) (warned : List Int) : List Declaration → Prop
  | [] => n.label = "" ∧ n.shape = default ∧ n.implicit = true ∧ warned = []
  | d :: later =>
    n.label = d.label ∧ n.shape = d.shape ∧ n.implicit = false ∧
      warned = (later.filter d.conflicts).map (·.line)

/-- A node that is named at some places has the line of the first one and obeys the first
declaration among them; warnings are given at some lines. -/
structure Node.FirstWins (default : Shape) (n : Node) (warned : List Int) (xs : List Naming) :
    Prop where
  line : xs.head?.map (·.line) = some n.line
  form : n.ObeysFirst default warned (declarations xs)

namespace Node.FirstWins

variable {default : Shape} {n : Node} {warned : List Int} {xs : List Naming}

theorem head?_concat (h : n.FirstWins default warned xs) (x : Naming) :
    (xs ++ [x]).head?.map (·.line) = some n.line := by
  obtain ⟨first, hfirst, -⟩ := Option.map_eq_some_iff.1 h.line
  rw [List.head?_append, hfirst, Option.some_or, ← hfirst]
  exact h.line

/-- A mention changes nothing. -/
theorem mention (h : n.FirstWins default warned xs) (id : String) (line : Int) :
    n.FirstWins default warned (xs ++ [⟨id, none, line⟩]) := by
  refine ⟨h.head?_concat _, ?_⟩
  unfold declarations
  rw [List.filterMap_append]
  exact (List.append_nil (declarations xs)).symm ▸ h.form

theorem declarations_concat (xs : List Naming) (id label : String) (shape : Shape) (line : Int) :
    declarations (xs ++ [⟨id, some (label, shape), line⟩]) =
      declarations xs ++ [⟨label, shape, line⟩] := List.filterMap_append

/-- The first declaration of a node. -/
theorem declare_implicit (h : n.FirstWins default warned xs) (himplicit : n.implicit = true)
    (id label : String) (shape : Shape) (line : Int) :
    Node.FirstWins default { n with label, shape, implicit := false } warned
      (xs ++ [⟨id, some (label, shape), line⟩]) := by
  refine ⟨h.head?_concat _, ?_⟩
  have hform := h.form
  rw [declarations_concat]
  cases hds : declarations xs with
  | nil =>
    rw [hds] at hform
    exact ⟨rfl, rfl, rfl, hform.2.2.2⟩
  | cons d later =>
    rw [hds] at hform
    rw [hform.2.2.1] at himplicit
    cases himplicit

/-- A further declaration of a node: it is warned of if it conflicts with the node. -/
theorem declare_explicit (h : n.FirstWins default warned xs) (hexplicit : n.implicit = false)
    (id label : String) (shape : Shape) (line : Int) :
    n.FirstWins default (warned ++ if n.label = label ∧ n.shape = shape then [] else [line])
      (xs ++ [⟨id, some (label, shape), line⟩]) := by
  refine ⟨h.head?_concat _, ?_⟩
  have hform := h.form
  rw [declarations_concat]
  cases hds : declarations xs with
  | nil =>
    rw [hds] at hform
    rw [hform.2.2.1] at hexplicit
    cases hexplicit
  | cons d later =>
    rw [hds] at hform
    obtain ⟨hlabel, hshape, -, hwarned⟩ := hform
    refine ⟨hlabel, hshape, hexplicit, ?_⟩
    show _ = ((later ++ [_]).filter d.conflicts).map Declaration.line
    rw [List.filter_append, List.map_append, hwarned, hlabel, hshape]
    congr 1
    by_cases hsame : d.label = label ∧ d.shape = shape
    · simp [Declaration.conflicts, hsame]
    · have hconflict : d.conflicts ⟨label, shape, line⟩ = true := by
        rcases not_and_or.1 hsame with hother | hother <;> simp [Declaration.conflicts, hother]
      rw [if_neg hsame, List.filter_cons_of_pos hconflict]
      rfl

end Node.FirstWins

/-! ## Graphs -/

/-- Whether a problem is that a node is declared again in another way. -/
def Problem.redeclares (id : String) : Problem → Bool
  | .redeclared id' _ => id' == id
  | _ => false

/-- What a graph and the reports so far tell about an id that has been named at some places. -/
structure Told (default : Shape) (nodes : Registry Node) (reports : List (Report Problem))
    (id : String) (xs : List Naming) : Prop where
  absent : nodes.get? id = none → xs = [] ∧ reportLines (Problem.redeclares id) reports = []
  present : ∀ n, nodes.get? id = some n →
    n.FirstWins default (reportLines (Problem.redeclares id) reports) xs

theorem Told.congr {default : Shape} {nodes nodes' : Registry Node}
    {reports reports' : List (Report Problem)} {id : String} {xs : List Naming}
    (h : Told default nodes reports id xs) (hnode : nodes'.get? id = nodes.get? id)
    (hlines : reportLines (Problem.redeclares id) reports' =
      reportLines (Problem.redeclares id) reports) : Told default nodes' reports' id xs := by
  refine ⟨fun hn => ?_, fun n hn => ?_⟩
  · rw [hlines]
    exact h.absent (hnode ▸ hn)
  · rw [hlines]
    exact h.present n (hnode ▸ hn)

/-- Naming nodes at some places takes one state to another. -/
def Tells (default : Shape) (st : State) (ns : List Naming) (st' : State) : Prop :=
  ∀ id xs, Told default st.nodes st.reports id xs →
    Told default st'.nodes st'.reports id (xs ++ ns.filter (·.id == id))

/-- The report of a conflict is made where a node is declared, and nowhere else. -/
abbrev KeepsQuiet (rs rs' : List (Report Problem)) : Prop :=
  Appends (fun r => ∀ id, r.problem.redeclares id = false) rs rs'

theorem KeepsQuiet.reportLines {rs rs' : List (Report Problem)} (h : KeepsQuiet rs rs')
    (id : String) :
    reportLines (Problem.redeclares id) rs' = reportLines (Problem.redeclares id) rs := by
  obtain ⟨new, rfl, hnew⟩ := h
  rw [reportLines_append, reportLines_of_false fun r hr => hnew r hr id, List.append_nil]

namespace Tells

variable {default : Shape} {st st' st'' : State} {ns ns' : List Naming}

theorem trans (h : Tells default st ns st') (h' : Tells default st' ns' st'') :
    Tells default st (ns ++ ns') st'' := by
  intro id xs htold
  rw [List.filter_append, ← List.append_assoc]
  exact h' id _ (h id xs htold)

/-- A step that names no node. -/
theorem silent (hnodes : st'.nodes = st.nodes) (hreports : KeepsQuiet st.reports st'.reports) :
    Tells default st [] st' := by
  intro id xs htold
  rw [List.filter_nil, List.append_nil]
  exact htold.congr (by rw [hnodes]) (hreports.reportLines id)

/-- A step that names one node and leaves the others alone. -/
theorem single {x : Naming} (hother : ∀ id, id ≠ x.id →
      st'.nodes.get? id = st.nodes.get? id ∧
        reportLines (Problem.redeclares id) st'.reports =
          reportLines (Problem.redeclares id) st.reports)
    (hself : ∀ xs, Told default st.nodes st.reports x.id xs →
      Told default st'.nodes st'.reports x.id (xs ++ [x])) : Tells default st [x] st' := by
  intro id xs htold
  by_cases hid : id = x.id
  · rw [hid] at htold ⊢
    have hx : [x].filter (·.id == x.id) = [x] := List.filter_cons_of_pos (beq_self_eq_true x.id)
    rw [hx]
    exact hself xs htold
  · obtain ⟨hnode, hlines⟩ := hother id hid
    rw [List.filter_cons_of_neg (by simpa using Ne.symm hid), List.filter_nil, List.append_nil]
    exact htold.congr hnode hlines

theorem foldl {α : Type} {namings : α → List Naming} {f : State → α → State}
    (hf : ∀ st a, Tells default st (namings a) (f st a)) (as : List α) (st : State) :
    Tells default st (as.flatMap namings) (as.foldl f st) := by
  induction as generalizing st with
  | nil => exact .silent rfl (.refl _)
  | cons a as ih => exact (hf st a).trans (ih (f st a))

end Tells

namespace State

variable {default : Shape} (st : State)

theorem tells_mention (id : String) (line : Int) :
    Tells default st [⟨id, none, line⟩] (st.mention id default line) := by
  have hreports : (st.mention id default line).reports = st.reports := st.reports_mention ..
  apply Tells.single
  · intro id' hid
    rw [hreports]
    unfold mention
    rw [nodes_claim]
    exact ⟨Registry.get?_ensure_of_ne _ _ hid, rfl⟩
  · intro xs htold
    rw [hreports]
    unfold mention
    rw [nodes_claim]
    refine ⟨fun h => ?_, fun n h => ?_⟩
    · rw [Registry.get?_ensure_self] at h
      cases h
    · rw [Registry.get?_ensure_self] at h
      cases hn : st.nodes.get? id with
      | none =>
        obtain ⟨rfl, hlines⟩ := htold.absent hn
        rw [hn] at h
        cases h
        exact ⟨rfl, rfl, rfl, rfl, hlines⟩
      | some n' =>
        rw [hn] at h
        cases h
        exact (htold.present n' hn).mention id line

theorem reportLines_redeclared_self (c : Prop) [Decidable c] (id : String) (first line : Int) :
    reportLines (Problem.redeclares id)
        (if c then [] else [⟨.redeclared id first, line, none⟩]) = if c then [] else [line] := by
  split
  · rfl
  · exact reportLines_of_true (List.forall_mem_singleton.2 (beq_self_eq_true id))

theorem reportLines_redeclared_of_ne (c : Prop) [Decidable c] {id id' : String} (h : id' ≠ id)
    {first line : Int} :
    reportLines (Problem.redeclares id')
        (if c then [] else [⟨.redeclared id first, line, none⟩]) = [] := by
  split
  · rfl
  · exact reportLines_of_false (List.forall_mem_singleton.2 (beq_false_of_ne h.symm))

/-! What a declaration does depends on the node. -/

section

variable {id : String} {n : Node} (label : String) (shape : Shape) (line : Int)

theorem declare_unknown (h : st.nodes.get? id = none) :
    (st.declare id label shape line).nodes = st.nodes.insert id
        { id, label, shape, declaredOrder := st.nodes.size, implicit := false, line } ∧
      (st.declare id label shape line).reports = st.reports := by
  unfold declare
  rw [nodes_claim, reports_claim, h]
  exact ⟨rfl, rfl⟩

theorem declare_implicit (h : st.nodes.get? id = some n) (himplicit : n.implicit = true) :
    (st.declare id label shape line).nodes =
        st.nodes.modify id (fun n => { n with label, shape, implicit := false }) ∧
      (st.declare id label shape line).reports = st.reports := by
  unfold declare
  rw [nodes_claim, reports_claim, h]
  dsimp only
  rw [if_pos himplicit]
  exact ⟨rfl, rfl⟩

theorem declare_explicit (h : st.nodes.get? id = some n) (hexplicit : n.implicit = false) :
    (st.declare id label shape line).nodes = st.nodes ∧
      (st.declare id label shape line).reports = st.reports ++
        if n.label = label ∧ n.shape = shape then []
        else [⟨.redeclared id n.line, line, none⟩] := by
  unfold declare
  rw [nodes_claim, reports_claim, h]
  dsimp only
  rw [if_neg (Bool.eq_false_iff.1 hexplicit)]
  split
  · exact ⟨rfl, (List.append_nil _).symm⟩
  · exact ⟨rfl, rfl⟩

end

theorem tells_declare (id label : String) (shape : Shape) (line : Int) :
    Tells default st [⟨id, some (label, shape), line⟩] (st.declare id label shape line) := by
  cases hn : st.nodes.get? id with
  | none =>
    obtain ⟨hnodes, hreports⟩ := st.declare_unknown label shape line hn
    apply Tells.single
    · intro id' hid
      rw [hnodes, hreports]
      exact ⟨OrderedMap.get?_insert_of_ne _ _ hid, rfl⟩
    · intro xs htold
      rw [hnodes, hreports]
      obtain ⟨rfl, hlines⟩ := htold.absent hn
      refine ⟨fun h => ?_, fun n h => ?_⟩
      · rw [OrderedMap.get?_insert_self] at h
        cases h
      · rw [OrderedMap.get?_insert_self] at h
        cases h
        exact ⟨rfl, rfl, rfl, rfl, hlines⟩
  | some n =>
    cases himplicit : n.implicit with
    | true =>
      obtain ⟨hnodes, hreports⟩ := st.declare_implicit label shape line hn himplicit
      apply Tells.single
      · intro id' hid
        rw [hnodes, hreports]
        exact ⟨OrderedMap.get?_modify_of_ne _ _ hid, rfl⟩
      · intro xs htold
        rw [hnodes, hreports]
        refine ⟨fun h => ?_, fun n' h => ?_⟩
        · rw [OrderedMap.get?_modify_self, hn] at h
          cases h
        · rw [OrderedMap.get?_modify_self, hn] at h
          cases h
          exact (htold.present n hn).declare_implicit himplicit id label shape line
    | false =>
      obtain ⟨hnodes, hreports⟩ := st.declare_explicit label shape line hn himplicit
      apply Tells.single
      · intro id' hid
        rw [hnodes, hreports, reportLines_append, reportLines_redeclared_of_ne _ hid,
          List.append_nil]
        exact ⟨rfl, rfl⟩
      · intro xs htold
        rw [hnodes, hreports]
        refine ⟨fun h => ?_, fun n' h => ?_⟩
        · rw [hn] at h
          cases h
        · obtain rfl : n = n' := Option.some.inj (hn.symm.trans h)
          rw [reportLines_append, reportLines_redeclared_self]
          exact (htold.present n hn).declare_explicit himplicit id label shape line

end State

/-! ## The end of a run -/

/-- How a warning starts that a node is declared already. -/
def redeclaredWords (id : String) : List String := [s!"Node '{id}' is already declared"]

/-- A graph with its diagnostics, whose nodes are named at some places. -/
def NamesFirst (default : Shape) (ns : List Naming) (p : Parsed Graph) : Prop :=
  ∀ id n, p.diagram.nodes.get? id = some n →
    n.id = id ∧ n.FirstWins default
      ((p.diagnostics.filter (·.warns (redeclaredWords id))).map (·.line))
      (ns.filter (·.id == id))

theorem ne_quote_of_isId {id : String} (h : IsId id) : ∀ c ∈ id.toList, (c != '\'') = true := by
  intro c hc
  have hword := h c hc
  rw [bne_iff_ne]
  rintro rfl
  exact absurd hword (by decide)

/-- Two ids in front of a quote are told apart by any text that goes on from there. -/
theorem eq_of_before_quote {id id' : String} (h : IsId id) (h' : IsId id') {t u : List Char}
    (hpre : id.toList ++ '\'' :: t <+: id'.toList ++ '\'' :: u) : id' = id := by
  obtain ⟨v, hv⟩ := hpre
  rw [List.append_assoc] at hv
  have hcut := congrArg (List.takeWhile (· != '\'')) hv
  rw [List.cons_append, Text.takeWhile_append_cons (ne_quote_of_isId h) rfl,
    Text.takeWhile_append_cons (ne_quote_of_isId h') rfl] at hcut
  exact String.toList_inj.1 hcut.symm

theorem isPrefixOf_redeclared {id id' : String} (h : IsId id) (h' : IsId id') (first : Int) :
    s!"Node '{id}' is already declared".toList.isPrefixOf
      (Describe.message (Problem.redeclared id' first)).toList = (id' == id) := by
  have hmessage : "' is already declared on line ".toList =
      "' is already declared".toList ++ " on line ".toList := by decide
  have hquote : "' is already declared".toList = '\'' :: " is already declared".toList := by decide
  rw [Bool.eq_iff_iff, List.isPrefixOf_iff_prefix, beq_iff_eq]
  simp only [Describe.message, toString, String.toList_append, List.append_assoc, hmessage,
    List.prefix_append_right_inj]
  constructor
  · intro hpre
    rw [hquote] at hpre
    exact eq_of_before_quote h h' hpre
  · rintro rfl
    exact (List.prefix_append_right_inj _).2 (List.prefix_append _ _)

theorem warns_redeclaredWords {id : String} (hid : IsId id) {r : Report Problem}
    (hr : ∀ id' first, r.problem = .redeclared id' first → IsId id') :
    r.toDiagnostic.warns (redeclaredWords id) = r.problem.redeclares id := by
  obtain ⟨problem, line, column⟩ := r
  cases problem with
  | redeclared id' first =>
    show (true && (_ || false)) = _
    rw [Bool.or_false, Bool.true_and]
    exact isPrefixOf_redeclared hid (hr id' first rfl) first
  | strayClose family =>
    cases family <;>
      simp only [Diagnostic.warns, Diagnostic.isWarning, Report.toDiagnostic, Describe.message,
        Describe.severity, redeclaredWords, Problem.redeclares, toString, String.toList_append,
        List.append_assoc, List.any_cons, List.any_nil] <;>
      rfl
  | unclosed family id' =>
    cases family <;>
      simp only [Diagnostic.warns, Diagnostic.isWarning, Report.toDiagnostic, Describe.message,
        Describe.severity, redeclaredWords, Problem.redeclares, toString, String.toList_append,
        List.append_assoc, List.any_cons, List.any_nil] <;>
      rfl
  | _ =>
    simp only [Diagnostic.warns, Diagnostic.isWarning, Report.toDiagnostic, Describe.message,
      Describe.severity, redeclaredWords, Problem.redeclares, toString, String.toList_append,
      List.append_assoc, List.any_cons, List.any_nil]
    rfl

/-- What a graph tells at the end of a run that starts with nothing. -/
theorem told_finish {default : Shape} {direction : String} {ns : List Naming} {st : State}
    (h : Tells default { direction } ns st) (family : Family) (id : String) :
    Told default (st.finish family).diagram.nodes
      ((st.closeAll family).reports ++ (st.closeAll family).undeclaredTargets ++
        (st.closeAll family).missingLinks) id (ns.filter (·.id == id)) := by
  have hnothing : Told default {} [] id [] := ⟨fun _ => ⟨rfl, rfl⟩, fun n hn => by cases hn⟩
  have htold := h id [] hnothing
  have hnodes : (st.finish family).diagram.nodes = st.nodes := State.nodes_closeAll st family
  have hquiet : KeepsQuiet st.reports ((st.closeAll family).reports ++
      (st.closeAll family).undeclaredTargets ++ (st.closeAll family).missingLinks) :=
    st.appends_finish family (fun _ _ _ => rfl) (fun _ _ _ => rfl) fun _ _ _ _ => rfl
  exact htold.congr (by rw [hnodes]) (hquiet.reportLines id)

/-- A node is named somewhere, so its id is one of the ids that are spelled there. -/
theorem Node.FirstWins.isId {default : Shape} {n : Node} {warned : List Int} {ns : List Naming}
    {id : String} (h : n.FirstWins default warned (ns.filter (·.id == id)))
    (hids : ∀ x ∈ ns, IsId x.id) : IsId id := by
  obtain ⟨x, hx, -⟩ := Option.map_eq_some_iff.1 h.line
  obtain ⟨hmem, hid⟩ := List.mem_filter.1 (List.mem_of_head? hx)
  rw [← beq_iff_eq.1 hid]
  exact hids x hmem

/-- Nodes are declared again where they are named. -/
theorem isId_of_redeclared {default : Shape} {nodes : Registry Node}
    {reports : List (Report Problem)} {ns : List Naming} (hids : ∀ x ∈ ns, IsId x.id)
    (htold : ∀ id, Told default nodes reports id (ns.filter (·.id == id)))
    {r : Report Problem} (hr : r ∈ reports) {id : String} {first : Int}
    (hid : r.problem = .redeclared id first) : IsId id := by
  cases hn : nodes.get? id with
  | none =>
    have hlines := ((htold id).absent hn).2
    have hmem : r.line ∈ reportLines (Problem.redeclares id) reports := by
      apply List.mem_map_of_mem
      refine List.mem_filter.2 ⟨hr, ?_⟩
      rw [hid]
      exact beq_self_eq_true id
    rw [hlines] at hmem
    cases hmem
  | some n => exact ((htold id).present n hn).isId hids

theorem namesFirst_finish {default : Shape} {direction : String} {ns : List Naming} {st : State}
    (h : Tells default { direction } ns st) (hids : ∀ x ∈ ns, IsId x.id) (family : Family)
    (hkeyed : Registry.Keyed Node.id (st.finish family).diagram.nodes) :
    NamesFirst default ns (st.finish family) := by
  intro id n hn
  refine ⟨hkeyed.of_get? hn, ?_⟩
  have htold := told_finish h family
  have hwins := (htold id).present n hn
  have hlines : ((st.finish family).diagnostics.filter (·.warns (redeclaredWords id))).map
      (·.line) = reportLines (Problem.redeclares id) ((st.closeAll family).reports ++
        (st.closeAll family).undeclaredTargets ++ (st.closeAll family).missingLinks) := by
    show (List.filter _ (List.map Report.toDiagnostic _)).map _ = _
    rw [List.filter_map, List.map_map]
    unfold reportLines
    congr 1
    apply List.filter_congr
    intro r hr
    refine warns_redeclaredWords (hwins.isId hids) ?_
    intro id' first hid'
    exact isId_of_redeclared hids htold hr hid'
  rw [hlines]
  exact hwins

end ScopeGraph

open ScopeGraph (State Naming Tells NamesFirst)

/-! ## Flowcharts -/

namespace Flowchart

theorem tells_takeStep (l : Line) (st : State) (s : Step) :
    Tells .rectangle st (s.namings l.number) (takeStep l st s) := by
  cases s with
  | mention m =>
    obtain ⟨id, form, className⟩ := m
    have hform : Tells .rectangle st [⟨id, form, l.number⟩] (mention st l ⟨id, form, none⟩) := by
      cases form with
      | none => exact st.tells_mention id l.number
      | some form => exact st.tells_declare id form.1 form.2 l.number
    cases className with
    | none => exact hform
    | some c => exact hform
  | join sources targets a => exact .silent rfl (.refl _)
  | unknownArrow _ _ | missingTarget | unrecognisedText _ _ | unrecognisedLine =>
    exact .silent rfl (.concat fun _ => rfl)

theorem tells_step (st : State) {l : Line} {s : Statement}
    (hs : Statement.recognise l.text = .ok s) :
    Tells .rectangle st (lineNamings l) (step st (l, s)) := by
  unfold lineNamings
  rw [hs]
  cases s with
  | directive d =>
    exact .silent (st.sameGraph_applyDirective l d).nodes
      (st.appends_applyDirective l (fun _ => rfl) fun _ _ => rfl)
  | direction d =>
    refine .silent (st.nodes_setDirection d) ?_
    show ScopeGraph.KeepsQuiet _ (st.setDirection d).reports
    rw [State.reports_setDirection]
    exact .refl _
  | openSubgraph head =>
    cases head with
    | unnamed => exact .silent rfl (.concat fun _ => rfl)
    | named id label => exact .silent rfl (.refl _)
    | labelled label => exact .silent rfl (.refl _)
  | close =>
    exact .silent (st.nodes_closeOrReport .flowchart l) (st.appends_closeOrReport l fun _ => rfl)
  | interaction => exact .silent rfl (.concat fun _ => rfl)
  | chain steps => exact .foldl (tells_takeStep l) steps st

theorem tells_foldl_step (st : State) {ls : List Line} {xs : List (Line × Statement)}
    (hx : List.Forall₂ (fun l x => l = x.1 ∧ Statement.recognise l.text = .ok x.2) ls xs) :
    Tells .rectangle st (ls.flatMap lineNamings) (xs.foldl step st) := by
  induction hx generalizing st with
  | nil => exact .silent rfl (.refl _)
  | @cons l x ls xs hl _ ih =>
    obtain ⟨rfl, hs⟩ := hl
    rw [List.flatMap_cons]
    exact (tells_step st hs).trans (ih _)

theorem tells_start (ls : List Line) (direction : String) :
    Tells .rectangle { direction } [] (start ls direction) := by
  refine .silent (sameGraph_start ls direction).nodes ?_
  cases ls with
  | nil => exact .refl _
  | cons l ls =>
    show ScopeGraph.KeepsQuiet _ (readHeader { direction } l).reports
    unfold readHeader
    split
    · exact .concat fun _ => rfl
    · exact .refl _
    · split
      · exact .refl _
      · exact .concat fun _ => rfl

theorem namesFirst_of_parse {ls : List Line} {direction : String} {p : Parsed ScopeGraph.Graph}
    (h : parse ls direction = .ok p) : NamesFirst .rectangle (namings ls) p := by
  have hkeyed := (dense_of_parse h).1.keyed
  obtain ⟨xs, hx, h⟩ := bind_eq_ok_iff.1 h
  cases h
  have hrun := (tells_start ls direction).trans (tells_foldl_step _ (readLines_eq_ok_iff.1 hx))
  exact ScopeGraph.namesFirst_finish hrun (fun _ => isId_of_mem_namings) .flowchart hkeyed

end Flowchart

/-! ## State diagrams -/

namespace StateChart

theorem tells_readSource (st : State) (l : Line) (e : Endpoint) :
    Tells .rounded st [e.naming "start" .stateStart st.starts l.number] (readSource st l e).1 := by
  cases e with
  | star => exact State.tells_declare { st with starts := st.starts + 1 } _ _ _ _
  | state id => exact st.tells_mention id l.number

theorem tells_readTarget (st : State) (l : Line) (e : Endpoint) :
    Tells .rounded st [e.naming "end" .stateEnd st.ends l.number] (readTarget st l e).1 := by
  cases e with
  | star => exact State.tells_declare { st with ends := st.ends + 1 } _ _ _ _
  | state id => exact st.tells_mention id l.number

/-- A run tells what its lines name, if the stars are counted from where the run starts. -/
theorem tells_foldl_step (st : State) {ls : List Line} {xs : List (Line × Statement)}
    (hx : List.Forall₂ (fun l x => l = x.1 ∧ Statement.recognise l.text = .ok x.2) ls xs) :
    Tells .rounded st (namingsFrom st.starts st.ends ls) (xs.foldl step st) := by
  induction hx generalizing st with
  | nil => exact .silent rfl (.refl _)
  | @cons l x ls xs hl _ ih =>
    obtain ⟨l, s⟩ := x
    obtain ⟨rfl, hs⟩ := hl
    -- Most statements leave the stars alone and name one state or none.
    have plain (ns : List Naming) (htells : Tells .rounded st ns (step st (l, s)))
        (hstars : SameStars st (step st (l, s))) :
        Tells .rounded st (ns ++ namingsFrom st.starts st.ends ls)
          (xs.foldl step (step st (l, s))) := by
      have hrest := ih (step st (l, s))
      rw [hstars.1, hstars.2] at hrest
      exact htells.trans hrest
    rw [List.foldl_cons, namingsFrom, hs]
    cases s with
    | directive d =>
      refine plain [] (.silent (st.sameGraph_applyDirective l d).nodes ?_)
        (sameStars_of_sameCounters (.applyDirective st l d))
      exact st.appends_applyDirective l (fun _ => rfl) fun _ _ => rfl
    | direction d =>
      refine plain [] (.silent (st.nodes_setDirection d) ?_)
        (sameStars_of_sameCounters (.setDirection st d))
      show ScopeGraph.KeepsQuiet _ (st.setDirection d).reports
      rw [State.reports_setDirection]
      exact .refl _
    | openComposite id label => exact plain [] (.silent rfl (.refl _)) ⟨rfl, rfl⟩
    | close =>
      refine plain [] (.silent (st.nodes_closeOrReport .state l) ?_)
        (sameStars_of_sameCounters (.closeOrReport st .state l))
      exact st.appends_closeOrReport l fun _ => rfl
    | separator => exact plain [] (.silent rfl (.refl _)) ⟨rfl, rfl⟩
    | note kind => exact plain [] (.silent rfl (.refl _)) ⟨rfl, rfl⟩
    | declare id label shape =>
      exact plain [⟨id, some (label, shape), l.number⟩]
        (st.tells_declare id label shape l.number)
        (sameStars_of_sameCounters (.declare st id label shape l.number))
    | transition source target label =>
      obtain ⟨-, hstarts, hends⟩ := enrols_readSource st l source
      obtain ⟨-, hstarts', hends'⟩ := enrols_readTarget (readSource st l source).1 l target
      have hsource := tells_readSource st l source
      have htarget := tells_readTarget (readSource st l source).1 l target
      rw [hends] at htarget
      have hrest := ih (step st (l, .transition source target label))
      have hcounts : (step st (l, .transition source target label)).starts =
          st.starts + source.stars ∧
          (step st (l, .transition source target label)).ends = st.ends + target.stars :=
        ⟨hstarts'.trans hstarts, hends'.trans (by rw [hends])⟩
      rw [hcounts.1, hcounts.2] at hrest
      exact (hsource.trans htarget).trans hrest
    | mention id =>
      exact plain [⟨id, none, l.number⟩] (st.tells_mention id l.number)
        (sameStars_of_sameCounters (.mention st id .rounded l.number))
    | unrecognised =>
      exact plain [] (.silent rfl (.concat fun _ => rfl)) ⟨rfl, rfl⟩

theorem tells_reportOpenNote (st : State) (isOpen : Bool) (ls : List Line) :
    Tells .rounded st [] (reportOpenNote st isOpen ls) := by
  unfold reportOpenNote
  split
  · exact .silent rfl (.concat fun _ => rfl)
  · exact .silent rfl (.refl _)

theorem namesFirst_of_parse {ls : List Line} {p : Parsed ScopeGraph.Graph} (h : parse ls = .ok p) :
    NamesFirst .rounded (namings ls) p := by
  have hkeyed := (dense_of_parse h).1.keyed
  obtain ⟨xs, hx, h⟩ := bind_eq_ok_iff.1 h
  cases h
  have hrun := tells_foldl_step { direction := Direction.topDown.name } (readLines_eq_ok_iff.1 hx)
  have hnote := hrun.trans (tells_reportOpenNote _ (outsideNotes false ls.tail).2 ls)
  rw [List.append_nil] at hnote
  exact ScopeGraph.namesFirst_finish hnote (fun _ => isId_of_mem_namings) .state hkeyed

end StateChart

/-! ## The law -/

/-- **The first declaration wins.** A node of a flowchart or a state diagram has the line of the
first place where it is named.  Label and shape are those of its first declaration, and it is
implicit, without a label and of the usual shape if there is none.  Of the later declarations just
those that give another label or shape are answered with a warning, each at its line. -/
theorem first_declaration_wins :
    (∀ ls direction p, Flowchart.parse ls direction = .ok p →
      NamesFirst .rectangle (Flowchart.namings ls) p) ∧
    ∀ ls p, StateChart.parse ls = .ok p → NamesFirst .rounded (StateChart.namings ls) p :=
  ⟨fun _ _ _ => Flowchart.namesFirst_of_parse, fun _ _ => StateChart.namesFirst_of_parse⟩

/-- A state that is mentioned, declared, and declared again twice, once in another shape; and a
start state whose id has got a description before. -/
def indecisive : List Line :=
  [⟨1, "stateDiagram", 0, 1⟩, ⟨2, "Idle --> Busy", 0, 1⟩, ⟨3, "Busy : at work", 0, 1⟩,
   ⟨4, "state Busy <<choice>>", 0, 1⟩, ⟨5, "_start : here", 0, 1⟩, ⟨6, "[*] --> Idle", 0, 1⟩,
   ⟨7, "Busy : at work", 0, 1⟩]

theorem first_declaration_wins_indecisive :
    ∃ p n, StateChart.parse indecisive = .ok p ∧ p.diagram.nodes.get? "Busy" = some n ∧
      n.line = 2 ∧ n.label = "at work" ∧ n.shape = .rounded ∧ n.implicit = false ∧
      (p.diagnostics.filter (·.warns ["Node 'Busy' is already declared"])).map (·.line) = [4] := by
  have hrun : ((StateChart.parse indecisive).toOption.map fun p =>
      (p.diagram.nodes.get? "Busy").isSome) = some true := by
    decide +kernel
  obtain ⟨p, hp, hsome⟩ := exists_ok_of_toOption hrun
  obtain ⟨n, hn⟩ := Option.isSome_iff_exists.1 hsome
  have hplaces : (StateChart.namings indecisive).filter (·.id == "Busy") =
      [⟨"Busy", none, 2⟩, ⟨"Busy", some ("at work", .rounded), 3⟩,
       ⟨"Busy", some ("", .decision), 4⟩, ⟨"Busy", some ("at work", .rounded), 7⟩] := by
    decide +kernel
  obtain ⟨-, hline, hform⟩ := first_declaration_wins.2 _ _ hp "Busy" n hn
  rw [hplaces] at hline hform
  obtain ⟨hlabel, hshape, himplicit, hwarned⟩ := hform
  exact ⟨p, n, hp, hn, (Option.some.inj hline).symm, hlabel, hshape, himplicit, hwarned⟩

end DiagramText
