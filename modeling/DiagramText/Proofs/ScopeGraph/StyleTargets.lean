import DiagramText.Proofs.Roster
import DiagramText.Proofs.ScopeGraph.LinkIndex
import DiagramText.Proofs.ScopeGraph.Topology
import DiagramText.Proofs.Text.Solid
import DiagramText.Proofs.Wording

/-!
# Styles and the graph they are for

A style directive may stand in front of the nodes and edges that it names, or behind them.  It is
checked against the finished graph, and one that names something else gives a warning at the end.

1. `firstLines`: every key once, with the line that refers to it first; this is what the lines
   noted by a run amount to.
2. The targets of nodes and of links on a line, and what a run notes about them.
3. The warnings at the end.
4. Lines with too long an index of a link style, and only these, cannot be read.
5. `directives_keep_topology`: leaving out all style directives changes the styles and the
   diagnostics, and nothing else.
6. `paddedLink_is_fault`: an index that is too long only because of the zeros in front of it.
-/

namespace DiagramText

open Source (Line)

/-! ## First lines -/

section

variable {κ : Type} [BEq κ]

/-- Every key once, with the line that comes first. -/
def firstLines : List (κ × Int) → List (κ × Int)
  | [] => []
  | e :: es => e :: (firstLines es).filter (·.1 != e.1)

/-- Notes a line for a key, unless one is noted. -/
def OrderedMap.note (m : OrderedMap κ Int) (e : κ × Int) : OrderedMap κ Int :=
  if m.contains e.1 then m else m.insert e.1 e.2

variable [LawfulBEq κ]

theorem OrderedMap.contains_iff {α : Type} {m : OrderedMap κ α} {k : κ} :
    m.contains k = true ↔ k ∈ m.keys := by
  unfold contains keys
  simp

theorem OrderedMap.get?_eq_none_iff {α : Type} {m : OrderedMap κ α} {k : κ} :
    m.get? k = none ↔ m.contains k = false := by
  rw [Bool.eq_false_iff, ne_eq, contains_iff, mem_keys_iff]
  cases m.get? k <;> simp

/-- Noting lines adds the first lines of the keys without one. -/
theorem entries_foldl_note (es : List (κ × Int)) (m : OrderedMap κ Int) :
    (es.foldl OrderedMap.note m).entries =
      m.entries ++ (firstLines es).filter fun e => !m.contains e.1 := by
  induction es generalizing m with
  | nil => exact (List.append_nil _).symm
  | cons e es ih =>
    rw [List.foldl_cons, ih, firstLines]
    unfold OrderedMap.note
    cases he : m.contains e.1 with
    | true =>
      rw [if_pos rfl, List.filter_cons_of_neg (by simp [he]), List.filter_filter]
      congr 2
      funext e'
      -- A key that has no line yet is another one than that of `e`.
      by_cases hk : e'.1 = e.1
      · simp [hk, he]
      · simp [hk]
    | false =>
      rw [if_neg (by simp), List.filter_cons_of_pos (by simp [he]), List.filter_filter,
        OrderedMap.entries_insert_of_none e.2 (OrderedMap.get?_eq_none_iff.2 he), List.append_assoc,
        List.singleton_append]
      congr 3
      funext e'
      rw [Bool.eq_iff_iff]
      simp [OrderedMap.contains_iff, Bool.eq_false_iff]

/-- From the start, the lines noted are the first lines. -/
theorem entries_note (es : List (κ × Int)) :
    (es.foldl OrderedMap.note {}).entries = firstLines es :=
  (entries_foldl_note es {}).trans (List.filter_eq_self.2 fun _ _ => rfl)

end

namespace ScopeGraph

/-! ## Targets -/

/-- The nodes that a directive styles or gives a class. -/
def Directive.targets : Directive → List String
  | .assign ids _ | .style ids _ => ids
  | _ => []

/-- The index of a link. -/
def LinkTarget.index? : LinkTarget → Option Nat
  | .default => none
  | .index n => some n

/-- The indices of the links that a directive styles. -/
def Directive.indices : Directive → List Nat
  | .linkStyle targets _ => targets.filterMap (·.index?)
  | _ => []

/-- The directive on a line. -/
def directiveOf? (l : Line) : Option Directive :=
  (Directive.recognise? l.text.toList).toOption.join

/-- What lines refer to by their directives, each reference with its line. -/
def references {κ : Type} (targets : Directive → List κ) (ls : List Line) : List (κ × Int) :=
  ls.flatMap fun l => ((directiveOf? l).elim [] targets).map (·, l.number)

theorem references_append {κ : Type} (targets : Directive → List κ) (ls ls' : List Line) :
    references targets (ls ++ ls') = references targets ls ++ references targets ls' :=
  List.flatMap_append

namespace State

theorem targetLines_noteTarget (st : State) (l : Line) (id : String) :
    (st.noteTarget l id).targetLines = st.targetLines.note (id, l.number) := by
  show Registry.ensure st.targetLines id _ = _
  unfold Registry.ensure Registry.ensureUnless OrderedMap.note
  cases hid : st.targetLines.get? id with
  | none => rw [if_neg (by simp [OrderedMap.get?_eq_none_iff.1 hid])]
  | some line =>
    have hmem : st.targetLines.contains id = true :=
      OrderedMap.contains_iff.2 (OrderedMap.mem_keys_iff.2 ⟨line, hid⟩)
    rw [if_pos hmem]
    rfl

theorem targetLines_noteLink (st : State) (l : Line) (t : LinkTarget) :
    (st.noteLink l t).targetLines = st.targetLines := by
  cases t with
  | default => rfl
  | index n =>
    unfold noteLink
    dsimp only
    split <;> rfl

theorem linkLines_noteLink (st : State) (l : Line) (t : LinkTarget) :
    (st.noteLink l t).linkLines =
      match t.index? with
      | some n => st.linkLines.note (n, l.number)
      | none => st.linkLines := by
  cases t with
  | default => rfl
  | index n =>
    show (if st.linkLines.contains n then st else { st with linkLines := _ }).linkLines =
      st.linkLines.note (n, l.number)
    unfold OrderedMap.note
    split <;> rfl

/-- A directive notes its line for the nodes that it styles. -/
theorem targetLines_applyDirective (st : State) (l : Line) (d : Directive) :
    (st.applyDirective l d).targetLines =
      (d.targets.map (·, l.number)).foldl OrderedMap.note st.targetLines := by
  cases d with
  | classDef names properties =>
    have hreport : (if properties.entries.isEmpty then st.report l .emptyClassDef else
        st).targetLines = st.targetLines := by
      split <;> rfl
    show _ = st.targetLines
    rw [← hreport]
    apply foldl_keeps targetLines
    intro st name
    rfl
  | assign ids className =>
    rw [List.foldl_map]
    refine (List.foldl_hom targetLines fun st id => ?_).symm
    rw [targetLines_noteTarget]
    rfl
  | style ids properties =>
    rw [List.foldl_map]
    refine (List.foldl_hom targetLines fun st id => ?_).symm
    rw [targetLines_noteTarget]
  | linkStyle targets properties =>
    apply foldl_keeps targetLines
    intro st t
    rw [targetLines_noteLink]
  | malformed => rfl

/-- A directive notes its line for the links that it styles. -/
theorem linkLines_applyDirective (st : State) (l : Line) (d : Directive) :
    (st.applyDirective l d).linkLines =
      (d.indices.map (·, l.number)).foldl OrderedMap.note st.linkLines := by
  cases d with
  | classDef names properties =>
    have hreport : (if properties.entries.isEmpty then st.report l .emptyClassDef else
        st).linkLines = st.linkLines := by
      split <;> rfl
    show _ = st.linkLines
    rw [← hreport]
    apply foldl_keeps linkLines
    intro st name
    rfl
  | assign ids className =>
    apply foldl_keeps linkLines
    intro st id
    rfl
  | style ids properties =>
    apply foldl_keeps linkLines
    intro st id
    rfl
  | linkStyle targets properties =>
    rw [List.foldl_map]
    unfold Directive.indices
    rw [List.foldl_filterMap]
    refine (List.foldl_hom linkLines fun st t => ?_).symm
    rw [linkLines_noteLink]
    cases t <;> rfl
  | malformed => rfl

/-- A directive reports at once what is wrong with itself. -/
theorem early_applyDirective (st : State) (l : Line) (d : Directive) :
    Adds Early st.reports (st.applyDirective l d).reports := by
  cases d with
  | classDef names properties =>
    have hreport : Adds Early st.reports
        (if properties.entries.isEmpty then st.report l .emptyClassDef else st).reports := by
      split
      · exact adds_early rfl
      · exact .refl _
    refine hreport.trans (.foldl reports ?_ _)
    intro st name _
    exact .refl _
  | assign ids className =>
    refine .foldl reports ?_ st
    intro st id _
    exact .refl _
  | style ids properties =>
    refine .foldl reports ?_ st
    intro st id _
    exact .refl _
  | linkStyle targets properties =>
    refine .foldl reports ?_ st
    intro st t _
    rw [reports_noteLink]
    exact .refl _
  | malformed => exact adds_early rfl

end State

/-! ## Runs -/

/-- What reading lines adds to the notes and the reports. -/
structure Notes (ls : List Line) (st st' : State) : Prop where
  targetLines : st'.targetLines =
    (references Directive.targets ls).foldl OrderedMap.note st.targetLines
  linkLines : st'.linkLines = (references Directive.indices ls).foldl OrderedMap.note st.linkLines
  reports : Adds Early st.reports st'.reports

namespace Notes

variable {st st' st'' : State}

theorem trans {ls ls' : List Line} (h : Notes ls st st') (h' : Notes ls' st' st'') :
    Notes (ls ++ ls') st st'' where
  targetLines := by
    rw [h'.targetLines, h.targetLines, references_append, List.foldl_append]
  linkLines := by
    rw [h'.linkLines, h.linkLines, references_append, List.foldl_append]
  reports := h.reports.trans h'.reports

theorem followedBy {ls : List Line} {f : State → State} (h : Notes ls st st')
    (hf : Topological f) : Notes ls st (f st') where
  targetLines := (hf.targetLines st').trans h.targetLines
  linkLines := (hf.linkLines st').trans h.linkLines
  reports := h.reports.trans (hf.reports st')

end Notes

section

variable {σ : Type} {read : String → Except Fault σ} {step : State → Line × σ → State}
  {directive? : σ → Option Directive}

theorem ObeysDirectives.notes_step (h : ObeysDirectives read step directive?)
    (hplain : ∀ x, directive? x.2 = none → Topological (step · x)) {l : Line} {s : σ}
    (hs : read l.text = .ok s) (st : State) : Notes [l] st (step st (l, s)) := by
  have hd : directiveOf? l = directive? s := by
    unfold directiveOf?
    rw [h.recognise hs]
    rfl
  cases hdirective : directive? s with
  | none =>
    have htop := hplain (l, s) hdirective
    exact ⟨by simp [references, hd, hdirective, htop.targetLines],
      by simp [references, hd, hdirective, htop.linkLines], htop.reports st⟩
  | some d =>
    rw [h.step hdirective]
    exact ⟨by simp [references, hd, hdirective, State.targetLines_applyDirective],
      by simp [references, hd, hdirective, State.linkLines_applyDirective],
      st.early_applyDirective l d⟩

theorem ObeysDirectives.notes_foldl (h : ObeysDirectives read step directive?)
    (hplain : ∀ x, directive? x.2 = none → Topological (step · x)) {ls : List Line}
    {xs : List (Line × σ)} (hxs : readLines read ls = .ok xs) (st : State) :
    Notes ls st (xs.foldl step st) := by
  induction readLines_eq_ok_iff.1 hxs generalizing st with
  | nil => exact ⟨rfl, rfl, .refl _⟩
  | @cons l x ls xs hx hrest ih =>
    obtain ⟨l', s⟩ := x
    obtain ⟨rfl, hs⟩ := hx
    exact (h.notes_step hplain hs st).trans (ih (readLines_eq_ok_iff.2 hrest) _)

end

/-! ## The end -/

/-- How a warning about the target of a style starts. -/
def lateWords : List String := ["Style directive references undeclared node '", "linkStyle index "]

theorem warns_lateWords (r : Report Problem) :
    r.toDiagnostic.warns lateWords = r.problem.isLate := by
  obtain ⟨problem, line, column⟩ := r
  cases problem with
  | undeclaredTarget id =>
    simp only [Diagnostic.warns, Diagnostic.isWarning, Report.toDiagnostic, Describe.message,
      Describe.severity, lateWords, Problem.isLate, toString, String.toList_append,
      List.append_assoc, isPrefixOf_self_append, List.any_cons, List.any_nil]
    rfl
  | linkRange index edges =>
    simp only [Diagnostic.warns, Diagnostic.isWarning, Report.toDiagnostic, Describe.message,
      Describe.severity, lateWords, Problem.isLate, toString, String.toList_append,
      List.append_assoc, isPrefixOf_self_append, List.any_cons, List.any_nil]
    rfl
  | strayClose family =>
    cases family <;>
      simp only [Diagnostic.warns, Diagnostic.isWarning, Report.toDiagnostic, Describe.message,
        Describe.severity, lateWords, Problem.isLate] <;>
      rfl
  | unclosed family id =>
    cases family <;>
      simp only [Diagnostic.warns, Diagnostic.isWarning, Report.toDiagnostic, Describe.message,
        Describe.severity, lateWords, Problem.isLate, toString, String.toList_append,
        List.append_assoc, List.any_cons, List.any_nil] <;>
      rfl
  | _ =>
    simp only [Diagnostic.warns, Diagnostic.isWarning, Report.toDiagnostic, Describe.message,
      Describe.severity, lateWords, Problem.isLate, toString, String.toList_append,
      List.append_assoc, List.any_cons, List.any_nil]
    rfl

/-- Whether an id is that of a node or of a subgraph. -/
def Graph.knows (g : Graph) (id : String) : Bool :=
  (g.nodes.keys ++ g.allSubgraphs.map (·.value.id)).contains id

/-- The warnings about styled nodes that the graph does not know, in the order of the lines that
refer to them first. -/
def Graph.undeclaredWarnings (g : Graph) (body : List Line) : List Diagnostic :=
  ((firstLines (references Directive.targets body)).filter fun e => !g.knows e.1).map fun e =>
    { severity := .warning, message := s!"Style directive references undeclared node '{e.1}'",
      line := e.2 }

/-- The warnings about styled links that the graph does not have, in the order of the lines that
refer to them first. -/
def Graph.rangeWarnings (g : Graph) (body : List Line) : List Diagnostic :=
  ((firstLines (references Directive.indices body)).filter fun e => g.edges.length ≤ e.1).map
    fun e =>
      { severity := .warning,
        message := s!"linkStyle index {e.1} is out of range ({g.edges.length} edges)",
        line := e.2 }

/-- The diagnostics end with the warnings about targets of styles, and there are no others of the
kind. -/
def EndsWithStyleWarnings (body : List Line) (p : Parsed Graph) : Prop :=
  ∃ others, (∀ d ∈ others, d.warns lateWords = false) ∧
    p.diagnostics =
      others ++ p.diagram.undeclaredWarnings body ++ p.diagram.rangeWarnings body

theorem Notes.finish {body : List Line} {st st' : State} (h : Notes body st st')
    (htargets : st.targetLines = {}) (hlinks : st.linkLines = {})
    (hreports : ∀ r ∈ st.reports, Early r) (family : Family) :
    EndsWithStyleWarnings body (st'.finish family) := by
  have hend := h.followedBy (.closeAll family)
  have htargetLines : (st'.closeAll family).targetLines.entries =
      firstLines (references Directive.targets body) := by
    rw [hend.targetLines, htargets, entries_note]
  have hlinkLines : (st'.closeAll family).linkLines.entries =
      firstLines (references Directive.indices body) := by
    rw [hend.linkLines, hlinks, entries_note]
  refine ⟨(st'.closeAll family).reports.map Report.toDiagnostic, ?_, ?_⟩
  · intro d hd
    obtain ⟨r, hr, rfl⟩ := List.mem_map.1 hd
    rw [warns_lateWords]
    exact (hend.reports r hr).elim (hreports r) fun hr => hr
  · show List.map Report.toDiagnostic _ = _
    rw [List.map_append, List.map_append]
    congr 1
    · congr 1
      unfold State.undeclaredTargets Graph.undeclaredWarnings Graph.knows Graph.allSubgraphs
      rw [htargetLines, List.map_map, ← Tree.map_value_walk, List.map_map]
      rfl
    · unfold State.missingLinks Graph.rangeWarnings
      rw [hlinkLines, List.map_map]
      rfl

/-! ## Faults -/

/-- The keyword of a link style is none of the others. -/
theorem recognise?_of_linkStyle? {s : List Char} {index : String} {indices : List String}
    {properties : Properties} (h : linkStyle? s = some (index :: indices, properties)) :
    Directive.recognise? s =
      (do return some (.linkStyle (← (index :: indices).mapM linkIndex) properties)) := by
  obtain ⟨r, hr, -⟩ := Option.bind_eq_some_iff.1 h
  have hhead : ∀ c ∈ s.head?, c ≠ 'c' ∧ c ≠ 's' := by
    intro c hc
    rw [Text.literal?_eq_some_iff.1 hr] at hc
    cases hc
    decide
  have hc : ∀ w : List Char, w.head? = some 'c' → Text.literal? w s = none :=
    fun w hw => literal?_of_head hw fun c hc => (hhead c hc).1
  have hs : ∀ w : List Char, w.head? = some 's' → Text.literal? w s = none :=
    fun w hw => literal?_of_head hw fun c hc => (hhead c hc).2
  unfold Directive.recognise? classDef? assign? style?
  rw [h, hc "classDef".toList (by decide), hc "class".toList (by decide),
    hs "style".toList (by decide)]
  rfl

/-- A directive can be recognised only if all its indices are short. -/
theorem shortIndices_of_recognise? {l : Line} {d : Option Directive}
    (h : Directive.recognise? l.text.toList = .ok d) : ShortIndices l := by
  intro digits hdigits
  unfold writtenIndices at hdigits
  rcases hstyle : linkStyle? l.text.toList with _ | ⟨_ | ⟨index, indices⟩, properties⟩
  · rw [hstyle] at hdigits
    cases hdigits
  · rw [hstyle] at hdigits
    cases hdigits
  · rw [hstyle] at hdigits
    rw [recognise?_of_linkStyle? hstyle] at h
    obtain ⟨targets, htargets, -⟩ := bind_eq_ok_iff.1 h
    obtain ⟨t, ht⟩ := exists_mapM_eq_ok_iff.1 ⟨targets, htargets⟩ digits hdigits
    by_contra hlong
    unfold linkIndex at ht
    rw [if_neg hlong] at ht
    cases ht

/-! ## Two runs -/

/-- Two graphs that differ in their styles at most. -/
structure Graph.SameTopology (g g' : Graph) : Prop where
  nodes : g'.nodes = g.nodes
  edges : g'.edges = g.edges
  subgraphs : g'.subgraphs = g.subgraphs
  direction : g'.direction = g.direction

theorem State.sameTopology_finish {st st' : State} (h : st.topology = st'.topology)
    (family : Family) : (st.finish family).diagram.SameTopology (st'.finish family).diagram := by
  have hend : (st.closeAll family).topology = (st'.closeAll family).topology := by
    rw [(Topological.closeAll family).topology, h, ← (Topological.closeAll family).topology]
  exact ⟨(congrArg State.nodes hend).symm, (congrArg State.edges hend).symm,
    (congrArg State.finished hend).symm, (congrArg State.direction hend).symm⟩

/-- The lines of a diagram without the style directives of its body. -/
def withoutDirectives : List Line → List Line
  | [] => []
  | header :: body => header :: body.filter (!isDirective ·)

theorem tail_withoutDirectives (ls : List Line) :
    (withoutDirectives ls).tail = ls.tail.filter (!isDirective ·) := by
  cases ls <;> rfl

/-- Lines without directives can always be read. -/
theorem ObeysDirectives.exists_readLines_filter {σ : Type} {read : String → Except Fault σ}
    {step : State → Line × σ → State} {directive? : σ → Option Directive}
    (h : ObeysDirectives read step directive?) (ls : List Line) :
    ∃ xs, readLines read (ls.filter (!isDirective ·)) = .ok xs := by
  refine exists_readLines_eq_ok_iff.2 fun l hl => h.plain ?_
  simpa using (List.mem_filter.1 hl).2

end ScopeGraph

open ScopeGraph (State Topological ShortIndices withoutDirectives EndsWithStyleWarnings)

namespace Flowchart

theorem exists_parse_iff (ls : List Line) (direction : String) :
    (∃ p, parse ls direction = .ok p) ↔ ∀ l ∈ ls.tail, ShortIndices l := by
  constructor
  · rintro ⟨p, hp⟩ l hl
    obtain ⟨xs, hxs, -⟩ := bind_eq_ok_iff.1 hp
    obtain ⟨s, hs⟩ := exists_readLines_eq_ok_iff.1 ⟨xs, hxs⟩ l hl
    exact ScopeGraph.shortIndices_of_recognise? (Statement.directive?_of_recognise hs)
  · intro h
    obtain ⟨xs, hxs⟩ := exists_readLines_eq_ok_iff.2 fun l hl =>
      Statement.exists_recognise (h l hl)
    exact ⟨_, bind_eq_ok_iff.2 ⟨xs, hxs, rfl⟩⟩

theorem notes_start (ls : List Line) (direction : String) :
    (start ls direction).targetLines = {} ∧ (start ls direction).linkLines = {} ∧
      ∀ r ∈ (start ls direction).reports, ScopeGraph.Early r := by
  cases ls with
  | nil => exact ⟨rfl, rfl, List.forall_mem_nil _⟩
  | cons l ls =>
    show (readHeader _ l).targetLines = _ ∧ (readHeader _ l).linkLines = _ ∧
      ∀ r ∈ (readHeader _ l).reports, _
    unfold readHeader
    split
    · exact ⟨rfl, rfl, List.forall_mem_singleton.2 rfl⟩
    · exact ⟨rfl, rfl, List.forall_mem_nil _⟩
    · split
      · exact ⟨rfl, rfl, List.forall_mem_nil _⟩
      · exact ⟨rfl, rfl, List.forall_mem_singleton.2 rfl⟩

theorem start_withoutDirectives (ls : List Line) (direction : String) :
    start (withoutDirectives ls) direction = start ls direction := by
  cases ls <;> rfl

theorem parse_withoutDirectives (ls : List Line) (direction : String) :
    ∃ q, parse (withoutDirectives ls) direction = .ok q ∧
      ∀ p, parse ls direction = .ok p →
        p.diagram.SameTopology q.diagram ∧ EndsWithStyleWarnings ls.tail p := by
  obtain ⟨ys, hys⟩ := obeysDirectives.exists_readLines_filter ls.tail
  rw [← ScopeGraph.tail_withoutDirectives] at hys
  refine ⟨_, bind_eq_ok_iff.2 ⟨ys, hys, rfl⟩, fun p hp => ?_⟩
  obtain ⟨xs, hxs, hp⟩ := bind_eq_ok_iff.1 hp
  have hplain := obeysDirectives.readLines_filter hxs
  rw [← ScopeGraph.tail_withoutDirectives, hys] at hplain
  cases hp
  cases hplain
  obtain ⟨htargets, hlinks, hreports⟩ := notes_start ls direction
  refine ⟨?_, ?_⟩
  · rw [start_withoutDirectives]
    exact State.sameTopology_finish (obeysDirectives.topology_foldl topological_step xs rfl) _
  · exact (obeysDirectives.notes_foldl topological_step hxs _).finish htargets hlinks hreports _

end Flowchart

namespace StateChart

theorem exists_parse_iff (ls : List Line) :
    (∃ p, parse ls = .ok p) ↔ ∀ l ∈ (outsideNotes false ls.tail).1, ShortIndices l := by
  constructor
  · rintro ⟨p, hp⟩ l hl
    obtain ⟨xs, hxs, -⟩ := bind_eq_ok_iff.1 hp
    obtain ⟨s, hs⟩ := exists_readLines_eq_ok_iff.1 ⟨xs, hxs⟩ l hl
    exact ScopeGraph.shortIndices_of_recognise? (Statement.directive?_of_recognise hs)
  · intro h
    obtain ⟨xs, hxs⟩ := exists_readLines_eq_ok_iff.2 fun l hl =>
      Statement.exists_recognise (h l hl)
    exact ⟨_, bind_eq_ok_iff.2 ⟨xs, hxs, rfl⟩⟩

theorem topological_reportOpenNote (isOpen : Bool) (ls : List Line) :
    Topological (reportOpenNote · isOpen ls) := by
  unfold reportOpenNote
  split
  · exact .addReport _ rfl
  · exact .id

theorem topology_reportOpenNote (st : State) (isOpen : Bool) (ls : List Line) :
    (reportOpenNote st isOpen ls).topology = st.topology := by
  unfold reportOpenNote
  split <;> rfl

theorem parse_withoutDirectives (ls : List Line) :
    ∃ q, parse (withoutDirectives ls) = .ok q ∧
      ∀ p, parse ls = .ok p →
        p.diagram.SameTopology q.diagram ∧
          EndsWithStyleWarnings (outsideNotes false ls.tail).1 p := by
  have hbody : (outsideNotes false (withoutDirectives ls).tail).1 =
      (outsideNotes false ls.tail).1.filter (!ScopeGraph.isDirective ·) := by
    rw [ScopeGraph.tail_withoutDirectives, outsideNotes_filter]
  obtain ⟨ys, hys⟩ := obeysDirectives.exists_readLines_filter (outsideNotes false ls.tail).1
  rw [← hbody] at hys
  refine ⟨_, bind_eq_ok_iff.2 ⟨ys, hys, rfl⟩, fun p hp => ?_⟩
  obtain ⟨xs, hxs, hp⟩ := bind_eq_ok_iff.1 hp
  have hplain := obeysDirectives.readLines_filter hxs
  rw [← hbody, hys] at hplain
  cases hp
  cases hplain
  refine ⟨?_, ?_⟩
  · apply State.sameTopology_finish
    rw [topology_reportOpenNote, topology_reportOpenNote]
    exact obeysDirectives.topology_foldl topological_step xs rfl
  · have hrun := obeysDirectives.notes_foldl topological_step hxs
      { direction := Direction.topDown.name }
    exact (hrun.followedBy (topological_reportOpenNote (outsideNotes false ls.tail).2 ls)).finish
      rfl rfl (List.forall_mem_nil _) .state

end StateChart

/-- **Styles and topology.** Any lines of a flowchart or of a state diagram can be read without the
style directives of the body, and with them unless an index of a link style, outside notes, is too
long.  The two graphs then have the same nodes, edges, subgraphs and direction.  The diagnostics of
the whole end with one warning for every styled node that the finished graph does not know and with
one for every styled link that it does not have, wherever the directives stand. -/
theorem directives_keep_topology (ls : List Line) (direction : String) :
    (((∃ p, Flowchart.parse ls direction = .ok p) ↔ ∀ l ∈ ls.tail, ShortIndices l) ∧
      ∃ q, Flowchart.parse (withoutDirectives ls) direction = .ok q ∧
        ∀ p, Flowchart.parse ls direction = .ok p →
          p.diagram.SameTopology q.diagram ∧ EndsWithStyleWarnings ls.tail p) ∧
    ((∃ p, StateChart.parse ls = .ok p) ↔
        ∀ l ∈ (StateChart.outsideNotes false ls.tail).1, ShortIndices l) ∧
      ∃ q, StateChart.parse (withoutDirectives ls) = .ok q ∧
        ∀ p, StateChart.parse ls = .ok p →
          p.diagram.SameTopology q.diagram ∧
            EndsWithStyleWarnings (StateChart.outsideNotes false ls.tail).1 p :=
  ⟨⟨Flowchart.exists_parse_iff ls direction, Flowchart.parse_withoutDirectives ls direction⟩,
    StateChart.exists_parse_iff ls, StateChart.parse_withoutDirectives ls⟩

/-- Styles in front of what they are for, styles for what never comes, and a malformed one. -/
def styledEarly : List Line :=
  [⟨1, "graph TD", 0, 1⟩, ⟨2, "style b,ghost fill:red", 0, 1⟩, ⟨3, "subgraph s", 0, 1⟩,
   ⟨4, "linkStyle 7 color:red", 0, 1⟩, ⟨5, "a --> b", 0, 1⟩, ⟨6, "style a", 0, 1⟩,
   ⟨7, "end", 0, 1⟩, ⟨8, "class s,ghost hot", 0, 1⟩, ⟨9, "linkStyle 0,7 color:blue", 0, 1⟩]

/-- A style inside a note block, which does not count, and one outside. -/
def styledNote : List Line :=
  [⟨1, "stateDiagram-v2", 0, 1⟩, ⟨2, "note left of A", 0, 1⟩, ⟨3, "style X fill:red", 0, 1⟩,
   ⟨4, "end note", 0, 1⟩, ⟨5, "style Y fill:red", 0, 1⟩, ⟨6, "A --> B", 0, 1⟩]

theorem directives_keep_topology_styled :
    (∃ p q, Flowchart.parse styledEarly "TD" = .ok p ∧
      Flowchart.parse (withoutDirectives styledEarly) "TD" = .ok q ∧
      p.diagram.SameTopology q.diagram ∧ EndsWithStyleWarnings styledEarly.tail p ∧
      p.diagnostics.map (fun d => (d.message, d.line)) =
        [("Malformed style directive: style a", 6),
         ("Style directive references undeclared node 'ghost'", 2),
         ("linkStyle index 7 is out of range (1 edges)", 4)]) ∧
    ∃ p q, StateChart.parse styledNote = .ok p ∧
      StateChart.parse (withoutDirectives styledNote) = .ok q ∧
      p.diagram.SameTopology q.diagram ∧
      p.diagnostics.map (fun d => (d.message, d.line)) =
        [("Style directive references undeclared node 'Y'", 5)] := by
  have hflowchart : ((Flowchart.parse styledEarly "TD").toOption.map fun p =>
      p.diagnostics.map (fun d => (d.message, d.line))) =
      some [("Malformed style directive: style a", 6),
        ("Style directive references undeclared node 'ghost'", 2),
        ("linkStyle index 7 is out of range (1 edges)", 4)] := by
    decide +kernel
  have hstate : ((StateChart.parse styledNote).toOption.map fun p =>
      p.diagnostics.map (fun d => (d.message, d.line))) =
      some [("Style directive references undeclared node 'Y'", 5)] := by
    decide +kernel
  obtain ⟨p, hp, hdiagnostics⟩ := exists_ok_of_toOption hflowchart
  obtain ⟨p', hp', hdiagnostics'⟩ := exists_ok_of_toOption hstate
  obtain ⟨⟨-, q, hq, hsame⟩, -⟩ := directives_keep_topology styledEarly "TD"
  obtain ⟨-, -, q', hq', hsame'⟩ := directives_keep_topology styledNote ""
  exact ⟨⟨p, q, hp, hq, (hsame p hp).1, (hsame p hp).2, hdiagnostics⟩,
    p', q', hp', hq', (hsame' p' hp').1, hdiagnostics'⟩

/-! ## A padded index -/

/-- A single index of a link style is read whole, however long it is. -/
theorem ScopeGraph.linkStyle?_of_digits {ds : List Char} (hds : ∀ c ∈ ds, Text.isDigit c = true) :
    ScopeGraph.linkStyle? ("linkStyle ".toList ++ ('0' :: ds ++ " stroke:red".toList)) =
      some ([String.ofList ('0' :: ds)], ScopeGraph.parseProperties "stroke:red".toList) := by
  have hdigits : ∀ c ∈ '0' :: ds, Text.isDigit c = true := List.forall_mem_cons.2 ⟨rfl, hds⟩
  have htake := Text.takeWhile_append_cons (d := ' ') hdigits rfl "stroke:red".toList
  have hdrop := Text.dropWhile_append_cons (d := ' ') hdigits rfl "stroke:red".toList
  have hkeyword : Text.literal? "linkStyle".toList
      ("linkStyle ".toList ++ ('0' :: ds ++ " stroke:red".toList)) =
      some (' ' :: ('0' :: ds ++ " stroke:red".toList)) := Text.literal?_eq_some_iff.2 rfl
  have hgap : Text.gap? (' ' :: ('0' :: ds ++ " stroke:red".toList)) =
      some ('0' :: ds ++ " stroke:red".toList) := rfl
  have hlists : ScopeGraph.idLists Text.isDigit ('0' :: ds ++ " stroke:red".toList) =
      [([String.ofList ('0' :: ds)], " stroke:red".toList)] := by
    show ScopeGraph.idListsWithin Text.isDigit (_ + 1) _ = _
    unfold ScopeGraph.idListsWithin
    rw [show " stroke:red".toList = ' ' :: "stroke:red".toList from rfl, htake, hdrop]
    rfl
  unfold ScopeGraph.linkStyle?
  rw [hkeyword, Option.bind_eq_bind, Option.bind_some, hgap, Option.bind_some, hlists]
  rfl

/-- A link style for the link 7, written with 4300 zeros in front. -/
def paddedLink : Line :=
  ⟨3, String.ofList ("linkStyle ".toList ++
    ('0' :: (List.replicate 4299 '0' ++ ['7']) ++ " stroke:red".toList)), 0, 1⟩

theorem not_shortIndices_paddedLink : ¬ ShortIndices paddedLink := by
  have hds : ∀ c ∈ List.replicate 4299 '0' ++ ['7'], Text.isDigit c = true := by
    refine List.forall_mem_append.2 ⟨fun c hc => ?_, List.forall_mem_singleton.2 rfl⟩
    rw [List.eq_of_mem_replicate hc]
    rfl
  have hwritten : ScopeGraph.writtenIndices paddedLink =
      [String.ofList ('0' :: (List.replicate 4299 '0' ++ ['7']))] := by
    unfold ScopeGraph.writtenIndices paddedLink
    rw [String.toList_ofList, ScopeGraph.linkStyle?_of_digits hds]
    rfl
  intro h
  have hlength := h _ (by rw [hwritten]; exact List.mem_cons_self)
  rw [String.length_ofList, List.length_cons, List.length_append, List.length_replicate] at hlength
  exact absurd hlength (by decide)

/-- With the padded index the diagram cannot be read; without its line it can. -/
theorem paddedLink_is_fault :
    (¬ ∃ p, Flowchart.parse [⟨1, "graph TD", 0, 1⟩, ⟨2, "A --> B", 0, 1⟩, paddedLink] "TD" =
        .ok p) ∧
      ∃ q, Flowchart.parse [⟨1, "graph TD", 0, 1⟩, ⟨2, "A --> B", 0, 1⟩] "TD" = .ok q := by
  constructor
  · intro h
    exact not_shortIndices_paddedLink ((Flowchart.exists_parse_iff _ _).1 h _ (by simp))
  · exact (Flowchart.exists_parse_iff _ _).2 (List.forall_mem_singleton.2 (by decide +kernel))

end DiagramText
