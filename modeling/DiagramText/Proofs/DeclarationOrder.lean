import DiagramText.Proofs.Classes.Roster
import DiagramText.Proofs.Dispatch
import DiagramText.Proofs.Er.Roster
import DiagramText.Proofs.ScopeGraph.Roster
import DiagramText.Proofs.Sequence.Roster

/-!
# Dense declaration order

A diagram lists its nodes, participants, classes or entities in order of first mention and numbers
them from zero.  Lines that follow can only add to the end of the list: what a beginning of the
source has given a place and a number keeps both.
-/

namespace DiagramText

open Source (Line)

/-- The nodes, participants, classes or entities of a diagram, as id and number, in the order in
which they are listed.  Pie charts, Gantt charts and mind maps number nothing. -/
def Diagram.roster : Diagram → List (String × Nat)
  | .graph g => g.roster
  | .sequence d => d.participants.map fun p => (p.id, p.declaredOrder)
  | .classes d => d.classes.map fun e => (e.id, e.declaredOrder)
  | .er d => d.entities.map fun e => (e.id, e.declaredOrder)
  | .pie _ | .gantt _ | .mindmap _ => []

/-- The ids that the lines of a diagram mention, in order and with repetitions. -/
def DiagramKind.mentions : DiagramKind → List Line → List String
  | .flowchart => Flowchart.mentions
  | .state => StateChart.mentions
  | .sequence => Sequence.mentions
  | .classes => Classes.mentions
  | .er => Er.mentions
  | .pie | .gantt | .mindmap => fun _ => []

/-- A diagram lists the ids of `mentioned`, each once and in order of first mention, the `i`-th one
with the number `i`.  The nodes of a graph stand under their own ids. -/
structure Diagram.InOrder (mentioned : List String) (d : Diagram) : Prop where
  ids : d.roster.map (·.1) = addAllNew [] mentioned
  nodup : (d.roster.map (·.1)).Nodup
  orders : d.roster.map (·.2) = List.range d.roster.length
  keys : ∀ g, d = .graph g → ∀ e ∈ g.nodes.entries, e.2.id = e.1

namespace Diagram

/-- A roster is known from the ids that are mentioned. -/
theorem InOrder.roster_eq {mentioned : List String} {d : Diagram} (h : d.InOrder mentioned) :
    d.roster = (addAllNew [] mentioned).zipIdx := by
  have hlength : d.roster.length = (d.roster.map (·.1)).length := (List.length_map _).symm
  calc d.roster
      = (d.roster.map (·.1)).zip (d.roster.map (·.2)) := by
        rw [List.zip_map', List.map_id']
    _ = (addAllNew [] mentioned).zip (List.range (addAllNew [] mentioned).length) := by
        rw [h.orders, hlength, h.ids]
    _ = (addAllNew [] mentioned).zipIdx := by
        rw [List.zipIdx_eq_zip_range', List.range_eq_range']

theorem InOrder.of_dense {α : Type} {idOf : α → String} {orderOf : α → Nat} {r : Registry α}
    {mentioned : List String} {d : Diagram} (hdense : Registry.Dense idOf orderOf r)
    (hkeys : r.keys = addAllNew [] mentioned)
    (hroster : d.roster = r.values.map fun v => (idOf v, orderOf v))
    (hgraph : ∀ g, d = .graph g → ∀ e ∈ g.nodes.entries, e.2.id = e.1) :
    d.InOrder mentioned := by
  have hzip : d.roster = r.keys.zipIdx := hroster.trans hdense.roster_eq
  have hids : d.roster.map (·.1) = r.keys := by
    rw [hzip, List.zipIdx_map_fst]
  refine ⟨hids.trans hkeys, ?_, ?_, hgraph⟩
  · rw [hids]
    exact hdense.nodup
  · rw [hzip, List.zipIdx_map_snd, List.length_zipIdx, List.range_eq_range']

theorem inOrder_of_parse {kind : DiagramKind} {direction : String} {ls : List Line}
    {p : Parsed Diagram} (h : Diagram.parse kind direction ls = .ok p) :
    p.diagram.InOrder (kind.mentions ls) := by
  cases kind with
  | flowchart =>
    obtain ⟨p', hp, rfl⟩ := map_eq_ok_iff.1 h
    obtain ⟨hdense, hkeys⟩ := Flowchart.dense_of_parse hp
    refine .of_dense hdense hkeys rfl ?_
    rintro g ⟨⟩
    exact hdense.keyed
  | state =>
    obtain ⟨p', hp, rfl⟩ := map_eq_ok_iff.1 h
    obtain ⟨hdense, hkeys⟩ := StateChart.dense_of_parse hp
    refine .of_dense hdense hkeys rfl ?_
    rintro g ⟨⟩
    exact hdense.keyed
  | sequence =>
    obtain ⟨p', hp, rfl⟩ := map_eq_ok_iff.1 h
    obtain ⟨r, hr, hdense, hkeys⟩ := Sequence.dense_of_parse hp
    refine .of_dense hdense hkeys (congrArg _ hr) ?_
    rintro g ⟨⟩
  | classes =>
    cases h
    obtain ⟨r, hr, hdense, hkeys⟩ := Classes.dense_parse ls
    refine .of_dense hdense hkeys (congrArg _ hr) ?_
    rintro g ⟨⟩
  | er =>
    cases h
    obtain ⟨r, hr, hdense, hkeys⟩ := Er.dense_parse ls
    refine .of_dense hdense hkeys (congrArg _ hr) ?_
    rintro g ⟨⟩
  | pie =>
    obtain ⟨p', hp, rfl⟩ := map_eq_ok_iff.1 h
    exact ⟨rfl, List.nodup_nil, rfl, by rintro g ⟨⟩⟩
  | gantt =>
    cases h
    exact ⟨rfl, List.nodup_nil, rfl, by rintro g ⟨⟩⟩
  | mindmap =>
    cases h
    exact ⟨rfl, List.nodup_nil, rfl, by rintro g ⟨⟩⟩

/-- Where all lines can be read, a beginning with a header can be read. -/
theorem exists_parse_of_prefix {kind : DiagramKind} {direction : String} {ls ls' : List Line}
    {p : Parsed Diagram} (h : Diagram.parse kind direction ls = .ok p) (hpre : ls' <+: ls)
    (hne : ls' ≠ []) : ∃ p', Diagram.parse kind direction ls' = .ok p' := by
  -- The three readers that can fail below the header read each line on its own.
  have readable {σ : Type} {read : String → Except Fault σ} {few many : List Line}
      {xs : List (Line × σ)} (hx : readLines read many = .ok xs) (hsub : few ⊆ many) :
      ∃ ys, readLines read few = .ok ys := by
    have hall := exists_readLines_eq_ok_iff.1 ⟨xs, hx⟩
    exact exists_readLines_eq_ok_iff.2 fun l hl => hall l (hsub hl)
  obtain ⟨header, body', rfl⟩ := List.exists_cons_of_ne_nil hne
  obtain ⟨more, rfl⟩ := hpre
  have hbody : body' ⊆ body' ++ more := List.subset_append_left _ _
  cases kind with
  | flowchart =>
    obtain ⟨p', hp, rfl⟩ := map_eq_ok_iff.1 h
    obtain ⟨xs, hx, -⟩ := bind_eq_ok_iff.1 hp
    obtain ⟨ys, hy⟩ := readable hx hbody
    exact ⟨_, map_eq_ok_iff.2 ⟨_, bind_eq_ok_iff.2 ⟨ys, hy, rfl⟩, rfl⟩⟩
  | state =>
    obtain ⟨p', hp, rfl⟩ := map_eq_ok_iff.1 h
    obtain ⟨xs, hx, -⟩ := bind_eq_ok_iff.1 hp
    have houtside := StateChart.outsideNotes_prefix false body' more
    obtain ⟨ys, hy⟩ := readable hx houtside.subset
    exact ⟨_, map_eq_ok_iff.2 ⟨_, bind_eq_ok_iff.2 ⟨ys, hy, rfl⟩, rfl⟩⟩
  | sequence =>
    obtain ⟨p', hp, rfl⟩ := map_eq_ok_iff.1 h
    obtain ⟨xs, hx, -⟩ := bind_eq_ok_iff.1 hp
    obtain ⟨ys, hy⟩ := readable hx hbody
    exact ⟨_, map_eq_ok_iff.2 ⟨_, bind_eq_ok_iff.2 ⟨ys, hy, rfl⟩, rfl⟩⟩
  | classes => exact ⟨_, rfl⟩
  | er => exact ⟨_, rfl⟩
  | pie => exact ⟨_, rfl⟩
  | gantt => exact ⟨_, rfl⟩
  | mindmap => exact ⟨_, rfl⟩

end Diagram

theorem DiagramKind.mentions_prefix (kind : DiagramKind) {ls ls' : List Line} (h : ls <+: ls') :
    kind.mentions ls <+: kind.mentions ls' := by
  cases kind with
  | flowchart => exact Flowchart.mentions_prefix h
  | state => exact StateChart.mentions_prefix h
  | sequence => exact Sequence.mentions_prefix h
  | classes => exact Classes.mentions_prefix h
  | er => exact Er.mentions_prefix h
  | pie => exact List.prefix_rfl
  | gantt => exact List.prefix_rfl
  | mindmap => exact List.prefix_rfl

/-- **Dense declaration order.** A diagram that a built-in reader returns lists what its lines
mention, each id once, in order of first mention and numbered from zero; and a diagram of the first
lines lists the same ids with the same numbers in the same places, as far as it goes. -/
theorem declared_in_order_of_mention {υ : Type} {registry : PluginRegistry υ} {o : Options}
    {source : String} {load : Yaml.Loader} {r : Result υ} {d : Diagram}
    (hb : registry.plugins = [] ∨ (DiagramKind.detect? source).isSome)
    (h : (dispatch registry o source load).result = .ok r) (hd : r.ast = some (.builtin d)) :
    ∃ kind, DiagramKind.detect? source = some kind ∧
      d.InOrder (kind.mentions (Source.scan source (o.splits kind))) ∧
      ∀ ls, ls <+: Source.scan source (o.splits kind) → ls ≠ [] →
        ∃ p, Diagram.parse kind o.direction ls = .ok p ∧ p.diagram.roster <+: d.roster := by
  obtain ⟨kind, p, hkind, hp, rfl⟩ := exists_parse_of_dispatch hb h hd
  have horder := Diagram.inOrder_of_parse hp
  refine ⟨kind, hkind, horder, ?_⟩
  intro ls hpre hne
  obtain ⟨p', hp'⟩ := Diagram.exists_parse_of_prefix hp hpre hne
  refine ⟨p', hp', ?_⟩
  rw [(Diagram.inOrder_of_parse hp').roster_eq, horder.roster_eq]
  have hids := addAllNew_prefix [] (kind.mentions_prefix hpre)
  exact zipIdx_prefix hids

/-- The diagram in an answer that comes from a built-in reader. -/
def Ast.builtin? {υ : Type} : Ast υ → Option Diagram
  | .builtin d => some d
  | .custom _ => none

theorem Ast.eq_of_builtin? {υ : Type} {a : Ast υ} {d : Diagram} (h : a.builtin? = some d) :
    a = .builtin d := by
  cases a with
  | builtin d' =>
    cases h
    rfl
  | custom v => cases h

/-- Participants that are mentioned before they are declared, and declared twice. -/
def lateDeclarations : String :=
  "sequenceDiagram\nBob->>Ann: hi\nactor Ann as A\nZoe->>Bob: yo\nparticipant Ann as B"

theorem declared_in_order_of_mention_lateDeclarations :
    ∃ (r : Result Unit) (d : Diagram), (dispatch {} {} lateDeclarations).result = .ok r ∧
      r.ast = some (.builtin d) ∧ d.roster = [("Bob", 0), ("Ann", 1), ("Zoe", 2)] ∧
      ∃ kind, DiagramKind.detect? lateDeclarations = some kind ∧
        d.InOrder (kind.mentions (Source.scan lateDeclarations (Options.splits {} kind))) ∧
        ∀ ls, ls <+: Source.scan lateDeclarations (Options.splits {} kind) → ls ≠ [] →
          ∃ p, Diagram.parse kind (Options.direction {}) ls = .ok p ∧
            p.diagram.roster <+: d.roster := by
  have hrun : ((dispatch ({} : PluginRegistry Unit) {} lateDeclarations).result.toOption.map
      fun r => (r.ast.bind Ast.builtin?).map Diagram.roster) =
      some (some [("Bob", 0), ("Ann", 1), ("Zoe", 2)]) := by
    decide +kernel
  obtain ⟨r, hr, hroster⟩ := exists_ok_of_toOption hrun
  obtain ⟨d, hd, hroster⟩ := Option.map_eq_some_iff.1 hroster
  obtain ⟨a, ha, hd⟩ := Option.bind_eq_some_iff.1 hd
  rw [Ast.eq_of_builtin? hd] at ha
  exact ⟨r, d, hr, ha, hroster, declared_in_order_of_mention (.inl rfl) hr ha⟩

end DiagramText
