import DiagramText.Proofs.Dispatch

/-!
# Who reads a source

The first logical line decides who reads a source.  A keyword of a built-in kind settles the matter
before any plugin is asked; a line that neither a keyword nor a detector claims leaves the source
without a diagram and with one error.
-/

namespace DiagramText

/-! ## Built-in kinds -/

/-- The reader of a kind gives diagrams of that kind. -/
theorem Diagram.kind_of_parse {kind : DiagramKind} {direction : String} {ls : List Source.Line}
    {p : Parsed Diagram} (h : Diagram.parse kind direction ls = .ok p) : p.diagram.kind = kind := by
  cases kind with
  | flowchart =>
    obtain ⟨p', hp, rfl⟩ := map_eq_ok_iff.1 h
    obtain ⟨xs, -, hp⟩ := bind_eq_ok_iff.1 hp
    cases hp
    rfl
  | state =>
    obtain ⟨p', hp, rfl⟩ := map_eq_ok_iff.1 h
    obtain ⟨xs, -, hp⟩ := bind_eq_ok_iff.1 hp
    cases hp
    rfl
  | sequence | pie =>
    obtain ⟨p', -, rfl⟩ := map_eq_ok_iff.1 h
    rfl
  | classes | er | gantt | mindmap =>
    cases h
    rfl

/-! ## Detectors -/

section

variable {υ : Type} {line : String}

/-- Whether some contributed detector accepts a line; a detector that fails does not. -/
def PluginRegistry.Accepts (registry : PluginRegistry υ) (line : String) : Prop :=
  ∃ x ∈ registry.diagrams, x.2.accepts line = .ok true

instance (registry : PluginRegistry υ) (line : String) : Decidable (registry.Accepts line) :=
  inferInstanceAs (Decidable (∃ x ∈ registry.diagrams, x.2.accepts line = .ok true))

/-- Detectors that refuse a line or fail on it leave it to nobody. -/
theorem PluginRegistry.detectIn_eq_none {ds : List (Plugin υ × DiagramPlugin υ)}
    (h : ∀ x ∈ ds, x.2.accepts line ≠ .ok true) : (detectIn line ds).1 = none := by
  induction ds with
  | nil => rfl
  | cons x ds ih =>
    obtain ⟨p, d⟩ := x
    obtain ⟨hd, hds⟩ := List.forall_mem_cons.1 h
    unfold detectIn
    cases hline : d.accepts line with
    | error message => exact ih hds
    | ok accepted =>
      cases accepted with
      | false => exact ih hds
      | true => exact absurd hline hd

theorem PluginRegistry.detect_eq_none {registry : PluginRegistry υ}
    (h : ¬ registry.Accepts line) : (registry.detect line).1 = none := by
  apply detectIn_eq_none
  intro x hx haccepts
  exact h ⟨x, hx, haccepts⟩

/-- A source whose first line nobody claims has no diagram and one error. -/
theorem runOther_of_not_accepts {registry : PluginRegistry υ} {first : Option Source.Line}
    (h : ∀ l, first = some l → ¬ registry.Accepts l.text) (source : String) (front : FrontMatter)
    (warnings : List Diagnostic) :
    (runOther registry first source front warnings).result =
      .ok
        { ast := none, diagnostics := warnings ++ [unrecognisedDiagram], frontMatter := front } := by
  unfold runOther
  cases first with
  | none => rfl
  | some l =>
    have hnone := PluginRegistry.detect_eq_none (h l rfl)
    dsimp only
    rw [hnone]

end

/-! ## Front matter -/

section

variable {load : Yaml.Loader}

/-- A warning about front matter has a line and no column. -/
theorem FrontMatter.exists_report_of_ofBlock {b : Source.Block} {front : FrontMatter}
    {warnings : List Diagnostic} (h : FrontMatter.ofBlock b load = .ok (front, warnings)) :
    ∀ w ∈ warnings, ∃ (p : FrontMatter.Problem) (line : Nat),
      1 ≤ line ∧ w = (Report.mk p line none).toDiagnostic := by
  unfold FrontMatter.ofBlock at h
  intro w hw
  split at h
  · cases h
    cases hw
  · split at h
    all_goals cases h
    · cases hw
    · cases hw
    · exact ⟨_, _, by omega, List.mem_singleton.1 hw⟩
  · cases h
    exact ⟨_, _, by omega, List.mem_singleton.1 hw⟩
  · cases h

theorem exists_report_of_frontMatterOf {o : Options} {source : String} {front : FrontMatter}
    {warnings : List Diagnostic} (h : frontMatterOf o source load = .ok (front, warnings)) :
    ∀ w ∈ warnings, ∃ (p : FrontMatter.Problem) (line : Nat),
      1 ≤ line ∧ w = (Report.mk p line none).toDiagnostic := by
  unfold frontMatterOf FrontMatter.read at h
  split at h
  · cases h
    exact List.forall_mem_nil _
  · split at h
    · exact FrontMatter.exists_report_of_ofBlock h
    · cases h
      exact List.forall_mem_nil _

/-- Front matter is never the cause of an error, only of warnings. -/
theorem severity_of_frontMatterOf {o : Options} {source : String} {front : FrontMatter}
    {warnings : List Diagnostic} (h : frontMatterOf o source load = .ok (front, warnings)) :
    ∀ w ∈ warnings, w.severity = .warning := by
  intro w hw
  obtain ⟨p, line, -, rfl⟩ := exists_report_of_frontMatterOf h w hw
  rfl

end

theorem filter_isError_eq_nil {ds : List Diagnostic} (h : ∀ d ∈ ds, d.severity = .warning) :
    ds.filter (·.isError) = [] := by
  apply List.filter_eq_nil_iff.2
  intro d hd
  unfold Diagnostic.isError
  rw [h d hd]
  decide

/-! ## The contract -/

/-- **Dispatch contract.** Whatever loads the front matter, every result starts with the warnings
about it.  In a source of a built-in kind the diagram and the other diagnostics are those of the
reader of that kind, and no plugin has a say.  A source of no such kind whose first line, if it has
one, no detector accepts has no diagram and exactly one error, at its first line. -/
theorem dispatched_by_first_line {υ : Type} {registry : PluginRegistry υ} {o : Options}
    {source : String} {load : Yaml.Loader} {r : Result υ}
    (h : (dispatch registry o source load).result = .ok r) :
    ∃ front warnings, frontMatterOf o source load = .ok (front, warnings) ∧
      (∀ w ∈ warnings, w.severity = .warning) ∧
      (∀ kind, DiagramKind.detect? source = some kind →
        (∀ registry' : PluginRegistry υ, (dispatch registry' o source load).result = .ok r) ∧
        ∃ p, Diagram.parse kind o.direction (Source.scan source (o.splits kind)) = .ok p ∧
          p.diagram.kind = kind ∧
          r = ⟨some (.builtin p.diagram), warnings ++ p.diagnostics, front⟩) ∧
      (DiagramKind.detect? source = none →
        (∀ l, Source.firstLine? source = some l → ¬ registry.Accepts l.text) →
        ∃ e : Diagnostic,
          e.severity = .error ∧ e.message = "unrecognized diagram type" ∧ e.line = 1 ∧
          r = ⟨none, warnings ++ [e], front⟩ ∧ r.errors = [e]) := by
  obtain ⟨front, warnings, hfront⟩ := frontMatterOf_of_dispatch h
  have hwarn := severity_of_frontMatterOf hfront
  refine ⟨front, warnings, hfront, hwarn, ?_, ?_⟩
  · intro kind hkind
    rw [dispatch_of_detect hfront hkind] at h
    refine ⟨?_, ?_⟩
    · intro registry'
      rw [dispatch_of_detect hfront hkind]
      exact h
    · obtain ⟨p, hp, h⟩ := bind_eq_ok_iff.1 h
      cases h
      exact ⟨p, hp, Diagram.kind_of_parse hp, rfl⟩
  · intro hkind hfirst
    rw [dispatch_of_detect_none hfront hkind, runOther_of_not_accepts hfirst] at h
    cases h
    refine ⟨unrecognisedDiagram, rfl, rfl, rfl, rfl, ?_⟩
    unfold Result.errors
    rw [List.filter_append, filter_isError_eq_nil hwarn]
    rfl

/-- A plugin with a detector that always fails and one that accepts lines about poems. -/
def poems : Plugin Unit :=
  let reader : Option (String → Reading Unit) := some fun _ => ⟨.result none [], []⟩
  { name := "poems"
    diagrams :=
      [{ type := "riddle", detect := some fun _ => .error "no riddle", read := reader },
       { type := "poem", detect := some fun line => .ok (line.startsWith "p"), read := reader }] }

/-- Front matter that is no mapping, above a line that opens a diagram and a poem. -/
def poemOrPie : String := "---\n- a\n---\npie\noops"

/-- Front matter that is no mapping, above a line that opens nothing. -/
def neitherPoemNorPie : String := "---\n- a\n---\nuntitled"

theorem dispatched_by_first_line_poems :
    (∃ (r : Result Unit) (p : Parsed Diagram),
      (dispatch ⟨[poems]⟩ {} poemOrPie).result = .ok r ∧ p.diagram.kind = .pie ∧
        r.ast = some (.builtin p.diagram) ∧ r.diagnostics.map (·.line) = [1, 5] ∧
        (dispatch {} {} poemOrPie).result = .ok r) ∧
    ∃ (r : Result Unit) (e : Diagnostic),
      (dispatch ⟨[poems]⟩ {} neitherPoemNorPie).result = .ok r ∧ r.ast.isNone ∧
        r.diagnostics.length = 2 ∧ r.errors = [e] ∧ e.message = "unrecognized diagram type" := by
  constructor
  · have hrun : ((dispatch ⟨[poems]⟩ {} poemOrPie).result.toOption.map fun r =>
        r.diagnostics.map (·.line)) = some [1, 5] := by
      decide +kernel
    obtain ⟨r, hr, hlines⟩ := exists_ok_of_toOption hrun
    obtain ⟨front, warnings, -, -, hbuiltin, -⟩ := dispatched_by_first_line hr
    obtain ⟨hsame, p, -, hkind, rfl⟩ := hbuiltin .pie (by decide +kernel)
    exact ⟨_, p, hr, hkind, rfl, hlines, hsame {}⟩
  · have hrun : ((dispatch ⟨[poems]⟩ {} neitherPoemNorPie).result.toOption.map fun r =>
        r.diagnostics.length) = some 2 := by
      decide +kernel
    have hfirst : (Source.firstLine? neitherPoemNorPie).map (·.text) = some "untitled" := by
      decide +kernel
    obtain ⟨r, hr, hlength⟩ := exists_ok_of_toOption hrun
    obtain ⟨front, warnings, -, -, -, hother⟩ := dispatched_by_first_line hr
    have hrefused : ¬ (⟨[poems]⟩ : PluginRegistry Unit).Accepts "untitled" := by decide +kernel
    obtain ⟨e, -, hmessage, -, rfl, herrors⟩ := hother (by decide +kernel) (by
      intro l hl
      rw [hl] at hfirst
      have htext : l.text = "untitled" := Option.some.inj hfirst
      rw [htext]
      exact hrefused)
    exact ⟨_, e, hr, rfl, hlength, herrors, hmessage⟩

end DiagramText
