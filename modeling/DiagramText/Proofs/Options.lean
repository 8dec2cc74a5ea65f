import DiagramText.Proofs.Dispatch
import DiagramText.Proofs.Flowchart.Direction
import DiagramText.Proofs.Source.Places

/-!
# Options do not leak

Each wish of a caller has its own part of the answer, and leaves the rest of it alone.

1. `findings`, what a call finds behind the front matter, whoever reads the source.
2. Whether statements are split, and the direction of a flowchart whose lines name none.
3. `options_do_not_leak`.
-/

namespace DiagramText

variable {υ : Type} {load : Yaml.Loader}

/-! ## Behind the front matter -/

/-- What a call finds behind the front matter: the diagram, if there is one, and the diagnostics
that are not about the front matter. -/
def findings (registry : PluginRegistry υ) (o : Options) (source : String) :
    Except Fault (Option (Ast υ) × List Diagnostic) :=
  match DiagramKind.detect? source with
  | some kind =>
    (Diagram.parse kind o.direction (Source.scan source (o.splits kind))).map fun p =>
      (some (.builtin p.diagram), p.diagnostics)
  | none =>
    (runOther registry (Source.firstLine? source) source {} []).result.map fun r =>
      (r.ast, r.diagnostics)

theorem runPlugin_eq (p : Plugin υ) (d : DiagramPlugin υ) (source : String) (front : FrontMatter)
    (warnings : List Diagnostic) :
    (runPlugin p d source front warnings).result =
      (runPlugin p d source {} []).result.map fun r =>
        { ast := r.ast, diagnostics := warnings ++ r.diagnostics, frontMatter := front } := by
  unfold runPlugin
  dsimp only
  generalize (d.read.map (· source)).getD (⟨.failed "", []⟩ : Reading υ) = reading
  cases reading.outcome with
  | failed message => rfl
  | result ast diagnostics => rfl
  | other resultType => rfl

theorem runOther_eq (registry : PluginRegistry υ) (first : Option Source.Line) (source : String)
    (front : FrontMatter) (warnings : List Diagnostic) :
    (runOther registry first source front warnings).result =
      (runOther registry first source {} []).result.map fun r =>
        { ast := r.ast, diagnostics := warnings ++ r.diagnostics, frontMatter := front } := by
  unfold runOther
  cases first with
  | none => rfl
  | some l =>
    dsimp only
    rcases registry.detect l.text with ⟨_ | ⟨p, d⟩, notices⟩
    · rfl
    · exact runPlugin_eq p d source front warnings

/-- Front matter is put in front of the findings and does not change them. -/
theorem dispatch_eq_findings {registry : PluginRegistry υ} {o : Options} {source : String}
    {front : FrontMatter} {warnings : List Diagnostic}
    (hfront : frontMatterOf o source load = .ok (front, warnings)) :
    (dispatch registry o source load).result = (findings registry o source).map fun x =>
      { ast := x.1, diagnostics := warnings ++ x.2, frontMatter := front } := by
  unfold findings
  cases hkind : DiagramKind.detect? source with
  | none =>
    rw [dispatch_of_detect_none hfront hkind, runOther_eq]
    cases (runOther registry (Source.firstLine? source) source {} []).result with
    | error fault => rfl
    | ok r => rfl
  | some kind =>
    rw [dispatch_of_detect hfront hkind]
    unfold runBuiltin
    dsimp only
    cases Diagram.parse kind o.direction (Source.scan source (o.splits kind)) with
    | error fault => rfl
    | ok p => rfl

/-- A result is made of front matter and findings. -/
theorem exists_findings_of_dispatch {registry : PluginRegistry υ} {o : Options} {source : String}
    {r : Result υ} (h : (dispatch registry o source load).result = .ok r) :
    ∃ warnings rest, frontMatterOf o source load = .ok (r.frontMatter, warnings) ∧
      findings registry o source = .ok (r.ast, rest) ∧ r.diagnostics = warnings ++ rest := by
  obtain ⟨front, warnings, hfront⟩ := frontMatterOf_of_dispatch h
  rw [dispatch_eq_findings hfront] at h
  obtain ⟨x, hx, rfl⟩ := map_eq_ok_iff.1 h
  exact ⟨warnings, x.2, hfront, hx, rfl⟩

/-- Where nothing can be split, it does not matter whether statements are split. -/
theorem findings_splitStatements {registry : PluginRegistry υ} {o o' : Options} {source : String}
    (hdirection : o'.defaultDirection = o.defaultDirection)
    (hplain : ∀ kind, DiagramKind.detect? source = some kind →
      kind = .flowchart ∨ kind = .state → ∀ l ∈ Source.scan source false, ';' ∉ l.text.toList) :
    findings registry o' source = findings registry o source := by
  have hwish : o'.direction = o.direction := by
    unfold Options.direction
    rw [hdirection]
  unfold findings
  cases hkind : DiagramKind.detect? source with
  | none => rfl
  | some kind =>
    have hscan : ∀ o : Options,
        Source.scan source (o.splits kind) = Source.scan source false := by
      intro o
      cases hsplits : o.splits kind with
      | false => rfl
      | true =>
        apply Source.scan_true
        apply hplain kind hkind
        unfold Options.splits at hsplits
        cases kind with
        | flowchart => exact .inl rfl
        | state => exact .inr rfl
        | _ =>
          rw [Bool.and_eq_true] at hsplits
          cases hsplits.2
    dsimp only
    rw [hscan o, hscan o', hwish]

/-! ## The direction -/

/-- The text of the warning about a header that names no direction. -/
def unknownDirectionText (token current : String) : String :=
  s!"Unknown direction \"{token}\"; using {current}"

/-- The same diagnostic, up to the wish that the warning about an unknown direction quotes. -/
def Diagnostic.SameUpToWish (wish wish' : String) (d d' : Diagnostic) : Prop :=
  d' = d ∨ ∃ token, d.message = unknownDirectionText token wish ∧
    d' = { d with message := unknownDirectionText token wish' }

/-- The same flowchart, up to a direction that is the wish of the caller. -/
def ScopeGraph.Graph.SameUpToWish (wish wish' : String) (g g' : ScopeGraph.Graph) : Prop :=
  g' = g ∨ g.family = .flowchart ∧ g.direction = wish ∧ g' = { g with direction := wish' }

/-- The same diagram, up to the direction of a flowchart. -/
def Ast.SameUpToWish (wish wish' : String) (a a' : Option (Ast υ)) : Prop :=
  a' = a ∨ ∃ g g' : ScopeGraph.Graph, a = some (.builtin (.graph g)) ∧
    a' = some (.builtin (.graph g')) ∧ g.SameUpToWish wish wish' g'

namespace Flowchart

/-- The lines of a flowchart name its direction: the header does, or a `direction` statement outside
every subgraph. -/
def NamesDirection (ls : List Source.Line) : Prop :=
  (∃ l, ls.head? = some l ∧ (headerDirection? l).isSome) ∨
    ∃ xs, statements ls.tail = .ok xs ∧ outerDirections 0 (xs.map (·.2)) ≠ []

theorem isSome_namedDirection? {ls : List Source.Line} {xs : List (Source.Line × Statement)}
    (hxs : statements ls.tail = .ok xs) (h : NamesDirection ls) :
    (namedDirection? ls xs).isSome := by
  unfold namedDirection?
  rw [Option.isSome_or]
  rcases h with ⟨l, hl, hd⟩ | ⟨xs', hxs', hd⟩
  · rw [hl, Option.bind_some, hd, Bool.or_true]
  · rw [hxs] at hxs'
    cases hxs'
    rw [List.getLast?_isSome.2 hd, Bool.true_or]

theorem sameUpToWish_start (ls : List Source.Line) (wish wish' : String) :
    List.Forall₂ (Diagnostic.SameUpToWish wish wish')
      ((start ls wish).reports.map Report.toDiagnostic)
      ((start ls wish').reports.map Report.toDiagnostic) := by
  cases ls with
  | nil => exact .nil
  | cons l ls =>
    show List.Forall₂ _ ((readHeader _ l).reports.map _) ((readHeader _ l).reports.map _)
    rcases reports_readHeader l wish wish' with heq | ⟨-, token, hwish, hwish'⟩
    · rw [heq]
      exact List.forall₂_same.2 fun d _ => .inl rfl
    · rw [hwish, hwish']
      exact .cons (.inr ⟨token, rfl, rfl⟩) .nil

/-- Another wish changes the direction of a flowchart, if its lines name none, and the text of one
warning. -/
theorem sameUpToWish_of_parse {ls : List Source.Line} {wish wish' : String}
    {p p' : Parsed ScopeGraph.Graph} (h : parse ls wish = .ok p) (h' : parse ls wish' = .ok p') :
    p.diagram.SameUpToWish wish wish' p'.diagram ∧
      List.Forall₂ (Diagnostic.SameUpToWish wish wish') p.diagnostics p'.diagnostics ∧
      (NamesDirection ls → p'.diagram = p.diagram) := by
  rw [parse_eq_headed] at h h'
  obtain ⟨xs, hxs, rfl⟩ := map_eq_ok_iff.1 h
  obtain ⟨xs', hxs', rfl⟩ := map_eq_ok_iff.1 h'
  rw [hxs] at hxs'
  cases hxs'
  refine ⟨?_, ?_, ?_⟩
  · cases hd : namedDirection? ls xs with
    | some d => exact .inl rfl
    | none => exact .inr ⟨rfl, rfl, rfl⟩
  · apply List.rel_append (sameUpToWish_start ls wish wish')
    exact List.forall₂_same.2 fun d _ => .inl rfl
  · intro hnamed
    obtain ⟨d, hd⟩ := Option.isSome_iff_exists.1 (isSome_namedDirection? hxs hnamed)
    simp only [hd]
    rfl

end Flowchart

/-- Only flowcharts see the wish. -/
theorem findings_defaultDirection {registry : PluginRegistry υ} {o o' : Options} {source : String}
    {x x' : Option (Ast υ) × List Diagnostic}
    (hsplit : o'.splitStatements = o.splitStatements)
    (h : findings registry o source = .ok x) (h' : findings registry o' source = .ok x') :
    Ast.SameUpToWish o.direction o'.direction x.1 x'.1 ∧
      List.Forall₂ (Diagnostic.SameUpToWish o.direction o'.direction) x.2 x'.2 ∧
      ((DiagramKind.detect? source = some .flowchart →
        Flowchart.NamesDirection (Source.scan source (o.splits .flowchart))) → x'.1 = x.1) := by
  have hsplits (kind : DiagramKind) : o'.splits kind = o.splits kind := by
    unfold Options.splits
    rw [hsplit]
  -- What has not seen the wish is the same.
  have unseen (heq : findings registry o' source = findings registry o source) :
      Ast.SameUpToWish o.direction o'.direction x.1 x'.1 ∧
        List.Forall₂ (Diagnostic.SameUpToWish o.direction o'.direction) x.2 x'.2 ∧ x'.1 = x.1 := by
    rw [heq, h] at h'
    cases h'
    exact ⟨.inl rfl, List.forall₂_same.2 fun d _ => .inl rfl, rfl⟩
  cases hkind : DiagramKind.detect? source with
  | none =>
    have heq : findings registry o' source = findings registry o source := by
      unfold findings
      rw [hkind]
    obtain ⟨hast, hdiagnostics, hsame⟩ := unseen heq
    exact ⟨hast, hdiagnostics, fun _ => hsame⟩
  | some kind =>
    by_cases hflowchart : kind = .flowchart
    · subst hflowchart
      unfold findings at h h'
      rw [hkind] at h h'
      dsimp only at h h'
      rw [hsplits] at h'
      obtain ⟨q, hq, rfl⟩ := map_eq_ok_iff.1 h
      obtain ⟨q', hq', rfl⟩ := map_eq_ok_iff.1 h'
      obtain ⟨p, hp, rfl⟩ := map_eq_ok_iff.1 hq
      obtain ⟨p', hp', rfl⟩ := map_eq_ok_iff.1 hq'
      obtain ⟨hgraph, hdiagnostics, hnamed⟩ := Flowchart.sameUpToWish_of_parse hp hp'
      refine ⟨.inr ⟨p.diagram, p'.diagram, rfl, rfl, hgraph⟩, hdiagnostics, ?_⟩
      intro hnames
      show some (Ast.builtin (.graph p'.diagram)) = some (.builtin (.graph p.diagram))
      rw [hnamed (hnames rfl)]
    · have heq : findings registry o' source = findings registry o source := by
        unfold findings
        rw [hkind]
        dsimp only
        rw [hsplits]
        cases kind with
        | flowchart => exact absurd rfl hflowchart
        | _ => rfl
      obtain ⟨hast, hdiagnostics, hsame⟩ := unseen heq
      exact ⟨hast, hdiagnostics, fun _ => hsame⟩

/-! ## The theorem -/

/-- **Options do not leak.** Take two calls on the same source, with the same loader of front
matter, that both return.  If they differ in whether front matter is read, only the front matter and
the warnings about it, which come first, can differ.  If they differ in whether statements are
split, nothing differs, unless the source is a flowchart or a state diagram with a semicolon in a
line.  If they differ in the direction that is wished for, only the direction of a flowchart and the
text of the warning about an unknown direction can differ, and not the direction if the lines name
one. -/
theorem options_do_not_leak {registry : PluginRegistry υ} {o o' : Options} {source : String}
    {load : Yaml.Loader} {r r' : Result υ} (h : (dispatch registry o source load).result = .ok r)
    (h' : (dispatch registry o' source load).result = .ok r') :
    (o'.defaultDirection = o.defaultDirection → o'.splitStatements = o.splitStatements →
      r'.ast = r.ast ∧ ∃ warnings warnings' rest,
        frontMatterOf o source load = .ok (r.frontMatter, warnings) ∧
        frontMatterOf o' source load = .ok (r'.frontMatter, warnings') ∧
        r.diagnostics = warnings ++ rest ∧ r'.diagnostics = warnings' ++ rest) ∧
    (o'.defaultDirection = o.defaultDirection → o'.frontMatter = o.frontMatter →
      (∀ kind, DiagramKind.detect? source = some kind → kind = .flowchart ∨ kind = .state →
        ∀ l ∈ Source.scan source false, ';' ∉ l.text.toList) → r' = r) ∧
    (o'.splitStatements = o.splitStatements → o'.frontMatter = o.frontMatter →
      r'.frontMatter = r.frontMatter ∧
      Ast.SameUpToWish o.direction o'.direction r.ast r'.ast ∧
      List.Forall₂ (Diagnostic.SameUpToWish o.direction o'.direction) r.diagnostics
        r'.diagnostics ∧
      ((DiagramKind.detect? source = some .flowchart →
        Flowchart.NamesDirection (Source.scan source (o.splits .flowchart))) →
        r'.ast = r.ast)) := by
  obtain ⟨warnings, rest, hfront, hfind, hall⟩ := exists_findings_of_dispatch h
  obtain ⟨warnings', rest', hfront', hfind', hall'⟩ := exists_findings_of_dispatch h'
  -- The same wish about front matter gives the same front matter.
  have samePreface (hwish : o'.frontMatter = o.frontMatter) :
      r'.frontMatter = r.frontMatter ∧ warnings' = warnings := by
    unfold frontMatterOf at hfront hfront'
    rw [hwish, hfront] at hfront'
    obtain ⟨hsame, hwarnings⟩ := Prod.mk.inj (Except.ok.inj hfront')
    exact ⟨hsame.symm, hwarnings.symm⟩
  refine ⟨?_, ?_, ?_⟩
  · intro hdirection hsplit
    have heq : findings registry o' source = findings registry o source := by
      unfold findings Options.direction Options.splits
      rw [hdirection, hsplit]
    rw [heq, hfind] at hfind'
    obtain ⟨hast, rfl⟩ := Prod.mk.inj (Except.ok.inj hfind')
    exact ⟨hast.symm, warnings, warnings', rest, hfront, hfront', hall, hall'⟩
  · intro hdirection hwish hplain
    obtain ⟨hpreface, rfl⟩ := samePreface hwish
    rw [findings_splitStatements hdirection hplain, hfind] at hfind'
    cases r with
    | mk ast diagnostics front =>
      cases r' with
      | mk ast' diagnostics' front' =>
        cases hfind'
        cases hpreface
        cases hall
        cases hall'
        rfl
  · intro hsplit hwish
    obtain ⟨hpreface, rfl⟩ := samePreface hwish
    obtain ⟨hast, hrest, hnamed⟩ := findings_defaultDirection hsplit hfind hfind'
    refine ⟨hpreface, hast, ?_, hnamed⟩
    rw [hall, hall']
    exact List.rel_append (List.forall₂_same.2 fun d _ => .inl rfl) hrest

/-- A header that names no direction, above directions inside and outside a subgraph. -/
def lateDirection : String := "graph XX\nsubgraph s\ndirection RL\nend\ndirection LR\na --> b"

theorem options_do_not_leak_lateDirection :
    ∃ r r' : Result Unit, (dispatch {} {} lateDirection).result = .ok r ∧
      (dispatch {} { defaultDirection := some "BT" } lateDirection).result = .ok r' ∧
      r.diagnostics.map (·.message) = [unknownDirectionText "XX" "TD"] ∧
      r'.diagnostics.map (·.message) = [unknownDirectionText "XX" "BT"] ∧
      List.Forall₂ (Diagnostic.SameUpToWish "TD" "BT") r.diagnostics r'.diagnostics ∧
      r'.ast = r.ast := by
  have hrun : ((dispatch ({} : PluginRegistry Unit) {} lateDirection).result.toOption.map fun r =>
      r.diagnostics.map (·.message)) = some [unknownDirectionText "XX" "TD"] := by
    decide +kernel
  have hrun' : ((dispatch ({} : PluginRegistry Unit) { defaultDirection := some "BT" }
      lateDirection).result.toOption.map fun r => r.diagnostics.map (·.message)) =
      some [unknownDirectionText "XX" "BT"] := by
    decide +kernel
  have hstatements : ((Flowchart.statements (Source.scan lateDirection true).tail).toOption.map
      fun xs => Flowchart.outerDirections 0 (xs.map (·.2))) = some [.leftRight] := by
    decide +kernel
  obtain ⟨r, hr, hmessages⟩ := exists_ok_of_toOption hrun
  obtain ⟨r', hr', hmessages'⟩ := exists_ok_of_toOption hrun'
  obtain ⟨xs, hxs, houter⟩ := exists_ok_of_toOption hstatements
  obtain ⟨-, -, hdirection⟩ := options_do_not_leak hr hr'
  obtain ⟨-, -, hdiagnostics, hast⟩ := hdirection rfl rfl
  refine ⟨r, r', hr, hr', hmessages, hmessages', hdiagnostics, hast fun _ => .inr ⟨xs, hxs, ?_⟩⟩
  rw [houter]
  decide

end DiagramText
