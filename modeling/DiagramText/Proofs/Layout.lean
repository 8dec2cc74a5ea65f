import DiagramText.Proofs.Dispatch
import DiagramText.Proofs.LineNumbers
import DiagramText.Proofs.Source.Layout
import DiagramText.Proofs.Yaml.Nodes

/-!
# Layout does not matter

Blank lines and comments behind the front matter, and front matter in front of a source that has
none, change the answer to a call in its line numbers only.

1. The warnings about front matter stand inside its block, so nothing behind the block moves them.
2. `bodyAnswer`, what a call finds behind the front matter, for a source with moved lines.
3. `layout_does_not_matter`.  One message quotes a line, and the quoted line moves as well.
-/

namespace DiagramText

open Source (Line)

/-! ## Front matter -/

namespace Text

theorem newline_not_mem_of_mem_lines {s l : List Char} (h : l ∈ lines s) : '\n' ∉ l := by
  fun_induction lines s generalizing l with
  | case1 => cases h
  | case2 r ih =>
    rcases List.mem_cons.1 h with rfl | h
    · exact List.not_mem_nil
    · exact ih h
  | case3 c r _ hbreak ih =>
    rcases List.mem_cons.1 h with rfl | h
    · exact List.not_mem_nil
    · exact ih h
  | case4 c r _ hbreak hlines ih =>
    rw [List.mem_singleton.1 h, List.mem_singleton]
    rintro rfl
    exact hbreak (by decide)
  | case5 c r _ hbreak l' ls hlines ih =>
    rw [hlines] at ih
    rcases List.mem_cons.1 h with rfl | h
    · intro hmem
      rcases List.mem_cons.1 hmem with rfl | hmem
      · exact hbreak (by decide)
      · exact ih List.mem_cons_self hmem
    · exact ih (List.mem_cons_of_mem _ h)

theorem count_unlines_le {ls : List (List Char)} (h : ∀ l ∈ ls, '\n' ∉ l) :
    (unlines ls).count '\n' ≤ ls.length := by
  fun_induction unlines ls with
  | case1 => exact Nat.zero_le _
  | case2 l =>
    rw [List.count_eq_zero.2 (h l List.mem_cons_self)]
    exact Nat.zero_le _
  | case3 l m ls ih =>
    have hrest := ih fun l' hl' => h l' (List.mem_cons_of_mem _ hl')
    rw [List.count_append, List.count_cons_self, List.count_eq_zero.2 (h l List.mem_cons_self)]
    simp only [List.length_cons] at hrest ⊢
    omega

end Text

theorem Source.mem_of_mem_content {raws : List (List Char)} {b : Source.Block}
    (h : Source.block? raws = some b) {l : List Char} (hl : l ∈ b.content) : l ∈ raws := by
  induction raws generalizing b with
  | nil => cases h
  | cons raw raws ih =>
    refine List.mem_cons_of_mem _ ?_
    cases hb : Source.isBlankLine raw with
    | true =>
      rw [Source.block?_cons_of_blank hb] at h
      obtain ⟨b', hb', rfl⟩ := Option.map_eq_some_iff.1 h
      exact ih hb' hl
    | false =>
      rw [Source.block?_cons_of_not_blank hb] at h
      split at h
      · cases h
        exact List.takeWhile_subset _ hl
      · cases h

theorem FrontMatter.quotesNoLine_message (p : FrontMatter.Problem) :
    QuotesNoLine (Describe.message p) := by
  refine quotesNoLine_of_start ?_
  cases p with
  | invalid problem =>
    simp only [Describe.message, toString, String.toList_append]
    rfl
  | notMapping => rfl

/-- The warnings about front matter are at lines of its block, and they quote no line. -/
theorem FrontMatter.line_le_of_ofBlock {load : Yaml.Loader} (hload : load.MarksLines)
    {source : List Char} {b : Source.Block} (hb : Source.block? (Text.lines source) = some b)
    {front : FrontMatter} {warnings : List Diagnostic}
    (h : FrontMatter.ofBlock b load = .ok (front, warnings)) :
    ∀ w ∈ warnings, w.line ≤ b.height ∧ QuotesNoLine w.message := by
  have hcount : (Text.unlines b.content).count '\n' ≤ b.content.length :=
    Text.count_unlines_le fun l hl =>
      Text.newline_not_mem_of_mem_lines (Source.mem_of_mem_content hb hl)
  intro w hw
  unfold Source.Block.height
  unfold FrontMatter.ofBlock at h
  split at h
  · cases h
    cases hw
  · split at h
    · cases h
      cases hw
    · cases h
      cases hw
    · cases h
      obtain rfl := List.mem_singleton.1 hw
      refine ⟨?_, quotesNoLine_message .notMapping⟩
      show ((b.above + 1 : Nat) : Int) ≤ _
      omega
  · rename_i problem line hmalformed
    cases h
    obtain rfl := List.mem_singleton.1 hw
    have hle : line ≤ b.content.length := Nat.le_trans (hload _ _ hmalformed) hcount
    refine ⟨?_, quotesNoLine_message (.invalid problem)⟩
    show ((b.above + 2 + line : Nat) : Int) ≤ _
    omega
  · cases h

/-! ## Behind the front matter -/

section

variable {υ : Type} {registry : PluginRegistry υ} {o : Options} {source source' : String}
  {load : Yaml.Loader} {f : Int → Int}

/-- What a call without plugins finds behind the front matter: the diagram, if there is one, and
what is wrong with it. -/
def bodyAnswer (o : Options) (source : String) :
    Except Fault (Option Diagram × List Diagnostic) :=
  match DiagramKind.detect? source with
  | some kind =>
    (Diagram.parse kind o.direction (Source.scan source (o.splits kind))).map fun p =>
      (some p.diagram, p.diagnostics)
  | none => .ok (none, [unrecognisedDiagram])

theorem dispatch_eq_bodyAnswer (hp : registry.plugins = []) {front : FrontMatter}
    {warnings : List Diagnostic} (hfront : frontMatterOf o source load = .ok (front, warnings)) :
    (dispatch registry o source load).result = (bodyAnswer o source).map fun x =>
      { ast := x.1.map .builtin, diagnostics := warnings ++ x.2, frontMatter := front } := by
  unfold bodyAnswer
  cases hkind : DiagramKind.detect? source with
  | none =>
    rw [dispatch_of_detect_none hfront hkind, runOther_of_no_plugins hp]
    rfl
  | some kind =>
    rw [dispatch_of_detect hfront hkind]
    unfold runBuiltin
    dsimp only
    cases Diagram.parse kind o.direction (Source.scan source (o.splits kind)) with
    | error fault => rfl
    | ok p => rfl

theorem dispatch_eq_error {fault : Fault} (hfront : frontMatterOf o source load = .error fault) :
    (dispatch registry o source load).result = .error fault := by
  unfold frontMatterOf at hfront
  unfold dispatch
  simp only [hfront]

/-- Two answers that differ in line numbers only.  The error for a source that nobody can read has
no line of its own and stays where it is. -/
structure Moved (f : Int → Int) (x x' : Option Diagram × List Diagnostic) : Prop where
  diagram : x'.1 = x.1.map (Diagram.renumber f)
  diagnostics : x.1.isSome → List.Forall₂ (Diagnostic.Renumbered f) x.2 x'.2
  unrecognised : x.1 = none → x.2 = [unrecognisedDiagram] ∧ x'.2 = [unrecognisedDiagram]

/-- A source with moved lines has a moved answer. -/
theorem moved_bodyAnswer
    (hscan : ∀ split, Source.scan source' split = (Source.scan source split).map (Line.renumber f)) :
    SameOutcome (Moved f) (bodyAnswer o source) (bodyAnswer o source') := by
  have hkind : DiagramKind.detect? source' = DiagramKind.detect? source := by
    unfold DiagramKind.detect? Source.firstLine?
    rw [hscan, List.head?_map, Option.bind_map]
    rfl
  unfold bodyAnswer
  rw [hkind]
  cases hdetect : DiagramKind.detect? source with
  | none => exact .ok ⟨rfl, nofun, fun _ => ⟨rfl, rfl⟩⟩
  | some kind =>
    dsimp only
    rw [hscan]
    refine (Diagram.parse_renumber kind o.direction
      (Source.scan_ne_nil hdetect (o.splits kind))).map fun p p' h => ?_
    exact ⟨congrArg some h.diagram, fun _ => h.diagnostics, nofun⟩

/-- The diagram at other lines; the diagram of a plugin has no lines that are known. -/
def Ast.renumber (f : Int → Int) : Ast υ → Ast υ
  | .builtin d => .builtin (d.renumber f)
  | .custom v => .custom v

/-- Two results that differ in line numbers only.  The error for a source that nobody can read
stays where it is. -/
structure Result.Renumbered (f : Int → Int) (r r' : Result υ) : Prop where
  ast : r'.ast = r.ast.map (Ast.renumber f)
  frontMatter : r'.frontMatter = r.frontMatter
  diagnostics : r.ast.isSome → List.Forall₂ (Diagnostic.Renumbered f) r.diagnostics r'.diagnostics
  unrecognised : r.ast = none → ∃ ws ws', r.diagnostics = ws ++ [unrecognisedDiagram] ∧
    r'.diagnostics = ws' ++ [unrecognisedDiagram] ∧
      List.Forall₂ (Diagnostic.Renumbered f) ws ws'

/-- The result of a moved answer. -/
theorem Moved.renumbered {x x' : Option Diagram × List Diagnostic} (h : Moved f x x')
    (front : FrontMatter) {ws ws' : List Diagnostic}
    (hws : List.Forall₂ (Diagnostic.Renumbered f) ws ws') :
    Result.Renumbered f
      ({ ast := x.1.map .builtin, diagnostics := ws ++ x.2, frontMatter := front } : Result υ)
      { ast := x'.1.map .builtin, diagnostics := ws' ++ x'.2, frontMatter := front } where
  ast := by
    dsimp only
    rw [h.diagram, Option.map_map, Option.map_map]
    rfl
  frontMatter := rfl
  diagnostics := by
    intro hsome
    rw [Option.isSome_map] at hsome
    exact List.rel_append hws (h.diagnostics hsome)
  unrecognised := by
    intro hnone
    obtain ⟨hx, hx'⟩ := h.unrecognised (Option.map_eq_none_iff.1 hnone)
    exact ⟨ws, ws', congrArg (ws ++ ·) hx, congrArg (ws' ++ ·) hx', hws⟩

/-! ## Layout -/

theorem frontMatterOf_of_inserted {i : Nat} {raw : List Char}
    (h : Source.Inserted i raw source source') (hi : Source.BehindFrontMatter i source)
    (hraw : Source.isIdle raw = true) :
    frontMatterOf o source' load = frontMatterOf o source load := by
  unfold frontMatterOf FrontMatter.read
  rw [Source.block?_of_inserted h hi hraw]

/-- Warnings about front matter are above every position behind it, so they stay as they are. -/
theorem renumbered_of_frontMatterOf (hload : load.MarksLines) {i : Nat}
    (hi : Source.BehindFrontMatter i source) {front : FrontMatter} {warnings : List Diagnostic}
    (hfront : frontMatterOf o source load = .ok (front, warnings)) :
    ∀ w ∈ warnings, w.Renumbered (Source.shiftBehind i) w := by
  unfold frontMatterOf at hfront
  split at hfront
  · cases hfront
    exact nofun
  · unfold FrontMatter.read at hfront
    split at hfront
    · rename_i b hb
      intro w hw
      obtain ⟨hline, hquotes⟩ := FrontMatter.line_le_of_ofBlock hload hb hfront w hw
      have hheight := hi b hb
      have hstays : Source.shiftBehind i w.line = w.line := if_pos (by omega)
      exact ⟨rfl, hstays.symm, rfl, rfl, .inl ⟨hquotes, rfl⟩⟩
    · cases hfront
      exact nofun

theorem renumbered_of_inserted (hp : registry.plugins = []) (hload : load.MarksLines) {i : Nat}
    {raw : List Char} (h : Source.Inserted i raw source source')
    (hi : Source.BehindFrontMatter i source) (hraw : Source.isIdle raw = true) :
    SameOutcome (Result.Renumbered (Source.shiftBehind i)) (dispatch registry o source load).result
      (dispatch registry o source' load).result := by
  have hfront' : frontMatterOf o source' load = frontMatterOf o source load :=
    frontMatterOf_of_inserted h hi hraw
  cases hfront : frontMatterOf o source load with
  | error fault =>
    rw [hfront] at hfront'
    rw [dispatch_eq_error hfront, dispatch_eq_error hfront']
    exact .error fault
  | ok x =>
    obtain ⟨front, warnings⟩ := x
    rw [hfront] at hfront'
    rw [dispatch_eq_bodyAnswer hp hfront, dispatch_eq_bodyAnswer hp hfront']
    have hwarnings := List.forall₂_same.2 (renumbered_of_frontMatterOf hload hi hfront)
    have hmoved := moved_bodyAnswer (o := o) (Source.scan_of_inserted h hi hraw)
    exact hmoved.map fun _ _ hx => hx.renumbered front hwarnings

/-- The front matter in a block, unless the caller does without. -/
def frontMatterIn (o : Options) (b : Source.Block) (load : Yaml.Loader) :
    Except Fault (FrontMatter × List Diagnostic) :=
  if o.frontMatter = some false then .ok ({}, []) else FrontMatter.ofBlock b load

theorem renumbered_of_prepended (hp : registry.plugins = []) {lines : List (List Char)}
    {b : Source.Block} (h : Source.Prepended lines b source source') {front : FrontMatter}
    {warnings : List Diagnostic} (hb : frontMatterIn o b load = .ok (front, warnings)) :
    SameOutcome
      (fun r r' => r'.frontMatter = front ∧ ∃ ds, r'.diagnostics = warnings ++ ds ∧
        r.Renumbered (· + lines.length) { r' with diagnostics := ds, frontMatter := r.frontMatter })
      (dispatch registry o source load).result (dispatch registry o source' load).result := by
  have hfront : frontMatterOf o source load = .ok ({}, []) := by
    unfold frontMatterOf FrontMatter.read
    rw [h.bare]
    split
    · rfl
    · rfl
  have hfront' : frontMatterOf o source' load = .ok (front, warnings) := by
    unfold frontMatterOf FrontMatter.read
    rw [h.lines_eq, Source.block?_append h.block]
    exact hb
  rw [dispatch_eq_bodyAnswer hp hfront, dispatch_eq_bodyAnswer hp hfront']
  have hmoved := moved_bodyAnswer (o := o) (Source.scan_of_prepended h)
  refine hmoved.map fun x x' hx => ⟨rfl, x'.2, rfl, ?_⟩
  exact hx.renumbered {} .nil

end

/-- **Layout.** A further blank line or comment behind the front matter moves the line numbers
behind it by one and changes nothing else in the answer to a call, if what loads the front matter
marks its failures in there.  Front matter of `k` lines in front of a source that has none moves all
line numbers of the diagram and of what is wrong with it by `k`, and changes nothing else in them.
A message that quotes a line quotes the moved line. -/
theorem layout_does_not_matter {υ : Type} {registry : PluginRegistry υ}
    (hp : registry.plugins = []) (o : Options) (source source' : String) (load : Yaml.Loader) :
    (load.MarksLines → ∀ (i : Nat) (raw : List Char), Source.Inserted i raw source source' →
      Source.BehindFrontMatter i source → Source.isIdle raw = true →
      SameOutcome (Result.Renumbered (Source.shiftBehind i))
        (dispatch registry o source load).result (dispatch registry o source' load).result) ∧
    ∀ (lines : List (List Char)) (b : Source.Block) (front : FrontMatter)
      (warnings : List Diagnostic), Source.Prepended lines b source source' →
      frontMatterIn o b load = .ok (front, warnings) →
      SameOutcome
        (fun r r' => r'.frontMatter = front ∧ ∃ ds, r'.diagnostics = warnings ++ ds ∧
          r.Renumbered (· + lines.length)
            { r' with diagnostics := ds, frontMatter := r.frontMatter })
        (dispatch registry o source load).result (dispatch registry o source' load).result :=
  ⟨fun hload _ _ h hi hraw => renumbered_of_inserted hp hload h hi hraw,
    fun _ _ _ _ h hb => renumbered_of_prepended hp h hb⟩

/-- A node that is declared twice, with two labels. -/
def declaredTwice : String := "graph TD\na[x]\na[y]"

/-- The same node with a comment in between. -/
def commentedTwice : String := "graph TD\na[x]\n  %% again\na[y]"

/-- The same node behind front matter without any text. -/
def prefacedTwice : String := "---\n---\ngraph TD\na[x]\na[y]"

theorem layout_does_not_matter_declaredTwice :
    SameOutcome (Result.Renumbered (Source.shiftBehind 2))
      (dispatch ({} : PluginRegistry Unit) {} declaredTwice).result
      (dispatch ({} : PluginRegistry Unit) {} commentedTwice).result ∧
    ∃ front warnings, frontMatterIn {} ⟨0, []⟩ Yaml.load = .ok (front, warnings) ∧
      SameOutcome
        (fun r r' => r'.frontMatter = front ∧ ∃ ds, r'.diagnostics = warnings ++ ds ∧
          r.Renumbered (· + 2) { r' with diagnostics := ds, frontMatter := r.frontMatter })
        (dispatch ({} : PluginRegistry Unit) {} declaredTwice).result
        (dispatch ({} : PluginRegistry Unit) {} prefacedTwice).result := by
  have hinserted : Source.Inserted 2 "  %% again".toList declaredTwice commentedTwice := by
    decide +kernel
  have hprepended : Source.Prepended ["---".toList, "---".toList] ⟨0, []⟩ declaredTwice
      prefacedTwice := by
    exact ⟨by decide +kernel, by decide +kernel, by decide +kernel, by decide +kernel⟩
  have hbehind : Source.BehindFrontMatter 2 declaredTwice := by
    intro b hb
    rw [hprepended.bare] at hb
    cases hb
  have hfront : (frontMatterIn {} ⟨0, []⟩ Yaml.load).toOption.map (·.2) = some [] := by decide +kernel
  obtain ⟨⟨front, warnings⟩, hfront, -⟩ := exists_ok_of_toOption hfront
  refine ⟨?_, front, warnings, hfront, ?_⟩
  · exact (layout_does_not_matter rfl {} _ _ Yaml.load).1 Yaml.marksLines_load 2 _ hinserted
      hbehind (by decide +kernel)
  · exact (layout_does_not_matter rfl {} _ _ Yaml.load).2 _ _ front warnings hprepended hfront

/-- Front matter moves a line that is quoted in a message, so the message is not the same. -/
theorem prefacedTwice_quotes_other_line :
    Source.Prepended ["---".toList, "---".toList] ⟨0, []⟩ declaredTwice prefacedTwice ∧
    (frontMatterIn {} ⟨0, []⟩ Yaml.load).toOption.map (·.2) = some [] ∧
    ((dispatch ({} : PluginRegistry Unit) {} declaredTwice).result.toOption.map (·.diagnostics)) =
      some [{ severity := .warning, line := 3,
              message := "Node 'a' is already declared on line 2; keeping its first definition" }] ∧
    ((dispatch ({} : PluginRegistry Unit) {} prefacedTwice).result.toOption.map (·.diagnostics)) ≠
      some [{ severity := .warning, line := 3 + 2,
              message := "Node 'a' is already declared on line 2; keeping its first definition" }] :=
  ⟨⟨by decide +kernel, by decide +kernel, by decide +kernel, by decide +kernel⟩,
    by decide +kernel, by decide +kernel, by decide +kernel⟩

end DiagramText
