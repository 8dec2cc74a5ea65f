import DiagramText.Proofs.PluginRegistry

/-!
# Plugins are contained

Whatever a reader of a plugin does, the caller gets an ordinary answer: the diagram and the
diagnostics of the plugin, or one error in their place.  Front matter is read before any plugin is
asked, and it can keep a source from being read at all.

1. `FaultyFrontMatter`, the only case without an answer.
2. `Result.Contains`, what a caller sees of the outcome of a reader.
3. The plugins behind the one that accepts a line have no part in the answer.
-/

namespace DiagramText

open PluginRegistry

variable {υ : Type} {o : Options} {source : String} {load : Yaml.Loader}

/-! ## Front matter -/

/-- Front matter is wanted, and there is some, but one of its values cannot be made. -/
def FaultyFrontMatter (o : Options) (source : String) (load : Yaml.Loader) (fault : Fault) : Prop :=
  o.frontMatter ≠ some false ∧ ∃ b, Source.block? (Text.lines source.toList) = some b ∧
    load (Text.unlines b.content) = .error (.fault fault)

theorem FrontMatter.ofBlock_eq_error_iff {b : Source.Block} {fault : Fault} :
    FrontMatter.ofBlock b load = .error fault ↔
      load (Text.unlines b.content) = .error (.fault fault) := by
  unfold FrontMatter.ofBlock
  cases load (Text.unlines b.content) with
  | ok document =>
    cases document with
    | none => exact ⟨nofun, nofun⟩
    | some d =>
      dsimp only
      split <;> exact ⟨nofun, nofun⟩
  | error failure =>
    cases failure with
    | malformed problem line => exact ⟨nofun, nofun⟩
    | fault f => simp only [Except.error.injEq, Yaml.Failure.fault.injEq]

theorem frontMatterOf_eq_error_iff {fault : Fault} :
    frontMatterOf o source load = .error fault ↔ FaultyFrontMatter o source load fault := by
  unfold frontMatterOf FaultyFrontMatter FrontMatter.read
  by_cases hoff : o.frontMatter = some false
  · simp [hoff]
  · rw [if_neg hoff]
    cases Source.block? (Text.lines source.toList) with
    | none => simp
    | some b => simp [FrontMatter.ofBlock_eq_error_iff, hoff]

theorem dispatch_of_frontMatterOf_error {registry : PluginRegistry υ} {fault : Fault}
    (h : frontMatterOf o source load = .error fault) :
    dispatch registry o source load = { result := .error fault } := by
  unfold frontMatterOf at h
  unfold dispatch
  simp only [h]

/-! ## Readers -/

/-- What a caller sees of the outcome of a reader, behind the warnings about the front matter. -/
def Result.Contains (r : Result υ) (warnings : List Diagnostic) : Outcome υ → Prop
  | .result ast found => r.ast = ast ∧ r.diagnostics = warnings ++ found
  | .failed _ | .other _ =>
    r.ast = none ∧ ∃ e : Diagnostic,
      e.severity = .error ∧ e.line = 1 ∧ r.diagnostics = warnings ++ [e] ∧ r.errors = [e]

theorem errors_concat {warnings : List Diagnostic} (hwarn : ∀ w ∈ warnings, w.severity = .warning)
    (message : String) (front : FrontMatter) :
    Result.errors (υ := υ) ⟨none, warnings ++ [firstLineError message []], front⟩ =
      [firstLineError message []] := by
  unfold Result.errors
  rw [List.filter_append, filter_isError_eq_nil hwarn]
  rfl

theorem contains_runPlugin {p : Plugin υ} {d : DiagramPlugin υ} {read : String → Reading υ}
    (hread : d.read = some read) {warnings : List Diagnostic}
    (hwarn : ∀ w ∈ warnings, w.severity = .warning) (source : String) (front : FrontMatter) :
    ∃ r, (runPlugin p d source front warnings).result = .ok r ∧ r.frontMatter = front ∧
      r.Contains warnings (read source).outcome := by
  unfold runPlugin
  rw [hread]
  dsimp only [Option.map_some, Option.getD_some]
  cases (read source).outcome with
  | result ast found => exact ⟨_, rfl, rfl, rfl, rfl⟩
  | failed message => exact ⟨_, rfl, rfl, rfl, _, rfl, rfl, rfl, errors_concat hwarn _ front⟩
  | other resultType => exact ⟨_, rfl, rfl, rfl, _, rfl, rfl, rfl, errors_concat hwarn _ front⟩

/-! ## Registered plugins -/

namespace PluginRegistry

/-- What is registered can be called. -/
theorem isCallable_of_registerAll {calls : List (Plugin υ)} {p : Plugin υ} {d : DiagramPlugin υ}
    (hp : p ∈ (registerAll {} calls).1.plugins) (hd : d ∈ p.diagrams) : d.isCallable := by
  have hplugins : (registerAll {} calls).1.plugins = _ := plugins_registerAll calls {}
  rw [hplugins] at hp
  obtain ⟨⟨q, answer⟩, hanswer, rfl⟩ := List.mem_map.1 hp
  obtain ⟨hzip, hok⟩ := List.mem_filter.1 hanswer
  have hanswered := (List.forall₂_iff_zip.1 (answered_registerAll calls {})).2 hzip
  cases answer with
  | error fault => cases hok
  | ok notice => exact hanswered.1 d hd

/-- The plugins behind the one that accepts a line are not asked. -/
theorem detect_of_acceptsFirst {line : String} {before : List (Plugin υ)} {p : Plugin υ}
    {d : DiagramPlugin υ} (h : AcceptsFirst line before p d) :
    ∃ notices, ∀ after, detect ⟨before ++ p :: after⟩ line = (some (p, d), notices) := by
  have hfound : (detect ⟨before ++ [p]⟩ line).1 = some (p, d) :=
    detect_eq_some_iff.2 ⟨before, [], rfl, h⟩
  refine ⟨(detect ⟨before ++ [p]⟩ line).2, ?_⟩
  intro after
  have happend := detect_append hfound after
  rw [List.append_assoc] at happend
  exact happend.trans (Prod.ext hfound rfl)

/-- A line that some detector accepts is accepted by a first one. -/
theorem exists_acceptsFirst {registry : PluginRegistry υ} {line : String}
    (h : registry.Accepts line) :
    ∃ before p after d, registry.plugins = before ++ p :: after ∧ AcceptsFirst line before p d := by
  cases hfound : (registry.detect line).1 with
  | some x =>
    obtain ⟨before, after, hplugins, hfirst⟩ := detect_eq_some_iff.1 hfound
    exact ⟨before, x.1, after, x.2, hplugins, hfirst⟩
  | none =>
    obtain ⟨x, hx, haccepts⟩ := h
    obtain ⟨p, hp, hkinds⟩ := List.mem_flatMap.1 hx
    obtain ⟨d, hd, rfl⟩ := List.mem_map.1 hkinds
    exact absurd haccepts (detect_eq_none_iff.1 hfound p hp d hd)

end PluginRegistry

/-- The plugin that accepts the first line reads the source. -/
theorem dispatch_of_acceptsFirst {l : Source.Line} {before : List (Plugin υ)} {p : Plugin υ}
    {d : DiagramPlugin υ} {front : FrontMatter} {warnings : List Diagnostic}
    (hfront : frontMatterOf o source load = .ok (front, warnings))
    (hkind : DiagramKind.detect? source = none) (hfirst : Source.firstLine? source = some l)
    (hd : AcceptsFirst l.text before p d) :
    ∃ run : Dispatched υ, run.result = (runPlugin p d source front warnings).result ∧
      ∀ after, dispatch ⟨before ++ p :: after⟩ o source load = run := by
  obtain ⟨notices, hdetect⟩ := detect_of_acceptsFirst hd
  refine ⟨{ runPlugin p d source front warnings with
    notices := notices ++ (runPlugin p d source front warnings).notices }, rfl, ?_⟩
  intro after
  rw [dispatch_of_detect_none hfront hkind, hfirst]
  simp only [runOther, hdetect]

/-! ## Containment -/

/-- **Plugins are contained.**  If a registered plugin accepts the first line of a source of no
built-in kind, then the first one that does so reads it, and the plugins behind it do not matter.
Unless its front matter has a fault, the source is answered, whatever loads the front matter and
whatever the reader does: behind the warnings about the front matter stand the diagnostics of the
reader, or one error at the first line if the reader fails or gives no result. -/
theorem plugins_are_contained {calls : List (Plugin υ)} {registry : PluginRegistry υ}
    {answers : List (Except Fault Notice)} (hcalls : registerAll {} calls = (registry, answers))
    (o : Options) {source : String} (load : Yaml.Loader) {l : Source.Line}
    (hkind : DiagramKind.detect? source = none) (hfirst : Source.firstLine? source = some l)
    (haccepts : registry.Accepts l.text) :
    ∃ before p after d read, registry.plugins = before ++ p :: after ∧
      AcceptsFirst l.text before p d ∧ d.read = some read ∧
      (∀ fault, FaultyFrontMatter o source load fault →
        (dispatch registry o source load).result = .error fault) ∧
      ((∀ fault, ¬ FaultyFrontMatter o source load fault) →
        ∃ front warnings r, frontMatterOf o source load = .ok (front, warnings) ∧
          (dispatch registry o source load).result = .ok r ∧ r.frontMatter = front ∧
          r.Contains warnings (read source).outcome) ∧
      ∀ after', dispatch ⟨before ++ p :: after'⟩ o source load =
        dispatch registry o source load := by
  obtain rfl : (registerAll {} calls).1 = registry := congrArg Prod.fst hcalls
  obtain ⟨before, p, after, d, hplugins, hd⟩ := exists_acceptsFirst haccepts
  have hcallable : d.isCallable := by
    obtain ⟨pre, post, hdiagrams, -⟩ := hd.first
    have hp : p ∈ (registerAll {} calls).1.plugins := by simp [hplugins]
    exact isCallable_of_registerAll hp (by simp [hdiagrams])
  obtain ⟨read, hread⟩ := Option.isSome_iff_exists.1 ((Bool.and_eq_true_iff.1 hcallable).2)
  have hsame : (registerAll {} calls).1 = ⟨before ++ p :: after⟩ := congrArg mk hplugins
  refine ⟨before, p, after, d, read, hplugins, hd, hread, ?_⟩
  rw [hsame]
  cases hfront : frontMatterOf o source load with
  | error fault =>
    have hfault := frontMatterOf_eq_error_iff.1 hfront
    refine ⟨?_, fun hnone => absurd hfault (hnone fault), ?_⟩
    · intro fault' hfault'
      rw [dispatch_of_frontMatterOf_error (frontMatterOf_eq_error_iff.2 hfault')]
    · intro after'
      rw [dispatch_of_frontMatterOf_error hfront, dispatch_of_frontMatterOf_error hfront]
  | ok x =>
    obtain ⟨front, warnings⟩ := x
    obtain ⟨run, hrun, hdispatch⟩ := dispatch_of_acceptsFirst hfront hkind hfirst hd
    have hwarn := severity_of_frontMatterOf hfront
    refine ⟨?_, fun _ => ?_, fun after' => (hdispatch after').trans (hdispatch after).symm⟩
    · intro fault hfault
      rw [frontMatterOf_eq_error_iff.2 hfault] at hfront
      cases hfront
    · obtain ⟨r, hr, hmatter, hcontains⟩ := contains_runPlugin (p := p) hread hwarn source front
      refine ⟨front, warnings, r, rfl, ?_, hmatter, hcontains⟩
      rw [hdispatch after, hrun, hr]

/-- A source for a plugin, below front matter that is no mapping. -/
def listedSong : String := "---\n- a\n---\nsonnet"

theorem plugins_are_contained_listedSong :
    ∃ r : Result Unit,
      (dispatch (registerAll {} [mute, poems, songs]).1 {} listedSong).result = .ok r ∧
      r.ast = none ∧ r.diagnostics.length = 2 ∧ r.errors.map (·.line) = [1] ∧
      ∀ after, dispatch ⟨poems :: songs :: after⟩ {} listedSong =
        dispatch (registerAll {} [mute, poems, songs]).1 {} listedSong := by
  have hline : (Source.firstLine? listedSong).map (·.text) = some "sonnet" := by decide +kernel
  obtain ⟨l, hl, htext⟩ := Option.map_eq_some_iff.1 hline
  have haccepts : (registerAll {} [mute, poems, songs]).1.Accepts l.text := by
    rw [htext]
    decide +kernel
  obtain ⟨before, p, after, d, read, hplugins, ⟨-, ⟨pre, post, hdiagrams, -⟩, haccepted⟩, hread, -,
    hanswer, hsame⟩ := plugins_are_contained rfl {} Yaml.load (by decide +kernel) hl haccepts
  rw [htext] at haccepted
  have hd : d ∈ p.diagrams := by simp [hdiagrams]
  have hpoems : ∀ e ∈ poems.diagrams, e.accepts "sonnet" ≠ .ok true := by decide +kernel
  have hregistry : (registerAll {} [mute, poems, songs]).1.plugins = [poems, songs] := rfl
  rw [hregistry] at hplugins
  rcases before with - | ⟨q, - | ⟨q', before⟩⟩
  · obtain ⟨hp, -⟩ := List.cons.inj hplugins
    rw [← hp] at hd
    exact absurd haccepted (hpoems d hd)
  · obtain ⟨hq, hplugins⟩ := List.cons.inj hplugins
    obtain ⟨hp, -⟩ := List.cons.inj hplugins
    rw [← hp] at hd
    rw [List.mem_singleton.1 hd] at hread
    have hfront : ((frontMatterOf {} listedSong Yaml.load).map fun x => x.2.length) = .ok 1 := by
      decide +kernel
    obtain ⟨x, hx, hlength⟩ := map_eq_ok_iff.1 hfront
    obtain ⟨front, warnings, r, hmatter, hr, -, hcontains⟩ := hanswer (by
      intro fault hfault
      rw [frontMatterOf_eq_error_iff.2 hfault] at hx
      cases hx)
    rw [← Option.some.inj hread] at hcontains
    obtain ⟨hast, e, -, hfirst, hdiagnostics, herrors⟩ := hcontains
    cases hx.symm.trans hmatter
    rw [← hq, ← hp] at hsame
    refine ⟨r, hr, hast, ?_, ?_, hsame⟩
    · rw [hdiagnostics, List.length_append, hlength]
      rfl
    · rw [herrors]
      exact congrArg (fun n => [n]) hfirst
  · have hrest := (List.cons.inj (List.cons.inj hplugins).2).2
    simp at hrest

/-- A source for a plugin, below front matter with a date that no calendar has. -/
def datedSong : String := "---\nd: 2024-13-01\n---\nsonnet"

/-- The date keeps the plugin from reading the source. -/
theorem datedSong_is_fault :
    DiagramKind.detect? datedSong = none ∧
      (∃ l, Source.firstLine? datedSong = some l ∧
        (registerAll {} [songs]).1.Accepts l.text) ∧
      (dispatch (registerAll {} [songs]).1 {} datedSong).result = .error (.clock .month) := by
  have hline : (Source.firstLine? datedSong).map (·.text) = some "sonnet" := by decide +kernel
  obtain ⟨l, hl, htext⟩ := Option.map_eq_some_iff.1 hline
  refine ⟨by decide +kernel, ⟨l, hl, ?_⟩, ?_⟩
  · rw [htext]
    decide +kernel
  · have hfault : ((dispatch (registerAll {} [songs]).1 {} datedSong).result.map fun _ => ()) =
        .error (.clock .month) := by
      decide +kernel
    cases hrun : (dispatch (registerAll {} [songs]).1 {} datedSong).result with
    | error fault =>
      rw [hrun] at hfault
      exact congrArg Except.error (Except.error.inj hfault)
    | ok r =>
      rw [hrun] at hfault
      cases hfault

end DiagramText
