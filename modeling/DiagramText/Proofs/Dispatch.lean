import DiagramText.Dispatch
import DiagramText.Proofs.Faults

/-!
# What dispatching comes to

Front matter comes first and may fail.  Behind it, a source of a built-in kind is read by the reader
of that kind, and any other source is a matter of the plugins.  All this holds for any loader of
front matter.
-/

namespace DiagramText

variable {υ : Type} {registry : PluginRegistry υ} {o : Options} {source : String}
  {load : Yaml.Loader}

/-- The front matter that a caller gets, with the warnings about it. -/
def frontMatterOf (o : Options) (source : String) (load : Yaml.Loader) :
    Except Fault (FrontMatter × List Diagnostic) :=
  if o.frontMatter = some false then .ok ({}, []) else FrontMatter.read source load

theorem dispatch_of_detect {kind : DiagramKind} {front : FrontMatter} {warnings : List Diagnostic}
    (hfront : frontMatterOf o source load = .ok (front, warnings))
    (hkind : DiagramKind.detect? source = some kind) :
    dispatch registry o source load = runBuiltin kind o source front warnings := by
  unfold frontMatterOf at hfront
  unfold DiagramKind.detect? at hkind
  unfold dispatch
  simp only [hfront, hkind]

theorem dispatch_of_detect_none {front : FrontMatter} {warnings : List Diagnostic}
    (hfront : frontMatterOf o source load = .ok (front, warnings))
    (hkind : DiagramKind.detect? source = none) :
    dispatch registry o source load =
      runOther registry (Source.firstLine? source) source front warnings := by
  unfold frontMatterOf at hfront
  unfold DiagramKind.detect? at hkind
  unfold dispatch
  simp only [hfront, hkind]

theorem frontMatterOf_of_dispatch {r : Result υ}
    (h : (dispatch registry o source load).result = .ok r) :
    ∃ front warnings, frontMatterOf o source load = .ok (front, warnings) := by
  cases hfront : frontMatterOf o source load with
  | ok x => exact ⟨x.1, x.2, rfl⟩
  | error fault =>
    unfold frontMatterOf at hfront
    unfold dispatch at h
    simp only [hfront] at h
    cases h

/-- Without plugins a source of no built-in kind has no diagram. -/
theorem runOther_of_no_plugins (hp : registry.plugins = []) (first : Option Source.Line)
    (front : FrontMatter) (warnings : List Diagnostic) :
    (runOther registry first source front warnings).result =
      .ok
        { ast := none, diagnostics := warnings ++ [unrecognisedDiagram], frontMatter := front } := by
  have hdetect : ∀ line, registry.detect line = (none, []) := by
    intro line
    unfold PluginRegistry.detect PluginRegistry.diagrams
    rw [hp]
    rfl
  unfold runOther
  cases first with
  | none => rfl
  | some l => simp only [hdetect]

/-- A diagram of a built-in kind comes from the reader of that kind, if no plugin was asked. -/
theorem exists_parse_of_dispatch {r : Result υ} {d : Diagram}
    (hb : registry.plugins = [] ∨ (DiagramKind.detect? source).isSome)
    (h : (dispatch registry o source load).result = .ok r) (hd : r.ast = some (.builtin d)) :
    ∃ kind p, DiagramKind.detect? source = some kind ∧
      Diagram.parse kind o.direction (Source.scan source (o.splits kind)) = .ok p ∧
      p.diagram = d := by
  obtain ⟨front, warnings, hfront⟩ := frontMatterOf_of_dispatch h
  cases hkind : DiagramKind.detect? source with
  | some kind =>
    rw [dispatch_of_detect hfront hkind] at h
    obtain ⟨p, hp, h⟩ := bind_eq_ok_iff.1 h
    cases h
    cases hd
    exact ⟨kind, p, rfl, hp, rfl⟩
  | none =>
    rw [dispatch_of_detect_none hfront hkind] at h
    rcases hb with hb | hb
    · rw [runOther_of_no_plugins hb] at h
      cases h
      cases hd
    · rw [hkind] at hb
      cases hb

end DiagramText
