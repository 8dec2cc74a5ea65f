import DiagramText.Proofs.Routing

/-!
# The law of plugin registries

A registry holds the plugins whose registration succeeded, in the order of the calls.  A line
belongs to the first kind of diagram that accepts it, in the order of the plugins and then in the
order of the kinds of one plugin.

1. `call` makes one call and `registerAll` any number of them; `Plugin.Answered` says which of them
   fail, and `call_cases` what they leave behind.
2. `AcceptsFirst` says who is the first to accept a line, and `detect_eq_some_iff` that it is found.
3. What stands behind a match is never looked at (`detectIn_append`).
-/

namespace DiagramText

variable {υ : Type} {line : String}

/-! ## Registration -/

/-- Whether both the detector and the reader can be called. -/
def DiagramPlugin.isCallable (d : DiagramPlugin υ) : Bool := d.detect.isSome && d.read.isSome

/-- The answer to the registration of a plugin: its kinds of diagrams, or a fault that names the
first of them that cannot be called. -/
def Plugin.Answered (p : Plugin υ) : Except Fault Notice → Prop
  | .ok notice =>
    (∀ d ∈ p.diagrams, d.isCallable) ∧ notice = .registered p.name (p.diagrams.map (·.type))
  | .error fault =>
    ∃ pre d post, p.diagrams = pre ++ d :: post ∧ (∀ e ∈ pre, e.isCallable) ∧ ¬ d.isCallable ∧
      fault = .notCallable p.name d.type

namespace PluginRegistry

/-- Makes a call of `register`: the registry behind it, and the answer. -/
def call (r : PluginRegistry υ) (p : Plugin υ) : PluginRegistry υ × Except Fault Notice :=
  match r.register p with
  | .ok (r', notice) => (r', .ok notice)
  | .error refusal => (refusal.registry, .error refusal.fault)

/-- Makes calls of `register` one after another, each at the registry that the one before has left
behind, and keeps the answers. -/
def registerAll (r : PluginRegistry υ) :
    List (Plugin υ) → PluginRegistry υ × List (Except Fault Notice)
  | [] => (r, [])
  | p :: ps => (((r.call p).1.registerAll ps).1, (r.call p).2 :: ((r.call p).1.registerAll ps).2)

/-- What one call does: the plugin comes last, or the registry is as it was. -/
theorem call_cases (r : PluginRegistry υ) (p : Plugin υ) :
    (∃ notice, p.Answered (.ok notice) ∧ r.call p = (⟨r.plugins ++ [p]⟩, .ok notice)) ∨
      ∃ fault, p.Answered (.error fault) ∧ r.call p = (r, .error fault) := by
  have hcallable : ∀ d : DiagramPlugin υ, (d.detect.isNone || d.read.isNone) = !d.isCallable := by
    intro d
    unfold DiagramPlugin.isCallable
    cases d.detect <;> cases d.read <;> rfl
  unfold call register
  simp only [hcallable]
  cases hfind : p.diagrams.find? fun d => !d.isCallable with
  | some d =>
    obtain ⟨hd, pre, post, hp, hpre⟩ := List.find?_eq_some_iff_append.1 hfind
    refine .inr ⟨.notCallable p.name d.type, ?_, rfl⟩
    exact ⟨pre, d, post, hp, by simpa using hpre, by simpa using hd, rfl⟩
  | none => exact .inl ⟨_, ⟨by simpa using hfind, rfl⟩, rfl⟩

/-- A call that fails leaves the registry behind as it was. -/
theorem call_of_refused {r : PluginRegistry υ} {p : Plugin υ} {refusal : Refusal υ}
    (h : r.register p = .error refusal) :
    refusal.registry = r ∧ r.call p = (r, .error refusal.fault) := by
  have hcall : r.call p = (refusal.registry, .error refusal.fault) := by rw [call, h]
  obtain ⟨notice, -, hdone⟩ | ⟨fault, -, hdone⟩ := r.call_cases p
  · cases congrArg Prod.snd (hcall.symm.trans hdone)
  · have hsame : refusal.registry = r := congrArg Prod.fst (hcall.symm.trans hdone)
    exact ⟨hsame, hsame ▸ hcall⟩

theorem answered_registerAll (ps : List (Plugin υ)) (r : PluginRegistry υ) :
    List.Forall₂ Plugin.Answered ps (r.registerAll ps).2 := by
  induction ps generalizing r with
  | nil => exact .nil
  | cons p ps ih =>
    obtain ⟨notice, hanswered, hcall⟩ | ⟨fault, hanswered, hcall⟩ := r.call_cases p
    · rw [registerAll, hcall]
      exact .cons hanswered (ih _)
    · rw [registerAll, hcall]
      exact .cons hanswered (ih r)

/-- The plugins of the calls that succeed join the registry in the order of the calls. -/
theorem plugins_registerAll (ps : List (Plugin υ)) (r : PluginRegistry υ) :
    (r.registerAll ps).1.plugins =
      r.plugins ++ ((ps.zip (r.registerAll ps).2).filter (·.2.isOk)).map (·.1) := by
  induction ps generalizing r with
  | nil => exact (List.append_nil _).symm
  | cons p ps ih =>
    obtain ⟨notice, -, hcall⟩ | ⟨fault, -, hcall⟩ := r.call_cases p
    · rw [registerAll, hcall, ih, List.append_assoc]
      rfl
    · rw [registerAll, hcall, ih]
      rfl

theorem registerAll_append (ps qs : List (Plugin υ)) (r : PluginRegistry υ) :
    r.registerAll (ps ++ qs) = (((r.registerAll ps).1.registerAll qs).1,
      (r.registerAll ps).2 ++ ((r.registerAll ps).1.registerAll qs).2) := by
  induction ps generalizing r with
  | nil => rfl
  | cons p ps ih => simp only [List.cons_append, registerAll, ih (r.call p).1]

/-! ## Detection -/

/-- Behind some plugins that do not accept a line, a kind of diagram is the first of its plugin to
accept it.  A detector that fails does not accept. -/
structure AcceptsFirst (line : String) (before : List (Plugin υ)) (p : Plugin υ)
    (d : DiagramPlugin υ) : Prop where
  refused : ∀ q ∈ before, ∀ e ∈ q.diagrams, e.accepts line ≠ .ok true
  first : ∃ pre post, p.diagrams = pre ++ d :: post ∧ ∀ e ∈ pre, e.accepts line ≠ .ok true
  accepted : d.accepts line = .ok true

theorem fst_detectIn (ds : List (Plugin υ × DiagramPlugin υ)) :
    (detectIn line ds).1 = ds.find? fun x => x.2.accepts line = .ok true := by
  induction ds with
  | nil => rfl
  | cons x ds ih =>
    obtain ⟨p, d⟩ := x
    unfold detectIn
    cases hline : d.accepts line with
    | error message => simp [ih, hline]
    | ok accepted => cases accepted <;> simp [ih, hline]

theorem fst_detect (r : PluginRegistry υ) :
    (r.detect line).1 = r.plugins.findSome? fun p =>
      (p.diagrams.find? fun d => d.accepts line = .ok true).map (p, ·) := by
  unfold detect diagrams
  rw [fst_detectIn, List.find?_flatMap]
  congr 1
  funext p
  rw [List.find?_map]
  rfl

theorem detect_eq_some_iff {r : PluginRegistry υ} {p : Plugin υ} {d : DiagramPlugin υ} :
    (r.detect line).1 = some (p, d) ↔
      ∃ before after, r.plugins = before ++ p :: after ∧ AcceptsFirst line before p d := by
  rw [fst_detect, List.findSome?_eq_some_iff]
  constructor
  · rintro ⟨before, q, after, hplugins, hq, hbefore⟩
    obtain ⟨e, he, heq⟩ := Option.map_eq_some_iff.1 hq
    cases heq
    obtain ⟨haccepted, pre, post, hdiagrams, hpre⟩ := List.find?_eq_some_iff_append.1 he
    exact ⟨before, after, hplugins, by simpa using hbefore,
      ⟨pre, post, hdiagrams, by simpa using hpre⟩, by simpa using haccepted⟩
  · rintro ⟨before, after, hplugins, hbefore, ⟨pre, post, hdiagrams, hpre⟩, haccepted⟩
    refine ⟨before, p, after, hplugins, ?_, by simpa using hbefore⟩
    refine Option.map_eq_some_iff.2 ⟨d, ?_, rfl⟩
    exact List.find?_eq_some_iff_append.2
      ⟨by simpa using haccepted, pre, post, hdiagrams, by simpa using hpre⟩

theorem detect_eq_none_iff {r : PluginRegistry υ} :
    (r.detect line).1 = none ↔ ∀ p ∈ r.plugins, ∀ d ∈ p.diagrams, d.accepts line ≠ .ok true := by
  rw [fst_detect, List.findSome?_eq_none_iff]
  simp

/-- Kinds of diagrams behind a match are not looked at, and nothing is said about them. -/
theorem detectIn_append {ds : List (Plugin υ × DiagramPlugin υ)} {x : Plugin υ × DiagramPlugin υ}
    (h : (detectIn line ds).1 = some x) (more : List (Plugin υ × DiagramPlugin υ)) :
    detectIn line (ds ++ more) = detectIn line ds := by
  induction ds with
  | nil => cases h
  | cons y ds ih =>
    obtain ⟨p, d⟩ := y
    rw [List.cons_append]
    unfold detectIn at h ⊢
    cases hline : d.accepts line with
    | error message =>
      simp only [hline] at h ⊢
      rw [ih h]
    | ok accepted =>
      cases accepted with
      | true => rfl
      | false =>
        simp only [hline] at h ⊢
        exact ih h

theorem detect_append {ps : List (Plugin υ)} {x : Plugin υ × DiagramPlugin υ}
    (h : (detect ⟨ps⟩ line).1 = some x) (more : List (Plugin υ)) :
    detect ⟨ps ++ more⟩ line = detect ⟨ps⟩ line := by
  unfold detect diagrams at h ⊢
  rw [List.flatMap_append, detectIn_append h]

/-- One more call answers for itself. -/
theorem registerAll_concat (r : PluginRegistry υ) (ps : List (Plugin υ)) (p : Plugin υ) :
    r.registerAll (ps ++ [p]) =
      (((r.registerAll ps).1.call p).1,
        (r.registerAll ps).2 ++ [((r.registerAll ps).1.call p).2]) :=
  registerAll_append ps [p] r

/-- Behind a call, a line that somebody accepted is still theirs. -/
theorem detect_call {r : PluginRegistry υ} {x : Plugin υ × DiagramPlugin υ}
    (h : (r.detect line).1 = some x) (p : Plugin υ) : (r.call p).1.detect line = r.detect line := by
  obtain ⟨notice, -, hcall⟩ | ⟨fault, -, hcall⟩ := r.call_cases p
  · rw [hcall]
    exact detect_append h [p]
  · rw [hcall]

/-! ## The law -/

/-- **Law of plugin registries.** A call of `register` fails if a kind of diagram of the plugin
cannot be called, and then the registry stays as it is.  The registry holds the plugins of the other
calls, in the order of the calls.  A line belongs to the first kind of diagram that accepts it, by
plugins and then within the plugin, and to nobody if there is none; one more call does not change
who a line belongs to. -/
theorem plugins_in_order_of_registration {calls : List (Plugin υ)} {r : PluginRegistry υ}
    {answers : List (Except Fault Notice)} (h : registerAll {} calls = (r, answers)) :
    List.Forall₂ Plugin.Answered calls answers ∧
    r.plugins = ((calls.zip answers).filter (·.2.isOk)).map (·.1) ∧
    (∀ p refusal, r.register p = .error refusal → refusal.registry = r ∧
      registerAll {} (calls ++ [p]) = (r, answers ++ [.error refusal.fault])) ∧
    ∀ line,
      (∀ p d, (r.detect line).1 = some (p, d) ↔
        ∃ before after, r.plugins = before ++ p :: after ∧ AcceptsFirst line before p d) ∧
      ((r.detect line).1 = none ↔
        ∀ p ∈ r.plugins, ∀ d ∈ p.diagrams, d.accepts line ≠ .ok true) ∧
      ∀ x, (r.detect line).1 = some x →
        ∀ p, (registerAll {} (calls ++ [p])).1.detect line = r.detect line := by
  obtain rfl : (registerAll {} calls).1 = r := congrArg Prod.fst h
  obtain rfl : (registerAll {} calls).2 = answers := congrArg Prod.snd h
  refine ⟨answered_registerAll calls {}, plugins_registerAll calls {}, ?_, ?_⟩
  · intro p refusal hrefused
    obtain ⟨hsame, hcall⟩ := call_of_refused hrefused
    exact ⟨hsame, by rw [registerAll_concat, hcall]⟩
  · intro line
    refine ⟨fun p d => detect_eq_some_iff, detect_eq_none_iff, ?_⟩
    intro x hx p
    rw [registerAll_concat]
    exact detect_call hx p

/-- A plugin that detects every line and can read none. -/
def mute : Plugin Unit :=
  { name := "mute"
    diagrams := [{ type := "silence", detect := some fun _ => .ok true, read := none }] }

/-- A plugin for songs and psalms. -/
def songs : Plugin Unit :=
  { name := "songs"
    diagrams :=
      [{ type := "song"
         detect := some fun line => .ok (line.startsWith "p" || line.startsWith "s")
         read := some fun _ => ⟨.failed "out of tune", []⟩ }] }

theorem plugins_in_order_of_registration_psalm :
    ∃ r answers, registerAll {} [mute, poems, songs] = (r, answers) ∧
      r.plugins = [poems, songs] ∧ answers.map (·.isOk) = [false, true, true] ∧
      (∃ d, (r.detect "psalm").1 = some (poems, d)) ∧ (r.detect "untitled").1 = none ∧
      ∀ p, (registerAll {} [mute, poems, songs, p]).1.detect "psalm" = r.detect "psalm" := by
  refine ⟨_, _, rfl, rfl, rfl, ?_⟩
  have hcalls : registerAll {} [mute, poems, songs] = _ := rfl
  obtain ⟨-, -, -, hdetect⟩ := plugins_in_order_of_registration hcalls
  obtain ⟨hsome, -, hmore⟩ := hdetect "psalm"
  have hfound := (hsome poems _).2 ⟨[], [songs], rfl, List.forall_mem_nil _,
    ⟨poems.diagrams.take 1, [], rfl, by decide +kernel⟩, by decide +kernel⟩
  refine ⟨⟨_, hfound⟩, (hdetect "untitled").2.1.2 (by decide +kernel), ?_⟩
  exact hmore _ hfound

end PluginRegistry

end DiagramText
