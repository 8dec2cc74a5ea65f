import DiagramText.Proofs.Overwrites
import DiagramText.Proofs.ScopeGraph.DirectiveLines

/-!
# Repeating style directives

What a style directive does to the styles is a list of writes into slots: a class is defined in the
slot of its name, a class is given in the slot of a node and the class, and a property is set in the
slot of a node or a link and the name of the property.  By `Overwrites.foldl_foldl`, obeying a list
of directives a second time leaves all styles as they are, with the order of keys and of classes.

1. Strokes: setting properties one by one.
2. `Styles.obey`, the writes of a list of directives, and `Styles.obey_obey`.
3. Steps and runs: reading directives obeys them.
-/

namespace DiagramText

open Source (Line)

namespace ScopeGraph

/-! ## Strokes -/

/-- Sets a property; a blank stroke sets none. -/
def setProperty (p : Properties) : Option (String × String) → Properties
  | none => p
  | some e => p.insert e.1 e.2

theorem overwrites_setProperty :
    Overwrites (Option.map Prod.fst) setProperty fun p name => ∀ n ∈ name, n ∈ p.keys where
  again p w w' h := by
    cases w with
    | none => rfl
    | some e =>
      cases w' with
      | none => cases h
      | some e' => exact OrderedMap.overwrites_insert.again p (Option.some.inj h)
  comm p w w' h hfilled := by
    cases w with
    | none => rfl
    | some e =>
      cases w' with
      | none => rfl
      | some e' =>
        have hne : e.1 ≠ e'.1 := fun he => h (congrArg some he)
        exact OrderedMap.overwrites_insert.comm p hne
          (hfilled.imp (fun hf => hf _ rfl) fun hf => hf _ rfl)
  fills p w n hn := by
    cases w with
    | none => cases hn
    | some e =>
      cases hn
      exact OrderedMap.overwrites_insert.fills p e
  keeps p w name hf n hn := by
    cases w with
    | none => exact hf n hn
    | some e => exact OrderedMap.overwrites_insert.keeps p e (hf n hn)

/-- The strokes that give properties to `k`.  The first one sets nothing, for the sake of a key that
gets no properties at all. -/
def strokes {κ : Type} (k : κ) (p : Properties) : List (κ × Option (String × String)) :=
  (k, none) :: p.entries.map fun e => (k, some e)

section

variable {κ : Type} [BEq κ]

/-- Gives properties to keys, stroke by stroke. -/
def paint (m : OrderedMap κ Properties) (ws : List (κ × Option (String × String))) :
    OrderedMap κ Properties :=
  ws.foldl (OrderedMap.writeAt setProperty {}) m

@[simp]
theorem paint_nil (m : OrderedMap κ Properties) : paint m [] = m := rfl

theorem paint_append (m : OrderedMap κ Properties) (ws ws' : List (κ × Option (String × String))) :
    paint m (ws ++ ws') = paint (paint m ws) ws' := List.foldl_append

variable [LawfulBEq κ]

theorem paint_paint (m : OrderedMap κ Properties) (ws : List (κ × Option (String × String))) :
    paint (paint m ws) ws = paint m ws :=
  (OrderedMap.overwrites_writeAt overwrites_setProperty {}).foldl_foldl ws m

/-- Strokes for a stored key set the properties one after the other. -/
theorem paint_insert (m : OrderedMap κ Properties) (k : κ) (p : Properties)
    (es : List (String × String)) :
    paint (m.insert k p) (es.map fun e => (k, some e)) =
      m.insert k (es.foldl (fun acc e => acc.insert e.1 e.2) p) := by
  induction es generalizing p with
  | nil => rfl
  | cons e es ih =>
    have hstroke : (m.insert k p).writeAt setProperty {} (k, some e) =
        m.insert k (p.insert e.1 e.2) := by
      unfold OrderedMap.writeAt
      rw [OrderedMap.get?_insert_self, OrderedMap.insert_insert_self]
      rfl
    show paint ((m.insert k p).writeAt setProperty {} (k, some e)) _ = _
    rw [hstroke, ih]
    rfl

theorem restyle_eq_paint (m : OrderedMap κ Properties) (k : κ) (p : Properties) :
    State.restyle m k p = paint m (strokes k p) :=
  (paint_insert m k ((m.get? k).getD {}) p.entries).symm

end

/-! ## Directives -/

namespace Directive

/-- The classes that a directive defines. -/
def definitions : Directive → List (String × Properties)
  | .classDef names properties => names.map (·, properties)
  | _ => []

/-- The classes that a directive gives to nodes. -/
def assignments : Directive → List (String × String)
  | .assign ids className => ids.map (·, className)
  | _ => []

/-- The strokes of a directive on nodes. -/
def nodeStrokes : Directive → List (String × Option (String × String))
  | .style ids properties => ids.flatMap (strokes · properties)
  | _ => []

/-- The strokes of a directive on links. -/
def linkStrokes : Directive → List (LinkTarget × Option (String × String))
  | .linkStyle targets properties => targets.flatMap (strokes · properties)
  | _ => []

end Directive

namespace Styles

/-- The styles after all writes of the given directives. -/
def obey (s : Styles) (ds : List Directive) : Styles where
  classDefs := (ds.flatMap (·.definitions)).foldl (fun m e => m.insert e.1 e.2) s.classDefs
  classAssignments :=
    (ds.flatMap (·.assignments)).foldl (OrderedMap.writeAt addNew []) s.classAssignments
  nodeStyles := paint s.nodeStyles (ds.flatMap (·.nodeStrokes))
  linkStyles := paint s.linkStyles (ds.flatMap (·.linkStrokes))

theorem obey_append (s : Styles) (ds ds' : List Directive) :
    s.obey (ds ++ ds') = (s.obey ds).obey ds' := by
  unfold obey
  simp only [List.flatMap_append, List.foldl_append, paint_append]

/-- Obeying directives twice leaves the styles as obeying them once does. -/
theorem obey_obey (s : Styles) (ds : List Directive) : (s.obey ds).obey ds = s.obey ds := by
  unfold obey
  simp only [paint_paint, OrderedMap.overwrites_insert.foldl_foldl,
    (OrderedMap.overwrites_writeAt overwrites_addNew []).foldl_foldl]

end Styles

/-! ## Steps -/

namespace State

theorem styles_noteLink (st : State) (l : Line) (t : LinkTarget) :
    (st.noteLink l t).styles = st.styles := by
  cases t with
  | default => rfl
  | index n =>
    show (if st.linkLines.contains n then st else { st with linkLines := _ }).styles = _
    split <;> rfl

/-- A loop over the targets of a directive obeys it, if every round obeys it for its target. -/
theorem styles_foldl {α : Type} {f : State → α → State} {d : List α → Directive}
    (hnil : ∀ s : Styles, s.obey [d []] = s)
    (hcons : ∀ (s : Styles) (a : α) (as : List α),
      s.obey [d (a :: as)] = (s.obey [d [a]]).obey [d as])
    (hf : ∀ st a, (f st a).styles = st.styles.obey [d [a]]) (as : List α) (st : State) :
    (as.foldl f st).styles = st.styles.obey [d as] := by
  induction as generalizing st with
  | nil => exact (hnil st.styles).symm
  | cons a as ih => rw [List.foldl_cons, ih, hf, hcons _ a as]

theorem styles_applyDirective (st : State) (l : Line) (d : Directive) :
    (st.applyDirective l d).styles = st.styles.obey [d] := by
  cases d with
  | classDef names properties =>
    have hreport : (if properties.entries.isEmpty then st.report l .emptyClassDef else st).styles =
        st.styles := by
      split <;> rfl
    rw [← hreport]
    exact styles_foldl (d := (.classDef · properties)) (fun _ => rfl) (fun _ _ _ => rfl)
      (fun _ _ => rfl) names _
  | assign ids className =>
    exact styles_foldl (d := (.assign · className)) (fun _ => rfl) (fun _ _ _ => rfl)
      (fun _ _ => rfl) ids st
  | style ids properties =>
    refine styles_foldl (d := (.style · properties)) (fun _ => rfl) (fun s id ids => ?_)
      (fun st id => ?_) ids st
    · simp [Styles.obey, Directive.definitions, Directive.assignments, Directive.nodeStrokes,
        Directive.linkStrokes, paint_append]
    · simp [Styles.obey, Directive.definitions, Directive.assignments, Directive.nodeStrokes,
        Directive.linkStrokes, noteTarget, restyle_eq_paint]
  | linkStyle targets properties =>
    refine styles_foldl (d := (.linkStyle · properties)) (fun _ => rfl) (fun s t targets => ?_)
      (fun st t => ?_) targets st
    · simp [Styles.obey, Directive.definitions, Directive.assignments, Directive.nodeStrokes,
        Directive.linkStrokes, paint_append]
    · rw [styles_noteLink]
      simp [Styles.obey, Directive.definitions, Directive.assignments, Directive.nodeStrokes,
        Directive.linkStrokes, restyle_eq_paint]
  | malformed => rfl

end State

/-! ## Runs -/

namespace ObeysDirectives

variable {σ : Type} {read : String → Except Fault σ} {step : State → Line × σ → State}
  {directive? : σ → Option Directive}

/-- Reading directives obeys them. -/
theorem styles_foldl (h : ObeysDirectives read step directive?) {xs : List (Line × σ)}
    (hxs : ∀ x ∈ xs, (directive? x.2).isSome = true) (st : State) :
    (xs.foldl step st).styles = st.styles.obey (xs.filterMap (directive? ·.2)) := by
  induction xs generalizing st with
  | nil => rfl
  | cons x xs ih =>
    obtain ⟨l, s⟩ := x
    obtain ⟨hs, hxs⟩ := List.forall_mem_cons.1 hxs
    obtain ⟨d, hd⟩ := Option.isSome_iff_exists.1 hs
    have hcons : ((l, s) :: xs).filterMap (directive? ·.2) = [d] ++ xs.filterMap (directive? ·.2) :=
      List.filterMap_cons_some hd
    rw [List.foldl_cons, ih hxs, h.step hd, State.styles_applyDirective, hcons, Styles.obey_append]

/-- Reading directives twice leaves the styles as reading them once does; a fault stays the same
too. -/
theorem styles_append_self (h : ObeysDirectives read step directive?) {ds : List Line}
    (hds : ∀ l ∈ ds, isDirective l = true) (st : State) :
    (readLines read (ds ++ ds)).map (fun xs => (xs.foldl step st).styles) =
      (readLines read ds).map fun xs => (xs.foldl step st).styles := by
  unfold readLines
  rw [List.mapM_append]
  cases hread : ds.mapM fun l => do return (l, ← read l.text) with
  | error fault => rfl
  | ok xs =>
    have hxs : ∀ x ∈ xs, (directive? x.2).isSome = true := by
      intro x hx
      obtain ⟨hl, hs⟩ := mem_of_readLines hread x hx
      rw [← h.isDirective_eq hs]
      exact hds x.1 hl
    show Except.ok ((xs ++ xs).foldl step st).styles = Except.ok (xs.foldl step st).styles
    rw [List.foldl_append, h.styles_foldl hxs, h.styles_foldl hxs, Styles.obey_obey]

end ObeysDirectives

end ScopeGraph

open ScopeGraph (State Styles isDirective)

/-- The styles after further lines of a flowchart. -/
def Flowchart.stylesAfter (st : State) (ls : List Line) : Except Fault Styles :=
  (statements ls).map fun xs => (xs.foldl step st).styles

/-- The styles after further lines of a state diagram, the first of which may stand in a note
block. -/
def StateChart.stylesAfter (inNote : Bool) (st : State) (ls : List Line) : Except Fault Styles :=
  (statements (outsideNotes inNote ls).1).map fun xs => (xs.foldl step st).styles

/-- **Idempotent directives.** From whatever state a list of style directives is read, reading it
twice leaves the same styles as reading it once, in the same order.  If an index in the list is too
long, both readings stop at it. -/
theorem restyling_is_idempotent (ds : List Line) (h : ∀ l ∈ ds, isDirective l = true) (st : State) :
    Flowchart.stylesAfter st (ds ++ ds) = Flowchart.stylesAfter st ds ∧
      ∀ inNote, StateChart.stylesAfter inNote st (ds ++ ds) =
        StateChart.stylesAfter inNote st ds := by
  refine ⟨Flowchart.obeysDirectives.styles_append_self h st, fun inNote => ?_⟩
  have htwice : ∀ l ∈ ds ++ ds, isDirective l = true := by
    intro l hl
    exact (List.mem_append.1 hl).elim (h l) (h l)
  unfold StateChart.stylesAfter
  rw [StateChart.outsideNotes_of_isDirective inNote h,
    StateChart.outsideNotes_of_isDirective inNote htwice]
  cases inNote with
  | true => rfl
  | false => exact StateChart.obeysDirectives.styles_append_self h st

/-- Directives that overwrite what they set themselves, one of them malformed. -/
def conflicting : List Line :=
  [⟨3, "classDef hot fill:red", 0, 1⟩, ⟨4, "style a,b fill:red,stroke:blue", 0, 1⟩,
   ⟨5, "class a,b hot", 0, 1⟩, ⟨6, "style b,c fill:green", 0, 1⟩, ⟨7, "class a cold", 0, 1⟩,
   ⟨8, "classDef hot,cold fill:white", 0, 1⟩, ⟨9, "linkStyle 3 color:red", 0, 1⟩,
   ⟨10, "linkStyle 0,3 color:blue", 0, 1⟩, ⟨11, "style a", 0, 1⟩]

theorem restyling_is_idempotent_conflicting :
    (∃ s, Flowchart.stylesAfter { direction := "TD" } conflicting = .ok s ∧
      Flowchart.stylesAfter { direction := "TD" } (conflicting ++ conflicting) = .ok s ∧
      s.classAssignments.entries = [("a", ["hot", "cold"]), ("b", ["hot"])] ∧
      s.nodeStyles.entries.map (fun e => (e.1, e.2.entries)) =
        [("a", [("fill", "red"), ("stroke", "blue")]),
         ("b", [("fill", "green"), ("stroke", "blue")]), ("c", [("fill", "green")])]) ∧
    ∃ s, StateChart.stylesAfter false { direction := "TD" } conflicting = .ok s ∧
      StateChart.stylesAfter false { direction := "TD" } (conflicting ++ conflicting) = .ok s ∧
      s.linkStyles.keys = [.index 3, .index 0] := by
  have hdirectives : ∀ l ∈ conflicting, isDirective l = true := by decide +kernel
  have htwice := restyling_is_idempotent conflicting hdirectives { direction := "TD" }
  have hflowchart : ((Flowchart.stylesAfter { direction := "TD" } conflicting).toOption.map fun s =>
      (s.classAssignments.entries, s.nodeStyles.entries.map (fun e => (e.1, e.2.entries)))) =
      some ([("a", ["hot", "cold"]), ("b", ["hot"])],
        [("a", [("fill", "red"), ("stroke", "blue")]),
         ("b", [("fill", "green"), ("stroke", "blue")]), ("c", [("fill", "green")])]) := by
    decide +kernel
  have hstate : ((StateChart.stylesAfter false { direction := "TD" } conflicting).toOption.map
      fun s => s.linkStyles.keys) = some [.index 3, .index 0] := by
    decide +kernel
  obtain ⟨s, hs, hparts⟩ := exists_ok_of_toOption hflowchart
  obtain ⟨t, ht, hkeys⟩ := exists_ok_of_toOption hstate
  exact ⟨⟨s, hs, htwice.1.trans hs, Prod.mk.inj hparts⟩, t, ht, (htwice.2 false).trans ht, hkeys⟩

end DiagramText
