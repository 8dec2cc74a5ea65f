import DiagramText.Proofs.Flowchart.Run
import DiagramText.Proofs.StateChart.Run
import DiagramText.Proofs.Wording

/-!
# Scopes as brackets

A statement opens a scope, closes one, or leaves the scopes as they are, apart from what is entered
into open ones.

1. `SameScopes`, what most statements do.
2. `Bracket` and `Turn`, everything that a statement can do to the scopes.
3. `Flowchart.turn_step` and `StateChart.turn_step`.
-/

namespace DiagramText.ScopeGraph

open Source (Line)

/-! ## Steps that keep the scopes -/

/-- A scope without what is entered into it while it is open. -/
def Scope.bare (s : Scope) : Scope := { s with nodeIds := [], direction := none }

/-- Two frames with the same children and, up to what is entered into it, the same scope. -/
structure SameFrame (f f' : Frame Scope) : Prop where
  bare : f'.value.bare = f.value.bare
  children : f'.children = f.children

/-- The reports on scopes that the end of the source has closed. -/
def unclosedReports (family : Family) (rs : List (Report Problem)) : List (Report Problem) :=
  rs.filter (·.problem.closesBlock family)

/-- Two states with the same scopes, up to what is entered into open ones. -/
structure SameScopes (st st' : State) : Prop where
  finished : st'.finished = st.finished
  serial : st'.serial = st.serial
  scopes : List.Forall₂ SameFrame st.scopes st'.scopes
  unclosed : ∀ family, unclosedReports family st'.reports = unclosedReports family st.reports

namespace SameScopes

variable {st st' st'' : State}

theorem forall₂_sameFrame_refl (fs : List (Frame Scope)) : List.Forall₂ SameFrame fs fs :=
  List.forall₂_same.2 fun _ _ => ⟨rfl, rfl⟩

theorem forall₂_sameFrame_trans {fs fs' fs'' : List (Frame Scope)}
    (h : List.Forall₂ SameFrame fs fs') (h' : List.Forall₂ SameFrame fs' fs'') :
    List.Forall₂ SameFrame fs fs'' := by
  induction h generalizing fs'' with
  | nil => exact h'
  | cons hf _ ih =>
    cases h' with
    | cons hf' hrest =>
      exact .cons ⟨hf'.bare.trans hf.bare, hf'.children.trans hf.children⟩ (ih hrest)

theorem of_eq (hfinished : st'.finished = st.finished) (hserial : st'.serial = st.serial)
    (hscopes : st'.scopes = st.scopes) (hreports : st'.reports = st.reports) :
    SameScopes st st' where
  finished := hfinished
  serial := hserial
  scopes := hscopes ▸ forall₂_sameFrame_refl st.scopes
  unclosed := fun _ => by rw [hreports]

theorem refl (st : State) : SameScopes st st := of_eq rfl rfl rfl rfl

theorem trans (h : SameScopes st st') (h' : SameScopes st' st'') : SameScopes st st'' where
  finished := h'.finished.trans h.finished
  serial := h'.serial.trans h.serial
  scopes := forall₂_sameFrame_trans h.scopes h'.scopes
  unclosed := fun family => (h'.unclosed family).trans (h.unclosed family)

theorem foldl {α : Type} {f : State → α → State} (hf : ∀ st a, SameScopes st (f st a))
    (as : List α) (st : State) : SameScopes st (as.foldl f st) := by
  refine List.foldlRecOn as f (refl st) ?_
  intro st' h a _
  exact h.trans (hf st' a)

theorem addReport (st : State) {r : Report Problem}
    (hr : ∀ family, r.problem.closesBlock family = false) :
    SameScopes st { st with reports := st.reports ++ [r] } where
  finished := rfl
  serial := rfl
  scopes := forall₂_sameFrame_refl st.scopes
  unclosed := by
    intro family
    unfold unclosedReports
    rw [List.filter_append, List.filter_cons_of_neg (by rw [hr family]; decide), List.filter_nil,
      List.append_nil]

theorem setDirection (st : State) (d : Direction) : SameScopes st (st.setDirection d) := by
  unfold State.setDirection
  split
  · exact of_eq rfl rfl rfl rfl
  · rename_i f fs hs
    refine ⟨rfl, rfl, ?_, fun _ => rfl⟩
    rw [hs]
    exact .cons ⟨rfl, rfl⟩ (forall₂_sameFrame_refl fs)

theorem release (serial : Nat) (id : String) (f : Frame Scope) :
    SameFrame f (State.release serial id f) := by
  unfold State.release
  split
  · exact ⟨rfl, rfl⟩
  · exact ⟨rfl, rfl⟩

theorem claim (st : State) (id : String) : SameScopes st (st.claim id) := by
  obtain h | ⟨f, fs, rest, hs, hrest, h⟩ := st.claim_cases id
  · rw [h]
    exact refl st
  · rw [h]
    refine ⟨rfl, rfl, ?_, fun _ => rfl⟩
    rw [hs]
    refine .cons ⟨rfl, rfl⟩ ?_
    rcases hrest with ⟨-, rfl⟩ | ⟨k, -, -, -, rfl⟩
    · exact forall₂_sameFrame_refl rest
    · exact List.forall₂_map_right_iff.2 (List.forall₂_same.2 fun g _ => release k id g)

theorem mention (st : State) (id : String) (shape : Shape) (line : Int) :
    SameScopes st (st.mention id shape line) := by
  unfold State.mention
  refine trans ?_ (claim _ id)
  exact of_eq rfl rfl rfl rfl

theorem declare (st : State) (id label : String) (shape : Shape) (line : Int) :
    SameScopes st (st.declare id label shape line) := by
  unfold State.declare
  dsimp only
  refine trans ?_ (claim _ id)
  split
  · exact of_eq rfl rfl rfl rfl
  · split
    · exact of_eq rfl rfl rfl rfl
    · split
      · exact refl st
      · exact addReport st fun _ => rfl

theorem noteLink (st : State) (l : Line) (t : LinkTarget) : SameScopes st (st.noteLink l t) := by
  cases t with
  | default => exact refl st
  | index n =>
    unfold State.noteLink
    dsimp only
    split
    · exact refl st
    · exact of_eq rfl rfl rfl rfl

theorem applyDirective (st : State) (l : Line) (d : Directive) :
    SameScopes st (st.applyDirective l d) := by
  cases d with
  | classDef names properties =>
    have hreport : SameScopes st
        (if properties.entries.isEmpty then st.report l .emptyClassDef else st) := by
      split
      · exact addReport st fun _ => rfl
      · exact refl st
    refine hreport.trans (foldl ?_ names _)
    intro st name
    exact of_eq rfl rfl rfl rfl
  | assign ids className =>
    refine foldl ?_ ids st
    intro st id
    exact of_eq rfl rfl rfl rfl
  | style ids properties =>
    refine foldl ?_ ids st
    intro st id
    exact of_eq rfl rfl rfl rfl
  | linkStyle targets properties =>
    refine foldl ?_ targets st
    intro st t
    refine trans ?_ (noteLink _ l t)
    exact of_eq rfl rfl rfl rfl
  | malformed => exact addReport st fun _ => rfl

theorem map_scopes (h : SameScopes st st') {β : Type} {g : Scope → β} (hg : ∀ s, g s.bare = g s) :
    st'.scopes.map (fun f => g f.value) = st.scopes.map fun f => g f.value := by
  have hscopes := h.scopes
  revert hscopes
  generalize st.scopes = fs, st'.scopes = fs'
  intro hscopes
  induction hscopes with
  | nil => rfl
  | cons hf _ ih => rw [List.map_cons, List.map_cons, ih, ← hg, hf.bare, hg]

end SameScopes

namespace State

theorem serial_closeScope (st : State) : st.closeScope.serial = st.serial := by
  unfold closeScope
  split <;> rfl

theorem reports_closeScope (st : State) : st.closeScope.reports = st.reports := by
  unfold closeScope
  split <;> rfl

/-- Closing the innermost scope leaves the others open, as they are but for their children. -/
theorem map_scopes_closeScope {β : Type} (g : Scope → β) (st : State) :
    st.closeScope.scopes.map (fun f => g f.value) = (st.scopes.map fun f => g f.value).tail := by
  unfold closeScope
  split
  · rename_i hs
    rw [hs]
    rfl
  · rename_i f hs
    rw [hs]
    rfl
  · rename_i f g fs hs
    rw [hs]
    rfl

end State

/-! ## Brackets -/

/-- What a line says about the scope that it opens.  A scope without an id of its own is numbered. -/
structure Opening where
  line : Int
  id : Option String
  label : String

/-- A scope is the one that a line opens. -/
structure Opening.Fits (o : Opening) (s : Scope) : Prop where
  line : s.line = o.line
  label : s.label = o.label
  id : ∀ id, o.id = some id → s.id = id

/-- The beginning or the end of a scope. -/
inductive Bracket where
  | opening (o : Opening)
  | closing

/-- The opening that a bracket is, if it is one. -/
def Bracket.opening? : Bracket → Option Opening
  | .opening o => some o
  | .closing => none

/-- Everything that a statement can do to the scopes. -/
inductive Turn (family : Family) (l : Line) : Option Bracket → State → State → Prop
  | aside {st st' : State} (h : SameScopes st st') : Turn family l none st st'
  | opening {st st' : State} {given : Option String} {id : String} (label : String)
      (h : SameScopes st st') (hid : ∀ id', given = some id' → id = id') :
      Turn family l (some (.opening ⟨l.number, given, label⟩)) st (st'.openScope l id label)
  | closing (st : State) : Turn family l (some .closing) st (st.closeOrReport family l)

end DiagramText.ScopeGraph

namespace DiagramText

open Source (Line)
open ScopeGraph (State SameScopes Bracket Turn)

namespace Flowchart

/-- What a statement is for the scopes. -/
def Statement.bracket? (l : Line) : Statement → Option Bracket
  | .openSubgraph .unnamed => some (.opening ⟨l.number, none, ""⟩)
  | .openSubgraph (.named id label) => some (.opening ⟨l.number, some id, label⟩)
  | .openSubgraph (.labelled label) => some (.opening ⟨l.number, none, label⟩)
  | .close => some .closing
  | _ => none

/-- What a line is for the scopes. -/
def lineBracket? (l : Line) : Option Bracket :=
  match Statement.recognise l.text with
  | .ok s => s.bracket? l
  | .error _ => none

theorem sameScopes_mention (st : State) (l : Line) (m : Mention) :
    SameScopes st (mention st l m) := by
  obtain ⟨id, form, className⟩ := m
  have hform : SameScopes st (mention st l ⟨id, form, none⟩) := by
    cases form with
    | none => exact .mention st id .rectangle l.number
    | some form => exact .declare st id form.1 form.2 l.number
  cases className with
  | none => exact hform
  | some c => exact hform.trans (.of_eq rfl rfl rfl rfl)

theorem sameScopes_takeStep (l : Line) (st : State) (s : Step) :
    SameScopes st (takeStep l st s) := by
  cases s with
  | mention m => exact sameScopes_mention st l m
  | join sources targets a => exact .of_eq rfl rfl rfl rfl
  | unknownArrow token offset => exact .addReport st fun _ => rfl
  | missingTarget => exact .addReport st fun _ => rfl
  | unrecognisedText text offset => exact .addReport st fun _ => rfl
  | unrecognisedLine => exact .addReport st fun _ => rfl

theorem turn_step (st : State) (l : Line) (s : Statement) :
    Turn .flowchart l (s.bracket? l) st (step st (l, s)) := by
  cases s with
  | directive d => exact .aside (.applyDirective st l d)
  | direction d => exact .aside (.setDirection st d)
  | openSubgraph head =>
    cases head with
    | unnamed =>
      refine .opening "" ?_ (by rintro _ ⟨⟩)
      refine SameScopes.trans ?_ (.addReport { st with unnamed := st.unnamed + 1 } fun _ => rfl)
      exact .of_eq rfl rfl rfl rfl
    | named id label =>
      refine .opening label (.refl st) ?_
      rintro _ ⟨⟩
      rfl
    | labelled label => exact .opening label (.refl st) (by rintro _ ⟨⟩)
  | close => exact .closing st
  | interaction => exact .aside (.addReport st fun _ => rfl)
  | chain steps => exact .aside (.foldl (sameScopes_takeStep l) steps st)

theorem sameScopes_start (ls : List Line) (direction : String) :
    SameScopes { direction } (start ls direction) := by
  cases ls with
  | nil => exact .refl _
  | cons l ls =>
    show SameScopes _ (readHeader _ l)
    unfold readHeader
    split
    · exact .addReport _ fun _ => rfl
    · exact .refl _
    · split
      · exact .of_eq rfl rfl rfl rfl
      · exact .addReport _ fun _ => rfl

end Flowchart

namespace StateChart

/-- What a statement is for the scopes. -/
def Statement.bracket? (l : Line) : Statement → Option Bracket
  | .openComposite id label => some (.opening ⟨l.number, some id, label⟩)
  | .close => some .closing
  | _ => none

/-- What a line is for the scopes. -/
def lineBracket? (l : Line) : Option Bracket :=
  match Statement.recognise l.text with
  | .ok s => s.bracket? l
  | .error _ => none

theorem sameScopes_readSource (st : State) (l : Line) (e : Endpoint) :
    SameScopes st (readSource st l e).1 := by
  cases e with
  | star =>
    refine SameScopes.trans ?_ (.declare _ _ "" .stateStart l.number)
    exact .of_eq rfl rfl rfl rfl
  | state id => exact .mention st id .rounded l.number

theorem sameScopes_readTarget (st : State) (l : Line) (e : Endpoint) :
    SameScopes st (readTarget st l e).1 := by
  cases e with
  | star =>
    refine SameScopes.trans ?_ (.declare _ _ "" .stateEnd l.number)
    exact .of_eq rfl rfl rfl rfl
  | state id => exact .mention st id .rounded l.number

theorem turn_step (st : State) (l : Line) (s : Statement) :
    Turn .state l (s.bracket? l) st (step st (l, s)) := by
  cases s with
  | directive d => exact .aside (.applyDirective st l d)
  | direction d => exact .aside (.setDirection st d)
  | openComposite id label =>
    refine .opening label (.refl st) ?_
    rintro _ ⟨⟩
    rfl
  | close => exact .closing st
  | separator => exact .aside (.refl st)
  | note kind => exact .aside (.refl st)
  | declare id label shape => exact .aside (.declare st id label shape l.number)
  | transition source target label =>
    have hsource := sameScopes_readSource st l source
    have htarget := sameScopes_readTarget (readSource st l source).1 l target
    exact .aside ((hsource.trans htarget).trans (.of_eq rfl rfl rfl rfl))
  | mention id => exact .aside (.mention st id .rounded l.number)
  | unrecognised => exact .aside (.addReport st fun _ => rfl)

theorem sameScopes_reportOpenNote (st : State) (isOpen : Bool) (ls : List Line) :
    SameScopes st (reportOpenNote st isOpen ls) := by
  unfold reportOpenNote
  split
  · exact .addReport st fun _ => rfl
  · exact .refl st

end StateChart

end DiagramText
