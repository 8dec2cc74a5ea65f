import DiagramText.Proofs.Faults
import DiagramText.Proofs.OrderedMap
import DiagramText.Proofs.Tree
import DiagramText.Parsed
import DiagramText.ScopeGraph.Problem

/-!
# Other line numbers

What a reader makes of lines depends on their numbers only in that it copies them.  This module has
what the proofs of that for the eight dialects share.

1. `Line.renumber` and `Report.renumber`, for a function on line numbers.
2. `Diagnostic.Renumbered`: a diagnostic at another line.  One message quotes a line, and the quoted
   number changes as well.
3. `Parsed.Renumbered` and `SameOutcome`, what two readings have in common.
4. Maps with other values and trees with other labels.
-/

namespace DiagramText

open Source (Line)

variable {f : Int → Int}

/-! ## Lines and reports -/

/-- The line with another number. -/
def Source.Line.renumber (f : Int → Int) (l : Line) : Line := { l with number := f l.number }

/-- The report at another line. -/
def Report.renumber {π : Type} (f : Int → Int) (r : Report π) : Report π :=
  { r with line := f r.line }

theorem readLines_renumber {σ : Type} {read : String → Except Fault σ} (ls : List Line) :
    readLines read (ls.map (Line.renumber f)) =
      (readLines read ls).map fun xs => xs.map fun x => (x.1.renumber f, x.2) := by
  induction ls with
  | nil => rfl
  | cons l ls ih =>
    rw [List.map_cons, readLines, List.mapM_cons, readLines, List.mapM_cons]
    show (do return (l.renumber f, ← read l.text) : Except Fault _).bind _ = _
    cases hl : read l.text with
    | error e => rfl
    | ok s =>
      change readLines read (ls.map (Line.renumber f)) = _ at ih
      show (readLines read (ls.map (Line.renumber f))).bind _ =
        ((readLines read ls).bind _).map _
      rw [ih]
      cases readLines read ls with
      | error e => rfl
      | ok xs => rfl

/-! ## Diagnostics -/

/-- The message about a second declaration of a node. -/
def redeclaration (id : String) (line : Int) : String :=
  Describe.message (ScopeGraph.Problem.redeclared id line)

theorem isPrefixOf_redeclaration (id : String) (line : Int) :
    "Node '".toList.isPrefixOf (redeclaration id line).toList = true := by
  simp only [redeclaration, Describe.message, toString, String.toList_append, List.append_assoc]
  exact List.isPrefixOf_iff_prefix.2 (List.prefix_append _ _)

theorem getLast?_redeclaration (id : String) (line : Int) :
    (redeclaration id line).toList.getLast? = some 'n' := by
  have hend : "; keeping its first definition".toList =
      "; keeping its first definitio".toList ++ ['n'] := by
    decide +kernel
  simp only [redeclaration, Describe.message, toString, String.toList_append, hend,
    ← List.append_assoc]
  exact List.getLast?_concat

/-- Whether a text is none of the messages about a second declaration. -/
def QuotesNoLine (message : String) : Prop := ∀ id line, message ≠ redeclaration id line

theorem quotesNoLine_of_start {message : String}
    (h : "Node '".toList.isPrefixOf message.toList = false) : QuotesNoLine message := by
  rintro id line rfl
  rw [isPrefixOf_redeclaration] at h
  cases h

theorem quotesNoLine_of_end {message : String} (h : message.toList.getLast? ≠ some 'n') :
    QuotesNoLine message := by
  rintro id line rfl
  exact h (getLast?_redeclaration id line)

/-- The same diagnostic at another line.  The message is the same as well, unless it quotes a line:
then the other message quotes the other line. -/
structure Diagnostic.Renumbered (f : Int → Int) (d d' : Diagnostic) : Prop where
  severity : d'.severity = d.severity
  line : d'.line = f d.line
  column : d'.column = d.column
  suggestions : d'.suggestions = d.suggestions
  message : (QuotesNoLine d.message ∧ d'.message = d.message) ∨
    ∃ id n, d.message = redeclaration id n ∧ d'.message = redeclaration id (f n)

theorem Report.renumbered_toDiagnostic {π : Type} [Describe π] {r : Report π}
    (h : QuotesNoLine (Describe.message r.problem)) :
    r.toDiagnostic.Renumbered f (r.renumber f).toDiagnostic :=
  ⟨rfl, rfl, rfl, rfl, .inl ⟨h, rfl⟩⟩

/-! ## Readings -/

/-- A reading of the same lines with other numbers. -/
structure Parsed.Renumbered {δ : Type} (f : Int → Int) (renumber : δ → δ) (p p' : Parsed δ) :
    Prop where
  diagram : p'.diagram = renumber p.diagram
  diagnostics : List.Forall₂ (Diagnostic.Renumbered f) p.diagnostics p'.diagnostics

theorem Parsed.renumbered_ofReports {δ π : Type} [Describe π] {renumber : δ → δ}
    (hπ : ∀ p : π, QuotesNoLine (Describe.message p)) (d : δ) (rs : List (Report π)) :
    (Parsed.ofReports d rs).Renumbered f renumber
      (.ofReports (renumber d) (rs.map (Report.renumber f))) where
  diagram := rfl
  diagnostics := by
    refine List.forall₂_map_left_iff.2 (List.forall₂_map_right_iff.2 ?_)
    refine List.forall₂_map_right_iff.2 (List.forall₂_same.2 fun r _ => ?_)
    exact r.renumbered_toDiagnostic (hπ r.problem)

/-- Two computations that give related values, or the same failure. -/
inductive SameOutcome {ε α β : Type} (R : α → β → Prop) : Except ε α → Except ε β → Prop
  | ok {a : α} {b : β} (h : R a b) : SameOutcome R (.ok a) (.ok b)
  | error (e : ε) : SameOutcome R (.error e) (.error e)

theorem SameOutcome.map {ε α α' β β' : Type} {R : α → α' → Prop} {S : β → β' → Prop}
    {x : Except ε α} {x' : Except ε α'} {g : α → β} {g' : α' → β'} (h : SameOutcome R x x')
    (hg : ∀ a a', R a a' → S (g a) (g' a')) : SameOutcome S (x.map g) (x'.map g') := by
  cases h with
  | ok h => exact .ok (hg _ _ h)
  | error e => exact .error e

/-! ## Maps -/

namespace OrderedMap

variable {κ α β : Type}

/-- The map with other values. -/
def mapValues (g : α → β) (m : OrderedMap κ α) : OrderedMap κ β :=
  ⟨m.entries.map fun e => (e.1, g e.2)⟩

variable {g : α → β} (m : OrderedMap κ α)

@[simp]
theorem keys_mapValues : (m.mapValues g).keys = m.keys := by
  unfold keys mapValues
  rw [List.map_map]
  rfl

@[simp]
theorem size_mapValues : (m.mapValues g).size = m.size := List.length_map _

variable [BEq κ]

@[simp]
theorem get?_mapValues (k : κ) : (m.mapValues g).get? k = (m.get? k).map g := by
  unfold get? mapValues
  rw [List.find?_map, Option.map_map, Option.map_map]
  rfl

@[simp]
theorem contains_mapValues (k : κ) : (m.mapValues g).contains k = m.contains k := by
  unfold contains mapValues
  rw [List.any_map]
  rfl

theorem insert_mapValues (k : κ) (v : α) :
    (m.mapValues g).insert k (g v) = (m.insert k v).mapValues g := by
  obtain ⟨es⟩ := m
  unfold insert mapValues
  congr 1
  induction es with
  | nil => rfl
  | cons e es ih =>
    rw [List.map_cons, insertEntry, insertEntry]
    by_cases hk : e.1 == k
    · rw [if_pos hk, if_pos hk]
      rfl
    · rw [if_neg hk, if_neg hk, ih]
      rfl

theorem modify_mapValues (k : κ) {u : α → α} {u' : β → β} (h : ∀ v, u' (g v) = g (u v)) :
    (m.mapValues g).modify k u' = (m.modify k u).mapValues g := by
  obtain ⟨es⟩ := m
  unfold modify mapValues
  congr 1
  induction es with
  | nil => rfl
  | cons e es ih =>
    rw [List.map_cons, modifyEntry, modifyEntry]
    by_cases hk : e.1 == k
    · rw [if_pos hk, if_pos hk, h]
      rfl
    · rw [if_neg hk, if_neg hk, ih]
      rfl

end OrderedMap

theorem Registry.ensure_mapValues {α β : Type} {g : α → β} (r : Registry α) (id : String)
    (make : Nat → α) {make' : Nat → β} (h : ∀ n, make' n = g (make n)) :
    Registry.ensure (r.mapValues g) id make' = (Registry.ensure r id make).mapValues g := by
  unfold Registry.ensure Registry.ensureUnless
  rw [OrderedMap.get?_mapValues, OrderedMap.size_mapValues]
  cases r.get? id with
  | some v => rfl
  | none =>
    dsimp only [Option.map_none]
    rw [h, OrderedMap.insert_mapValues]

/-! ## Trees -/

namespace Tree

variable {α β : Type}

mutual

/-- The tree with other values. -/
def relabel (g : α → β) : Tree α → Tree β
  | node v cs => node (g v) (relabelAll g cs)

/-- The forest with other values. -/
def relabelAll (g : α → β) : List (Tree α) → List (Tree β)
  | [] => []
  | t :: ts => relabel g t :: relabelAll g ts

end

variable {g : α → β}

theorem relabelAll_append (ss ts : List (Tree α)) :
    relabelAll g (ss ++ ts) = relabelAll g ss ++ relabelAll g ts := by
  induction ss with
  | nil => rfl
  | cons s ss ih => rw [List.cons_append, relabelAll, ih, relabelAll, List.cons_append]

mutual

theorem forestValues_relabel (t : Tree α) :
    forestValues [t.relabel g] = (forestValues [t]).map g := by
  obtain ⟨v, cs⟩ := t
  have hcs := forestValues_relabelAll cs
  unfold forestValues at hcs ⊢
  simpa [forest, subtrees, relabel, value] using hcs

theorem forestValues_relabelAll (ts : List (Tree α)) :
    forestValues (relabelAll g ts) = (forestValues ts).map g := by
  cases ts with
  | nil => rfl
  | cons t ts =>
    have ht := forestValues_relabel t
    have hts := forestValues_relabelAll ts
    have happend (s : Tree β) (ss : List (Tree β)) :
        forestValues (s :: ss) = forestValues [s] ++ forestValues ss :=
      forestValues_append [s] ss
    have happend' : forestValues (t :: ts) = forestValues [t] ++ forestValues ts :=
      forestValues_append [t] ts
    rw [relabelAll, happend, happend', List.map_append, ht, hts]

end

end Tree

namespace Frame

variable {α β : Type}

/-- The frame with other values. -/
def relabel (g : α → β) (f : Frame α) : Frame β := ⟨g f.value, Tree.relabelAll g f.children⟩

variable {g : α → β}

theorem relabel_adopt (f : Frame α) (t : Tree α) :
    (f.adopt t).relabel g = (f.relabel g).adopt (t.relabel g) := by
  unfold relabel adopt
  rw [Tree.relabelAll_append]
  rfl

theorem relabel_map {u : α → α} {u' : β → β} (h : ∀ v, g (u v) = u' (g v)) (f : Frame α) :
    (f.map u).relabel g = (f.relabel g).map u' := by
  unfold relabel map
  rw [h]

theorem relabel_closeAll (f : Frame α) (fs : List (Frame α)) :
    (f.closeAll fs).relabel g = (f.relabel g).closeAll (fs.map (relabel g)) := by
  induction fs generalizing f with
  | nil => rfl
  | cons h fs ih =>
    rw [closeAll, ih, relabel_adopt, List.map_cons]
    rfl

end Frame

end DiagramText
