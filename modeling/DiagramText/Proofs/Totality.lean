import DiagramText.Proofs.Dispatch
import DiagramText.Proofs.ScopeGraph.LinkIndex
import DiagramText.Proofs.ScopeGraph.Ownership
import DiagramText.Proofs.Sequence.NotePosition
import DiagramText.Proofs.Source.Scan

/-!
# Totality

Every source has an answer, except for a sequence diagram with a dotted note.

1. `Lookups`: whatever a reader looks up is there.  What it matches is a key of the table, sources
   of a known kind have a header, an owner lists its nodes, and the texts of members are not empty.
2. `Diagram.exists_parse`: every dialect but one reads whatever it gets.
3. `dispatch_total`.
-/

namespace DiagramText

/-! ## Look-ups -/

/-- The table of some values by their spellings. -/
def spellingTable {κ : Type} (all : List κ) (spelling : κ → String) : List (String × κ) :=
  all.map fun k => (spelling k, k)

/-- A reader that finds `k` in front of `s` has matched a key of the table: `k` is what stands there
for the key, and the reader goes on with what stands behind the key. -/
def MatchesKey {κ : Type} (table : List (String × κ)) (s : List Char) (k : κ)
    (goesOn : List Char → Prop) : Prop :=
  ∃ key rest, s = key.toList ++ rest ∧ table.lookup key = some k ∧ goesOn rest

/-- No look-up of a reader fails. -/
structure Lookups : Prop where
  /-- What stands between a sender and a receiver is a key of the table of arrows. -/
  arrow : ∀ sender s m, Sequence.arrowEnd? sender s = some m →
    MatchesKey (spellingTable Sequence.Arrow.all Sequence.Arrow.token) s m.arrow fun rest =>
      Sequence.receiver? (Sequence.activation (Text.trimStart rest)).2 = some (m.receiver, m.text)
  /-- What stands in front of the label of a branch is a key of the table of dividers. -/
  divider : ∀ s d label,
    Sequence.headed? Sequence.Divider.all Sequence.Divider.name s = some (d, label) →
    MatchesKey (spellingTable Sequence.Divider.all Sequence.Divider.name) s d fun rest =>
      ∃ text, Text.textEnd? rest = some text ∧ label = String.ofList (Text.trim text)
  /-- What stands between the ends of a relationship is a key of the table of connectors. -/
  connector : ∀ spaced source multiplicity s r,
    Classes.connection? spaced source multiplicity s = some r →
    ∃ t, Classes.around? spaced s = some t ∧
      MatchesKey (spellingTable Classes.Connector.all Classes.Connector.token) t r.connector
        fun rest => (Classes.around? spaced rest).bind Classes.targetEnd? =
          some (r.targetMultiplicity, r.target, r.label)
  /-- What stands in front of a gap is a key of the table of cardinalities in words. -/
  cardinality : ∀ s c rest, Er.phrase? s = some (c, rest) →
    MatchesKey Er.phrases s c fun t => Text.gap? t = some rest
  /-- A source of a known kind has a header line. -/
  header : ∀ (o : Options) source kind, DiagramKind.detect? source = some kind →
    ∃ l, (Source.scan source (o.splits kind)).head? = some l
  /-- A node can be taken away from its owner. -/
  owned : ∀ st, Flowchart.Reachable st ∨ StateChart.Reachable st →
    ∀ f ∈ st.scopes, ∀ n, st.owners.get? n = some f.value.serial → n ∈ f.value.nodeIds
  /-- A member has a first character, and a last one behind its visibility. -/
  member : ∀ s m, Classes.Member.parse? s = some m →
    ∃ c r, Text.trim (Classes.dropTrailing ';' (Text.trim s)) = c :: r ∧
      (Classes.leadingVisibility (c :: r)).2 ≠ []

/-- The arrows that a reader tries are spelled by keys of the table. -/
theorem Sequence.Arrow.lookup_token :
    ∀ a ∈ longestFirst, (spellingTable all token).lookup a.token = some a := by decide +kernel

theorem Sequence.matchesKey_of_arrowEnd? {sender s : List Char} {m : MessageText}
    (h : arrowEnd? sender s = some m) :
    MatchesKey (spellingTable Arrow.all Arrow.token) s m.arrow fun rest =>
      receiver? (activation (Text.trimStart rest)).2 = some (m.receiver, m.text) := by
  obtain ⟨a, ha, h⟩ := List.exists_of_findSome?_eq_some h
  obtain ⟨rest, hrest, h⟩ := Option.bind_eq_some_iff.1 h
  obtain ⟨⟨receiver, text⟩, hreceiver, h⟩ := Option.bind_eq_some_iff.1 h
  cases h
  exact ⟨a.token, rest, Text.literal?_eq_some_iff.1 hrest, Arrow.lookup_token a ha, hreceiver⟩

theorem Sequence.Divider.lookup_name :
    ∀ d ∈ all, (spellingTable all name).lookup d.name = some d := by decide +kernel

theorem Sequence.matchesKey_of_headed? {s : List Char} {d : Divider} {label : String}
    (h : headed? Divider.all Divider.name s = some (d, label)) :
    MatchesKey (spellingTable Divider.all Divider.name) s d fun rest =>
      ∃ text, Text.textEnd? rest = some text ∧ label = String.ofList (Text.trim text) := by
  obtain ⟨_, hd, h⟩ := List.exists_of_findSome?_eq_some h
  obtain ⟨rest, hrest, h⟩ := Option.bind_eq_some_iff.1 h
  obtain ⟨text, htext, h⟩ := Option.bind_eq_some_iff.1 h
  cases h
  exact ⟨d.name, rest, Text.literal?_eq_some_iff.1 hrest, Divider.lookup_name d hd, text, htext, rfl⟩

theorem Classes.Connector.lookup_token :
    ∀ c ∈ longestFirst, (spellingTable all token).lookup c.token = some c := by decide +kernel

theorem Classes.matchesKey_of_connection? {spaced : Bool} {source s : List Char}
    {multiplicity : Option (List Char)} {r : RelationText}
    (h : connection? spaced source multiplicity s = some r) :
    ∃ t, around? spaced s = some t ∧
      MatchesKey (spellingTable Connector.all Connector.token) t r.connector fun rest =>
        (around? spaced rest).bind targetEnd? = some (r.targetMultiplicity, r.target, r.label) := by
  obtain ⟨t, ht, h⟩ := Option.bind_eq_some_iff.1 h
  obtain ⟨c, hc, h⟩ := List.exists_of_findSome?_eq_some h
  obtain ⟨rest, hrest, h⟩ := Option.bind_eq_some_iff.1 h
  obtain ⟨u, hu, h⟩ := Option.bind_eq_some_iff.1 h
  obtain ⟨v, hv, h⟩ := Option.bind_eq_some_iff.1 h
  cases h
  exact ⟨t, ht, c.token, rest, Text.literal?_eq_some_iff.1 hrest, Connector.lookup_token c hc,
    Option.bind_eq_some_iff.2 ⟨u, hu, hv⟩⟩

theorem Er.lookup_phrases : ∀ e ∈ phrases, phrases.lookup e.1 = some e.2 := by decide +kernel

theorem Er.matchesKey_of_phrase? {s rest : List Char} {c : Cardinality}
    (h : phrase? s = some (c, rest)) : MatchesKey phrases s c fun t => Text.gap? t = some rest := by
  obtain ⟨e, he, h⟩ := List.exists_of_findSome?_eq_some h
  obtain ⟨t, ht, h⟩ := Option.bind_eq_some_iff.1 h
  obtain ⟨u, hu, h⟩ := Option.bind_eq_some_iff.1 h
  cases h
  exact ⟨e.1, t, Text.literal?_eq_some_iff.1 ht, lookup_phrases e he, hu⟩

theorem ScopeGraph.SingleOwner.mem_of_open {st : State} (h : SingleOwner st) {f : Frame Scope}
    (hf : f ∈ st.scopes) {n : String} (hn : st.owners.get? n = some f.value.serial) :
    n ∈ f.value.nodeIds := by
  refine (h.mem_iff ?_ n).2 hn
  exact st.allScopes_perm.mem_iff.2 (List.mem_append_right _ (List.mem_map_of_mem hf))

theorem Classes.Member.exists_cons_of_parse? {s : List Char} {m : Member}
    (h : Member.parse? s = some m) :
    ∃ c r, Text.trim (dropTrailing ';' (Text.trim s)) = c :: r ∧
      (leadingVisibility (c :: r)).2 ≠ [] := by
  unfold Member.parse? at h
  cases hs : Text.trim (dropTrailing ';' (Text.trim s)) with
  | nil =>
    rw [hs] at h
    cases h
  | cons c r =>
    rw [hs] at h
    refine ⟨c, r, rfl, ?_⟩
    intro hnil
    dsimp only at h
    rw [hnil] at h
    cases h

theorem lookups : Lookups where
  arrow := fun _ _ _ => Sequence.matchesKey_of_arrowEnd?
  divider := fun _ _ _ => Sequence.matchesKey_of_headed?
  connector := fun _ _ _ _ _ => Classes.matchesKey_of_connection?
  cardinality := fun _ _ _ => Er.matchesKey_of_phrase?
  header := by
    intro o source kind h
    cases hs : Source.scan source (o.splits kind) with
    | nil => exact absurd hs (Source.scan_ne_nil h _)
    | cons l ls => exact ⟨l, rfl⟩
  owned := fun _ h _ hf _ => (ScopeGraph.SingleOwner.of_reachable h).mem_of_open hf
  member := fun _ _ => Classes.Member.exists_cons_of_parse?

/-! ## Diagrams -/

/-- Every dialect but one reads whatever it gets behind a header. -/
theorem Diagram.exists_parse {kind : DiagramKind} (hkind : kind ≠ .sequence) (direction : String)
    {ls : List Source.Line} (hheader : ls ≠ []) (hshort : ∀ l ∈ ls, ScopeGraph.ShortIndices l) :
    ∃ p, Diagram.parse kind direction ls = .ok p := by
  cases kind with
  | flowchart =>
    obtain ⟨p, hp⟩ := Flowchart.exists_parse hshort direction
    exact ⟨_, map_eq_ok_iff.2 ⟨p, hp, rfl⟩⟩
  | state =>
    obtain ⟨p, hp⟩ := StateChart.exists_parse hshort
    exact ⟨_, map_eq_ok_iff.2 ⟨p, hp, rfl⟩⟩
  | sequence => exact absurd rfl hkind
  | classes => exact ⟨_, rfl⟩
  | er => exact ⟨_, rfl⟩
  | pie =>
    cases ls with
    | nil => exact absurd rfl hheader
    | cons l ls => exact ⟨_, rfl⟩
  | gantt => exact ⟨_, rfl⟩
  | mindmap => exact ⟨_, rfl⟩

/-! ## Sources -/

/-- The indices of link styles in a source are short enough to be integers. -/
def ShortSource (o : Options) (source : String) : Prop :=
  ∀ kind ∈ DiagramKind.detect? source, ∀ l ∈ Source.scan source (o.splits kind),
    ScopeGraph.ShortIndices l

instance (o : Options) (source : String) : Decidable (ShortSource o source) :=
  inferInstanceAs (Decidable (∀ kind ∈ DiagramKind.detect? source, ∀ l ∈ Source.scan source _, _))

/-- The source is a sequence diagram, and a line behind its header is a note whose position is
spelled with a dotted capital I or a dotless small i. -/
def DottedSource (source : String) : Prop :=
  DiagramKind.detect? source = some .sequence ∧
    ∃ l ∈ (Source.scan source false).tail, Sequence.DottedNote l

instance (source : String) : Decidable (DottedSource source) :=
  inferInstanceAs (Decidable (_ ∧ ∃ l ∈ (Source.scan source false).tail, _))

variable {υ : Type} {load : Yaml.Loader}

theorem exists_runBuiltin_iff {kind : DiagramKind} {o : Options} {source : String}
    {front : FrontMatter} {warnings : List Diagnostic} :
    (∃ r, (runBuiltin kind o source front warnings : Dispatched υ).result = .ok r) ↔
      ∃ p, Diagram.parse kind o.direction (Source.scan source (o.splits kind)) = .ok p := by
  constructor
  · rintro ⟨r, h⟩
    obtain ⟨p, hp, -⟩ := bind_eq_ok_iff.1 h
    exact ⟨p, hp⟩
  · rintro ⟨p, hp⟩
    exact ⟨_, bind_eq_ok_iff.2 ⟨p, hp, rfl⟩⟩

/-- A sequence diagram is read unless it has a dotted note. -/
theorem exists_parse_sequence_iff {o : Options} {source : String}
    (hkind : DiagramKind.detect? source = some .sequence) :
    (∃ p, Diagram.parse .sequence o.direction (Source.scan source (o.splits .sequence)) = .ok p) ↔
      ¬ DottedSource source := by
  have hsplits : o.splits .sequence = false := Bool.and_false _
  have hdotted : DottedSource source ↔
      ∃ l ∈ (Source.scan source false).tail, Sequence.DottedNote l := by
    unfold DottedSource
    rw [hkind]
    exact and_iff_right rfl
  rw [hsplits, hdotted, ← Sequence.exists_parse_eq_ok_iff]
  constructor
  · rintro ⟨p, h⟩
    obtain ⟨q, hq, -⟩ := map_eq_ok_iff.1 h
    exact ⟨q, hq⟩
  · rintro ⟨q, hq⟩
    exact ⟨_, map_eq_ok_iff.2 ⟨q, hq, rfl⟩⟩

/-- Without front matter and plugins, a source has an answer unless it has a dotted note. -/
theorem exists_dispatch_iff {o : Options} {source : String} (hfront : o.frontMatter = some false)
    (hshort : ShortSource o source) :
    (∃ r, (dispatch ({} : PluginRegistry υ) o source load).result = .ok r) ↔
      ¬ DottedSource source := by
  have hempty : frontMatterOf o source load = .ok ({}, []) := if_pos hfront
  cases hkind : DiagramKind.detect? source with
  | none =>
    refine iff_of_true ?_ ?_
    · rw [dispatch_of_detect_none hempty hkind]
      exact ⟨_, runOther_of_no_plugins rfl _ _ _⟩
    · rintro ⟨h, -⟩
      rw [hkind] at h
      cases h
  | some kind =>
    rw [dispatch_of_detect hempty hkind, exists_runBuiltin_iff]
    by_cases hseq : kind = .sequence
    · subst hseq
      exact exists_parse_sequence_iff hkind
    · refine iff_of_true ?_ ?_
      · exact Diagram.exists_parse hseq _ (Source.scan_ne_nil hkind _) (hshort kind hkind)
      · rintro ⟨h, -⟩
        rw [hkind] at h
        exact hseq (Option.some.inj h)

/-- The fault of a sequence diagram is about the position of a note. -/
theorem notePosition_of_dotted {o : Options} {source : String} {fault : Fault}
    (hfront : o.frontMatter = some false) (hdotted : DottedSource source)
    (h : (dispatch ({} : PluginRegistry υ) o source load).result = .error fault) :
    ∃ key, fault = .notePosition key := by
  have hempty : frontMatterOf o source load = .ok ({}, []) := if_pos hfront
  rw [dispatch_of_detect hempty hdotted.1] at h
  rcases bind_eq_error_iff.1 h with h | ⟨p, -, h⟩
  · cases hp : Sequence.parse (Source.scan source (o.splits .sequence)) with
    | ok p =>
      rw [Diagram.parse, hp] at h
      cases h
    | error fault' =>
      rw [Diagram.parse, hp] at h
      cases h
      exact Sequence.parse_eq_error hp
  · cases h

/-- **Totality.** Without front matter and plugins, every source whose link styles have short
indices has an answer, unless it is a sequence diagram with a dotted note; and then the fault is the
position of a note.  No look-up on the way fails. -/
theorem dispatch_total (υ : Type) (o : Options) (source : String) (load : Yaml.Loader)
    (hfront : o.frontMatter = some false) (hshort : ShortSource o source) :
    ((∃ r, (dispatch ({} : PluginRegistry υ) o source load).result = .ok r) ↔
        ¬ DottedSource source) ∧
      ((∃ key, (dispatch ({} : PluginRegistry υ) o source load).result =
          .error (.notePosition key)) ↔ DottedSource source) ∧
      Lookups := by
  have hok : (∃ r, (dispatch ({} : PluginRegistry υ) o source load).result = .ok r) ↔
      ¬ DottedSource source := exists_dispatch_iff hfront hshort
  refine ⟨hok, ⟨?_, ?_⟩, lookups⟩
  · rintro ⟨key, hkey⟩
    by_contra hdotted
    obtain ⟨r, hr⟩ := hok.2 hdotted
    rw [hkey] at hr
    cases hr
  · intro hdotted
    cases hresult : (dispatch ({} : PluginRegistry υ) o source load).result with
    | ok r => exact absurd hdotted (hok.1 ⟨r, hresult⟩)
    | error fault =>
      obtain ⟨key, rfl⟩ := notePosition_of_dotted hfront hdotted hresult
      exact ⟨key, rfl⟩

/-- A source that is read, though it is cut at a semicolon directly behind the keyword and its link
style is for no edge. -/
def cutHeader : String := "graph;linkStyle 7 stroke:red"

/-- A source in which the position of a note has a dotless small i. -/
def dotlessNote : String := "sequenceDiagram\nNote r\u0131ght of A: x"

theorem dispatch_total_cutHeader :
    ShortSource { frontMatter := some false } cutHeader ∧
      (∃ r, (dispatch ({} : PluginRegistry Unit) { frontMatter := some false } cutHeader).result =
        .ok r) ∧
      ShortSource { frontMatter := some false } dotlessNote ∧
      ∃ key, (dispatch ({} : PluginRegistry Unit) { frontMatter := some false }
        dotlessNote).result = .error (.notePosition key) := by
  have hcut : ShortSource { frontMatter := some false } cutHeader := by decide +kernel
  have hdotless : ShortSource { frontMatter := some false } dotlessNote := by decide +kernel
  refine ⟨hcut, ?_, hdotless, ?_⟩
  · exact (dispatch_total Unit _ cutHeader Yaml.load rfl hcut).1.2 (by decide +kernel)
  · exact (dispatch_total Unit _ dotlessNote Yaml.load rfl hdotless).2.1.2 (by decide +kernel)

end DiagramText
