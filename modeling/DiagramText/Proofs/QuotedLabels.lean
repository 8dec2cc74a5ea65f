import DiagramText.Proofs.DeclarationOrder
import DiagramText.Proofs.Options
import DiagramText.Proofs.ScopeGraph.FirstDeclaration
import DiagramText.Proofs.Splitting

/-!
# Semicolons in quoted labels

A label in double quotes may hold any text, but a source is split at its semicolons before any label
is known.  So no node gets a label with a semicolon when statements are split, and a flowchart that
has one in a quoted label is read in another way than without splitting.

1. The lines of a source that is split hold no semicolons.
2. `isInfix_of_mem_lineNamings`: the label of a node stands in its line.
3. `exists_label_of_parse` and `label_of_declaresOnce`: where the labels of nodes come from.
4. `splitting_cuts_quoted_labels`.
-/

namespace DiagramText

open Source (Line)
open ScopeGraph (Shape Naming Declaration declarations)

/-! ## Split sources -/

theorem Source.notMem_of_mem_scan_true {source : String} {l : Line} (h : l ∈ scan source true) :
    ';' ∉ l.text.toList := by
  have hcontent : l.content ∈ (scan source false).flatMap Line.pieces := by
    rw [← map_content_scan_true]
    exact List.mem_map_of_mem h
  obtain ⟨whole, -, hpiece⟩ := List.mem_flatMap.1 hcontent
  obtain ⟨t, ht, heq⟩ := List.mem_map.1 hpiece
  obtain ⟨piece, hsplit, rfl⟩ := List.mem_map.1 (List.mem_filter.1 ht).1
  have htext : l.text = String.ofList (Text.trim piece) := (congrArg (·.2.1) heq).symm
  rw [htext, String.toList_ofList]
  intro hmem
  have hsep := Text.forall_mem_splitWhere _ _ piece hsplit ';'
    ((Text.trim_isInfix piece).subset hmem)
  cases hsep

namespace Flowchart

/-! ## Labels in their lines -/

theorem label_isInfix_of_form? {s u : List Char} {f : String × Shape} (h : form? s = some (f, u)) :
    f.1.toList <:+: s := by
  obtain ⟨⟨opener, closer, shape⟩, -, h⟩ := List.exists_of_findSome?_eq_some h
  simp only [Option.bind_eq_bind, Option.bind_eq_some_iff, Option.pure_def, Option.some.injEq,
    Prod.mk.injEq] at h
  obtain ⟨rest, hrest, ⟨label, v⟩, hv, rfl, -⟩ := h
  show (String.ofList label).toList <:+: s
  rw [String.toList_ofList]
  refine List.IsInfix.trans ?_ (literal?_suffix hrest).isInfix
  simp only [Option.orElse_eq_orElse, Option.orElse_eq_or, Option.or_eq_some_iff] at hv
  rcases hv with hv | ⟨-, hv⟩
  · simp only [quotedLabel?, Option.bind_eq_bind, Option.bind_eq_some_iff, Option.pure_def,
      Option.some.injEq, Prod.mk.injEq] at hv
    obtain ⟨r, hr, _, -, _, -, rfl, -⟩ := hv
    exact (List.takeWhile_prefix _).isInfix.trans (literal?_suffix hr).isInfix
  · obtain ⟨t, w, rfl, hk⟩ := Text.exists_cut_of_shortest₁ hv
    simp only [Option.bind_eq_bind, Option.bind_eq_some_iff, Option.pure_def, Option.some.injEq,
      Prod.mk.injEq] at hk
    obtain ⟨_, -, rfl, -⟩ := hk
    exact (Text.trim_isInfix t).trans (List.prefix_append t w).isInfix

theorem label_isInfix_of_node? {s u : List Char} {m : Mention} (h : node? s = some (m, u))
    {f : String × Shape} (hf : m.form = some f) : f.1.toList <:+: s := by
  simp only [node?, Option.bind_eq_bind, Option.bind_eq_some_iff, Option.pure_def,
    Option.some.injEq, Prod.mk.injEq] at h
  obtain ⟨⟨id, rest⟩, hid, rfl, -⟩ := h
  refine List.IsInfix.trans ?_ (ident?_suffix hid).1.isInfix
  cases hform : form? rest with
  | none =>
    simp only [hform] at hf
    cases hf
  | some x =>
    simp only [hform] at hf
    cases hf
    exact label_isInfix_of_form? hform

/-- The label of a node stands in the line that declares it. -/
theorem isInfix_of_mem_lineNamings {l : Line} {x : Naming} (hx : x ∈ lineNamings l)
    {f : String × Shape} (hf : x.form = some f) : f.1.toList <:+: l.text.toList := by
  unfold lineNamings at hx
  split at hx
  · rename_i steps hsteps
    obtain ⟨s, hs, hx⟩ := List.mem_flatMap.1 hx
    rw [eq_chain_of_recognise hsteps] at hs
    cases s with
    | mention m =>
      rw [List.mem_singleton.1 hx] at hf
      obtain ⟨t, u, ht, hnode⟩ := readIn_of_mem_chain hs
      exact (label_isInfix_of_node? hnode hf).trans ht
    | join _ _ _ | unknownArrow _ _ | missingTarget | unrecognisedText _ _ | unrecognisedLine =>
      cases hx
  · cases hx

/-! ## Labels of nodes -/

theorem mem_declarations {xs : List Naming} {d : Declaration} :
    d ∈ declarations xs ↔ ∃ x ∈ xs, ∃ f, x.form = some f ∧ d = ⟨f.1, f.2, x.line⟩ := by
  unfold declarations
  rw [List.mem_filterMap]
  refine exists_congr fun x => and_congr_right fun _ => ?_
  rw [Option.map_eq_some_iff]
  exact exists_congr fun f => and_congr_right fun _ => eq_comm

section

variable {ls : List Line} {direction : String} {p : Parsed ScopeGraph.Graph} {id : String}
  {n : ScopeGraph.Node}

/-- A node without a declaration has no label, and any other has the label of its first one. -/
theorem label_of_parse (h : parse ls direction = .ok p) (hn : p.diagram.nodes.get? id = some n) :
    declarations ((namings ls).filter (·.id == id)) = [] ∧ n.label = "" ∨
      ∃ d later, declarations ((namings ls).filter (·.id == id)) = d :: later ∧
        n.label = d.label := by
  have hform := (namesFirst_of_parse h id n hn).2.form
  cases hds : declarations ((namings ls).filter (·.id == id)) with
  | nil =>
    rw [hds] at hform
    exact .inl ⟨rfl, hform.1⟩
  | cons d later =>
    rw [hds] at hform
    exact .inr ⟨d, later, rfl, hform.1⟩

/-- Lines without semicolons make nodes whose labels have none. -/
theorem notMem_label_of_parse (h : parse ls direction = .ok p)
    (hls : ∀ l ∈ ls, ';' ∉ l.text.toList) (hn : p.diagram.nodes.get? id = some n) :
    ';' ∉ n.label.toList := by
  rcases label_of_parse h hn with ⟨-, hlabel⟩ | ⟨d, later, hds, hlabel⟩
  · rw [hlabel]
    exact List.not_mem_nil
  · obtain ⟨x, hx, f, hf, rfl⟩ := mem_declarations.1 (hds ▸ List.mem_cons_self : d ∈ _)
    obtain ⟨l, hl, hline⟩ := List.mem_flatMap.1 (List.mem_filter.1 hx).1
    rw [hlabel]
    intro hmem
    exact hls l (List.mem_of_mem_tail hl) ((isInfix_of_mem_lineNamings hline hf).subset hmem)

theorem map_id_namings (ls : List Line) : (namings ls).map (·.id) = mentions ls := by
  have hstep (line : Int) (s : Step) : (s.namings line).map (·.id) = s.mentions := by
    cases s <;> rfl
  have hline (l : Line) : (lineNamings l).map (·.id) = lineMentions l := by
    unfold lineNamings lineMentions
    cases Statement.recognise l.text with
    | error fault => rfl
    | ok s =>
      cases s with
      | chain steps =>
        dsimp only
        rw [List.map_flatMap]
        exact List.flatMap_congr fun s _ => hstep l.number s
      | _ => rfl
  unfold namings mentions
  rw [List.map_flatMap]
  exact List.flatMap_congr fun l _ => hline l

theorem exists_node_of_mem_namings (h : parse ls direction = .ok p) {x : Naming}
    (hx : x ∈ namings ls) : ∃ n, p.diagram.nodes.get? x.id = some n := by
  have hmention : x.id ∈ mentions ls := by
    rw [← map_id_namings]
    exact List.mem_map_of_mem hx
  apply OrderedMap.mem_keys_iff.1
  rw [(dense_of_parse h).2]
  exact mem_addAllNew.2 (.inr hmention)

/-- No node is declared at two places. -/
def DeclaresOnce (ls : List Line) : Prop :=
  (((namings ls).filter (·.form.isSome)).map (·.id)).Nodup

instance (ls : List Line) : Decidable (DeclaresOnce ls) :=
  inferInstanceAs (Decidable (List.Nodup _))

/-- A node that is declared at one place has the label that it gets there. -/
theorem label_of_declaresOnce (h : parse ls direction = .ok p) (honce : DeclaresOnce ls)
    {x : Naming} (hx : x ∈ namings ls) {f : String × Shape} (hf : x.form = some f)
    (hn : p.diagram.nodes.get? x.id = some n) : n.label = f.1 := by
  have hself : x ∈ (namings ls).filter (·.id == x.id) :=
    List.mem_filter.2 ⟨hx, beq_self_eq_true x.id⟩
  rcases label_of_parse h hn with ⟨hnone, -⟩ | ⟨d, later, hds, hlabel⟩
  · have hmem := mem_declarations.2 ⟨x, hself, f, hf, rfl⟩
    rw [hnone] at hmem
    cases hmem
  · obtain ⟨y, hy, f', hf', rfl⟩ := mem_declarations.1 (hds ▸ List.mem_cons_self : d ∈ _)
    obtain ⟨hy, hid⟩ := List.mem_filter.1 hy
    have hsome {z : Naming} {f : String × Shape} (hz : z ∈ namings ls) (hf : z.form = some f) :
        z ∈ (namings ls).filter (·.form.isSome) := List.mem_filter.2 ⟨hz, by rw [hf]; rfl⟩
    obtain rfl := List.inj_on_of_nodup_map honce (hsome hy hf') (hsome hx hf) (beq_iff_eq.1 hid)
    rw [hf] at hf'
    rw [hlabel, Option.some.inj hf']

end

/-! ## Semicolons between quotes -/

/-- The semicolon between two parts of a line lies in the quoted label of a node that the line
declares: in front of it stand the id, the opening bracket and a quote, and behind it another quote
and the closing bracket. -/
def InQuotedLabel (l : Line) (before after : List Char) : Prop :=
  ∃ x ∈ lineNamings l, ∃ opener closer shape front back start rest,
    (opener, closer, shape) ∈ brackets ∧ '"' ∉ front ∧ '"' ∉ back ∧
      x.form = some (String.ofList (front ++ ';' :: back), shape) ∧
      before = start ++ x.id.toList ++ opener.toList ++ '"' :: front ∧
      after = back ++ '"' :: (closer.toList ++ rest)

/-- The header has no semicolon, and every one in another line lies in a quoted label. -/
def SemicolonsQuoted (ls : List Line) : Prop :=
  (∀ l ∈ ls.head?, ';' ∉ l.text.toList) ∧
    ∀ l ∈ ls.tail, ∀ before after, l.text.toList = before ++ ';' :: after →
      InQuotedLabel l before after

/-- A semicolon in a quoted label is in the label of a node. -/
theorem exists_label_of_semicolonsQuoted {ls : List Line} {direction : String}
    {p : Parsed ScopeGraph.Graph} (h : parse ls direction = .ok p) (hquoted : SemicolonsQuoted ls)
    (honce : DeclaresOnce ls) {l : Line} (hl : l ∈ ls) (hmem : ';' ∈ l.text.toList) :
    ∃ id n, p.diagram.nodes.get? id = some n ∧ ';' ∈ n.label.toList := by
  obtain ⟨hheader, hbody⟩ := hquoted
  cases ls with
  | nil => cases hl
  | cons header ls =>
    rcases List.mem_cons.1 hl with rfl | hl
    · exact absurd hmem (hheader l rfl)
    · obtain ⟨before, after, htext⟩ := List.append_of_mem hmem
      obtain ⟨x, hx, -, -, shape, front, back, -, -, -, -, -, hform, -⟩ := hbody l hl _ _ htext
      have hnaming : x ∈ namings (header :: ls) := List.mem_flatMap.2 ⟨l, hl, hx⟩
      obtain ⟨n, hn⟩ := exists_node_of_mem_namings h hnaming
      refine ⟨x.id, n, hn, ?_⟩
      rw [label_of_declaresOnce h honce hnaming hform hn, String.toList_ofList]
      exact List.mem_append_right _ List.mem_cons_self

end Flowchart

/-! ## The law -/

variable {υ : Type}

/-- The same wishes, without splitting. -/
def Options.whole (o : Options) : Options := { o with splitStatements := some false }

theorem exists_flowchart_of_dispatch {registry : PluginRegistry υ} {o : Options} {source : String}
    {load : Yaml.Loader} {r : Result υ} (hkind : DiagramKind.detect? source = some .flowchart)
    (h : (dispatch registry o source load).result = .ok r) :
    ∃ p, Flowchart.parse (Source.scan source (o.splits .flowchart)) o.direction = .ok p ∧
      r.ast = some (.builtin (.graph p.diagram)) := by
  obtain ⟨front, warnings, hfront⟩ := frontMatterOf_of_dispatch h
  rw [dispatch_of_detect hfront hkind] at h
  obtain ⟨q, hq, h⟩ := bind_eq_ok_iff.1 h
  obtain ⟨p, hp, rfl⟩ := map_eq_ok_iff.1 hq
  cases h
  exact ⟨p, hp, rfl⟩

/-- **Semicolons in labels.** When the statements of a flowchart are split, no node gets a label
that holds a semicolon.  Splitting makes no difference to a flowchart without semicolons.  If its
semicolons all lie in quoted labels, and no node is declared twice, then splitting gives the same
diagram just if there are none. -/
theorem splitting_cuts_quoted_labels {registry : PluginRegistry υ} {o : Options} {source : String}
    {load : Yaml.Loader} {r : Result υ} (hkind : DiagramKind.detect? source = some .flowchart)
    (hsplit : o.splitStatements ≠ some false)
    (h : (dispatch registry o.whole source load).result = .ok r) :
    (∀ r', (dispatch registry o source load).result = .ok r' →
      ∃ g : ScopeGraph.Graph, r'.ast = some (.builtin (.graph g)) ∧
        ∀ id n, g.nodes.get? id = some n → ';' ∉ n.label.toList) ∧
      ((∀ l ∈ Source.scan source false, ';' ∉ l.text.toList) →
        (dispatch registry o source load).result = .ok r) ∧
      (Flowchart.SemicolonsQuoted (Source.scan source false) →
        Flowchart.DeclaresOnce (Source.scan source false) →
        ((dispatch registry o source load).result.map (·.ast) = .ok r.ast ↔
          ∀ l ∈ Source.scan source false, ';' ∉ l.text.toList)) := by
  have hsplits : o.splits .flowchart = true := by
    unfold Options.splits
    rw [bne_iff_ne.2 hsplit]
    rfl
  have hplain (hnone : ∀ l ∈ Source.scan source false, ';' ∉ l.text.toList) :
      (dispatch registry o source load).result = .ok r := by
    obtain ⟨front, warnings, hfront⟩ := frontMatterOf_of_dispatch h
    have hfindings : findings registry o source = findings registry o.whole source :=
      findings_splitStatements rfl fun _ _ _ => hnone
    rw [dispatch_eq_findings hfront] at h
    rw [dispatch_eq_findings (o := o) hfront, hfindings, h]
  have hlabels : ∀ r', (dispatch registry o source load).result = .ok r' →
      ∃ g : ScopeGraph.Graph, r'.ast = some (.builtin (.graph g)) ∧
        ∀ id n, g.nodes.get? id = some n → ';' ∉ n.label.toList := by
    intro r' h'
    obtain ⟨p, hp, hast⟩ := exists_flowchart_of_dispatch hkind h'
    rw [hsplits] at hp
    exact ⟨p.diagram, hast, fun id n hn => Flowchart.notMem_label_of_parse hp
      (fun l hl => Source.notMem_of_mem_scan_true hl) hn⟩
  refine ⟨hlabels, hplain, fun hquoted honce => ⟨fun hsame => ?_, fun hnone => ?_⟩⟩
  · obtain ⟨r', h', hast'⟩ := map_eq_ok_iff.1 hsame
    obtain ⟨g, hg, hclean⟩ := hlabels r' h'
    obtain ⟨p, hp, hast⟩ := exists_flowchart_of_dispatch hkind h
    obtain rfl : p.diagram = g := by
      rw [← hast', hg] at hast
      cases hast
      rfl
    intro l hl hmem
    obtain ⟨id, n, hn, hlabel⟩ :=
      Flowchart.exists_label_of_semicolonsQuoted hp hquoted honce hl hmem
    exact hclean id n hn hlabel
  · rw [hplain hnone]
    rfl

/-- An edge from a node whose label lists two words. -/
def listedPair : String := "graph TD\nA[\"x;y\"] --> B"

theorem scan_listedPair : Source.scan listedPair false =
    [⟨1, "graph TD", 0, 1⟩, ⟨2, "A[\"x;y\"] --> B", 0, 1⟩] := by
  decide +kernel

theorem semicolonsQuoted_listedPair :
    Flowchart.SemicolonsQuoted (Source.scan listedPair false) := by
  rw [scan_listedPair]
  refine ⟨by decide +kernel, List.forall_mem_singleton.2 fun before after htext => ?_⟩
  have hcut : "A[\"x;y\"] --> B".toList = "A[\"x".toList ++ ';' :: "y\"] --> B".toList := by
    decide +kernel
  obtain ⟨rfl, -, rfl⟩ := (List.append_cons_inj_of_notMem (by decide +kernel)
    (by decide +kernel)).1 (hcut.symm.trans htext)
  have hnaming : Flowchart.lineNamings ⟨2, "A[\"x;y\"] --> B", 0, 1⟩ =
      [⟨"A", some ("x;y", .rectangle), 2⟩, ⟨"B", none, 2⟩] := by
    decide +kernel
  rw [Flowchart.InQuotedLabel, hnaming]
  exact ⟨_, List.mem_cons_self, "[", "]", .rectangle, ['x'], ['y'], [], " --> B".toList,
    by decide +kernel⟩

theorem splitting_cuts_quoted_labels_listedPair :
    ∃ r : Result Unit, (dispatch {} (Options.whole {}) listedPair).result = .ok r ∧
      (dispatch {} {} listedPair).result.map (·.ast) ≠ .ok r.ast := by
  have hrun : ((dispatch ({} : PluginRegistry Unit) (Options.whole {})
      listedPair).result.toOption.map fun _ => ()) = some () := by
    decide +kernel
  obtain ⟨r, hr, -⟩ := exists_ok_of_toOption hrun
  obtain ⟨-, -, hsame⟩ := splitting_cuts_quoted_labels (o := {}) (by decide +kernel) (by decide) hr
  refine ⟨r, hr, fun heq => ?_⟩
  have honce : Flowchart.DeclaresOnce (Source.scan listedPair false) := by decide +kernel
  have hnone := (hsame semicolonsQuoted_listedPair honce).1 heq
  rw [scan_listedPair] at hnone
  exact hnone _ (List.mem_cons_of_mem _ List.mem_cons_self) (by decide +kernel)

/-- Splitting does not respect quoted labels. -/
theorem listedPair_is_cut :
    ¬ ∀ (o : Options) (source : String) (r r' : Result Unit),
      DiagramKind.detect? source = some .flowchart →
      Flowchart.SemicolonsQuoted (Source.scan source false) →
      o.splitStatements ≠ some false →
      (dispatch {} o source).result = .ok r' → (dispatch {} o.whole source).result = .ok r →
      r'.ast = r.ast := by
  intro hsame
  have hwhole : ((dispatch ({} : PluginRegistry Unit) (Options.whole {})
      listedPair).result.toOption.map fun r => (r.ast.bind Ast.builtin?).map Diagram.roster) =
      some (some [("A", 0), ("B", 1)]) := by
    decide +kernel
  have hsplit : ((dispatch ({} : PluginRegistry Unit) {} listedPair).result.toOption.map
      fun r => (r.ast.bind Ast.builtin?).map Diagram.roster) =
      some (some [("A", 0), ("y", 1)]) := by
    decide +kernel
  obtain ⟨r, hr, hroster⟩ := exists_ok_of_toOption hwhole
  obtain ⟨r', hr', hroster'⟩ := exists_ok_of_toOption hsplit
  have hast := hsame {} listedPair r r' (by decide +kernel) semicolonsQuoted_listedPair (by decide)
    hr' hr
  rw [hast, hroster] at hroster'
  exact absurd hroster' (by decide)

end DiagramText
