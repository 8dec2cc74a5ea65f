import DiagramText.Proofs.Layout
import DiagramText.Proofs.Routing
import DiagramText.Proofs.ScopeGraph.Columns

/-!
# Spans point into the source

The line and the column of a diagnostic are a place in the source, and where a warning about a
flowchart quotes what it could not read, the quoted text stands at that place.

1. The line of a diagnostic is the number of a line that was read.  No reader computes line numbers:
   they all commute with renumbering, so a renumbering that keeps the numbers of the lines read
   keeps the lines of the diagnostics.
2. Columns, for all kinds of diagrams.
3. The wording of the two warnings that quote a part of a line.
4. `spans_point_into_the_source`.
-/

namespace DiagramText

open Source (Line)

/-! ## Lines -/

/-- Every diagnostic of a diagram is at one of the lines that were read. -/
theorem Diagram.exists_line_of_parse {kind : DiagramKind} {direction : String} {ls : List Line}
    {p : Parsed Diagram} (hls : ls ≠ []) (h : Diagram.parse kind direction ls = .ok p) :
    ∀ d ∈ p.diagnostics, ∃ l ∈ ls, d.line = l.number := by
  -- This renumbering moves exactly the numbers that no line has.
  let f : Int → Int := fun n => if n ∈ ls.map (·.number) then n else n + 1
  have hfix : ls.map (Line.renumber f) = ls := by
    conv_rhs => rw [← List.map_id ls]
    apply List.map_congr_left
    intro l hl
    have hnumber : f l.number = l.number := if_pos (List.mem_map_of_mem hl)
    unfold Line.renumber
    rw [hnumber]
    rfl
  have hsame := Diagram.parse_renumber (f := f) kind direction hls
  rw [hfix, h] at hsame
  cases hsame with
  | ok hrenumbered =>
    intro d hd
    have hline : d.line = f d.line := (List.forall₂_same.1 hrenumbered.diagnostics d hd).line
    by_contra hnone
    have hmem : d.line ∉ ls.map (·.number) := by
      intro hmem
      obtain ⟨l, hl, hnumber⟩ := List.mem_map.1 hmem
      exact hnone ⟨l, hl, hnumber.symm⟩
    have hmoved : f d.line = d.line + 1 := if_neg hmem
    omega

/-! ## Columns -/

/-- A diagnostic that has a column is about the text of one of some lines, from an offset on. -/
def Diagnostic.Within (ls : List Line) (d : Diagnostic) : Prop :=
  ∀ c, d.column = some c → ∃ l ∈ ls, d.line = l.number ∧
    ∃ k : Nat, c = l.column + k ∧ (k = 0 ∨ k < l.text.toList.length)

theorem within_toDiagnostic {π : Type} [Describe π] {ls : List Line} {rs : List (Report π)}
    (h : ∀ r ∈ rs, r.Within ls) : ∀ d ∈ rs.map Report.toDiagnostic, d.Within ls := by
  intro d hd
  obtain ⟨r, hr, rfl⟩ := List.mem_map.1 hd
  exact h r hr

theorem Diagram.within_of_parse {kind : DiagramKind} {direction : String} {ls : List Line}
    {p : Parsed Diagram} (hls : ∀ l ∈ ls, Text.trimEnd l.text.toList = l.text.toList)
    (h : Diagram.parse kind direction ls = .ok p) : ∀ d ∈ p.diagnostics, d.Within ls := by
  have htail : ∀ l ∈ ls.tail, l ∈ ls := fun l hl => List.mem_of_mem_tail hl
  cases kind with
  | flowchart =>
    obtain ⟨p', hp, rfl⟩ := map_eq_ok_iff.1 h
    obtain ⟨rs, hrs, hpoints⟩ := Flowchart.points_of_parse hls hp
    show ∀ d ∈ p'.diagnostics, _
    rw [hrs]
    exact within_toDiagnostic fun r hr => (hpoints r hr).within
  | state =>
    obtain ⟨p', hp, rfl⟩ := map_eq_ok_iff.1 h
    obtain ⟨rs, hrs, hpoints⟩ := StateChart.points_of_parse hp
    show ∀ d ∈ p'.diagnostics, _
    rw [hrs]
    exact within_toDiagnostic fun r hr => (hpoints r hr).within
  | sequence =>
    obtain ⟨p', hp, rfl⟩ := map_eq_ok_iff.1 h
    obtain ⟨xs, hx, hp⟩ := bind_eq_ok_iff.1 hp
    cases hp
    have hbody (st : Sequence.State) :
        Adds (Report.Within ls) st.reports (xs.foldl Sequence.State.step st).reports :=
      .lines Report.Within Report.Within.mono Sequence.State.reports Prod.fst
        (fun st x _ => Sequence.adds_step st x.1 x.2)
        (fun x hxs => htail _ (mem_of_readLines hx x hxs).1) st
    exact within_toDiagnostic ((hbody {}).trans (Sequence.adds_finish _ ls)).all
  | classes =>
    cases h
    have hbody := Adds.lines Report.Within Report.Within.mono Classes.State.reports id
      (fun st l _ => Classes.adds_step st l) htail {}
    exact within_toDiagnostic (hbody.trans (Classes.adds_finish _ ls)).all
  | er =>
    cases h
    have hbody := Adds.lines Report.Within Report.Within.mono Er.State.reports id
      (fun st l _ => Er.adds_step st l) htail {}
    exact within_toDiagnostic (hbody.trans (.append (Er.within_openEnd _ ls))).all
  | pie =>
    obtain ⟨p', hp, rfl⟩ := map_eq_ok_iff.1 h
    cases ls with
    | nil => cases hp
    | cons header body =>
      cases hp
      have hheader : Adds (Report.Within (header :: body)) [] (Pie.State.ofHeader header).reports := by
        refine (Pie.adds_ofHeader header).mono fun r hr => hr.mono ?_
        exact List.cons_subset_cons header (List.nil_subset body)
      have hbody := Adds.lines Report.Within Report.Within.mono Pie.State.reports id
        (fun st l _ => Pie.adds_step st l) htail (Pie.State.ofHeader header)
      exact within_toDiagnostic (hheader.trans hbody).all
  | gantt =>
    cases h
    have hbody := Adds.lines Report.Within Report.Within.mono Gantt.State.reports id
      (fun st l _ => Gantt.adds_step st l) htail {}
    exact within_toDiagnostic hbody.all
  | mindmap =>
    cases h
    have hbody := Adds.lines Report.Within Report.Within.mono Mindmap.State.reports id
      (fun st l _ => Mindmap.adds_step st l) htail {}
    refine within_toDiagnostic (hbody.trans (.append ?_)).all
    intro r hr
    split at hr
    · cases hr
    · rw [List.mem_singleton.1 hr]
      exact Report.within_of_none rfl ls

/-! ## Wording -/

namespace ScopeGraph

/-- How the warning about a part of a chain starts that cannot be read. -/
def skippedWords : String := "Skipping unrecognized text: "

/-- How the warning about an unknown arrow starts. -/
def arrowWords : String := "Unknown arrow \""

/-- How the warning about an unknown arrow ends. -/
def arrowEnding : String := "\"; treating it as a plain link"

/-- The first words of a message tell whether it quotes a part of a line. -/
theorem isPrefixOf_message (p : Problem) :
    skippedWords.toList.isPrefixOf (Describe.message p).toList =
        (p matches .unrecognisedText _) ∧
      arrowWords.toList.isPrefixOf (Describe.message p).toList = (p matches .unknownArrow _) := by
  cases p with
  | strayClose family => cases family <;> exact ⟨rfl, rfl⟩
  | unclosed family id =>
    cases family <;>
      simp only [Describe.message, toString, String.toList_append, List.append_assoc] <;>
      exact ⟨rfl, rfl⟩
  | unrecognisedText text =>
    simp only [Describe.message, toString, String.toList_append]
    exact ⟨isPrefixOf_self_append _ _, rfl⟩
  | unknownArrow token =>
    simp only [Describe.message, toString, String.toList_append, List.append_assoc]
    exact ⟨rfl, isPrefixOf_self_append _ _⟩
  | _ =>
    simp only [Describe.message, toString, String.toList_append, List.append_assoc]
    exact ⟨rfl, rfl⟩

theorem quoted?_of_skipped {p : Problem} {t : String}
    (h : Describe.message p = skippedWords ++ t) : p.quoted? = some t := by
  have hstart := (isPrefixOf_message p).1
  rw [h, String.toList_append, isPrefixOf_self_append] at hstart
  cases p with
  | unrecognisedText text =>
    have htext : text = t := (String.append_right_inj _).1 h
    exact congrArg some htext
  | _ => cases hstart

theorem quoted?_of_unknownArrow {p : Problem} {t : String}
    (h : Describe.message p = arrowWords ++ t ++ arrowEnding) : p.quoted? = some t := by
  have hstart := (isPrefixOf_message p).2
  rw [h, String.append_assoc, String.toList_append, isPrefixOf_self_append] at hstart
  cases p with
  | unknownArrow token =>
    have htoken : token = t := (String.append_right_inj _).1 ((String.append_left_inj _).1 h)
    exact congrArg some htoken
  | _ => cases hstart

end ScopeGraph

theorem FrontMatter.isPrefixOf_message (p : FrontMatter.Problem) :
    ScopeGraph.skippedWords.toList.isPrefixOf (Describe.message p).toList = false ∧
      ScopeGraph.arrowWords.toList.isPrefixOf (Describe.message p).toList = false := by
  cases p with
  | invalid problem =>
    simp only [Describe.message, toString, String.toList_append]
    exact ⟨rfl, rfl⟩
  | notMapping => exact ⟨rfl, rfl⟩

/-- A diagnostic is one of the two warnings that quote a part of a line of a flowchart. -/
def Diagnostic.QuotesPart (t : String) (d : Diagnostic) : Prop :=
  d.message = "Skipping unrecognized text: " ++ t ∨
    d.message = "Unknown arrow \"" ++ t ++ "\"; treating it as a plain link"

theorem ScopeGraph.quoted?_of_quotesPart {r : Report ScopeGraph.Problem} {t : String}
    (h : r.toDiagnostic.QuotesPart t) : r.problem.quoted? = some t := by
  rcases h with h | h
  · exact quoted?_of_skipped h
  · exact quoted?_of_unknownArrow h

theorem FrontMatter.not_quotesPart (r : Report FrontMatter.Problem) (t : String) :
    ¬ r.toDiagnostic.QuotesPart t := by
  obtain ⟨hskipped, harrow⟩ := FrontMatter.isPrefixOf_message r.problem
  rintro (h | h)
  · rw [show Describe.message r.problem = ScopeGraph.skippedWords ++ t from h,
      String.toList_append, isPrefixOf_self_append] at hskipped
    cases hskipped
  · rw [show Describe.message r.problem = ScopeGraph.arrowWords ++ t ++ ScopeGraph.arrowEnding from h,
      String.append_assoc, String.toList_append, isPrefixOf_self_append] at harrow
    cases harrow

/-! ## Places in the source -/

/-- The physical line of a diagnostic. -/
def Diagnostic.line? (source : String) (d : Diagnostic) : Option (List Char) :=
  (Text.lines source.toList)[(d.line - 1).toNat]?

/-- The place of a diagnostic is in the source: its line is one of the physical lines, or the first
one if there is none, and its column is one of the columns of that line. -/
structure Diagnostic.InSource (source : String) (d : Diagnostic) : Prop where
  one_le : 1 ≤ d.line
  line_le : d.line ≤ max 1 (Text.lines source.toList).length
  column : ∀ c, d.column = some c → ∃ raw, d.line? source = some raw ∧ 1 ≤ c ∧ c ≤ raw.length

/-- The physical line of a diagnostic, read from its column on, starts with a text. -/
def Diagnostic.StartsAt (source : String) (d : Diagnostic) (t : String) : Prop :=
  ∃ raw c, d.line? source = some raw ∧ d.column = some c ∧
    t.toList <+: raw.drop (c - 1).toNat

theorem Diagnostic.line?_of_number {source : String} {d : Diagnostic} {l : Line} {n : Nat}
    {raw : List Char} (hraw : (Text.lines source.toList)[n]? = some raw)
    (hnumber : l.number = n + 1) (hline : d.line = l.number) : d.line? source = some raw := by
  unfold Diagnostic.line?
  have hindex : (d.line - 1).toNat = n := by omega
  rw [hindex, hraw]

/-- A diagnostic inside one of the scanned lines is in the source. -/
theorem Diagnostic.inSource_of_scan {source : String} {split : Bool} {d : Diagnostic}
    (hline : ∃ l ∈ Source.scan source split, d.line = l.number)
    (hcolumn : d.Within (Source.scan source split)) : d.InSource source := by
  obtain ⟨l, hl, hline⟩ := hline
  obtain ⟨n, raw, hraw, hnumber, -⟩ := Source.liesIn_of_mem_scan hl
  have hlt := (List.getElem?_eq_some_iff.1 hraw).1
  refine ⟨by omega, by omega, ?_⟩
  intro c hc
  obtain ⟨l', hl', hline', k, rfl, hk⟩ := hcolumn c hc
  obtain ⟨n', raw', hraw', hnumber', hlies'⟩ := Source.liesIn_of_mem_scan hl'
  exact ⟨raw', d.line?_of_number hraw' hnumber' hline', hlies'.column_le hk⟩

theorem inSource_of_frontMatterOf {load : Yaml.Loader} (hload : load.MarksLines) {o : Options}
    {source : String} {front : FrontMatter} {warnings : List Diagnostic}
    (h : frontMatterOf o source load = .ok (front, warnings)) :
    ∀ w ∈ warnings, w.InSource source := by
  intro w hw
  have hle : w.line ≤ (Text.lines source.toList).length := by
    unfold frontMatterOf FrontMatter.read at h
    split at h
    · cases h
      cases hw
    · split at h
      · rename_i b hb
        have hheight := Source.Block.height_le hb
        have hline := (FrontMatter.line_le_of_ofBlock hload hb h w hw).1
        omega
      · cases h
        cases hw
  obtain ⟨p, line, hone, rfl⟩ := exists_report_of_frontMatterOf h w hw
  refine ⟨?_, by omega, ?_⟩
  · show 1 ≤ (line : Int)
    omega
  · intro c hc
    cases hc

/-- **Spans point into the source.** Every diagnostic of a call without plugins is at a place in the
source, if what loads the front matter marks its failures in there.  Where a flowchart has text that
cannot be read or an arrow that is unknown, the source reads just that text from the place of the
warning on, whether statements are split or not. -/
theorem spans_point_into_the_source {υ : Type} {registry : PluginRegistry υ} {o : Options}
    {source : String} {load : Yaml.Loader} {r : Result υ} (hp : registry.plugins = [])
    (h : (dispatch registry o source load).result = .ok r) :
    (load.MarksLines → ∀ d ∈ r.diagnostics, d.InSource source) ∧
      (DiagramKind.detect? source = some .flowchart →
        ∀ d ∈ r.diagnostics, ∀ t, d.QuotesPart t → d.StartsAt source t) := by
  obtain ⟨front, warnings, hfront⟩ := frontMatterOf_of_dispatch h
  rw [dispatch_eq_bodyAnswer hp hfront] at h
  obtain ⟨x, hx, rfl⟩ := map_eq_ok_iff.1 h
  unfold bodyAnswer at hx
  cases hkind : DiagramKind.detect? source with
  | none =>
    rw [hkind] at hx
    cases hx
    refine ⟨fun hload => ?_, by rintro ⟨⟩⟩
    refine List.forall_mem_append.2 ⟨inSource_of_frontMatterOf hload hfront, ?_⟩
    refine List.forall_mem_singleton.2 ⟨by decide, ?_, by rintro c ⟨⟩⟩
    show (1 : Int) ≤ _
    omega
  | some kind =>
    rw [hkind] at hx
    obtain ⟨p, hparse, rfl⟩ := map_eq_ok_iff.1 hx
    have htrimmed : ∀ l ∈ Source.scan source (o.splits kind),
        Text.trimEnd l.text.toList = l.text.toList := by
      intro l hl
      obtain ⟨n, raw, -, -, hlies⟩ := Source.liesIn_of_mem_scan hl
      exact hlies.trimmed
    constructor
    · intro hload
      refine List.forall_mem_append.2 ⟨inSource_of_frontMatterOf hload hfront, ?_⟩
      intro d hd
      have hline := Diagram.exists_line_of_parse (Source.scan_ne_nil hkind _) hparse d hd
      exact d.inSource_of_scan hline (Diagram.within_of_parse htrimmed hparse d hd)
    · rintro ⟨⟩
      obtain ⟨p', hp', rfl⟩ := map_eq_ok_iff.1 hparse
      obtain ⟨rs, hrs, hpoints⟩ := Flowchart.points_of_parse htrimmed hp'
      intro d hd t hquotes
      rcases List.mem_append.1 hd with hd | hd
      · obtain ⟨problem, line, -, rfl⟩ := exists_report_of_frontMatterOf hfront d hd
        exact absurd hquotes (FrontMatter.not_quotesPart _ t)
      · replace hd : d ∈ p'.diagnostics := hd
        rw [hrs] at hd
        obtain ⟨q, hq, rfl⟩ := List.mem_map.1 hd
        have hquoted := ScopeGraph.quoted?_of_quotesPart hquotes
        obtain ⟨l, hl, hline, k, hcolumn, hpre⟩ := (hpoints q hq).quoted t hquoted
        obtain ⟨n, raw, hraw, hnumber, hlies⟩ := Source.liesIn_of_mem_scan hl
        have hphysical := q.toDiagnostic.line?_of_number hraw hnumber hline
        exact ⟨raw, _, hphysical, hcolumn, hlies.prefix_drop hpre⟩

/-- An unknown arrow and text that is no arrow, in later statements of one line. -/
def tangledLine : String := "graph TD\n  a --> b; c <.. d ; e $ f"

theorem spans_point_into_the_source_tangledLine :
    ∃ r : Result Unit, (dispatch {} {} tangledLine).result = .ok r ∧
      r.diagnostics.map (fun d => (d.line, d.column, d.message)) =
        [(2, some 14, "Unknown arrow \"<..\"; treating it as a plain link"),
         (2, some 24, "Skipping unrecognized text: $ f")] ∧
      (∀ d ∈ r.diagnostics, d.InSource tangledLine) ∧
      ∀ d ∈ r.diagnostics, (d.QuotesPart "<.." → d.StartsAt tangledLine "<..") ∧
        (d.QuotesPart "$ f" → d.StartsAt tangledLine "$ f") := by
  have hrun : ((dispatch ({} : PluginRegistry Unit) {} tangledLine).result.toOption.map fun r =>
      r.diagnostics.map fun d => (d.line, d.column, d.message)) =
      some [(2, some 14, "Unknown arrow \"<..\"; treating it as a plain link"),
        (2, some 24, "Skipping unrecognized text: $ f")] := by
    decide +kernel
  have hkind : DiagramKind.detect? tangledLine = some .flowchart := by decide +kernel
  obtain ⟨r, hr, hplaces⟩ := exists_ok_of_toOption hrun
  obtain ⟨hin, hquotes⟩ := spans_point_into_the_source rfl hr
  refine ⟨r, hr, hplaces, hin Yaml.marksLines_load, ?_⟩
  intro d hd
  exact ⟨hquotes hkind d hd _, hquotes hkind d hd _⟩

end DiagramText
