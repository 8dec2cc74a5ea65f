import DiagramText.Proofs.Dispatch
import DiagramText.Proofs.Source.Located
import DiagramText.Proofs.Text.Words

/-!
# Splitting at semicolons

A source that is split at semicolons has the pieces of its whole lines as its logical lines, and
splitting takes nothing away from the word that tells the kind of the source.

1. Trimming and splitting: it does not matter which of them comes first.
2. `Line.pieces`, the statements in the text of a whole line, and `map_content_scan_true`.
3. `firstToken_piece`: the first piece of a header starts with the same word.
4. `splitting_refines_scanning`.
-/

namespace DiagramText

/-! ## Trimming and splitting -/

namespace Text

theorem trimStart_cons_of_isBlank {c : Char} (hc : isBlank c = true) (s : List Char) :
    trimStart (c :: s) = trimStart s := List.dropWhile_cons_of_pos hc

theorem trimStart_trimEnd (s : List Char) : trimStart (trimEnd s) = trimEnd (trimStart s) := by
  induction s with
  | nil => rfl
  | cons c r ih =>
    cases hc : isBlank c with
    | false =>
      have hstart (t : List Char) : trimStart (c :: t) = c :: t :=
        List.dropWhile_cons_of_neg (ne_true_of_eq_false hc)
      rw [trimEnd_cons hc, hstart, hstart, trimEnd_cons hc]
    | true =>
      rw [trimStart_cons_of_isBlank hc, ← ih, trimEnd]
      split
      · rename_i hr
        rw [hr, if_pos hc]
      · rename_i d r' hr
        rw [hr, trimStart_cons_of_isBlank hc]

theorem trim_eq_trimStart_trimEnd (s : List Char) : trim s = trimStart (trimEnd s) :=
  (trimStart_trimEnd s).symm

section

variable {p : Char → Bool}

theorem splitWhere_eq_takeWhile_cons (s : List Char) :
    ∃ fs, splitWhere p s = s.takeWhile (!p ·) :: fs := by
  induction s with
  | nil => exact ⟨[], rfl⟩
  | cons c r ih =>
    cases hc : p c with
    | true => exact ⟨splitWhere p r, by simp [splitWhere, hc]⟩
    | false =>
      obtain ⟨fs, hr⟩ := ih
      exact ⟨fs, by simp [splitWhere, hc, hr]⟩

variable (hp : ∀ c, isBlank c = true → p c = false)

include hp

/-- The blanks in front of a text are blanks in front of its first piece. -/
theorem map_trim_splitWhere_trimStart (s : List Char) :
    (splitWhere p (trimStart s)).map trim = (splitWhere p s).map trim := by
  induction s with
  | nil => rfl
  | cons c r ih =>
    cases hc : isBlank c with
    | false => rw [show trimStart (c :: r) = c :: r from trimStart_of_head (by simpa using hc)]
    | true =>
      obtain ⟨f, fs, hr, hcons⟩ := splitWhere_cons_of_neg (hp c hc) r
      rw [trimStart_cons_of_isBlank hc, ih, hr, hcons, List.map_cons, List.map_cons, trim, trim,
        trimStart_cons_of_isBlank hc]

/-- The blanks behind a text are blanks behind its last piece. -/
theorem map_trimEnd_splitWhere_trimEnd (s : List Char) :
    (splitWhere p (trimEnd s)).map trimEnd = (splitWhere p s).map trimEnd := by
  induction s with
  | nil => rfl
  | cons c r ih =>
    by_cases hblank : isBlank c = true ∧ trimEnd r = []
    · -- Nothing but blanks is left, and no separator among them.
      obtain ⟨f, fs, hr, hcons⟩ := splitWhere_cons_of_neg (hp c hblank.1) r
      have hend : trimEnd (c :: r) = [] := by rw [trimEnd, hblank.2, if_pos hblank.1]
      rw [hblank.2, hr, List.map_cons] at ih
      obtain ⟨hf, hfs⟩ := List.cons.inj ih
      rw [hend, hcons, List.map_cons, ← hfs, trimEnd, ← hf, if_pos hblank.1]
      rfl
    · rw [trimEnd_cons_of_not hblank]
      cases hc : p c with
      | true => simp only [splitWhere, hc, if_true, List.map_cons, ih]
      | false =>
        obtain ⟨f, fs, hr, hcons⟩ := splitWhere_cons_of_neg hc (trimEnd r)
        obtain ⟨f', fs', hr', hcons'⟩ := splitWhere_cons_of_neg hc r
        rw [hr, hr', List.map_cons, List.map_cons] at ih
        obtain ⟨hf, hfs⟩ := List.cons.inj ih
        rw [hcons, hcons', List.map_cons, List.map_cons, trimEnd, trimEnd, hf, hfs]

/-- Trimming a text does not change its trimmed pieces. -/
theorem map_trim_splitWhere_trim (s : List Char) :
    (splitWhere p (trim s)).map trim = (splitWhere p s).map trim := by
  have hsplit (t : List Char) :
      (splitWhere p t).map trim = ((splitWhere p t).map trimEnd).map trimStart := by
    rw [List.map_map]
    exact List.map_congr_left fun f _ => trim_eq_trimStart_trimEnd f
  calc (splitWhere p (trim s)).map trim
      = ((splitWhere p (trimEnd (trimStart s))).map trimEnd).map trimStart := hsplit _
    _ = (splitWhere p (trimStart s)).map trim := by
      rw [map_trimEnd_splitWhere_trimEnd hp, ← hsplit]
    _ = (splitWhere p s).map trim := map_trim_splitWhere_trimStart hp s

end

/-- The blanks behind a text are no part of a run in front that holds no blanks. -/
theorem takeWhile_trimEnd {q : Char → Bool} (hq : ∀ c, isBlank c = true → q c = false)
    (s : List Char) : (trimEnd s).takeWhile q = s.takeWhile q := by
  induction s with
  | nil => rfl
  | cons c r ih =>
    cases hc : isBlank c with
    | false => rw [trimEnd_cons hc, List.takeWhile_cons, List.takeWhile_cons, ih]
    | true =>
      have hnone (t : List Char) : (c :: t).takeWhile q = [] :=
        List.takeWhile_cons_of_neg (ne_true_of_eq_false (hq c hc))
      rw [hnone, trimEnd]
      split
      · rw [if_pos hc]
        rfl
      · exact hnone _

end Text

/-! ## Pieces -/

namespace Source

open Text

/-- A logical line without its column. -/
def Line.content (l : Line) : Int × String × Int := (l.number, l.text, l.indent)

/-- The statements in the text of a logical line: its trimmed pieces between semicolons, without
those that are empty or comments. -/
def Line.pieces (l : Line) : List (Int × String × Int) :=
  (((splitOn ';' l.text.toList).map trim).filter fun t => !(t == [] || isComment t)).map fun t =>
    (l.number, String.ofList t, l.indent)

theorem map_content_statements (number indent offset : Nat) (pieces : List (List Char)) :
    (statements number indent offset pieces).map Line.content =
      ((pieces.map trim).filter fun t => !(t == [] || isComment t)).map fun t =>
        (↑number, String.ofList t, ↑indent) := by
  induction pieces generalizing offset with
  | nil => rfl
  | cons piece pieces ih =>
    rw [statements, List.map_append, ih, List.map_cons, statement?_eq_ite]
    cases hidle : isIdle piece with
    | true =>
      replace hidle : (trim piece == [] || isComment (trim piece)) = true := hidle
      rw [List.filter_cons_of_neg (by rw [hidle]; decide)]
      rfl
    | false =>
      replace hidle : (trim piece == [] || isComment (trim piece)) = false := hidle
      rw [List.filter_cons_of_pos (by rw [hidle]; rfl)]
      rfl

theorem map_content_ofPhysical (number : Nat) (raw : List Char) :
    (ofPhysical true number raw).map Line.content =
      (ofPhysical false number raw).flatMap Line.pieces := by
  cases hidle : isIdle raw with
  | true =>
    rw [ofPhysical_of_isIdle hidle, ofPhysical_of_isIdle hidle]
    rfl
  | false =>
    have hsep : ∀ c, isBlank c = true → (c == ';') = false := by
      intro c hc
      refine beq_false_of_ne ?_
      rintro rfl
      exact absurd hc (by decide)
    rw [ofPhysical_of_not_isIdle hidle, ofPhysical_of_not_isIdle hidle, if_pos rfl,
      if_neg Bool.false_ne_true, statement?_eq_ite, hidle, map_content_statements]
    unfold splitOn
    rw [← map_trim_splitWhere_trim hsep]
    simp [Line.pieces, splitOn]

theorem map_content_scan_true (source : String) :
    (scan source true).map Line.content = (scan source false).flatMap Line.pieces := by
  unfold scan
  dsimp only
  generalize bodyStart (lines source.toList) + 1 = number
  generalize (lines source.toList).drop _ = raws
  induction raws generalizing number with
  | nil => rfl
  | cons raw raws ih =>
    rw [ofBody, ofBody, List.map_append, List.flatMap_append, map_content_ofPhysical, ih]

end Source

/-! ## Headers -/

open Text

namespace DiagramKind

theorem firstToken_trimEnd_takeWhile (s : List Char) :
    firstToken (trimEnd (s.takeWhile (fun c => !(c == ';')))) = firstToken s := by
  unfold firstToken
  rw [takeWhile_trimEnd (by simp +contextual), List.takeWhile_takeWhile]
  congr 2
  funext c
  cases isBlank c <;> cases c == ';' <;> rfl

/-- The first piece of a line that names a kind starts with the same word as the line. -/
theorem firstToken_piece {l : Source.Line} {kind : DiagramKind} (h : ofLine? l = some kind) :
    ∃ t ps, l.pieces = (l.number, String.ofList t, l.indent) :: ps ∧
      firstToken t = firstToken l.text.toList := by
  obtain ⟨c, r, htext, hc, hsep, hcomment⟩ := exists_head_of_ofLine? h
  obtain ⟨fs, hsplit⟩ := splitWhere_eq_takeWhile_cons (p := (· == ';')) l.text.toList
  have hfirst : l.text.toList.takeWhile (fun c => !(c == ';')) =
      c :: r.takeWhile (fun c => !(c == ';')) := by
    rw [htext]
    exact List.takeWhile_cons_of_pos (by simpa using hsep)
  have htrim : trim (l.text.toList.takeWhile (fun c => !(c == ';'))) =
      trimEnd (l.text.toList.takeWhile (fun c => !(c == ';'))) := by
    unfold trim
    rw [hfirst, trimStart_of_head (by simpa using hc)]
  have htoken := firstToken_trimEnd_takeWhile l.text.toList
  rw [hfirst] at hsplit htrim htoken
  refine ⟨trimEnd (c :: r.takeWhile (fun c => !(c == ';'))), ?_⟩
  unfold Source.Line.pieces splitOn
  rw [hsplit, List.map_cons, htrim, List.filter_cons_of_pos, List.map_cons]
  · exact ⟨_, rfl, htoken⟩
  · rw [trimEnd_cons hc, Source.isComment_cons hcomment]
    rfl

/-- The first logical line starts with the word that tells the kind, split or not. -/
theorem exists_header {source : String} {kind : DiagramKind} (h : detect? source = some kind)
    (split : Bool) :
    ∃ first header rest, Source.firstLine? source = some first ∧ ofLine? first = some kind ∧
      Source.scan source split = header :: rest ∧
      firstToken header.text.toList = firstToken first.text.toList := by
  obtain ⟨first, hfirst, hkind⟩ := Option.bind_eq_some_iff.1 h
  obtain ⟨others, hscan⟩ := List.head?_eq_some_iff.1 hfirst
  cases split with
  | false => exact ⟨first, first, others, hfirst, hkind, hscan, rfl⟩
  | true =>
    obtain ⟨t, ps, hpieces, htoken⟩ := firstToken_piece hkind
    have hcontent := Source.map_content_scan_true source
    rw [hscan, List.flatMap_cons, hpieces, List.cons_append] at hcontent
    obtain ⟨header, rest, hsplit, hheader, -⟩ := List.map_eq_cons_iff.1 hcontent
    refine ⟨first, header, rest, hfirst, hkind, hsplit, ?_⟩
    have htext : header.text = String.ofList t := congrArg (·.2.1) hheader
    rw [htext, String.toList_ofList, htoken]

end DiagramKind

/-- **Splitting refines scanning.** The logical lines of a source that is split at semicolons are,
up to their columns, the pieces of its whole lines.  The reader of a source of a known kind gets at
least one line, whose first word is the keyword of the source. -/
theorem splitting_refines_scanning {υ : Type} (source : String) :
    (Source.scan source true).map Source.Line.content =
        (Source.scan source false).flatMap Source.Line.pieces ∧
      ∀ kind, DiagramKind.detect? source = some kind → ∀ o : Options,
        ∃ keyword first header rest, (keyword, kind) ∈ DiagramKind.keywords ∧
          Source.firstLine? source = some first ∧
          DiagramKind.firstToken first.text.toList = keyword.toList ∧
          Source.scan source (o.splits kind) = header :: rest ∧
          DiagramKind.firstToken header.text.toList = keyword.toList ∧
          ∀ (registry : PluginRegistry υ) (load : Yaml.Loader) (front : FrontMatter)
            (warnings : List Diagnostic), frontMatterOf o source load = .ok (front, warnings) →
            (dispatch registry o source load).result =
              (Diagram.parse kind o.direction (header :: rest)).map fun p =>
                ⟨some (.builtin p.diagram), warnings ++ p.diagnostics, front⟩ := by
  refine ⟨Source.map_content_scan_true source, fun kind hkind o => ?_⟩
  obtain ⟨first, header, rest, hfirst, hline, hscan, htoken⟩ :=
    DiagramKind.exists_header hkind (o.splits kind)
  obtain ⟨before, after, hkeywords, -⟩ := List.lookup_eq_some_iff.1 hline
  refine ⟨_, first, header, rest, hkeywords ▸ List.mem_append_right _ List.mem_cons_self, hfirst,
    String.toList_ofList.symm, hscan, htoken.trans String.toList_ofList.symm, ?_⟩
  intro registry load front warnings hfront
  rw [dispatch_of_detect hfront hkind, ← hscan]
  unfold runBuiltin
  dsimp only
  cases Diagram.parse kind o.direction (Source.scan source (o.splits kind)) <;> rfl

/-- A header with statements on the same line, an empty piece and a comment among the pieces, above
a comment and a line that starts with a semicolon. -/
def tightHeader : String := "Graph;A-->B;; %% c;D\n%% x;y\n ;C"

theorem splitting_refines_scanning_tightHeader :
    ∃ header rest, Source.scan tightHeader true = header :: rest ∧
      header.text = "Graph" ∧ rest.map (·.content) = [(1, "A-->B", 0), (1, "D", 0), (3, "C", 1)] ∧
      (Source.scan tightHeader false).flatMap Source.Line.pieces =
        (1, "Graph", 0) :: rest.map (·.content) ∧
      DiagramKind.firstToken header.text.toList = "graph".toList ∧
      (dispatch ({} : PluginRegistry Unit) {} tightHeader).result =
        (Diagram.parse .flowchart "TD" (header :: rest)).map fun p =>
          ⟨some (.builtin p.diagram), p.diagnostics, {}⟩ := by
  obtain ⟨hrefines, hheader⟩ := splitting_refines_scanning (υ := Unit) tightHeader
  obtain ⟨keyword, first, header, rest, -, hfirst, hfirstToken, hscan, htoken, hdispatch⟩ :=
    hheader .flowchart (by decide +kernel) {}
  have hsplit : Source.scan tightHeader true =
      [⟨1, "Graph", 0, 1⟩, ⟨1, "A-->B", 0, 7⟩, ⟨1, "D", 0, 20⟩, ⟨3, "C", 1, 3⟩] := by
    decide +kernel
  have hwhole : (Source.firstLine? tightHeader).map (·.text) = some "Graph;A-->B;; %% c;D" := by
    decide +kernel
  have hkeyword : keyword.toList = "graph".toList := by
    rw [hfirst] at hwhole
    have htext : first.text = "Graph;A-->B;; %% c;D" := Option.some.inj hwhole
    rw [← hfirstToken, htext]
    decide +kernel
  have hfront : frontMatterOf {} tightHeader Yaml.load = .ok ({}, []) := by
    have hblock : Source.block? (Text.lines tightHeader.toList) = none := by decide +kernel
    show FrontMatter.read tightHeader = _
    unfold FrontMatter.read
    rw [hblock]
  have hlines := hsplit.symm.trans hscan
  rw [← hrefines, hsplit]
  cases hlines
  exact ⟨_, _, rfl, rfl, rfl, rfl, htoken.trans hkeyword, hdispatch {} Yaml.load {} [] hfront⟩

end DiagramText
