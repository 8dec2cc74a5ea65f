import DiagramText.Proofs.Mindmap.Parents
import DiagramText.Proofs.Reports
import Mathlib.Data.List.ModifyLast

/-!
# Topics in the order of their lines

A topic joins the tree wherever its indentation puts it, and later lines decorate the topic read
last.  In pre-order the tree is still the list of the topic lines, each with the decorations that
stand between its line and the next topic line.

1. `TopicLine.topic`, a topic with the decorations of the lines below it, and `topicsFrom`, the
   topics of a list of lines.
2. `Fresh`, the invariant: the topic read last has no children, so that it is also the last one of
   the spine in pre-order.
3. `topics_foldl_step`: the topics behind any state.
4. `preorder_is_source_order` and `decorated_by_lines_below`.
-/

namespace DiagramText

open Source (Line)
open Text (trim words)

section

variable {α : Type} (xs : List α)

theorem modifyLast_id : xs.modifyLast id = xs := by
  rcases xs.eq_nil_or_concat with rfl | ⟨ys, y, rfl⟩
  · rfl
  · rw [List.concat_eq_append, List.modifyLast_concat]
    rfl

theorem modifyLast_modifyLast (f g : α → α) :
    (xs.modifyLast f).modifyLast g = xs.modifyLast (g ∘ f) := by
  rcases xs.eq_nil_or_concat with rfl | ⟨ys, y, rfl⟩
  · rfl
  · rw [List.concat_eq_append, List.modifyLast_concat, List.modifyLast_concat,
      List.modifyLast_concat]
    rfl

end

namespace Mindmap

/-! ## Decorations -/

/-- The icon on a line. -/
def iconOn? (l : Line) : Option String :=
  (icon? l.text.toList).map fun t => String.ofList (trim t)

/-- The class names on a line. -/
def classesOn (l : Line) : List String :=
  (classes? l.text.toList).elim [] fun t => (words t).map String.ofList

/-- The lines in front of the next topic. -/
def untilTopic (ls : List Line) : List Line := ls.takeWhile fun l => (topicLine? l).isNone

/-- Topic number `i`, with the last icon and all class names of the lines below it. -/
def TopicLine.topic (n : TopicLine) (i : Nat) (below : List Line) : Topic :=
  { id := topicId i
    label := n.label
    shape := n.shape
    icon := (below.filterMap iconOn?).getLast?
    classes := (below.flatMap classesOn).eraseDups
    line := n.line.number }

/-- The topics on lines, from number `i` on. -/
def topicsFrom : (i : Nat) → List Line → List Topic
  | _, [] => []
  | i, l :: ls =>
    match topicLine? l with
    | some n => n.topic i (untilTopic ls) :: topicsFrom (i + 1) ls
    | none => topicsFrom i ls

/-- A topic behind further lines that decorate it. -/
def Topic.decorated (ls : List Line) (t : Topic) : Topic :=
  { t with
    icon := (ls.filterMap iconOn?).getLast?.or t.icon
    classes := addAllNew t.classes (ls.flatMap classesOn) }

theorem decorated_nil : Topic.decorated [] = id := rfl

theorem decorated_append (xs ys : List Line) :
    Topic.decorated (xs ++ ys) = Topic.decorated ys ∘ Topic.decorated xs := by
  funext t
  unfold Topic.decorated
  rw [List.filterMap_append, List.getLast?_append, Option.or_assoc, List.flatMap_append,
    addAllNew_append]
  rfl

theorem TopicLine.decorated_topic (n : TopicLine) (i : Nat) (below : List Line) :
    (n.topic i []).decorated below = n.topic i below := by
  unfold topic Topic.decorated
  dsimp only
  rw [← addAllNew_nil (below.flatMap classesOn)]
  simp

/-! ## Lines and what they decorate -/

/-- An icon and class names do not stand on one line. -/
theorem classes?_of_icon? {s t : List Char} (h : icon? s = some t) : classes? s = none := by
  obtain ⟨r, hr, -⟩ := Option.bind_eq_some_iff.1 h
  have hs := Text.literal?_eq_some_iff.1 hr
  unfold classes?
  rw [hs]
  rfl

/-- A line that decorates nothing. -/
structure Bare (l : Line) : Prop where
  icon : iconOn? l = none
  classes : classesOn l = []

theorem Bare.decorated {l : Line} (h : Bare l) (t : Topic) : t.decorated [l] = t := by
  unfold Topic.decorated
  simp [h.icon, h.classes, addAllNew]

/-- What is on a line is on it as its statement says. -/
theorem decorations_of_recognise (l : Line) :
    match Statement.recognise l.text with
    | .icon text => iconOn? l = some text ∧ classesOn l = []
    | .classes names => iconOn? l = none ∧ classesOn l = names
    | .topic _ _ | .emptyLabel => Bare l := by
  unfold Statement.recognise
  dsimp only
  cases hicon : icon? l.text.toList with
  | some t =>
    dsimp only
    refine ⟨by rw [iconOn?, hicon]; rfl, ?_⟩
    rw [classesOn, classes?_of_icon? hicon]
    rfl
  | none =>
    have hnone : iconOn? l = none := by rw [iconOn?, hicon]; rfl
    cases hclasses : classes? l.text.toList with
    | some t =>
      dsimp only
      exact ⟨hnone, by rw [classesOn, hclasses]; rfl⟩
    | none =>
      dsimp only
      have hbare : Bare l := ⟨hnone, by rw [classesOn, hclasses]; rfl⟩
      by_cases hlabel : (unquoteLabel (trim (shapeAndLabel l.text.toList).2) == []) = true
      · rw [if_pos hlabel]
        exact hbare
      · rw [if_neg hlabel]
        exact hbare

/-! ## The topic read last -/

/-- The innermost topic has no children. -/
def Fresh (st : State) : Prop := ∀ v ∈ st.spine.head?, v.frame.children = []

theorem fresh_attach (topic : Topic) (indent : Int) (spine : List Level) :
    ∀ v ∈ (attach topic indent spine).1.head?, v.frame.children = [] := by
  cases spine <;> (rintro v ⟨⟩; rfl)

/-- A change of the topic read last is a change of the last topic in pre-order. -/
theorem Fresh.decorate {st : State} (h : Fresh st) (g : Topic → Topic) :
    Fresh (st.decorate g) ∧ topics (st.decorate g).spine = (topics st.spine).modifyLast g ∧
      (st.decorate g).count = st.count := by
  unfold State.decorate
  cases hs : st.spine with
  | nil => exact ⟨h, by rw [hs]; rfl, rfl⟩
  | cons v rest =>
    have hchildren : v.frame.children = [] := h v (by rw [hs]; rfl)
    have hlast (w : Level) (hw : w.frame.children = []) :
        topics (w :: rest) = topics rest ++ [w.frame.value] := by
      refine (Frame.spineValues_cons w.frame _).trans ?_
      unfold Frame.values
      rw [hw]
      rfl
    refine ⟨?_, ?_, rfl⟩
    · rintro w ⟨⟩
      exact hchildren
    · rw [hlast v hchildren, List.modifyLast_concat]
      exact hlast { v with frame := v.frame.map g } hchildren

/-- A line without a topic decorates the last topic. -/
theorem Fresh.step_of_none {st : State} (h : Fresh st) {l : Line} (hl : topicLine? l = none) :
    Fresh (st.step l) ∧
      topics (st.step l).spine = (topics st.spine).modifyLast (Topic.decorated [l]) ∧
      (st.step l).count = st.count := by
  have hdecorations := decorations_of_recognise l
  -- Without any topic there is nothing to decorate.
  have hempty : st.spine.isEmpty = true → (topics st.spine).modifyLast (Topic.decorated [l]) =
      topics st.spine := by
    intro hs
    rw [List.isEmpty_iff.1 hs]
    rfl
  unfold topicLine? at hl
  unfold State.step
  cases hs : Statement.recognise l.text with
  | icon text =>
    rw [hs] at hdecorations
    obtain ⟨hicon, hclasses⟩ := hdecorations
    have hg : Topic.decorated [l] = fun t : Topic => { t with icon := some text } := by
      funext t
      simp [Topic.decorated, hicon, hclasses, addAllNew]
    dsimp only
    split
    · rename_i hnone
      exact ⟨h, (hempty hnone).symm, rfl⟩
    · rw [hg]
      exact h.decorate _
  | classes names =>
    rw [hs] at hdecorations
    obtain ⟨hicon, hclasses⟩ := hdecorations
    have hg : Topic.decorated [l] =
        fun t : Topic => { t with classes := addAllNew t.classes names } := by
      funext t
      simp [Topic.decorated, hicon, hclasses]
    dsimp only
    split
    · rename_i hnone
      exact ⟨h, (hempty hnone).symm, rfl⟩
    · rw [hg]
      exact h.decorate _
  | emptyLabel =>
    rw [hs] at hdecorations
    have hg : Topic.decorated [l] = id := funext hdecorations.decorated
    refine ⟨h, ?_, rfl⟩
    rw [hg]
    exact (modifyLast_id _).symm
  | topic shape label =>
    rw [hs] at hl
    cases hl

/-- A topic stands behind all others. -/
theorem Fresh.step_of_some (st : State) {l : Line} {n : TopicLine} (hl : topicLine? l = some n) :
    Fresh (st.step l) ∧ topics (st.step l).spine = topics st.spine ++ [n.topic st.count []] ∧
      (st.step l).count = st.count + 1 := by
  unfold topicLine? at hl
  unfold State.step
  cases hs : Statement.recognise l.text with
  | topic shape label =>
    rw [hs] at hl
    cases hl
    have htopics := topics_attach
      { id := s!"node-{st.count}", label, shape, line := l.number } l.indent st.spine
    dsimp only
    split
    · exact ⟨fresh_attach _ _ _, htopics, rfl⟩
    · exact ⟨fresh_attach _ _ _, htopics, rfl⟩
  | icon _ | classes _ | emptyLabel =>
    rw [hs] at hl
    cases hl

/-- **A run.** The topics of further lines stand behind those read before; the lines in front of the
first of them decorate the last one read before. -/
theorem topics_foldl_step {st : State} (h : Fresh st) (ls : List Line) :
    topics (ls.foldl State.step st).spine =
      (topics st.spine).modifyLast (Topic.decorated (untilTopic ls)) ++
        topicsFrom st.count ls := by
  induction ls generalizing st with
  | nil =>
    show topics st.spine = (topics st.spine).modifyLast (Topic.decorated []) ++ []
    rw [decorated_nil, modifyLast_id, List.append_nil]
  | cons l ls ih =>
    rw [List.foldl_cons, topicsFrom]
    cases hl : topicLine? l with
    | none =>
      obtain ⟨hfresh, htopics, hcount⟩ := h.step_of_none hl
      have hlines : untilTopic (l :: ls) = [l] ++ untilTopic ls :=
        List.takeWhile_cons_of_pos (by rw [hl]; rfl)
      rw [ih hfresh, htopics, hcount, modifyLast_modifyLast, hlines, decorated_append]
    | some n =>
      obtain ⟨hfresh, htopics, hcount⟩ := Fresh.step_of_some st hl
      have hlines : untilTopic (l :: ls) = [] :=
        List.takeWhile_cons_of_neg (by rw [hl]; exact Bool.false_ne_true)
      rw [ih hfresh, htopics, hcount, List.modifyLast_concat, n.decorated_topic, hlines,
        decorated_nil, modifyLast_id, List.append_assoc]
      rfl

/-! ## Mindmaps -/

theorem map_value_subtrees_finish (spine : List Level) :
    (Map.subtrees ⟨finish spine⟩).map (·.value) = topics spine := by
  cases spine with
  | nil => rfl
  | cons v rest =>
    have hclosed := Frame.forestValues_closeAll v.frame (rest.map (·.frame))
    refine Eq.trans ?_ hclosed
    rw [Tree.forestValues, Tree.forest, Tree.forest, List.append_nil]
    rfl

/-- In pre-order, a mindmap is the list of its topic lines with their decorations. -/
theorem map_value_subtrees (ls : List Line) :
    (parse ls).diagram.subtrees.map (·.value) = topicsFrom 0 ls.tail := by
  have hfresh : Fresh {} := by
    rintro v ⟨⟩
  refine (map_value_subtrees_finish _).trans ?_
  rw [topics_foldl_step hfresh]
  rfl

theorem length_topicsFrom (i : Nat) (ls : List Line) :
    (topicsFrom i ls).length = (topicLines ls).length := by
  induction ls generalizing i with
  | nil => rfl
  | cons l ls ih =>
    rw [topicsFrom]
    unfold topicLines
    cases hl : topicLine? l with
    | none =>
      rw [List.filterMap_cons_none hl]
      exact ih i
    | some n =>
      rw [List.filterMap_cons_some hl, List.length_cons, List.length_cons, ih]
      rfl

/-- The topic of a line, from the lines around it. -/
theorem getElem?_topicsFrom {above below : List Line} {l : Line} {n : TopicLine} (i : Nat)
    (hl : topicLine? l = some n) :
    (topicsFrom i (above ++ l :: below))[(topicLines above).length]? =
      some (n.topic (i + (topicLines above).length) (untilTopic below)) := by
  induction above generalizing i with
  | nil =>
    rw [List.nil_append, topicsFrom, hl]
    rfl
  | cons k above ih =>
    rw [List.cons_append, topicsFrom]
    unfold topicLines at ih ⊢
    cases hk : topicLine? k with
    | none =>
      rw [List.filterMap_cons_none hk]
      exact ih i
    | some m =>
      rw [List.filterMap_cons_some hk, List.length_cons]
      dsimp only
      rw [List.getElem?_cons_succ, ih, Nat.add_assoc, Nat.add_comm 1]

/-! ## Reports -/

/-- A line gives warnings at most. -/
theorem appends_step (st : State) (l : Line) :
    Appends (fun r => r.toDiagnostic.isError = false) st.reports (st.step l).reports := by
  unfold State.step
  cases Statement.recognise l.text with
  | icon text =>
    dsimp only
    split
    · exact .concat rfl
    · rw [reports_decorate]
      exact .refl _
  | classes names =>
    dsimp only
    split
    · exact .concat rfl
    · rw [reports_decorate]
      exact .refl _
  | emptyLabel => exact .concat rfl
  | topic shape label =>
    dsimp only
    split
    · exact .refl _
    · exact .concat rfl

/-- The one error that there can be. -/
def rootless (ls : List Line) : Diagnostic :=
  { severity := .error
    message := "Mindmap must have at least one root node"
    line := (ls.head?.map (·.number)).getD 1 }

theorem errors_parse (ls : List Line) :
    (parse ls).diagnostics.filter (·.isError) =
      if (parse ls).diagram.root = none then [rootless ls] else [] := by
  obtain ⟨new, hnew, hwarn⟩ := Appends.foldl State.reports appends_step ls.tail {}
  have hnone : (new.map Report.toDiagnostic).filter (·.isError) = [] := by
    refine List.filter_eq_nil_iff.2 (List.forall_mem_map.2 fun r hr => ?_)
    rw [hwarn r hr]
    exact Bool.false_ne_true
  have hreports : (ls.tail.foldl State.step {}).reports = new := hnew
  show (List.map _ ((ls.tail.foldl State.step {}).reports ++ _)).filter _ =
    if finish (ls.tail.foldl State.step {}).spine = none then _ else _
  rw [hreports, List.map_append, List.filter_append, hnone, List.nil_append]
  cases finish (ls.tail.foldl State.step {}).spine with
  | none => rfl
  | some t => rfl

theorem root_eq_none_iff (ls : List Line) :
    (parse ls).diagram.root = none ↔ topicLines ls.tail = [] := by
  have hlength := congrArg List.length (map_value_subtrees ls)
  rw [List.length_map, length_topicsFrom] at hlength
  rw [← List.length_eq_zero_iff, ← hlength]
  unfold Map.subtrees
  cases (parse ls).diagram.root with
  | none => exact iff_of_true rfl rfl
  | some t =>
    obtain ⟨v, cs⟩ := t
    exact iff_of_false nofun nofun

theorem outline_parse (ls : List Line) :
    (parse ls).diagram.outline = (topicLines ls.tail).zipIdx.map fun x => x.1.written x.2 := by
  have hrun : Follows (topicLines ls.tail) (ls.tail.foldl State.step {}) := by
    simpa using Follows.init.foldl_step ls.tail
  exact (outline_finish _).trans hrun.written

theorem topicLines_filter (ls : List Line) :
    topicLines (ls.filter fun l => (topicLine? l).isSome) = topicLines ls := by
  unfold topicLines
  rw [List.filterMap_filter]
  congr 1
  funext l
  cases topicLine? l <;> rfl

/-- **Source order.** In pre-order, the topics of a mindmap are those of its lines, in order and
numbered from zero; a line that gives no topic takes no number.  The root is missing if no line
gives a topic, and this is the only error. -/
theorem preorder_is_source_order (ls : List Line) :
    let ns := topicLines ls.tail
    let m := (parse ls).diagram
    m.outline = ns.zipIdx.map (fun x => x.1.written x.2) ∧
      m.subtrees.map (·.value.id) = (List.range ns.length).map topicId ∧
      (m.subtrees.map (·.value.id)).Nodup ∧
      (parse (ls.head?.toList ++ ls.tail.filter fun l => (topicLine? l).isSome)).diagram.outline =
        m.outline ∧
      (m.root = none ↔ ns = []) ∧
      (parse ls).diagnostics.filter (·.isError) = if ns = [] then [rootless ls] else [] := by
  have hids : (parse ls).diagram.subtrees.map (·.value.id) =
      (List.range (topicLines ls.tail).length).map topicId := by
    have hwritten := congrArg (List.map (·.1)) (outline_parse ls)
    rw [Map.outline, List.map_map, List.map_map] at hwritten
    refine hwritten.trans ?_
    rw [List.range_eq_range', ← List.zipIdx_map_snd, List.map_map]
    rfl
  refine ⟨outline_parse ls, hids, ?_, ?_, root_eq_none_iff ls, ?_⟩
  · rw [hids]
    exact List.nodup_range.map topicId_injective
  · rw [outline_parse, outline_parse]
    cases ls with
    | nil => rfl
    | cons header body =>
      show List.map _ (topicLines (body.filter _)).zipIdx = _
      rw [topicLines_filter]
      rfl
  · rw [errors_parse]
    simp only [root_eq_none_iff]

/-! ## Lines above all topics -/

/-- The state with further reports in front. -/
def State.behind (st : State) (rs : List (Report Problem)) : State :=
  { st with reports := rs ++ st.reports }

theorem State.report_behind (st : State) (rs : List (Report Problem)) (l : Line) (p : Problem) :
    (st.behind rs).report l p = (st.report l p).behind rs := by
  unfold report behind
  rw [List.append_assoc]

theorem State.decorate_behind (st : State) (rs : List (Report Problem)) (g : Topic → Topic) :
    (st.behind rs).decorate g = (st.decorate g).behind rs := by
  obtain ⟨spine, count, reports⟩ := st
  cases spine <;> rfl

theorem State.step_behind (st : State) (rs : List (Report Problem)) (l : Line) :
    (st.behind rs).step l = (st.step l).behind rs := by
  unfold step
  cases Statement.recognise l.text with
  | icon text =>
    dsimp only
    rw [report_behind, decorate_behind]
    exact (apply_ite (State.behind · rs) _ _ _).symm
  | classes names =>
    dsimp only
    rw [report_behind, decorate_behind]
    exact (apply_ite (State.behind · rs) _ _ _).symm
  | emptyLabel => exact st.report_behind rs l _
  | topic shape label =>
    obtain ⟨spine, count, reports⟩ := st
    dsimp only [behind]
    by_cases hbelow : (attach { id := s!"node-{count}", label, shape, line := l.number }
        l.indent spine).2 = true
    · rw [if_pos hbelow, if_pos hbelow]
    · rw [if_neg hbelow, if_neg hbelow]
      unfold report
      dsimp only
      rw [List.append_assoc]

theorem State.foldl_step_behind (st : State) (rs : List (Report Problem)) (ls : List Line) :
    ls.foldl State.step (st.behind rs) = (ls.foldl State.step st).behind rs :=
  List.foldl_hom (State.behind · rs) fun st l => st.step_behind rs l

/-- What is said about a line that gives no topic when there is no topic above it. -/
def idleWarning (l : Line) : Diagnostic :=
  { severity := .warning
    message :=
      if (icon? l.text.toList).isSome then "Icon without a node"
      else if (classes? l.text.toList).isSome then "Class list without a node"
      else s!"Empty node label: {l.text}"
    line := l.number
    column := some l.column }

theorem step_of_no_topic {st : State} (hs : st.spine = []) {l : Line} (hl : topicLine? l = none) :
    ∃ p, st.step l = st.report l p ∧ (l.report p).toDiagnostic = idleWarning l := by
  unfold topicLine? Statement.recognise at hl
  unfold State.step Statement.recognise idleWarning
  dsimp only at hl ⊢
  rw [hs]
  cases hicon : icon? l.text.toList with
  | some t => exact ⟨.strayIcon, rfl, rfl⟩
  | none =>
    rw [hicon] at hl
    cases hclasses : classes? l.text.toList with
    | some t => exact ⟨.strayClasses, rfl, rfl⟩
    | none =>
      rw [hclasses] at hl
      refine ⟨.emptyLabel l.text, ?_, rfl⟩
      by_cases hlabel : (unquoteLabel (trim (shapeAndLabel l.text.toList).2) == []) = true
      · dsimp only
        rw [if_pos hlabel]
      · dsimp only at hl
        rw [if_neg hlabel] at hl
        cases hl

/-- Lines above all topics leave nothing but one warning each. -/
theorem foldl_step_of_no_topics {lead : List Line} (h : ∀ l ∈ lead, topicLine? l = none)
    (st : State) (hs : st.spine = []) :
    ∃ rs, lead.foldl State.step st = { st with reports := st.reports ++ rs } ∧
      rs.map Report.toDiagnostic = lead.map idleWarning := by
  induction lead generalizing st with
  | nil => exact ⟨[], by rw [List.append_nil]; rfl, rfl⟩
  | cons l lead ih =>
    obtain ⟨hl, hlead⟩ := List.forall_mem_cons.1 h
    obtain ⟨p, hstep, hp⟩ := step_of_no_topic hs hl
    obtain ⟨rs, hrun, hrs⟩ := ih hlead (st.report l p) hs
    refine ⟨l.report p :: rs, ?_, ?_⟩
    · rw [List.foldl_cons, hstep, hrun]
      unfold State.report
      rw [List.append_assoc]
      rfl
    · rw [List.map_cons, List.map_cons, hp, hrs]

theorem parse_lead {header : Line} {lead : List Line} (h : ∀ l ∈ lead, topicLine? l = none)
    (rest : List Line) :
    (parse (header :: (lead ++ rest))).diagram = (parse (header :: rest)).diagram ∧
      (parse (header :: (lead ++ rest))).diagnostics =
        lead.map idleWarning ++ (parse (header :: rest)).diagnostics := by
  obtain ⟨rs, hlead, hrs⟩ := foldl_step_of_no_topics h {} rfl
  have hrun : (lead ++ rest).foldl State.step {} = (rest.foldl State.step {}).behind rs := by
    rw [List.foldl_append, hlead, ← State.foldl_step_behind]
    unfold State.behind
    rw [List.append_nil]
    rfl
  unfold parse
  dsimp only [List.tail_cons]
  rw [hrun]
  refine ⟨rfl, ?_⟩
  rw [← hrs]
  unfold Parsed.ofReports State.behind
  dsimp only
  rw [List.append_assoc, List.map_append]
  rfl

/-! ## Decorated topics -/

/-- **Decorations.** A topic has the class names, each once and in order of first occurrence, and
the last icon of the lines between its own line and the next line that gives a topic.  Lines above
all topics change nothing and are warned about, once each. -/
theorem decorated_by_lines_below (ls : List Line) :
    let m := (parse ls).diagram
    (∀ above l below n, ls.tail = above ++ l :: below → topicLine? l = some n →
      (m.subtrees.map (·.value))[(topicLines above).length]? =
        some { id := topicId (topicLines above).length
               label := n.label
               shape := n.shape
               icon := ((untilTopic below).filterMap iconOn?).getLast?
               classes := ((untilTopic below).flatMap classesOn).eraseDups
               line := l.number }) ∧
      m.subtrees.length = (topicLines ls.tail).length ∧
      ∀ header lead rest, ls = header :: (lead ++ rest) → (∀ l ∈ lead, topicLine? l = none) →
        m = (parse (header :: rest)).diagram ∧
          (parse ls).diagnostics =
            lead.map idleWarning ++ (parse (header :: rest)).diagnostics := by
  refine ⟨fun above l below n hls hl => ?_, ?_, fun header lead rest hls hlead => ?_⟩
  · have hline : n.line = l := by
      unfold topicLine? at hl
      split at hl
      · cases hl
        rfl
      · cases hl
    rw [map_value_subtrees, hls, getElem?_topicsFrom 0 hl, Nat.zero_add, TopicLine.topic, hline]
  · rw [← List.length_map (f := (·.value)), map_value_subtrees, length_topicsFrom]
  · rw [hls]
    exact parse_lead hlead rest

/-- The lines below a topic that decorate it, with one among them that is rejected, and the next
topic. -/
def decoration : List Line :=
  [⟨4, ":::a b a", 4, 5⟩, ⟨5, "::icon( one )", 4, 5⟩, ⟨6, "[]", 4, 5⟩, ⟨7, ":::b c", 0, 1⟩,
   ⟨8, "::icon( two )", 4, 5⟩, ⟨9, "leaf", 4, 5⟩, ⟨10, ":::d", 4, 5⟩]

/-- A mindmap with a decoration above its root. -/
def decoratedMap : List Line :=
  ⟨1, "mindmap", 0, 1⟩ :: ([⟨2, "::icon(lost)", 2, 3⟩] ++ ⟨3, "root", 2, 3⟩ :: decoration)

theorem decorated_by_lines_below_decoratedMap :
    topicLine? ⟨3, "root", 2, 3⟩ = some ⟨⟨3, "root", 2, 3⟩, .plain, "root"⟩ ∧
      ((parse decoratedMap).diagram.subtrees.map (·.value))[0]? =
        some { id := "node-0", label := "root", shape := .plain, icon := some "two",
               classes := ["a", "b", "c"], line := 3 } ∧
      (∀ l ∈ [(⟨2, "::icon(lost)", 2, 3⟩ : Line)], topicLine? l = none) ∧
      (parse decoratedMap).diagnostics =
        ⟨.warning, "Icon without a node", 2, some 3, []⟩ ::
          (parse (⟨1, "mindmap", 0, 1⟩ :: ⟨3, "root", 2, 3⟩ :: decoration)).diagnostics := by
  have htopic : topicLine? ⟨3, "root", 2, 3⟩ = some ⟨⟨3, "root", 2, 3⟩, .plain, "root"⟩ := by
    decide +kernel
  have hlead : ∀ l ∈ [(⟨2, "::icon(lost)", 2, 3⟩ : Line)], topicLine? l = none := by
    decide +kernel
  have hwarning : [(⟨2, "::icon(lost)", 2, 3⟩ : Line)].map idleWarning =
      [⟨.warning, "Icon without a node", 2, some 3, []⟩] := by
    decide +kernel
  obtain ⟨hvalues, -, hcut⟩ := decorated_by_lines_below decoratedMap
  refine ⟨htopic, ?_, hlead, ?_⟩
  · exact (hvalues [⟨2, "::icon(lost)", 2, 3⟩] _ decoration _ rfl htopic).trans (by decide +kernel)
  · rw [(hcut _ _ _ rfl hlead).2, hwarning]
    rfl

end Mindmap

end DiagramText
