import DiagramText.Gantt.Parse
import DiagramText.Proofs.Roster
import DiagramText.Proofs.Source.Located

/-!
# Sections of Gantt charts

A Gantt chart files its tasks under its sections.  A section that is named again goes on, and the
tasks above all section lines are filed under no name.

1. `sectionName?` and `acceptedTask?`, what a line has to do with the sections.
2. `filed` and `named`, what a source files under which name and which names it uses in turn.
3. `State.Groups`, which ties the sections to the lines above; it is kept by each line.
4. The name on a section line is not empty: only tasks above all of these lines are under no name.
5. Grouping by distinct names loses no task, and `sections_are_stable_groups`.
-/

namespace DiagramText.Gantt

open Source (Line)
open Text

/-! ## Section lines and tasks -/

/-- The keywords of settings, in small letters. -/
def settingKeywords : List String := ["title", "dateformat", "axisformat", "excludes", "includes"]

/-- The name on a section line: the text behind a keyword that is not one of a setting. -/
def sectionName? (l : Line) : Option String :=
  match keyword? l.text.toList with
  | some (spelled, value) =>
    if String.ofList (lower spelled) ∈ settingKeywords then none
    else some (String.ofList (trim value))
  | none => none

/-- The task on a line, if there is one with proper metadata. -/
def acceptedTask? (l : Line) : Option Task :=
  match Statement.recognise l.text with
  | .task label metadata => Task.ofMetadata? label metadata l.number
  | _ => none

theorem ofKeyword_eq_enter_iff {spelled value : List Char} {name : String} :
    Statement.ofKeyword spelled value = .enter name ↔
      String.ofList (lower spelled) ∉ settingKeywords ∧ String.ofList value = name := by
  unfold Statement.ofKeyword
  dsimp only
  split <;> simp_all [settingKeywords]

theorem recognise_eq_enter_iff {l : Line} {name : String} :
    Statement.recognise l.text = .enter name ↔ sectionName? l = some name := by
  rw [Statement.recognise, sectionName?]
  cases keyword? l.text.toList with
  | some p =>
    dsimp only
    rw [ofKeyword_eq_enter_iff]
    split <;> simp_all
  | none =>
    dsimp only
    cases setting? l.text.toList with
    | some p => simp
    | none => cases task? l.text.toList <;> simp

theorem sectionName?_of_acceptedTask? {l : Line} {t : Task} (h : acceptedTask? l = some t) :
    sectionName? l = none := by
  cases hname : sectionName? l with
  | none => rfl
  | some name =>
    rw [acceptedTask?, recognise_eq_enter_iff.2 hname] at h
    cases h

theorem step_of_section {l : Line} {name : String} (h : sectionName? l = some name) (st : State) :
    st.step l = st.enter name := by
  rw [State.step, recognise_eq_enter_iff.2 h]

theorem step_of_task {l : Line} {t : Task} (h : acceptedTask? l = some t) (st : State) :
    st.step l = st.addTask t := by
  unfold acceptedTask? at h
  split at h
  · rename_i label metadata hrecognise
    rw [State.step, hrecognise]
    dsimp only
    rw [h]
  · cases h

/-- All other lines leave the sections alone. -/
theorem step_of_neither {l : Line} (hname : sectionName? l = none) (htask : acceptedTask? l = none)
    (st : State) : (st.step l).chart.sections = st.chart.sections ∧
      (st.step l).current = st.current := by
  unfold State.step
  cases hrecognise : Statement.recognise l.text with
  | enter name =>
    rw [recognise_eq_enter_iff.1 hrecognise] at hname
    cases hname
  | task label metadata =>
    rw [acceptedTask?, hrecognise] at htask
    dsimp only at htask ⊢
    rw [htask]
    exact ⟨rfl, rfl⟩
  | title _ | dateFormat _ | axisFormat _ | excludes _ | includes _ | setting _ _ | invalid =>
    exact ⟨rfl, rfl⟩

/-! ## Filed tasks -/

/-- The name on the last section line. -/
def lastSection? (ls : List Line) : Option String := (ls.filterMap sectionName?).getLast?

/-- The name that a task below the lines `above` is filed under. -/
def heading (above : List Line) : String := (lastSection? above).getD ""

/-- What the lines stand for in turn, each below the lines above it. -/
def readFrom {α : Type} (f : List Line → Line → Option α) (above : List Line) : List Line → List α
  | [] => []
  | l :: ls => (f above l).toList ++ readFrom f (above ++ [l]) ls

/-- The accepted tasks with the names that they are filed under. -/
def filed (ls : List Line) : List (String × Task) :=
  readFrom (fun above l => (acceptedTask? l).map (heading above, ·)) [] ls

/-- The names of sections in turn: those on section lines, and those that tasks are filed under. -/
def named (ls : List Line) : List String :=
  readFrom (fun above l => sectionName? l <|> (acceptedTask? l).map fun _ => heading above) [] ls

/-- The tasks that are filed under a name. -/
def tasksUnder (ls : List Line) (name : String) : List Task :=
  ((filed ls).filter (·.1 = name)).map (·.2)

/-- All accepted tasks. -/
def acceptedTasks (ls : List Line) : List Task := ls.filterMap acceptedTask?

/-- Some task stands above all section lines. -/
def HasTaskAboveSections (ls : List Line) : Prop :=
  ∃ above l below, ls = above ++ l :: below ∧ (acceptedTask? l).isSome = true ∧
    ∀ k ∈ above, sectionName? k = none

/-- The sections of a chart are a stable grouping of the tasks on its lines. -/
structure AreStableGroups (c : Chart) (ls : List Line) : Prop where
  /-- The names stand in order of first appearance. -/
  names : c.sections.keys = (named ls).eraseDups
  nodup : c.sections.keys.Nodup
  /-- Each section has the tasks that are filed under its name, in source order. -/
  tasks : ∀ e ∈ c.sections.entries, e.2 = tasksUnder ls e.1
  ordered : ∀ ts ∈ c.sections.values, ts.Sublist (acceptedTasks ls)
  /-- There is a section without a name only for tasks above all section lines, and it is first. -/
  unnamed : "" ∈ c.sections.keys ↔ HasTaskAboveSections ls
  unnamed_first : "" ∈ c.sections.keys → c.sections.keys.head? = some ""
  /-- No task is lost or filed twice. -/
  perm : c.tasks.Perm (acceptedTasks ls)

section

variable {α : Type} {f : List Line → Line → Option α}

theorem readFrom_append (above ls ls' : List Line) :
    readFrom f above (ls ++ ls') = readFrom f above ls ++ readFrom f (above ++ ls) ls' := by
  induction ls generalizing above with
  | nil => simp [readFrom]
  | cons l ls ih => simp [readFrom, ih]

theorem mem_readFrom {above ls : List Line} {a : α} : a ∈ readFrom f above ls ↔
    ∃ front l back, ls = front ++ l :: back ∧ f (above ++ front) l = some a := by
  induction ls generalizing above with
  | nil => simp [readFrom]
  | cons l ls ih =>
    rw [readFrom, List.mem_append, Option.mem_toList, ih]
    constructor
    · rintro (h | ⟨front, k, back, rfl, h⟩)
      · exact ⟨[], l, ls, rfl, by simpa using h⟩
      · exact ⟨l :: front, k, back, rfl, by simpa using h⟩
    · rintro ⟨front, k, back, hls, h⟩
      cases front with
      | nil =>
        cases hls
        exact .inl (by simpa using h)
      | cons l' front =>
        cases hls
        exact .inr ⟨front, k, back, rfl, by simpa using h⟩

end

theorem named_concat (above : List Line) (l : Line) : named (above ++ [l]) = named above ++
    (sectionName? l <|> (acceptedTask? l).map fun _ => heading above).toList := by
  simp [named, readFrom_append, readFrom]

theorem filed_concat (above : List Line) (l : Line) : filed (above ++ [l]) = filed above ++
    ((acceptedTask? l).map (heading above, ·)).toList := by
  simp [filed, readFrom_append, readFrom]

theorem heading_concat (above : List Line) (l : Line) :
    heading (above ++ [l]) = (sectionName? l).getD (heading above) := by
  cases h : sectionName? l <;> simp [heading, lastSection?, h]

theorem tasksUnder_concat (above : List Line) (l : Line) (name : String) :
    tasksUnder (above ++ [l]) name = tasksUnder above name ++
      if heading above = name then (acceptedTask? l).toList else [] := by
  unfold tasksUnder
  rw [filed_concat, List.filter_append, List.map_append]
  cases acceptedTask? l with
  | none => simp
  | some t => by_cases h : heading above = name <;> simp [h]

theorem map_task_filed (ls : List Line) : (filed ls).map (·.2) = acceptedTasks ls := by
  induction ls using List.reverseRecOn with
  | nil => rfl
  | append_singleton ls l ih =>
    rw [filed_concat, List.map_append, ih, acceptedTasks, acceptedTasks, List.filterMap_append]
    cases h : acceptedTask? l <;> simp [h]

theorem name_mem_named {ls : List Line} {e : String × Task} (h : e ∈ filed ls) :
    e.1 ∈ named ls := by
  obtain ⟨above, l, below, rfl, he⟩ := mem_readFrom.1 h
  obtain ⟨t, ht, rfl⟩ := Option.map_eq_some_iff.1 he
  refine mem_readFrom.2 ⟨above, l, below, rfl, ?_⟩
  rw [sectionName?_of_acceptedTask? ht, ht]
  rfl

/-! ## Reading line by line -/

/-- Opening a section changes the tasks of none. -/
theorem getD_get?_enter (st : State) (name n : String) :
    ((st.enter name).chart.sections.get? n).getD [] = (st.chart.sections.get? n).getD [] := by
  show ((Registry.ensure st.chart.sections name fun _ => []).get? n).getD [] = _
  by_cases hn : n = name
  · subst hn
    rw [Registry.get?_ensure_self]
    rfl
  · rw [Registry.get?_ensure_of_ne _ _ hn]

theorem keys_enter (st : State) (name : String) :
    (st.enter name).chart.sections.keys = addNew st.chart.sections.keys name :=
  Registry.keys_ensure _ _ _

theorem mem_keys_enter (st : State) (name : String) :
    name ∈ (st.enter name).chart.sections.keys := by
  rw [keys_enter]
  exact mem_addNew.2 (.inr rfl)

/-- The sections of a chart that has been read so far. -/
structure State.Groups (st : State) (above : List Line) : Prop where
  current : st.current.getD "" = heading above
  known : ∀ n, st.current = some n → n ∈ st.chart.sections.keys
  names : st.chart.sections.keys = addAllNew [] (named above)
  tasks : ∀ n, (st.chart.sections.get? n).getD [] = tasksUnder above n

namespace State.Groups

variable {st : State} {above : List Line}

theorem init : State.Groups {} [] where
  current := rfl
  known := nofun
  names := rfl
  tasks _ := rfl

/-- A task goes to the section under its heading, which is opened if it is not open. -/
theorem addTask_eq (h : st.Groups above) (t : Task) :
    st.addTask t = { st.enter (heading above) with
      chart.sections :=
        (st.enter (heading above)).chart.sections.modify (heading above) (· ++ [t]) } := by
  rw [State.addTask, ← h.current]
  cases hcurrent : st.current with
  | none => rfl
  | some n =>
    obtain ⟨ts, hts⟩ := OrderedMap.mem_keys_iff.1 (h.known n hcurrent)
    have henter : st.enter n = st := by
      simp [State.enter, Registry.ensure, Registry.ensureUnless, hts, ← hcurrent]
    simp [hcurrent, henter]

theorem enter (h : st.Groups above) {l : Line} {name : String} (hname : sectionName? l = some name)
    (htask : acceptedTask? l = none) : (st.enter name).Groups (above ++ [l]) where
  current := by rw [heading_concat, hname]; rfl
  known n hn := by
    cases hn
    exact mem_keys_enter st name
  names := by
    rw [keys_enter, h.names, named_concat, hname, addAllNew_append]
    rfl
  tasks n := by
    rw [getD_get?_enter, h.tasks, tasksUnder_concat, htask]
    simp

theorem addTask (h : st.Groups above) {l : Line} {t : Task} (ht : acceptedTask? l = some t) :
    (st.addTask t).Groups (above ++ [l]) := by
  have hname := sectionName?_of_acceptedTask? ht
  rw [h.addTask_eq]
  refine ⟨?_, fun n hn => ?_, ?_, fun n => ?_⟩
  · rw [heading_concat, hname]
    rfl
  · cases hn
    rw [OrderedMap.keys_modify]
    exact mem_keys_enter st (heading above)
  · rw [OrderedMap.keys_modify, keys_enter, h.names, named_concat, hname, ht, addAllNew_append]
    rfl
  · rw [tasksUnder_concat, ht, ← h.tasks, ← getD_get?_enter st (heading above)]
    by_cases hn : heading above = n
    · subst hn
      obtain ⟨ts, hts⟩ := OrderedMap.mem_keys_iff.1 (mem_keys_enter st (heading above))
      rw [OrderedMap.get?_modify_self, hts, if_pos rfl]
      rfl
    · rw [OrderedMap.get?_modify_of_ne _ _ (Ne.symm hn), if_neg hn, List.append_nil]

theorem step (h : st.Groups above) (l : Line) : (st.step l).Groups (above ++ [l]) := by
  cases htask : acceptedTask? l with
  | some t =>
    rw [step_of_task htask]
    exact h.addTask htask
  | none =>
    cases hname : sectionName? l with
    | some name =>
      rw [step_of_section hname]
      exact h.enter hname htask
    | none =>
      obtain ⟨hsections, hcurrent⟩ := step_of_neither hname htask st
      refine ⟨?_, ?_, ?_, fun n => ?_⟩
      · rw [hcurrent, h.current, heading_concat, hname]
        rfl
      · rw [hcurrent, hsections]
        exact h.known
      · rw [hsections, h.names, named_concat, hname, htask]
        exact congrArg _ (List.append_nil _).symm
      · rw [hsections, h.tasks, tasksUnder_concat, htask]
        simp

theorem foldl (h : st.Groups above) (ls : List Line) :
    (ls.foldl State.step st).Groups (above ++ ls) := by
  induction ls generalizing st above with
  | nil => simpa using h
  | cons l ls ih => simpa using ih (h.step l)

end State.Groups

/-! ## Tasks without a section line -/

theorem isBlank_of_trim_eq_nil {s : List Char} (h : trim s = []) : ∀ c ∈ s, isBlank c = true := by
  by_contra hsolid
  have hsolid : ∃ c ∈ s, isBlank c = false := by simpa using hsolid
  obtain ⟨d, r, hstart, -, hd⟩ := exists_trimStart_append hsolid []
  rw [List.append_nil] at hstart
  rw [trim, hstart, trimEnd_cons hd] at h
  cases h

/-- The text behind a keyword is not blank: it ends where the line does. -/
theorem not_blank_of_keyword? {s spelled value : List Char} (hs : trim s = s)
    (h : keyword? s = some (spelled, value)) : trim value ≠ [] := by
  obtain ⟨w, -, hw⟩ := List.exists_of_findSome?_eq_some h
  obtain ⟨⟨t, rest⟩, ht, hrest⟩ := Option.bind_eq_some_iff.1 hw
  obtain ⟨v, hv, hpair⟩ := Option.bind_eq_some_iff.1 hrest
  cases hpair
  obtain ⟨rfl, -⟩ := caseless?_eq_some_iff.1 ht
  obtain ⟨b, u, rfl, hu⟩ := exists_cut_of_longest₁ hv
  intro hblank
  have hall := isBlank_of_trim_eq_nil hblank
  unfold lineRest₁? at hu
  split at hu
  · rename_i c r hline
    cases hu
    obtain ⟨hc, hr⟩ := List.forall_mem_cons.1 hall
    obtain ⟨tail, htail, hu⟩ : ∃ tail, (∀ d ∈ tail, isBlank d = true) ∧ u = c :: (r ++ tail) := by
      rcases eq_of_lineRest? hline with rfl | rfl
      · exact ⟨[], List.forall_mem_nil _, by simp⟩
      · exact ⟨['\n'], by decide, rfl⟩
    have hs' : spelled ++ (b ++ u) = (spelled ++ b) ++ c :: (r ++ tail) := by simp [hu]
    obtain ⟨d, hd, hsolid⟩ := exists_solid_of_trim hs hs' hc
    have hblank : isBlank d = true := (List.mem_append.1 hd).elim (hr d) (htail d)
    rw [hsolid] at hblank
    cases hblank
  · cases hu

theorem sectionName?_ne_empty {l : Line} (h : l.HoldsStatement) : sectionName? l ≠ some "" := by
  unfold sectionName?
  split
  · rename_i spelled value hkeyword
    have hvalue := not_blank_of_keyword? h.trimmed hkeyword
    split
    · nofun
    · simpa using hvalue
  · nofun

theorem heading_eq_empty_iff {above : List Line} (h : ∀ l ∈ above, l.HoldsStatement) :
    heading above = "" ↔ ∀ l ∈ above, sectionName? l = none := by
  rw [heading, lastSection?]
  constructor
  · intro hempty l hl
    cases hlast : (above.filterMap sectionName?).getLast? with
    | none => exact List.filterMap_eq_nil_iff.1 (List.getLast?_eq_none_iff.1 hlast) l hl
    | some name =>
      rw [hlast] at hempty
      obtain ⟨k, hk, hname⟩ := List.mem_filterMap.1 (List.mem_of_getLast? hlast)
      exact absurd (hempty ▸ hname) (sectionName?_ne_empty (h k hk))
  · intro hnone
    rw [List.filterMap_eq_nil_iff.2 hnone]
    rfl

theorem empty_mem_named_iff {ls : List Line} (h : ∀ l ∈ ls, l.HoldsStatement) :
    "" ∈ named ls ↔ HasTaskAboveSections ls := by
  rw [named, mem_readFrom]
  refine exists_congr fun above => exists_congr fun l => exists_congr fun below =>
    and_congr_right ?_
  rintro rfl
  obtain ⟨habove, hrest⟩ := List.forall_mem_append.1 h
  have hl := hrest l List.mem_cons_self
  rw [List.nil_append, ← heading_eq_empty_iff habove]
  cases htask : acceptedTask? l with
  | some t => simp [sectionName?_of_acceptedTask? htask]
  | none => simpa using sectionName?_ne_empty hl

/-- Above the first section line, there is no name but the empty one. -/
theorem eq_empty_of_mem_named {ls : List Line} (h : ∀ l ∈ ls, l.HoldsStatement)
    (hnone : ∀ l ∈ ls, sectionName? l = none) {name : String} (hname : name ∈ named ls) :
    name = "" := by
  obtain ⟨above, l, below, rfl, hf⟩ := mem_readFrom.1 hname
  have hempty : heading above = "" := (heading_eq_empty_iff fun k hk =>
    h k (List.mem_append_left _ hk)).2 fun k hk => hnone k (List.mem_append_left _ hk)
  rw [hnone l (List.mem_append_right _ List.mem_cons_self), List.nil_append, hempty] at hf
  obtain ⟨-, -, hname⟩ := Option.map_eq_some_iff.1 hf
  exact hname.symm

theorem head?_named {ls : List Line} (h : ∀ l ∈ ls, l.HoldsStatement)
    (htask : HasTaskAboveSections ls) : (named ls).head? = some "" := by
  obtain ⟨above, l, below, rfl, htask, hnone⟩ := htask
  obtain ⟨t, ht⟩ := Option.isSome_iff_exists.1 htask
  obtain ⟨habove, -⟩ := List.forall_mem_append.1 h
  have hempty := (heading_eq_empty_iff habove).2 hnone
  have hall : ∀ n ∈ named (above ++ [l]), n = "" := by
    intro n hn
    rw [named_concat, sectionName?_of_acceptedTask? ht, ht, hempty] at hn
    rcases List.mem_append.1 hn with hn | hn
    · exact eq_empty_of_mem_named habove hnone hn
    · simpa using hn
  have hne : named (above ++ [l]) ≠ [] := by
    rw [named_concat, sectionName?_of_acceptedTask? ht, ht]
    simp
  obtain ⟨n, ns, hcons⟩ := List.exists_cons_of_ne_nil hne
  have hfirst : n = "" := hall n (by rw [hcons]; exact List.mem_cons_self)
  rw [List.append_cons, named, readFrom_append]
  rw [named] at hcons
  rw [hcons, hfirst]
  rfl

/-! ## Grouping -/

/-- Grouping by distinct keys keeps every entry, if all keys are taken. -/
theorem flatMap_filter_perm {κ α : Type} [DecidableEq κ] {ks : List κ} (hks : ks.Nodup)
    {es : List (κ × α)} (hes : ∀ e ∈ es, e.1 ∈ ks) :
    (ks.flatMap fun k => es.filter (·.1 = k)).Perm es := by
  induction ks generalizing es with
  | nil =>
    obtain rfl : es = [] := List.eq_nil_iff_forall_not_mem.2 fun e he => nomatch hes e he
    exact .nil
  | cons k ks ih =>
    obtain ⟨hk, hks⟩ := List.nodup_cons.1 hks
    have hothers : (ks.flatMap fun j => es.filter (·.1 = j)) =
        ks.flatMap fun j => (es.filter (¬ ·.1 = k)).filter (·.1 = j) := by
      refine List.flatMap_congr fun j hj => ?_
      have hjk : j ≠ k := fun he => hk (he ▸ hj)
      rw [List.filter_filter]
      refine List.filter_congr fun e _ => ?_
      by_cases he : e.1 = j <;> simp [he, hjk]
    have hrest : ∀ e ∈ es.filter (¬ ·.1 = k), e.1 ∈ ks := by
      intro e he
      obtain ⟨hmem, hne⟩ := List.mem_filter.1 he
      exact (List.mem_cons.1 (hes e hmem)).resolve_left (by simpa using hne)
    rw [List.flatMap_cons, hothers]
    exact ((ih hks hrest).append_left _).trans (by simpa using List.filter_append_perm _ es)

/-- **Sections.** Section names are distinct and stand in order of first appearance; each section
has the tasks that are filed under its name, in source order, and no task is lost.  Tasks above all
section lines are in an unnamed section, which is the first one then and is missing otherwise. -/
theorem sections_are_stable_groups {ls : List Line} (h : ∀ l ∈ ls.tail, l.HoldsStatement) :
    AreStableGroups (parse ls).diagram ls.tail := by
  have hgroups : (ls.tail.foldl State.step {}).Groups ls.tail := State.Groups.init.foldl ls.tail
  show AreStableGroups (ls.tail.foldl State.step {}).chart ls.tail
  generalize ls.tail.foldl State.step {} = st at hgroups
  have hnames : st.chart.sections.keys = (named ls.tail).eraseDups :=
    hgroups.names.trans (addAllNew_nil _)
  have hnodup : st.chart.sections.keys.Nodup := hgroups.names ▸ nodup_addAllNew _ List.nodup_nil
  have hmem {name : String} : name ∈ st.chart.sections.keys ↔ name ∈ named ls.tail := by
    rw [hnames, List.mem_eraseDups]
  have htasks : ∀ e ∈ st.chart.sections.entries, e.2 = tasksUnder ls.tail e.1 := by
    intro e he
    rw [← hgroups.tasks, OrderedMap.get?_of_mem hnodup he]
    rfl
  have hvalues := OrderedMap.values_eq_map htasks
  have hunnamed := hmem.trans (empty_mem_named_iff h)
  refine ⟨hnames, hnodup, htasks, fun ts hts => ?_, hunnamed, fun hempty => ?_, ?_⟩
  · rw [hvalues] at hts
    obtain ⟨name, -, rfl⟩ := List.mem_map.1 hts
    rw [← map_task_filed]
    exact List.filter_sublist.map _
  · have hhead := head?_named h (hunnamed.1 hempty)
    obtain ⟨names, hcons⟩ := List.head?_eq_some_iff.1 hhead
    rw [hnames, hcons, List.eraseDups_cons]
    rfl
  · have hcovered : ∀ e ∈ filed ls.tail, e.1 ∈ st.chart.sections.keys := fun e he =>
      hmem.2 (name_mem_named he)
    have hflat : st.chart.tasks = (st.chart.sections.keys.flatMap fun name =>
        (filed ls.tail).filter (·.1 = name)).map (·.2) := by
      rw [Chart.tasks, hvalues, ← List.flatMap_def, List.map_flatMap]
      rfl
    rw [hflat, ← map_task_filed]
    exact (flatMap_filter_perm hnodup hcovered).map _

/-- A task above the first section, and a section that is named again. -/
def reopenedSection : String :=
  "gantt\nEarly :1d\nsection A\nOne :2d\nsection B\nTwo :x, 3d\nsection A\nThree :milestone"

theorem sections_are_stable_groups_reopened :
    (∀ l ∈ (Source.scan reopenedSection false).tail, l.HoldsStatement) ∧
      AreStableGroups (parse (Source.scan reopenedSection false)).diagram
        (Source.scan reopenedSection false).tail ∧
      (parse (Source.scan reopenedSection false)).diagram.sections.entries.map
          (fun e => (e.1, e.2.map (·.label))) =
        [("", ["Early"]), ("A", ["One", "Three"]), ("B", ["Two"])] := by
  have hlines : ∀ l ∈ (Source.scan reopenedSection false).tail, l.HoldsStatement := fun l hl =>
    Source.holdsStatement_of_mem_scan (List.mem_of_mem_tail hl)
  exact ⟨hlines, sections_are_stable_groups hlines, by decide +kernel⟩

end DiagramText.Gantt
