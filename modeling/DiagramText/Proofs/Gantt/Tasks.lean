import DiagramText.Proofs.Gantt.Sections
import DiagramText.Proofs.Text.Words

/-!
# What a task keeps

The metadata of a task are tags and up to three parts: an id, a start and an end, of which the end
alone, or the start and the end, may be there.  A start or an end is a text, or the ids of the tasks
to wait for.  There is one place for such ids, so that those of the end take the place of those of
the start.

1. `IsMetadata` and `IsAfter`, the written forms of metadata and of tasks to wait for.
2. `Task.Keeps`, what a task has of its tags and parts; the start is apart (`Task.KeepsStart`,
   `EndNamesStart`).
3. Readers of the parts: the leading tags, and the ids behind `after`.
4. What a start and an end change in a task.
5. `task_parts_kept_iff`: all is kept, but for ids of the start that the end does not name.
-/

namespace DiagramText.Gantt

open Source (Line)
open Text

/-! ## Written tasks -/

/-- Metadata with the given tags in front: the trimmed pieces between commas are these tags and then
the parts, among empty pieces; no further tag stands at the front. -/
def IsMetadata (metadata : List Char) (tags : List Tag) (parts : List (List Char)) : Prop :=
  ∃ rest, (splitOn ',' metadata).map trim = tags.map (·.name.toList) ++ rest ∧
    (∀ p ∈ rest.head?, ∀ tag : Tag, p ≠ tag.name.toList) ∧ parts = rest.filter (· ≠ [])

/-- A part such as `after a b`, with its ids. -/
def IsAfter (part : List Char) (ids : List String) : Prop :=
  ∃ gap s, IsGap gap ∧ part = "after".toList ++ (gap ++ s) ∧ ids = (words s).map String.ofList

/-- The part in front of the end. -/
def startPart? (parts : List (List Char)) : Option (List Char) := parts.dropLast.getLast?

/-- Where the start and the end are both `after` ids, the end names all ids of the start. -/
def EndNamesStart (parts : List (List Char)) : Prop :=
  ∀ start ∈ startPart? parts, ∀ finish ∈ parts.getLast?, ∀ ids ids',
    IsAfter start ids → IsAfter finish ids' → ids ⊆ ids'

namespace Task

/-- A part is kept by its ids, if it is `after` ids, and as it is written in one of the places
otherwise. -/
structure KeepsPart (t : Task) (places : List (Option String)) (part : List Char) : Prop where
  ids : ∀ ids, IsAfter part ids → ∀ id ∈ ids, id ∈ t.afterIds
  text : (¬ ∃ ids, IsAfter part ids) → some (String.ofList part) ∈ places

/-- A task keeps its tags, once each, the id in front of a start and an end, and its end. -/
structure Keeps (t : Task) (tags : List Tag) (parts : List (List Char)) : Prop where
  tags : t.tags = tags.eraseDups
  few : parts.length ≤ 3
  id : t.id = if parts.length = 3 then parts.head?.map String.ofList else none
  finish : ∀ part ∈ parts.getLast?, t.KeepsPart [t.finish, t.duration] part
  one_end : t.finish = none ∨ t.duration = none

/-- A task keeps its start. -/
def KeepsStart (t : Task) (parts : List (List Char)) : Prop :=
  ∀ part ∈ startPart? parts, t.KeepsPart [t.start] part

end Task

/-! ## Tags and parts -/

theorem Tag.ofName?_name (tag : Tag) : Tag.ofName? tag.name = some tag := by cases tag <;> rfl

theorem Tag.name_of_ofName? {s : String} {tag : Tag} (h : Tag.ofName? s = some tag) :
    tag.name = s := by
  simpa using List.find?_some h

theorem leadingTags_spec {ps : List (List Char)} {tags : List Tag} {rest : List (List Char)}
    (h : leadingTags ps = (tags, rest)) :
    ps = tags.map (·.name.toList) ++ rest ∧
      ∀ p ∈ rest.head?, ∀ tag : Tag, p ≠ tag.name.toList := by
  induction ps generalizing tags with
  | nil =>
    cases h
    exact ⟨rfl, nofun⟩
  | cons p ps ih =>
    rw [leadingTags] at h
    split at h
    · rename_i tag htag
      cases h
      obtain ⟨hps, hrest⟩ := ih rfl
      refine ⟨?_, hrest⟩
      rw [List.map_cons, Tag.name_of_ofName? htag, String.toList_ofList, List.cons_append, ← hps]
    · rename_i hnone
      cases h
      refine ⟨rfl, ?_⟩
      rintro _ ⟨⟩ tag rfl
      rw [String.ofList_toList, Tag.ofName?_name] at hnone
      cases hnone

/-- A part of a task: a trimmed text of one line. -/
structure IsPart (part : List Char) : Prop where
  trimmed : trim part = part
  line : '\n' ∉ part

theorem IsMetadata.isPart {metadata : List Char} {tags : List Tag} {parts : List (List Char)}
    (h : IsMetadata metadata tags parts) (hline : '\n' ∉ metadata) : ∀ p ∈ parts, IsPart p := by
  obtain ⟨rest, hpieces, -, rfl⟩ := h
  intro p hp
  have hmem : p ∈ (splitOn ',' metadata).map trim := by
    rw [hpieces]
    exact List.mem_append_right _ (List.mem_of_mem_filter hp)
  obtain ⟨piece, hpiece, rfl⟩ := List.mem_map.1 hmem
  exact ⟨trim_trim piece, fun hfeed =>
    hline (subset_of_mem_splitWhere hpiece ((trim_isInfix piece).subset hfeed))⟩

/-- Behind a gap stands the rest of the line, which has the same words wherever the gap ends. -/
theorem exists_rest_of_gap {gap s : List Char} (hgap : IsGap gap)
    (hsolid : ∃ d ∈ s, isBlank d = false) (hline : '\n' ∉ s) :
    ∃ u, blanks₁ (gap ++ s) lineRest₁? = some u ∧ words u = words s := by
  obtain ⟨c, r, hstart, -, hc⟩ := exists_trimStart_append hsolid []
  rw [List.append_nil] at hstart
  have hsplit : gap ++ s = (gap ++ s.takeWhile isBlank) ++ (c :: r) := by
    rw [← hstart, List.append_assoc, trimStart, List.takeWhile_append_dropWhile]
  have hrun : IsGap (gap ++ s.takeWhile isBlank) :=
    ⟨List.append_ne_nil_of_left_ne_nil hgap.1 _,
      List.forall_mem_append.2 ⟨hgap.2, fun c hc => List.mem_takeWhile_imp hc⟩⟩
  have hfeed : '\n' ∉ c :: r := fun hmem =>
    hline ((trimStart_isSuffix s).subset (hstart ▸ hmem))
  refine ⟨c :: r, ?_, ?_⟩
  · rw [hsplit]
    refine blanks₁_append hrun (by simpa using hc) ?_
    rw [lineRest₁?, lineRest?_of_notMem hfeed]
  · rw [← hstart]
    exact parts_trimStart (fun _ hb => hb) s

/-- The ids behind `after` are found in any part of that form, and in no other one. -/
theorem IsPart.after?_eq_some_iff {part : List Char} (h : IsPart part) {ids : List String} :
    after? part = some ids ↔ IsAfter part ids := by
  constructor
  · intro hids
    obtain ⟨r, hr, hids⟩ := Option.bind_eq_some_iff.1 hids
    obtain ⟨s, hs, hids⟩ := Option.bind_eq_some_iff.1 hids
    cases hids
    obtain ⟨gap, u, rfl, hne, hblank, hu⟩ := exists_run_of_longest₁ hs
    have hpart := literal?_eq_some_iff.1 hr
    have hline : '\n' ∉ u := fun hmem =>
      h.line (hpart ▸ List.mem_append_right _ (List.mem_append_right _ hmem))
    rw [lineRest₁?, lineRest?_of_notMem hline] at hu
    obtain rfl : u = s := by
      cases u with
      | nil => cases hu
      | cons c u => exact Option.some.inj hu
    exact ⟨gap, u, ⟨hne, hblank⟩, hpart, rfl⟩
  · rintro ⟨gap, s, hgap, hpart, rfl⟩
    have hline : '\n' ∉ s := fun hmem =>
      h.line (hpart ▸ List.mem_append_right _ (List.mem_append_right _ hmem))
    -- Behind the gap stands more than blanks, as the part is trimmed.
    have hsolid : ∃ d ∈ s, isBlank d = false := by
      obtain ⟨gap, b, rfl⟩ := (List.eq_nil_or_concat' gap).resolve_left hgap.1
      have hb : isBlank b = true := hgap.2 b (List.mem_append_right _ List.mem_cons_self)
      exact exists_solid_of_trim h.trimmed (x := "after".toList ++ gap) (by simp [hpart]) hb
    obtain ⟨u, hu, hwords⟩ := exists_rest_of_gap hgap hsolid hline
    have hliteral : literal? "after".toList part = some (gap ++ s) := literal?_eq_some_iff.2 hpart
    rw [after?, hliteral, Option.bind_eq_bind, Option.bind_some, hu, Option.bind_some, hwords]
    rfl

/-! ## Starts and ends -/

namespace Task

/-- What a start changes. -/
theorem withStart_cases (t : Task) (part : List Char) :
    (∃ ids, after? part = some ids ∧ t.withStart part = { t with afterIds := ids }) ∨
      after? part = none ∧ t.withStart part = { t with start := some (String.ofList part) } := by
  unfold withStart
  cases after? part with
  | some ids => exact .inl ⟨ids, rfl, rfl⟩
  | none => exact .inr ⟨rfl, rfl⟩

/-- What an end changes. -/
theorem withFinish_cases (t : Task) (part : List Char) :
    (∃ ids, after? part = some ids ∧ t.withFinish part = { t with afterIds := ids }) ∨
      after? part = none ∧
        (t.withFinish part = { t with duration := some (String.ofList part) } ∨
          t.withFinish part = { t with finish := some (String.ofList part) }) := by
  unfold withFinish
  cases after? part with
  | some ids => exact .inl ⟨ids, rfl, rfl⟩
  | none =>
    refine .inr ⟨rfl, ?_⟩
    dsimp only
    split
    · exact .inl rfl
    · exact .inr rfl

/-- A start leaves the places of the end alone, as well as the id and the tags. -/
theorem withStart_frame (t : Task) (part : List Char) :
    (t.withStart part).id = t.id ∧ (t.withStart part).tags = t.tags ∧
      (t.withStart part).finish = t.finish ∧ (t.withStart part).duration = t.duration := by
  obtain ⟨ids, -, heq⟩ | ⟨-, heq⟩ := t.withStart_cases part <;> rw [heq] <;>
    exact ⟨rfl, rfl, rfl, rfl⟩

/-- An end leaves the id and the tags alone. -/
theorem withFinish_frame (t : Task) (part : List Char) :
    (t.withFinish part).id = t.id ∧ (t.withFinish part).tags = t.tags := by
  obtain ⟨ids, -, heq⟩ | ⟨-, heq | heq⟩ := t.withFinish_cases part <;> rw [heq] <;>
    exact ⟨rfl, rfl⟩

theorem one_end_withFinish (t : Task) (part : List Char) (hfinish : t.finish = none)
    (hduration : t.duration = none) :
    (t.withFinish part).finish = none ∨ (t.withFinish part).duration = none := by
  obtain ⟨ids, -, heq⟩ | ⟨-, heq | heq⟩ := t.withFinish_cases part
  · rw [heq]
    exact .inl hfinish
  · rw [heq]
    exact .inl hfinish
  · rw [heq]
    exact .inr hduration

theorem keepsPart_of_after {t : Task} {part : List Char} (h : IsPart part) {ids : List String}
    (hids : after? part = some ids) (places : List (Option String)) :
    t.KeepsPart places part ↔ ∀ id ∈ ids, id ∈ t.afterIds := by
  refine ⟨fun hkeeps => hkeeps.ids ids (h.after?_eq_some_iff.1 hids), fun hmem => ⟨?_, ?_⟩⟩
  · intro ids' hafter
    obtain rfl : ids = ids' := by
      simpa [hids] using h.after?_eq_some_iff.2 hafter
    exact hmem
  · intro hnone
    exact absurd ⟨ids, h.after?_eq_some_iff.1 hids⟩ hnone

theorem keepsPart_of_text {t : Task} {part : List Char} (h : IsPart part)
    (hnone : after? part = none) {places : List (Option String)}
    (hmem : some (String.ofList part) ∈ places) : t.KeepsPart places part where
  ids ids hafter := by
    rw [h.after?_eq_some_iff.2 hafter] at hnone
    cases hnone
  text _ := hmem

/-- The end is kept, in one place. -/
theorem keepsPart_withFinish (t : Task) {part : List Char} (h : IsPart part) :
    (t.withFinish part).KeepsPart [(t.withFinish part).finish, (t.withFinish part).duration]
      part := by
  obtain ⟨ids, hids, heq⟩ | ⟨hnone, heq | heq⟩ := t.withFinish_cases part
  · rw [keepsPart_of_after h hids, heq]
    exact fun id hid => hid
  · rw [heq]
    exact keepsPart_of_text h hnone (by simp)
  · rw [heq]
    exact keepsPart_of_text h hnone (by simp)

/-- The start is kept behind the end, unless both are `after` ids and the end does not name all ids
of the start. -/
theorem keepsPart_withStart_iff (t : Task) {start finish : List Char} (hstart : IsPart start)
    (hfinish : IsPart finish) :
    ((t.withStart start).withFinish finish).KeepsPart
        [((t.withStart start).withFinish finish).start] start ↔
      ∀ ids ids', IsAfter start ids → IsAfter finish ids' → ids ⊆ ids' := by
  simp only [← hstart.after?_eq_some_iff, ← hfinish.after?_eq_some_iff]
  obtain ⟨ids, hids, heq⟩ | ⟨hnone, heq⟩ := t.withStart_cases start
  · rw [keepsPart_of_after hstart hids, heq]
    obtain ⟨ids', hids', heq'⟩ | ⟨hnone', heq' | heq'⟩ :=
      withFinish_cases { t with afterIds := ids } finish
    · rw [heq']
      simp [hids, hids', List.subset_def]
    · simp [heq', hnone']
    · simp [heq', hnone']
  · rw [heq]
    refine iff_of_true (keepsPart_of_text hstart hnone ?_) (by simp [hnone])
    obtain ⟨ids', -, heq'⟩ | ⟨-, heq' | heq'⟩ :=
      withFinish_cases { t with start := some (String.ofList start) } finish <;> simp [heq']

end Task

/-! ## Accepted tasks -/

/-- Metadata are the rest of a line. -/
theorem notMem_of_recognise {text : String} {label metadata : List Char}
    (h : Statement.recognise text = .task label metadata) : '\n' ∉ metadata := by
  unfold Statement.recognise at h
  dsimp only at h
  split at h
  · unfold Statement.ofKeyword at h
    dsimp only at h
    split at h <;> cases h
  · split at h
    · cases h
    · split at h
      · rename_i htask
        cases h
        unfold task? at htask
        split at htask
        · cases htask
        · obtain ⟨rest, hrest, hpair⟩ := Option.map_eq_some_iff.1 htask
          cases hpair
          exact notMem_of_lineRest? hrest
        · cases htask
      · cases h

/-- A task made from up to three parts: the end comes last and the start in front of it. -/
inductive Task.MadeFrom (task : Task) : List (List Char) → Task → Prop
  | bare : MadeFrom task [] task
  | ended (finish : List Char) : MadeFrom task [finish] (task.withFinish finish)
  | started (start finish : List Char) :
      MadeFrom task [start, finish] ((task.withStart start).withFinish finish)
  | named (id start finish : List Char) : MadeFrom task [id, start, finish]
      (({ task with id := some (String.ofList id) }.withStart start).withFinish finish)

/-- Accepted metadata are tags and parts, from which the task is made. -/
theorem exists_of_ofMetadata? {label metadata : List Char} {line : Int} {t : Task}
    (h : Task.ofMetadata? label metadata line = some t) :
    ∃ tags parts, IsMetadata metadata tags parts ∧
      Task.MadeFrom { label := String.ofList label, tags := addAllNew [] tags, line } parts t := by
  unfold Task.ofMetadata? at h
  cases hlead : leadingTags ((splitOn ',' metadata).map trim) with
  | mk tags rest =>
    obtain ⟨hpieces, hhead⟩ := leadingTags_spec hlead
    refine ⟨tags, rest.filter (· ≠ []), ⟨rest, hpieces, hhead, rfl⟩, ?_⟩
    rw [hlead] at h
    dsimp only at h
    split at h
    · rename_i hparts
      split at h
      · cases h
        rw [hparts]
        exact .bare
      · cases h
    · rename_i hparts
      cases h
      rw [hparts]
      exact .ended _
    · rename_i hparts
      cases h
      rw [hparts]
      exact .started _ _
    · rename_i hparts
      cases h
      rw [hparts]
      exact .named _ _ _
    · cases h

/-- An end that comes last is kept with what there was before. -/
theorem Task.keeps_withFinish {task : Task} {tags : List Tag} {parts : List (List Char)}
    {finish : List Char} (hpart : IsPart finish) (hlast : parts.getLast? = some finish)
    (hfew : parts.length ≤ 3) (htags : task.tags = tags.eraseDups)
    (hid : task.id = if parts.length = 3 then parts.head?.map String.ofList else none)
    (hfinish : task.finish = none) (hduration : task.duration = none) :
    (task.withFinish finish).Keeps tags parts := by
  obtain ⟨hid', htags'⟩ := task.withFinish_frame finish
  refine ⟨htags'.trans htags, hfew, hid'.trans hid, fun part hlast' => ?_,
    task.one_end_withFinish finish hfinish hduration⟩
  obtain rfl : finish = part := Option.some.inj (hlast.symm.trans hlast')
  exact task.keepsPart_withFinish hpart

/-- What is made from parts keeps them, but for the start. -/
theorem Task.MadeFrom.keeps {task t : Task} {tags : List Tag} {parts : List (List Char)}
    (h : task.MadeFrom parts t) (hparts : ∀ p ∈ parts, IsPart p)
    (htags : task.tags = tags.eraseDups) (hid : task.id = none) (hfinish : task.finish = none)
    (hduration : task.duration = none) : t.Keeps tags parts := by
  cases h with
  | bare => exact ⟨htags, Nat.zero_le 3, hid, nofun, .inl hfinish⟩
  | ended finish =>
    exact keeps_withFinish (hparts finish (by simp)) rfl (by simp) htags hid hfinish hduration
  | started start finish =>
    obtain ⟨hid', htags', hfinish', hduration'⟩ := task.withStart_frame start
    exact keeps_withFinish (hparts finish (by simp)) rfl (by simp) (htags'.trans htags)
      (hid'.trans hid) (hfinish'.trans hfinish) (hduration'.trans hduration)
  | named id start finish =>
    obtain ⟨hid', htags', hfinish', hduration'⟩ :=
      withStart_frame { task with id := some (String.ofList id) } start
    exact keeps_withFinish (hparts finish (by simp)) rfl (by simp) (htags'.trans htags) hid'
      (hfinish'.trans hfinish) (hduration'.trans hduration)

/-- The start is kept, unless the end takes the place of its ids. -/
theorem Task.MadeFrom.keepsStart_iff {task t : Task} {parts : List (List Char)}
    (h : task.MadeFrom parts t) (hparts : ∀ p ∈ parts, IsPart p) :
    t.KeepsStart parts ↔ EndNamesStart parts := by
  have hkept (task : Task) {start finish : List Char} (hstart : start ∈ parts)
      (hfinish : finish ∈ parts) := task.keepsPart_withStart_iff (hparts start hstart)
    (hparts finish hfinish)
  cases h with
  | bare => exact iff_of_true nofun nofun
  | ended finish => exact iff_of_true nofun nofun
  | started start finish =>
    simpa [KeepsStart, EndNamesStart, startPart?] using hkept task (by simp) (by simp)
  | named id start finish =>
    simpa [KeepsStart, EndNamesStart, startPart?] using
      hkept { task with id := some (String.ofList id) } (by simp) (by simp)

/-- **Tasks.** An accepted task keeps its tags, once each and in order, and all of up to three parts
but the start.  The start is kept if and only if the end names all of its ids, wherever both are
`after` ids. -/
theorem task_parts_kept_iff {l : Line} {t : Task} (h : acceptedTask? l = some t) :
    ∃ label metadata tags parts,
      Statement.recognise l.text = .task label metadata ∧ IsMetadata metadata tags parts ∧
      t.Keeps tags parts ∧ (t.KeepsStart parts ↔ EndNamesStart parts) := by
  unfold acceptedTask? at h
  split at h
  · rename_i label metadata hrecognise
    obtain ⟨tags, parts, hmetadata, hmade⟩ := exists_of_ofMetadata? h
    have hparts := hmetadata.isPart (notMem_of_recognise hrecognise)
    exact ⟨label, metadata, tags, parts, hrecognise, hmetadata,
      hmade.keeps hparts (addAllNew_nil tags) rfl rfl rfl, hmade.keepsStart_iff hparts⟩
  · cases h

/-- A line with repeated tags and an empty piece, whose end names the ids of its start again. -/
def renamedDependencies : Line := ⟨2, "Fix :crit, done, crit, f1, after a b, , after b a c", 0, 1⟩

/-- The task of this line. -/
def fixTask : Task :=
  { label := "Fix", id := some "f1", tags := [.crit, .done], afterIds := ["b", "a", "c"], line := 2 }

theorem task_parts_kept_iff_renamedDependencies :
    acceptedTask? renamedDependencies = some fixTask ∧
    ∃ label metadata tags parts,
      Statement.recognise renamedDependencies.text = .task label metadata ∧
      IsMetadata metadata tags parts ∧ fixTask.Keeps tags parts ∧
      (fixTask.KeepsStart parts ↔ EndNamesStart parts) := by
  have haccepted : acceptedTask? renamedDependencies = some fixTask := by decide +kernel
  exact ⟨haccepted, task_parts_kept_iff haccepted⟩

/-- A line with a task that waits for one task to start and for another one to end. -/
def twoDependencies : Line := ⟨2, "X: after a, after b", 0, 1⟩

/-- Only the second one is kept. -/
theorem twoDependencies_not_kept :
    acceptedTask? twoDependencies = some { label := "X", afterIds := ["b"], line := 2 } ∧
    Statement.recognise twoDependencies.text = .task ['X'] "after a, after b".toList ∧
    IsMetadata "after a, after b".toList [] ["after a".toList, "after b".toList] ∧
    IsAfter "after a".toList ["a"] ∧
    ¬ Task.KeepsStart { label := "X", afterIds := ["b"], line := 2 }
      ["after a".toList, "after b".toList] := by
  have hafter : IsAfter "after a".toList ["a"] := ⟨[' '], ['a'], by decide, by decide, by decide⟩
  refine ⟨by decide +kernel, by decide +kernel,
    ⟨["after a".toList, "after b".toList], by decide +kernel, ?_, by decide⟩, hafter, fun h => ?_⟩
  · rintro _ ⟨⟩ tag
    cases tag <;> decide
  · have hmem := (h "after a".toList rfl).ids ["a"] hafter "a" List.mem_cons_self
    exact absurd hmem (by decide)

end DiagramText.Gantt
