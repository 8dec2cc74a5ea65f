import DiagramText.Proofs.Growth
import DiagramText.Proofs.Text.Solid
import DiagramText.Proofs.Wording

/-!
# Parents of topics

The parent of a topic is the nearest topic above it that is indented less, and the root if there is
none.  While a mindmap is read, only the spine of open topics is left to look for the parent, and
after a topic that is not indented below the root the indentations of the spine are not even
increasing.

1. `Tree.links`, the pairs of parent and child in a tree, and their listing for a spine.
2. `nearest?`, the nearest topic that is indented less, among all topics read so far.
3. `Follows`, the invariant: for every indentation, looking along the spine finds what looking
   through all topics finds.
4. `parent_is_nearest_above`.
-/

namespace DiagramText

open Source (Line)

/-! ## Parents and children -/

namespace Tree

variable {α β : Type}

mutual

/-- Parent and child, for every child in a tree, as `f` shows them. -/
def links (f : α → β) : Tree α → List (β × β)
  | node v cs => forestLinks f (f v) cs

/-- The pairs in a forest whose trees are children of `p`. -/
def forestLinks (f : α → β) (p : β) : List (Tree α) → List (β × β)
  | [] => []
  | t :: ts => (p, f t.value) :: (links f t ++ forestLinks f p ts)

end

theorem forestLinks_append (f : α → β) (p : β) (ss ts : List (Tree α)) :
    forestLinks f p (ss ++ ts) = forestLinks f p ss ++ forestLinks f p ts := by
  induction ss with
  | nil => rfl
  | cons s ss ih => simp [forestLinks, ih]

mutual

theorem mem_links_iff {f : α → β} {a b : β} : ∀ t : Tree α,
    (a, b) ∈ links f t ↔ ∃ s ∈ t.subtrees, f s.value = a ∧ ∃ c ∈ s.children, f c.value = b
  | node v cs => by
    rw [links, mem_forestLinks_iff cs, subtrees, List.exists_mem_cons_iff]
    refine or_congr ?_ Iff.rfl
    exact and_congr_left' eq_comm

theorem mem_forestLinks_iff {f : α → β} {p a b : β} : ∀ ts : List (Tree α),
    (a, b) ∈ forestLinks f p ts ↔
      (a = p ∧ ∃ c ∈ ts, f c.value = b) ∨
        ∃ s ∈ forest ts, f s.value = a ∧ ∃ c ∈ s.children, f c.value = b
  | [] => by simp [forestLinks, forest]
  | t :: ts => by
    rw [forestLinks, forest, List.mem_cons, List.mem_append, mem_links_iff t,
      mem_forestLinks_iff ts, List.exists_mem_cons_iff]
    simp only [Prod.mk.injEq, List.mem_append, or_and_right, exists_or]
    grind

end

end Tree

namespace Frame

open DiagramText.Tree (forestLinks forestLinks_append)

variable {α β : Type}

/-- The pairs inside an open frame. -/
def links (f : α → β) (g : Frame α) : List (β × β) := forestLinks f (f g.value) g.children

/-- The pairs in a spine, innermost frame first: a frame is a child of the next one. -/
def spineLinks (f : α → β) : List (Frame α) → List (β × β)
  | [] => []
  | [g] => g.links f
  | g :: h :: fs => spineLinks f (h :: fs) ++ (f h.value, f g.value) :: g.links f

theorem links_adopt_close (f : α → β) (g h : Frame α) :
    (h.adopt g.close).links f = h.links f ++ (f h.value, f g.value) :: g.links f := by
  show forestLinks f (f h.value) (h.children ++ [g.close]) = _
  rw [forestLinks_append, forestLinks, forestLinks, List.append_nil]
  rfl

/-- Closing the innermost frame into the next one makes and breaks no pair. -/
theorem spineLinks_adopt_close (f : α → β) (g h : Frame α) (fs : List (Frame α)) :
    spineLinks f (h.adopt g.close :: fs) = spineLinks f (g :: h :: fs) := by
  cases fs with
  | nil => exact links_adopt_close f g h
  | cons k fs =>
    rw [spineLinks, links_adopt_close, spineLinks, spineLinks, List.append_assoc]
    rfl

theorem links_closeAll (f : α → β) (g : Frame α) (fs : List (Frame α)) :
    (g.closeAll fs).links f = spineLinks f (g :: fs) := by
  induction fs generalizing g with
  | nil => rfl
  | cons h fs ih => rw [closeAll, ih, spineLinks_adopt_close]

/-- A change of the innermost value that `f` does not show leaves the pairs as they are. -/
theorem spineLinks_map (f : α → β) {k : α → α} (hk : ∀ a, f (k a) = f a) (g : Frame α)
    (fs : List (Frame α)) : spineLinks f (g.map k :: fs) = spineLinks f (g :: fs) := by
  have hlinks : (g.map k).links f = g.links f := by
    show forestLinks f (f (k g.value)) g.children = _
    rw [hk]
    rfl
  cases fs with
  | nil => exact hlinks
  | cons h fs =>
    rw [spineLinks, spineLinks, hlinks]
    show _ ++ (_, f (k g.value)) :: _ = _
    rw [hk]

end Frame

namespace Mindmap

/-! ## Topics in source order -/

/-- A line that gives a topic, with the topic's shape and label. -/
structure TopicLine where
  line : Line
  shape : Shape
  label : String
deriving Repr, DecidableEq

/-- The topic on a line. -/
def topicLine? (l : Line) : Option TopicLine :=
  match Statement.recognise l.text with
  | .topic shape label => some ⟨l, shape, label⟩
  | _ => none

/-- The topics on lines, in order. -/
def topicLines (ls : List Line) : List TopicLine := ls.filterMap topicLine?

/-- The id of topic number `i`. -/
def topicId (i : Nat) : String := s!"node-{i}"

theorem topicId_injective : Function.Injective topicId := by
  intro i j h
  have hchars : "node-".toList ++ (toString i).toList = "node-".toList ++ (toString j).toList := by
    simpa [topicId] using congrArg String.toList h
  exact Text.toString_nat_injective (String.ext (List.append_cancel_left hchars))

/-- The indentation of topic number `i`. -/
def indentOf (ns : List TopicLine) (i : Nat) : Int := (ns[i]?.map (·.line.indent)).getD 0

theorem indentOf_concat_of_lt {ns : List TopicLine} {i : Nat} (n : TopicLine)
    (h : i < ns.length) : indentOf (ns ++ [n]) i = indentOf ns i := by
  unfold indentOf
  rw [List.getElem?_append_left h]

theorem indentOf_concat_length (ns : List TopicLine) (n : TopicLine) :
    indentOf (ns ++ [n]) ns.length = n.line.indent := by
  unfold indentOf
  rw [List.getElem?_concat_length]
  rfl

/-- Topic `j` stands above topic `i` and is indented less, and no topic between the two is. -/
structure NearestAbove (ns : List TopicLine) (j i : Nat) : Prop where
  above : j < i
  less : indentOf ns j < indentOf ns i
  between : ∀ k, j < k → k < i → indentOf ns i ≤ indentOf ns k

/-- Topic `i` is not the first one, and no topic above it is indented less. -/
def Stray (ns : List TopicLine) (i : Nat) : Prop :=
  0 < i ∧ ∀ k < i, indentOf ns i ≤ indentOf ns k

instance (ns : List TopicLine) (i : Nat) : Decidable (Stray ns i) :=
  inferInstanceAs (Decidable (0 < i ∧ ∀ k < i, indentOf ns i ≤ indentOf ns k))

/-- Topic `j` is the nearest one above topic `i` that is indented less; a stray topic has the root
instead. -/
def ParentByIndent (ns : List TopicLine) (j i : Nat) : Prop :=
  i < ns.length ∧ (NearestAbove ns j i ∨ Stray ns i ∧ j = 0)

/-- The stray topics, in order. -/
def strays (ns : List TopicLine) : List TopicLine :=
  (ns.zipIdx.filter fun x => Stray ns x.2).map (·.1)

/-! ## The nearest topic that is indented less -/

/-- The number of the last topic that is indented less than `d`. -/
def nearest? (d : Int) (ns : List TopicLine) : Option Nat :=
  (ns.zipIdx.reverse.find? (·.1.line.indent < d)).map (·.2)

theorem nearest?_concat (d : Int) (ns : List TopicLine) (n : TopicLine) :
    nearest? d (ns ++ [n]) = if n.line.indent < d then some ns.length else nearest? d ns := by
  unfold nearest?
  rw [List.zipIdx_append, List.reverse_append]
  by_cases h : n.line.indent < d <;> simp [h]

theorem nearest?_eq_some_iff {d : Int} {ns : List TopicLine} {j : Nat} :
    nearest? d ns = some j ↔
      j < ns.length ∧ indentOf ns j < d ∧ ∀ k, j < k → k < ns.length → d ≤ indentOf ns k := by
  induction ns using List.reverseRecOn with
  | nil => simp [nearest?]
  | append_singleton ns n ih =>
    rw [nearest?_concat, List.length_append, List.length_singleton]
    have hlast := indentOf_concat_length ns n
    by_cases h : n.line.indent < d
    · rw [if_pos h, Option.some_inj]
      constructor
      · rintro rfl
        exact ⟨by omega, by omega, fun k hk hk' => by omega⟩
      · rintro ⟨hj, -, hbetween⟩
        by_contra hne
        have hle := hbetween ns.length (by omega) (by omega)
        omega
    · rw [if_neg h, ih]
      constructor
      · rintro ⟨hj, hless, hbetween⟩
        refine ⟨by omega, by rwa [indentOf_concat_of_lt n hj], fun k hk hk' => ?_⟩
        by_cases hkn : k = ns.length
        · rw [hkn, hlast]
          omega
        · rw [indentOf_concat_of_lt n (by omega)]
          exact hbetween k hk (by omega)
      · rintro ⟨hj, hless, hbetween⟩
        have hjn : j < ns.length := by
          by_contra hge
          obtain rfl : j = ns.length := by omega
          omega
        refine ⟨hjn, by rwa [indentOf_concat_of_lt n hjn] at hless, fun k hk hk' => ?_⟩
        rw [← indentOf_concat_of_lt n hk']
        exact hbetween k hk (by omega)

theorem nearest?_eq_none_iff {d : Int} {ns : List TopicLine} :
    nearest? d ns = none ↔ ∀ k < ns.length, d ≤ indentOf ns k := by
  induction ns using List.reverseRecOn with
  | nil => simp [nearest?]
  | append_singleton ns n ih =>
    rw [nearest?_concat, List.length_append, List.length_singleton]
    have hlast := indentOf_concat_length ns n
    by_cases h : n.line.indent < d
    · rw [if_pos h]
      refine iff_of_false (Option.some_ne_none _) fun hall => ?_
      have hle := hall ns.length (by omega)
      omega
    · rw [if_neg h, ih]
      constructor
      · intro hall k hk
        by_cases hkn : k = ns.length
        · rw [hkn, hlast]
          omega
        · rw [indentOf_concat_of_lt n (by omega)]
          exact hall k (by omega)
      · intro hall k hk
        rw [← indentOf_concat_of_lt n hk]
        exact hall k (by omega)

/-! ## One more topic -/

section

variable {ns : List TopicLine} {n : TopicLine} {i j : Nat}

theorem nearestAbove_concat_of_lt (h : i < ns.length) :
    NearestAbove (ns ++ [n]) j i ↔ NearestAbove ns j i := by
  have hindent : ∀ k, k ≤ i → indentOf (ns ++ [n]) k = indentOf ns k := fun k hk =>
    indentOf_concat_of_lt n (by omega)
  constructor
  · rintro ⟨habove, hless, hbetween⟩
    rw [hindent j (by omega), hindent i (by omega)] at hless
    refine ⟨habove, hless, fun k hk hk' => ?_⟩
    rw [← hindent k (by omega), ← hindent i (by omega)]
    exact hbetween k hk hk'
  · rintro ⟨habove, hless, hbetween⟩
    rw [← hindent j (by omega), ← hindent i (by omega)] at hless
    refine ⟨habove, hless, fun k hk hk' => ?_⟩
    rw [hindent k (by omega), hindent i (by omega)]
    exact hbetween k hk hk'

theorem stray_concat_of_lt (h : i < ns.length) : Stray (ns ++ [n]) i ↔ Stray ns i := by
  refine and_congr_right fun _ => forall₂_congr fun k hk => ?_
  rw [indentOf_concat_of_lt n h, indentOf_concat_of_lt n (by omega)]

theorem nearestAbove_concat_length :
    NearestAbove (ns ++ [n]) j ns.length ↔ nearest? n.line.indent ns = some j := by
  rw [nearest?_eq_some_iff]
  constructor
  · rintro ⟨habove, hless, hbetween⟩
    rw [indentOf_concat_length, indentOf_concat_of_lt n habove] at hless
    refine ⟨habove, hless, fun k hk hk' => ?_⟩
    rw [← indentOf_concat_length ns n, ← indentOf_concat_of_lt n hk']
    exact hbetween k hk hk'
  · rintro ⟨habove, hless, hbetween⟩
    rw [← indentOf_concat_length ns n, ← indentOf_concat_of_lt n habove] at hless
    refine ⟨habove, hless, fun k hk hk' => ?_⟩
    rw [indentOf_concat_length, indentOf_concat_of_lt n hk']
    exact hbetween k hk hk'

theorem stray_concat_length :
    Stray (ns ++ [n]) ns.length ↔ ns ≠ [] ∧ nearest? n.line.indent ns = none := by
  rw [nearest?_eq_none_iff]
  refine and_congr List.length_pos_iff (forall₂_congr fun k hk => ?_)
  rw [indentOf_concat_length, indentOf_concat_of_lt n hk]

/-- A further topic has the nearest topic that is indented less as its parent, or else the root. -/
theorem parentByIndent_concat (hns : ns ≠ []) :
    ParentByIndent (ns ++ [n]) j i ↔
      ParentByIndent ns j i ∨ i = ns.length ∧ j = (nearest? n.line.indent ns).getD 0 := by
  unfold ParentByIndent
  rw [List.length_append, List.length_singleton]
  rcases Nat.lt_trichotomy i ns.length with hi | rfl | hi
  · rw [nearestAbove_concat_of_lt hi, stray_concat_of_lt hi]
    have hne : i ≠ ns.length := by omega
    have hlt : i < ns.length + 1 := by omega
    simp [hi, hne, hlt]
  · rw [nearestAbove_concat_length, stray_concat_length]
    cases nearest? n.line.indent ns <;> simp [hns, eq_comm]
  · have hne : i ≠ ns.length := by omega
    have hge : ¬ i < ns.length + 1 := by omega
    have hge' : ¬ i < ns.length := by omega
    simp [hne, hge, hge']

theorem strays_concat :
    strays (ns ++ [n]) = strays ns ++ if Stray (ns ++ [n]) ns.length then [n] else [] := by
  have hfirst : ns.zipIdx.filter (fun x => Stray (ns ++ [n]) x.2) =
      ns.zipIdx.filter fun x => Stray ns x.2 := by
    refine List.filter_congr fun x hx => ?_
    have hlt : x.2 < ns.length := by simpa using List.snd_lt_of_mem_zipIdx hx
    exact decide_eq_decide.2 (stray_concat_of_lt hlt)
  unfold strays
  rw [List.zipIdx_append, List.filter_append, hfirst, List.map_append]
  by_cases h : Stray (ns ++ [n]) ns.length <;> simp [h]

end

/-! ## The spine -/

/-- The id of an open topic. -/
def Level.id (v : Level) : String := v.frame.value.id

/-- The pairs of parent and child in a spine, as ids. -/
def pairs (spine : List Level) : List (String × String) :=
  Frame.spineLinks Topic.id (spine.map (·.frame))

theorem pairs_settle (indent : Int) (v : Level) (rest : List Level) :
    pairs (settle indent v rest).1 = pairs (v :: rest) := by
  fun_induction settle indent v rest with
  | case1 v => rfl
  | case2 v w rest h => rfl
  | case3 v w rest h ih =>
    rw [ih]
    exact Frame.spineLinks_adopt_close Topic.id v.frame w.frame _

theorem getLast?_settle (indent : Int) (v : Level) (rest : List Level) :
    (settle indent v rest).1.getLast?.map Level.id = (v :: rest).getLast?.map Level.id := by
  fun_induction settle indent v rest with
  | case1 v => rfl
  | case2 v w rest h => rfl
  | case3 v w rest h ih =>
    rw [ih, List.getLast?_cons_cons]
    cases rest with
    | nil => rfl
    | cons u rest => rw [List.getLast?_cons_cons, List.getLast?_cons_cons]

/-- Closing topics that are not indented less than `indent` hides nothing from a look for a smaller
indentation. -/
theorem find?_settle {d indent : Int} (hd : d ≤ indent) (v : Level) (rest : List Level) :
    ((settle indent v rest).1.find? (·.indent < d)).map Level.id =
      ((v :: rest).find? (·.indent < d)).map Level.id := by
  fun_induction settle indent v rest with
  | case1 v => rfl
  | case2 v w rest h => rfl
  | case3 v w rest h ih =>
    have hv : ¬ v.indent < d := by omega
    rw [ih, List.find?_cons_of_neg (a := v) (by simpa using hv)]
    by_cases hw : w.indent < d
    · rw [List.find?_cons_of_pos (by simpa using hw), List.find?_cons_of_pos (by simpa using hw)]
      rfl
    · rw [List.find?_cons_of_neg (by simpa using hw), List.find?_cons_of_neg (by simpa using hw)]

/-- What is left of a spine starts with the first topic that is indented less, and with the root if
there is none. -/
theorem head?_settle (indent : Int) (v : Level) (rest : List Level) :
    (settle indent v rest).1.head?.map Level.id =
        (((v :: rest).find? (·.indent < indent)).or (v :: rest).getLast?).map Level.id ∧
      (settle indent v rest).2 = ((v :: rest).find? (·.indent < indent)).isSome := by
  fun_induction settle indent v rest with
  | case1 v =>
    by_cases hv : v.indent < indent <;> simp [hv]
  | case2 v w rest h => simp [h]
  | case3 v w rest h ih =>
    obtain ⟨hhead, hbelow⟩ := ih
    rw [hhead, hbelow, List.find?_cons_of_neg (a := v) (by simpa using h), List.getLast?_cons_cons]
    by_cases hw : w.indent < indent
    · rw [List.find?_cons_of_pos (by simpa using hw), List.find?_cons_of_pos (by simpa using hw)]
      exact ⟨rfl, rfl⟩
    · rw [List.find?_cons_of_neg (by simpa using hw), List.find?_cons_of_neg (by simpa using hw)]
      refine ⟨?_, rfl⟩
      cases rest.find? (·.indent < indent) with
      | some u => rfl
      | none =>
        cases rest with
        | nil => rfl
        | cons u rest => rw [List.getLast?_cons_cons, List.getLast?_cons_cons]

/-! ## A new topic on the spine -/

section

variable (topic : Topic) (indent : Int) (spine : List Level)

theorem find?_attach (d : Int) :
    ((attach topic indent spine).1.find? (·.indent < d)).map Level.id =
      if indent < d then some topic.id else (spine.find? (·.indent < d)).map Level.id := by
  have hcons : ∀ rest : List Level,
      ((⟨⟨topic, []⟩, indent⟩ :: rest : List Level).find? (·.indent < d)).map Level.id =
        if indent < d then some topic.id else (rest.find? (·.indent < d)).map Level.id := by
    intro rest
    by_cases hd : indent < d
    · rw [List.find?_cons_of_pos (by simpa using hd), if_pos hd]
      rfl
    · rw [List.find?_cons_of_neg (by simpa using hd), if_neg hd]
  cases spine with
  | nil => exact hcons []
  | cons v rest =>
    refine (hcons _).trans ?_
    by_cases hd : indent < d
    · rw [if_pos hd, if_pos hd]
    · rw [if_neg hd, if_neg hd, find?_settle (by omega)]

theorem getLast?_attach :
    (attach topic indent spine).1.getLast?.map Level.id =
      (spine.getLast?.map Level.id).or (some topic.id) := by
  cases spine with
  | nil => rfl
  | cons v rest =>
    show ((_ :: (settle indent v rest).1).getLast?).map Level.id = _
    have hlast := getLast?_settle indent v rest
    rw [List.getLast?_cons, ← hlast]
    cases (settle indent v rest).1.getLast? <;> rfl

/-- A new topic is a child of the first topic on the spine that is indented less, and of the root if
there is none. -/
theorem pairs_attach :
    pairs (attach topic indent spine).1 =
      pairs spine ++ (((spine.find? (·.indent < indent)).or spine.getLast?).map
        fun p => (p.id, topic.id)).toList := by
  cases spine with
  | nil => rfl
  | cons v rest =>
    rw [← pairs_settle indent]
    have hhead := (head?_settle indent v rest).1
    show pairs (_ :: (settle indent v rest).1) = _
    cases hsettle : (settle indent v rest).1 with
    | nil =>
      rw [hsettle, List.getLast?_cons] at hhead
      cases hfind : (v :: rest).find? (·.indent < indent) <;> rw [hfind] at hhead <;> cases hhead
    | cons w ws =>
      rw [hsettle] at hhead
      have hpair : (((v :: rest).find? (·.indent < indent)).or (v :: rest).getLast?).map
          (fun p => (p.id, topic.id)) = some (w.id, topic.id) := by
        rw [show (fun p : Level => (p.id, topic.id)) = (·, topic.id) ∘ Level.id from rfl,
          ← Option.map_map, ← hhead]
        rfl
      rw [hpair]
      rfl

theorem below_attach :
    (attach topic indent spine).2 =
      (spine.isEmpty || (spine.find? (·.indent < indent)).isSome) := by
  cases spine with
  | nil => rfl
  | cons v rest => exact (head?_settle indent v rest).2

end

/-! ## The invariant -/

/-- Whether a problem is that a topic is not indented below the root. -/
def Problem.isStray : Problem → Bool
  | .notBelowRoot _ => true
  | _ => false

/-- The report on a stray topic. -/
def TopicLine.strayReport (n : TopicLine) : Report Problem := n.line.report (.notBelowRoot n.label)

/-- What topic number `i` gets from its line. -/
def TopicLine.written (n : TopicLine) (i : Nat) : String × String × Shape × Int :=
  (topicId i, n.label, n.shape, n.line.number)

/-- The state behind lines with the given topics.  For every indentation, the nearest topic that is
indented less is found on the spine. -/
structure Follows (ns : List TopicLine) (st : State) : Prop where
  count : st.count = ns.length
  shows : ∀ d, (st.spine.find? (·.indent < d)).map Level.id = (nearest? d ns).map topicId
  root : st.spine.getLast?.map Level.id = ns.head?.map fun _ => topicId 0
  links : ∀ a b, (a, b) ∈ pairs st.spine ↔
    ∃ j i, ParentByIndent ns j i ∧ a = topicId j ∧ b = topicId i
  written : (topics st.spine).map Topic.written = ns.zipIdx.map fun x => x.1.written x.2
  strays : st.reports.filter (·.problem.isStray) = (strays ns).map TopicLine.strayReport

namespace Follows

variable {ns : List TopicLine} {st : State}

theorem init : Follows [] {} where
  count := rfl
  shows _ := rfl
  root := rfl
  links a b := by
    refine iff_of_false List.not_mem_nil ?_
    rintro ⟨j, i, hparent, -⟩
    exact absurd hparent.1 (Nat.not_lt_zero i)
  written := rfl
  strays := rfl

theorem report (h : Follows ns st) (l : Line) {p : Problem} (hp : p.isStray = false) :
    Follows ns (st.report l p) where
  count := h.count
  shows := h.shows
  root := h.root
  links := h.links
  written := h.written
  strays := by
    show (st.reports ++ [l.report p]).filter _ = _
    rw [List.filter_append, List.filter_cons_of_neg (by simpa [Line.report] using hp),
      List.filter_nil, List.append_nil]
    exact h.strays

theorem decorate (h : Follows ns st) {g : Topic → Topic} (hg : ∀ t, (g t).written = t.written) :
    Follows ns (st.decorate g) := by
  have hid : ∀ t, (g t).id = t.id := fun t => congrArg (·.1) (hg t)
  have hwritten := topics_decorate st hg
  unfold State.decorate at hwritten ⊢
  cases hs : st.spine with
  | nil => exact h
  | cons v rest =>
    simp only [hs] at hwritten ⊢
    have hv : Level.id { v with frame := v.frame.map g } = v.id := hid v.frame.value
    refine ⟨h.count, fun d => ?_, ?_, fun a b => ?_, ?_, h.strays⟩
    · rw [← h.shows d, hs]
      by_cases hd : v.indent < d
      · rw [List.find?_cons_of_pos (by simpa using hd), List.find?_cons_of_pos (by simpa using hd)]
        exact congrArg some hv
      · rw [List.find?_cons_of_neg (by simpa using hd), List.find?_cons_of_neg (by simpa using hd)]
    · rw [← h.root, hs]
      cases rest with
      | nil => exact congrArg some hv
      | cons w rest => rw [List.getLast?_cons_cons, List.getLast?_cons_cons]
    · rw [← h.links, hs]
      have hpairs := Frame.spineLinks_map Topic.id hid v.frame (rest.map (·.frame))
      show _ ∈ Frame.spineLinks Topic.id (v.frame.map g :: _) ↔ _
      rw [hpairs]
      rfl
    · rw [hwritten, ← hs]
      exact h.written

theorem spine_eq_nil_iff (h : Follows ns st) : st.spine = [] ↔ ns = [] := by
  have hroot := h.root
  cases hs : st.spine with
  | nil =>
    rw [hs] at hroot
    cases ns with
    | nil => exact iff_of_true rfl rfl
    | cons n ns => cases hroot
  | cons v rest =>
    rw [hs, List.getLast?_cons] at hroot
    cases ns with
    | nil => cases hroot
    | cons n ns => exact iff_of_false (List.cons_ne_nil _ _) (List.cons_ne_nil _ _)

/-- The parent of a further topic is found on the spine. -/
theorem parent_eq (h : Follows ns st) (hns : ns ≠ []) (d : Int) :
    ((st.spine.find? (·.indent < d)).or st.spine.getLast?).map Level.id =
      some (topicId ((nearest? d ns).getD 0)) := by
  obtain ⟨m, ms, rfl⟩ := List.exists_cons_of_ne_nil hns
  rw [Option.map_or, h.shows, h.root]
  cases nearest? d (m :: ms) <;> rfl

/-- A further topic keeps the invariant. -/
theorem attach (h : Follows ns st) {n : TopicLine} {topic : Topic}
    (htopic : topic.written = n.written ns.length) :
    Follows (ns ++ [n])
      { spine := (Mindmap.attach topic n.line.indent st.spine).1
        count := st.count + 1
        reports := st.reports ++
          if (Mindmap.attach topic n.line.indent st.spine).2 then [] else [n.strayReport] } := by
  have hid : topic.id = topicId ns.length := congrArg (·.1) htopic
  refine ⟨?_, fun d => ?_, ?_, fun a b => ?_, ?_, ?_⟩
  · show st.count + 1 = _
    rw [h.count, List.length_append]
    rfl
  · rw [find?_attach, nearest?_concat, h.shows, hid]
    split <;> rfl
  · rw [getLast?_attach, h.root, hid]
    cases ns <;> rfl
  · rw [pairs_attach, List.mem_append, h.links]
    by_cases hns : ns = []
    · -- the first topic is nobody's child
      rw [h.spine_eq_nil_iff.2 hns]
      subst hns
      constructor
      · rintro (⟨j, i, ⟨hi, -⟩, -⟩ | hmem)
        · exact absurd hi (Nat.not_lt_zero i)
        · cases hmem
      · rintro ⟨j, i, ⟨hi, hj⟩, -⟩
        obtain rfl : i = 0 := by simpa using hi
        rcases hj with hj | ⟨hj, -⟩
        · exact absurd hj.above (Nat.not_lt_zero j)
        · exact absurd hj.1 (Nat.lt_irrefl 0)
    · have hpair : ((st.spine.find? (·.indent < n.line.indent)).or st.spine.getLast?).map
          (fun p => (p.id, topic.id)) =
            some (topicId ((nearest? n.line.indent ns).getD 0), topicId ns.length) := by
        rw [show (fun p : Level => (p.id, topic.id)) = (·, topic.id) ∘ Level.id from rfl,
          ← Option.map_map, h.parent_eq hns, hid]
        rfl
      rw [hpair, Option.toList_some, List.mem_singleton, Prod.mk.injEq]
      simp only [parentByIndent_concat hns]
      constructor
      · rintro (⟨j, i, hparent, ha, hb⟩ | ⟨ha, hb⟩)
        · exact ⟨j, i, .inl hparent, ha, hb⟩
        · exact ⟨_, _, .inr ⟨rfl, rfl⟩, ha, hb⟩
      · rintro ⟨j, i, hparent | ⟨rfl, rfl⟩, ha, hb⟩
        · exact .inl ⟨j, i, hparent, ha, hb⟩
        · exact .inr ⟨ha, hb⟩
  · rw [topics_attach, List.map_append, h.written, List.zipIdx_append, List.map_append,
      List.map_singleton, htopic]
    simp
  · have hfound : (st.spine.find? (·.indent < n.line.indent)).isSome =
        (nearest? n.line.indent ns).isSome := by
      rw [← Option.isSome_map (f := Level.id), h.shows, Option.isSome_map]
    rw [List.filter_append, h.strays, strays_concat, List.map_append, below_attach, hfound]
    congr 1
    by_cases hstray : Stray (ns ++ [n]) ns.length
    · obtain ⟨hns, hnone⟩ := stray_concat_length.1 hstray
      have hspine : st.spine ≠ [] := fun hs => hns (h.spine_eq_nil_iff.1 hs)
      rw [if_pos hstray, hnone, if_neg (by simpa using hspine)]
      rfl
    · rw [if_neg hstray, if_pos]
      · rfl
      · rw [stray_concat_length, not_and_or, not_not, ← h.spine_eq_nil_iff] at hstray
        rcases hstray with hs | hsome
        · rw [hs]
          rfl
        · rw [Option.isSome_iff_ne_none.2 hsome, Bool.or_true]

theorem step (h : Follows ns st) (l : Line) :
    Follows (ns ++ (topicLine? l).toList) (st.step l) := by
  unfold State.step topicLine?
  cases Statement.recognise l.text with
  | icon text =>
    rw [Option.toList_none, List.append_nil]
    dsimp only
    split
    · exact h.report l rfl
    · exact h.decorate fun t => rfl
  | classes names =>
    rw [Option.toList_none, List.append_nil]
    dsimp only
    split
    · exact h.report l rfl
    · exact h.decorate fun t => rfl
  | emptyLabel =>
    rw [Option.toList_none, List.append_nil]
    exact h.report l rfl
  | topic shape label =>
    have htopic : Topic.written { id := s!"node-{st.count}", label, shape, line := l.number } =
        TopicLine.written ⟨l, shape, label⟩ ns.length := by
      rw [h.count]
      rfl
    have hstep := h.attach htopic
    dsimp only at hstep ⊢
    rw [Option.toList_some]
    split
    · rename_i hbelow
      rwa [if_pos hbelow, List.append_nil] at hstep
    · rename_i hbelow
      rwa [if_neg hbelow] at hstep

theorem foldl_step (h : Follows ns st) (ls : List Line) :
    Follows (ns ++ topicLines ls) (ls.foldl State.step st) := by
  induction ls generalizing ns st with
  | nil => rwa [topicLines, List.filterMap_nil, List.append_nil]
  | cons l ls ih =>
    have hrest := ih (h.step l)
    rw [List.append_assoc] at hrest
    have htopics : (topicLine? l).toList ++ topicLines ls = topicLines (l :: ls) := by
      unfold topicLines
      cases hl : topicLine? l with
      | none => rw [List.filterMap_cons_none hl]; rfl
      | some n => rw [List.filterMap_cons_some hl]; rfl
    rwa [htopics] at hrest

end Follows

/-! ## Mindmaps -/

/-- The topic with the id `a` has the topic with the id `b` as a child. -/
def Map.HasChild (m : Map) (a b : String) : Prop :=
  ∃ t ∈ m.subtrees, t.value.id = a ∧ ∃ c ∈ t.children, c.value.id = b

theorem hasChild_finish (spine : List Level) (a b : String) :
    Map.HasChild ⟨finish spine⟩ a b ↔ (a, b) ∈ pairs spine := by
  cases spine with
  | nil =>
    refine iff_of_false ?_ List.not_mem_nil
    rintro ⟨t, ht, -⟩
    cases ht
  | cons v rest =>
    show _ ↔ (a, b) ∈ Frame.spineLinks Topic.id (v.frame :: rest.map (·.frame))
    rw [← Frame.links_closeAll, Tree.mem_links_iff]
    rfl

/-- How a warning about a topic that is not indented below the root starts. -/
def strayWords : List String := ["Node '"]

theorem warns_toDiagnostic (r : Report Problem) :
    r.toDiagnostic.warns strayWords = r.problem.isStray := by
  obtain ⟨problem, line, column⟩ := r
  cases problem <;>
    simp only [Diagnostic.warns, Diagnostic.isWarning, Report.toDiagnostic, Describe.message,
      Describe.severity, strayWords, Problem.isStray, toString, String.toList_append,
      List.append_assoc, isPrefixOf_self_append, List.any_cons, List.any_nil] <;>
    rfl

theorem head?_outline (m : Map) : m.outline.head? = m.root.map (·.value.written) := by
  obtain ⟨root⟩ := m
  cases root with
  | none => rfl
  | some t => cases t; rfl

/-- **Parents.** The topics of a mindmap are those of its lines, in order, and the first one is the
root.  The parent of every other one is the nearest topic above it that is indented less; if there
is none it is the root, and these topics and no others are warned about, once each. -/
theorem parent_is_nearest_above (ls : List Line) :
    let ns := topicLines ls.tail
    let m := (parse ls).diagram
    m.outline = ns.zipIdx.map (fun x => x.1.written x.2) ∧
      m.root.map (·.value.written) = ns.head?.map (·.written 0) ∧
      (∀ i j, m.HasChild (topicId j) (topicId i) ↔ ParentByIndent ns j i) ∧
      (parse ls).diagnostics.filter (·.warns strayWords) = (strays ns).map fun n =>
        { severity := .warning
          message := s!"Node '{n.label}' is not indented below the root; attaching it to the root"
          line := n.line.number
          column := some n.line.column } := by
  have hrun : Follows (topicLines ls.tail) (ls.tail.foldl State.step {}) := by
    simpa using Follows.init.foldl_step ls.tail
  have houtline : (parse ls).diagram.outline =
      (topicLines ls.tail).zipIdx.map fun x => x.1.written x.2 := by
    refine (outline_finish _).trans hrun.written
  refine ⟨houtline, ?_, fun i j => ?_, ?_⟩
  · rw [← head?_outline, houtline]
    cases topicLines ls.tail <;> rfl
  · refine (hasChild_finish _ _ _).trans ((hrun.links _ _).trans ?_)
    constructor
    · rintro ⟨j', i', hparent, hj, hi⟩
      obtain rfl := topicId_injective hj
      obtain rfl := topicId_injective hi
      exact hparent
    · intro hparent
      exact ⟨j, i, hparent, rfl, rfl⟩
  · have hmissing : ∀ (root : Option (Tree Topic)) (line : Int),
        (if root.isSome then [] else [({ problem := .noRoot, line } : Report Problem)]).filter
          (·.problem.isStray) = [] := by
      rintro (_ | t) line <;> rfl
    refine (filter_warns warns_toDiagnostic _).trans ?_
    rw [List.filter_append, hrun.strays, hmissing, List.append_nil, List.map_map]
    rfl

/-- A topic above the root in indentation, one below it, and one that is level with it. -/
example :
    (strays (topicLines [⟨2, "root", 4, 5⟩, ⟨3, "stray", 2, 3⟩, ⟨4, "below", 3, 4⟩,
      ⟨5, "again", 2, 3⟩])).map (·.label) = ["stray", "again"] := by
  decide +kernel

end Mindmap

end DiagramText
