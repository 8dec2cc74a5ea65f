import DiagramText.Flowchart.Chain
import DiagramText.Proofs.Flowchart.Shapes
import DiagramText.Proofs.Flowchart.WrittenArrow

/-!
# Writing chains

Groups of ids are written with ampersands in between, and a chain with an arrow between any two
groups, with one blank around each sign.  The reader cuts off blanks at both ends of what is left;
no suffix of a chain ends in a blank, so it cuts off the one in front only.

1. `Group`, `Link` and `WrittenChain`.
2. Trimming: what is written ends in no blank.
3. `group?_chars`, and `links_chars` by induction on the links.
-/

namespace DiagramText.Flowchart

open Text

/-! ## Groups and chains -/

/-- Ids that are joined by ampersands. -/
structure Group where
  first : Ident
  more : List Ident

/-- A further id of a group. -/
def Ident.joined (i : Ident) : List Char := ' ' :: '&' :: ' ' :: i.chars

/-- The mention of an id without label and class. -/
def Ident.mention (i : Ident) : Mention := ⟨i.string, none, none⟩

namespace Group

/-- The group as it is written. -/
def chars (g : Group) : List Char := g.first.chars ++ g.more.flatMap Ident.joined

/-- The ids of the group. -/
def idents (g : Group) : List Ident := g.first :: g.more

/-- The ids of the group as strings. -/
def ids (g : Group) : List String := g.idents.map Ident.string

end Group

/-- An arrow of either form. -/
inductive WrittenArrow where
  | plain (a : PlainArrow)
  | text (a : TextArrow)

namespace WrittenArrow

/-- The arrow as it is written. -/
def chars : WrittenArrow → List Char
  | plain a => a.chars
  | text a => a.chars

/-- What the arrow says. -/
def read : WrittenArrow → Arrow
  | plain a => a.read
  | text a => a.read

/-- The text inside the arrow, if there is one, stands on one line. -/
def OneLine : WrittenArrow → Prop
  | plain _ => True
  | text a => '\n' ∉ a.text

end WrittenArrow

/-- An arrow and the group behind it. -/
structure Link where
  arrow : WrittenArrow
  target : Group

/-- The link as it is written behind a group. -/
def Link.chars (k : Link) : List Char := ' ' :: (k.arrow.chars ++ ' ' :: k.target.chars)

/-- A group with any number of links behind it. -/
structure WrittenChain where
  first : Group
  links : List Link

/-- The chain as it is written. -/
def WrittenChain.chars (c : WrittenChain) : List Char :=
  c.first.chars ++ c.links.flatMap Link.chars

/-- The steps of links behind the group `sources`. -/
def linkSteps : (sources : List String) → List Link → List Step
  | _, [] => []
  | sources, k :: ks =>
    (k.target.idents.map Ident.mention).map .mention ++
      .join sources k.target.ids k.arrow.read :: linkSteps k.target.ids ks

/-- The steps of a chain. -/
def WrittenChain.steps (c : WrittenChain) : List Step :=
  (c.first.idents.map Ident.mention).map .mention ++ linkSteps c.first.ids c.links

/-! ## Trimming -/

theorem Ident.solid (i : Ident) : ∀ c ∈ i.chars, isBlank c = false := by
  have hword : ∀ w ∈ i.first :: i.more, ∀ c ∈ w, isBlank c = false :=
    fun w hw c hc => isBlank_of_isWord ((i.words w hw).2 c hc)
  obtain ⟨hfirst, hmore⟩ := List.forall_mem_cons.1 hword
  intro c hc
  rcases List.mem_append.1 hc with hc | hc
  · exact hfirst c hc
  · obtain ⟨w, hw, hc⟩ := List.mem_flatMap.1 hc
    rcases List.mem_cons.1 hc with rfl | hc
    · decide
    · exact hmore w hw c hc

theorem Ident.ne_nil (i : Ident) : i.chars ≠ [] := by
  obtain ⟨c, r, hchars, -⟩ := i.exists_cons
  rw [hchars]
  exact List.cons_ne_nil c r

theorem trimEnd_joined (i : Ident) : trimEnd i.joined = i.joined :=
  trimEnd_append_of_ne_nil [' ', '&', ' '] i.ne_nil (trimEnd_of_solid i.solid)

theorem trimEnd_group (g : Group) : trimEnd g.chars = g.chars :=
  trimEnd_append (trimEnd_of_solid g.first.solid) (trimEnd_flatMap trimEnd_joined g.more)

theorem Group.exists_cons (g : Group) : ∃ c r, g.chars = c :: r ∧ isWord c = true := by
  obtain ⟨c, r, hchars, hc⟩ := g.first.exists_cons
  refine ⟨c, r ++ g.more.flatMap Ident.joined, ?_, hc⟩
  unfold Group.chars
  rw [hchars]
  rfl

theorem Group.ne_nil (g : Group) : g.chars ≠ [] := by
  obtain ⟨c, r, hchars, -⟩ := g.exists_cons
  rw [hchars]
  exact List.cons_ne_nil c r

theorem trimEnd_link (k : Link) : trimEnd k.chars = k.chars := by
  have hsplit : k.chars = (' ' :: (k.arrow.chars ++ [' '])) ++ k.target.chars := by
    simp [Link.chars]
  rw [hsplit]
  exact trimEnd_append_of_ne_nil _ k.target.ne_nil (trimEnd_group k.target)

theorem trimEnd_links (ks : List Link) : trimEnd (ks.flatMap Link.chars) = ks.flatMap Link.chars :=
  trimEnd_flatMap trimEnd_link ks

/-! ## Groups -/

/-- The text behind an id or a group: nothing, or a blank and a sign. -/
def Spaced (s : List Char) : Prop :=
  s = [] ∨ ∃ c r, s = ' ' :: c :: r ∧ isBlank c = false

theorem Spaced.space {c : Char} (hc : isBlank c = false) (r : List Char) :
    Spaced (' ' :: c :: r) := .inr ⟨c, r, rfl, hc⟩

theorem node?_ident (i : Ident) {s : List Char} (hs : Spaced s) :
    node? (i.chars ++ s) = some (i.mention, s) := by
  have hid : ident? (i.chars ++ s) = some (i.chars, s) := by
    refine ident?_chars i ?_
    rcases hs with rfl | ⟨c, r, rfl, -⟩
    · exact fun c hc => by cases hc
    · exact fun c hc => by cases hc; decide
  have hform : form? s = none ∧ className? s = none := by
    rcases hs with rfl | ⟨c, r, rfl, -⟩
    · exact ⟨rfl, rfl⟩
    · exact ⟨rfl, rfl⟩
  unfold node?
  rw [hid, Option.bind_eq_bind, Option.bind_some]
  dsimp only
  rw [hform.1]
  dsimp only
  rw [hform.2]
  rfl

theorem moreNodes_of_ne {c : Char} (hc : c ≠ '&') (r : List Char) :
    moreNodes (c :: r) = ([], c :: r) := by
  rw [moreNodes]
  rintro u h
  exact hc (List.cons.inj h).1

theorem moreNodes_ampersand {r u : List Char} {m : Mention} (h : node? (trim r) = some (m, u)) :
    moreNodes ('&' :: r) = (m :: (moreNodes (trim u)).1, (moreNodes (trim u)).2) := by
  rw [moreNodes]
  split
  · rename_i m' u' h'
    rw [h] at h'
    cases h'
    rfl
  · rename_i h'
    rw [h] at h'
    cases h'

/-- The text behind a group: nothing, or a blank and a sign that is no ampersand. -/
def EndsGroup (s : List Char) : Prop :=
  s = [] ∨ ∃ c r, s = ' ' :: c :: r ∧ isBlank c = false ∧ c ≠ '&'

theorem EndsGroup.spaced {s : List Char} (h : EndsGroup s) : Spaced s := by
  rcases h with rfl | ⟨c, r, rfl, hc, -⟩
  · exact .inl rfl
  · exact .space hc r

/-- The further ids of a group are read one after the other. -/
theorem moreNodes_joined (is : List Ident) {s : List Char} (hs : EndsGroup s)
    (hend : trimEnd s = s) :
    moreNodes (trim (is.flatMap Ident.joined ++ s)) = (is.map Ident.mention, trim s) := by
  induction is with
  | nil =>
    show moreNodes (trim s) = ([], trim s)
    rcases hs with rfl | ⟨c, r, rfl, hc, hsign⟩
    · rw [show trim [] = [] from rfl, moreNodes]
      intro r hr
      cases hr
    · rw [trim_space hc hend, moreNodes_of_ne hsign]
  | cons i is ih =>
    obtain ⟨c, r, hchars, hc⟩ := i.exists_cons
    have hblank := isBlank_of_isWord hc
    have hwritten : (i :: is).flatMap Ident.joined ++ s =
        ' ' :: '&' :: ' ' :: (i.chars ++ (is.flatMap Ident.joined ++ s)) := by
      simp [Ident.joined]
    have hwhole : trimEnd ((i :: is).flatMap Ident.joined ++ s) =
        (i :: is).flatMap Ident.joined ++ s :=
      trimEnd_append (trimEnd_flatMap trimEnd_joined _) hend
    have hspaced : Spaced (is.flatMap Ident.joined ++ s) := by
      cases is with
      | nil => exact hs.spaced
      | cons j is => exact .space (by decide) _
    rw [hwritten] at hwhole
    have hnode : node? (trim (' ' :: (i.chars ++ (is.flatMap Ident.joined ++ s)))) =
        some (i.mention, is.flatMap Ident.joined ++ s) := by
      have hrest := trimEnd_tail (trimEnd_tail hwhole)
      rw [← node?_ident i hspaced]
      rw [hchars, List.cons_append] at hrest ⊢
      rw [trim_space hblank hrest]
    rw [hwritten, trim_space (by decide) hwhole, moreNodes_ampersand hnode, ih]
    rfl

/-- A group is read up to its end. -/
theorem group?_chars (g : Group) {s : List Char} (hs : EndsGroup s) (hend : trimEnd s = s) :
    group? (g.chars ++ s) = some (g.idents.map Ident.mention, trim s) := by
  have hspaced : Spaced (g.more.flatMap Ident.joined ++ s) := by
    cases g.more with
    | nil => exact hs.spaced
    | cons j is => exact .space (by decide) _
  unfold group? Group.chars
  rw [List.append_assoc, node?_ident g.first hspaced, Option.bind_eq_bind, Option.bind_some]
  dsimp only
  rw [moreNodes_joined g.more hs hend]
  rfl

/-! ## Links -/

/-- The signs with which an arrow starts. -/
def arrowSigns : List Char := ['<', 'o', 'x', '-', '=', '~']

theorem WrittenArrow.exists_cons (a : WrittenArrow) :
    ∃ c r, a.chars = c :: r ∧ c ∈ arrowSigns := by
  cases a with
  | plain a =>
    obtain ⟨start, stroke, finish, label, -⟩ := a
    cases start with
    | none => cases stroke <;> exact ⟨_, _, rfl, by decide⟩
    | some m => cases m <;> exact ⟨_, _, rfl, by decide⟩
  | text a =>
    obtain ⟨style, hvisible, text, -, -, -⟩ := a
    cases style with
    | invisible => exact absurd rfl hvisible
    | _ => exact ⟨_, _, rfl, by decide⟩

theorem solid_of_mem_arrowSigns {c : Char} (hc : c ∈ arrowSigns) : isBlank c = false ∧ c ≠ '&' := by
  have hall : ∀ c ∈ arrowSigns, isBlank c = false ∧ c ≠ '&' := by decide
  exact hall c hc

/-- An arrow in front of a group is read as it is written. -/
theorem arrow?_chars {a : WrittenArrow} (hline : a.OneLine) {c : Char} (hc : isWord c = true)
    (r : List Char) : arrow? (a.chars ++ ' ' :: c :: r) = some (none, a.read, ' ' :: c :: r) := by
  cases a with
  | plain a => exact arrow?_plain a hc r
  | text a => exact arrow?_text a hline (c :: r)

/-- Links start with a blank and the sign of an arrow. -/
theorem links_cons (k : Link) (ks : List Link) :
    ∃ c r, (k :: ks).flatMap Link.chars = ' ' :: c :: r ∧ c ∈ arrowSigns := by
  obtain ⟨c, r, hchars, hc⟩ := k.arrow.exists_cons
  refine ⟨c, r ++ ' ' :: k.target.chars ++ ks.flatMap Link.chars, ?_, hc⟩
  simp [Link.chars, hchars]

theorem endsGroup_links (ks : List Link) : EndsGroup (ks.flatMap Link.chars) := by
  cases ks with
  | nil => exact .inl rfl
  | cons k ks =>
    obtain ⟨c, r, hchars, hc⟩ := links_cons k ks
    exact .inr ⟨c, r, hchars, solid_of_mem_arrowSigns hc⟩

theorem links_of_arrow {total : Nat} {sources : List String} {s rest u : List Char} {a : Arrow}
    {ms : List Mention} (ha : arrow? s = some (none, a, rest))
    (hg : group? (trim rest) = some (ms, u)) :
    links total sources s = ms.map .mention ++
      .join sources (ms.map (·.id)) a :: links total (ms.map (·.id)) (trim u) := by
  have hne : s ≠ [] := by
    rintro rfl
    cases ha
  rw [links, if_neg hne]
  split
  · rename_i h
    rw [ha] at h
    cases h
  · rename_i h
    rw [ha] at h
    cases h
    split
    · rename_i h
      rw [hg] at h
      cases h
    · rename_i h
      rw [hg] at h
      cases h
      rfl

/-- The ids of a group are those of its mentions. -/
theorem map_id_mentions (g : Group) : (g.idents.map Ident.mention).map (·.id) = g.ids := by
  unfold Group.ids
  rw [List.map_map]
  rfl

/-- Links are read one after the other, each with the group in front of it as its sources. -/
theorem links_chars (total : Nat) (sources : List String) {ks : List Link}
    (hline : ∀ k ∈ ks, k.arrow.OneLine) :
    links total sources (trim (ks.flatMap Link.chars)) = linkSteps sources ks := by
  induction ks generalizing sources with
  | nil =>
    rw [List.flatMap_nil, show trim [] = [] from rfl, links, if_pos rfl]
    rfl
  | cons k ks ih =>
    obtain ⟨hk, hks⟩ := List.forall_mem_cons.1 hline
    obtain ⟨c, r, harrow, hc⟩ := k.arrow.exists_cons
    obtain ⟨d, t, hgroup, hd⟩ := k.target.exists_cons
    have hwritten : (k :: ks).flatMap Link.chars =
        ' ' :: (k.arrow.chars ++ ' ' :: (k.target.chars ++ ks.flatMap Link.chars)) := by
      simp [Link.chars]
    have hwhole := trimEnd_links (k :: ks)
    rw [hwritten] at hwhole
    have htrim : trim ((k :: ks).flatMap Link.chars) =
        k.arrow.chars ++ ' ' :: (k.target.chars ++ ks.flatMap Link.chars) := by
      rw [hwritten]
      rw [harrow, List.cons_append] at hwhole ⊢
      exact trim_space (solid_of_mem_arrowSigns hc).1 hwhole
    have hread : arrow? (k.arrow.chars ++ ' ' :: (k.target.chars ++ ks.flatMap Link.chars)) =
        some (none, k.arrow.read, ' ' :: (k.target.chars ++ ks.flatMap Link.chars)) := by
      rw [hgroup]
      exact arrow?_chars hk hd _
    have htarget : group? (trim (' ' :: (k.target.chars ++ ks.flatMap Link.chars))) =
        some (k.target.idents.map Ident.mention, trim (ks.flatMap Link.chars)) := by
      have hspace : trimEnd (' ' :: (k.target.chars ++ ks.flatMap Link.chars)) =
          ' ' :: (k.target.chars ++ ks.flatMap Link.chars) :=
        trimEnd_append_of_ne_nil [' '] (List.append_ne_nil_of_left_ne_nil k.target.ne_nil _)
          (trimEnd_append (trimEnd_group k.target) (trimEnd_links ks))
      rw [← group?_chars k.target (endsGroup_links ks) (trimEnd_links ks)]
      rw [hgroup, List.cons_append] at hspace ⊢
      rw [trim_space (isBlank_of_isWord hd) hspace]
    rw [htrim, links_of_arrow hread htarget, trim_trim,
      map_id_mentions, ih _ hks]
    rfl

/-- A chain is read as it is written. -/
theorem chain_chars {c : WrittenChain} (hline : ∀ k ∈ c.links, k.arrow.OneLine) :
    chain c.chars = c.steps := by
  unfold chain WrittenChain.chars
  rw [group?_chars c.first (endsGroup_links c.links) (trimEnd_links c.links)]
  dsimp only
  rw [trim_trim, map_id_mentions, links_chars _ _ hline]
  rfl

end DiagramText.Flowchart
