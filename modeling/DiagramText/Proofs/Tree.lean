import DiagramText.Tree

/-!
# Listings of forests and spines

1. The worklist traversal `Tree.walk` lists what the recursion `Tree.forest` lists: the roots, and
   the children of what it lists.
2. `Frame.spineValues` lists everything in a spine of open frames, in the order in which it was
   opened.  Closing the innermost frame into the next one does not change the listing, and neither
   does closing all frames.
3. A change of the open values is a change of the listing, if it leaves the closed values alone.
-/

namespace DiagramText

namespace Tree

variable {α : Type}

theorem subtrees_eq (t : Tree α) : t.subtrees = t :: forest t.children := by
  cases t
  rfl

/-- The worklist traversal is the recursive listing. -/
theorem walk_eq_forest (ts : List (Tree α)) : walk ts = forest ts := by
  fun_induction walk ts with
  | case1 => rfl
  | case2 t rest ih =>
    rw [ih, forest_append, forest, subtrees_eq]
    rfl

theorem forestValues_append (ss ts : List (Tree α)) :
    forestValues (ss ++ ts) = forestValues ss ++ forestValues ts := by
  unfold forestValues
  rw [forest_append, List.map_append]

theorem map_value_walk (ts : List (Tree α)) : (walk ts).map value = forestValues ts := by
  rw [walk_eq_forest]
  rfl

/-- A tree of a forest is a root, or a child of some tree of the forest. -/
theorem mem_or_exists_parent_of_mem_walk {ts : List (Tree α)} {u : Tree α} (h : u ∈ walk ts) :
    u ∈ ts ∨ ∃ t ∈ walk ts, u ∈ t.children := by
  fun_induction walk ts with
  | case1 => cases h
  | case2 t rest ih =>
    rcases List.mem_cons.1 h with rfl | h
    · exact .inl List.mem_cons_self
    · rcases ih h with h | ⟨p, hp, hu⟩
      · rcases List.mem_append.1 h with h | h
        · exact .inr ⟨t, List.mem_cons_self, h⟩
        · exact .inl (List.mem_cons_of_mem _ h)
      · exact .inr ⟨p, List.mem_cons_of_mem _ hp, hu⟩

theorem mem_subtrees_self (t : Tree α) : t ∈ t.subtrees := by
  rw [subtrees_eq]
  exact List.mem_cons_self

theorem mem_forest_of_mem {ts : List (Tree α)} {t u : Tree α} (ht : t ∈ ts)
    (hu : u ∈ t.subtrees) : u ∈ forest ts := by
  induction ts with
  | nil => cases ht
  | cons s ts ih =>
    rw [forest]
    rcases List.mem_cons.1 ht with rfl | ht
    · exact List.mem_append_left _ hu
    · exact List.mem_append_right _ (ih ht)

theorem mem_subtrees_of_mem_children {t c u : Tree α} (hc : c ∈ t.children)
    (hu : u ∈ c.subtrees) : u ∈ t.subtrees := by
  rw [subtrees_eq]
  exact List.mem_cons_of_mem _ (mem_forest_of_mem hc hu)

end Tree

namespace Frame

open DiagramText.Tree (forestValues forestValues_append)

variable {α : Type}

/-- The value of a frame, and the values of its children in pre-order. -/
def values (f : Frame α) : List α := f.value :: forestValues f.children

theorem forestValues_close (f : Frame α) : forestValues [f.close] = f.values := by
  unfold Tree.forestValues values close
  simp [Tree.forest, Tree.subtrees, Tree.value, Tree.forestValues]

/-- The values of a spine, outermost frame first. -/
def spineValues (fs : List (Frame α)) : List α := fs.reverse.flatMap values

@[simp]
theorem spineValues_nil : spineValues ([] : List (Frame α)) = [] := rfl

theorem spineValues_cons (f : Frame α) (fs : List (Frame α)) :
    spineValues (f :: fs) = spineValues fs ++ f.values := by
  unfold spineValues
  rw [List.reverse_cons, List.flatMap_append, List.flatMap_singleton]

theorem values_adopt (f : Frame α) (t : Tree α) :
    (f.adopt t).values = f.values ++ forestValues [t] := by
  show f.value :: forestValues (f.children ++ [t]) = _
  rw [forestValues_append]
  rfl

/-- Closing the innermost frame into the next one keeps the listing. -/
theorem spineValues_adopt_close (f g : Frame α) (fs : List (Frame α)) :
    spineValues (g.adopt f.close :: fs) = spineValues (f :: g :: fs) := by
  rw [spineValues_cons, spineValues_cons f, spineValues_cons, values_adopt, forestValues_close,
    List.append_assoc]

/-- Closing a spine keeps its listing. -/
theorem forestValues_closeAll (f : Frame α) (fs : List (Frame α)) :
    forestValues [f.closeAll fs] = spineValues (f :: fs) := by
  induction fs generalizing f with
  | nil =>
    rw [spineValues_cons, spineValues_nil, List.nil_append]
    exact forestValues_close f
  | cons g fs ih =>
    rw [closeAll, ih, spineValues_adopt_close]

/-- A spine holds its closed values and the values of its frames. -/
theorem spineValues_perm (fs : List (Frame α)) :
    (spineValues fs).Perm (fs.flatMap (fun f => forestValues f.children) ++ fs.map value) := by
  induction fs with
  | nil => exact List.Perm.refl _
  | cons f fs ih =>
    have hf : f.values.Perm (forestValues f.children ++ [f.value]) :=
      (List.perm_append_singleton f.value _).symm
    rw [spineValues_cons, List.flatMap_cons, List.map_cons]
    refine (ih.append hf).trans ?_
    refine List.perm_append_comm.trans ?_
    rw [List.append_assoc, List.append_assoc, List.singleton_append]
    exact List.Perm.append_left _ List.perm_middle.symm

theorem spineValues_map (g : α → α) {fs : List (Frame α)}
    (h : ∀ f ∈ fs, ∀ a ∈ forestValues f.children, g a = a) :
    spineValues (fs.map (Frame.map g)) = (spineValues fs).map g := by
  induction fs with
  | nil => rfl
  | cons f fs ih =>
    obtain ⟨hf, hfs⟩ := List.forall_mem_cons.1 h
    have hv : (f.map g).values = f.values.map g := by
      show g f.value :: forestValues f.children = g f.value :: (forestValues f.children).map g
      rw [List.map_congr_left hf, List.map_id']
    rw [List.map_cons, spineValues_cons, ih hfs, hv, spineValues_cons, List.map_append]

end Frame

end DiagramText
