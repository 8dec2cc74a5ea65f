/-!
# Lists without repetition

`addNew` appends a value to a list that does not hold it yet, so that the list keeps the order of
first occurrence and never repeats a value.
-/

namespace DiagramText

variable {α : Type} [BEq α]

/-- Appends `x` unless the list holds it. -/
def addNew (xs : List α) (x : α) : List α := if xs.contains x then xs else xs ++ [x]

/-- Appends the values of `ys` one after the other, each unless the list holds it by then. -/
def addAllNew (xs ys : List α) : List α := ys.foldl addNew xs

theorem mem_addNew [LawfulBEq α] {xs : List α} {x y : α} : y ∈ addNew xs x ↔ y ∈ xs ∨ y = x := by
  unfold addNew
  split
  · rename_i h
    have hx : x ∈ xs := by simpa using h
    exact ⟨Or.inl, fun h' => h'.elim id fun e => e ▸ hx⟩
  · simp

theorem nodup_addNew [LawfulBEq α] {xs : List α} (x : α) (h : xs.Nodup) : (addNew xs x).Nodup := by
  unfold addNew
  split
  · exact h
  · rename_i hx
    have hx : x ∉ xs := by simpa using hx
    exact List.nodup_append.2 ⟨h, by simp, by rintro a ha b hb rfl; simp at hb; exact hx (hb ▸ ha)⟩

end DiagramText
