/-
Texts in order of code points. `ascending` lists the distinct members of a list from the
smallest to the largest, so two lists with the same members give the same result.
-/
namespace Fleet.Text

/-- The strictly ascending list with `s` added. -/
def insertAscending (s : String) : List String → List String
  | [] => [s]
  | t :: rest =>
    if s < t then s :: t :: rest
    else if s = t then t :: rest
    else t :: insertAscending s rest

/-- The distinct texts of a list in ascending order. -/
def ascending (texts : List String) : List String := texts.foldr insertAscending []

theorem mem_insertAscending {s x : String} {texts : List String} :
    x ∈ insertAscending s texts ↔ x = s ∨ x ∈ texts := by
  induction texts with
  | nil => simp [insertAscending]
  | cons t rest ih =>
    unfold insertAscending
    split
    · simp
    · split
      · rename_i h
        subst h
        simp
      · simp only [List.mem_cons, ih]
        exact or_left_comm

theorem pairwise_insertAscending {s : String} {texts : List String}
    (h : texts.Pairwise (· < ·)) : (insertAscending s texts).Pairwise (· < ·) := by
  induction texts with
  | nil => exact List.pairwise_singleton _ _
  | cons t rest ih =>
    obtain ⟨above, sorted⟩ := List.pairwise_cons.1 h
    unfold insertAscending
    split
    · rename_i below
      refine List.pairwise_cons.2 ⟨fun x hx => ?_, h⟩
      rcases List.mem_cons.1 hx with rfl | hx
      · exact below
      · exact String.lt_trans below (above x hx)
    · rename_i notBelow
      split
      · exact h
      · rename_i apart
        refine List.pairwise_cons.2 ⟨fun x hx => ?_, ih sorted⟩
        rcases mem_insertAscending.1 hx with rfl | hx
        · refine Decidable.byContradiction fun notAbove => apart ?_
          exact String.le_antisymm (String.not_lt.1 notAbove) (String.not_lt.1 notBelow)
        · exact above x hx

theorem pairwise_ascending (texts : List String) : (ascending texts).Pairwise (· < ·) := by
  induction texts with
  | nil => exact List.Pairwise.nil
  | cons t rest ih => exact pairwise_insertAscending ih

theorem mem_ascending {x : String} {texts : List String} : x ∈ ascending texts ↔ x ∈ texts := by
  induction texts with
  | nil => simp [ascending]
  | cons t rest ih =>
    have h : ascending (t :: rest) = insertAscending t (ascending rest) := rfl
    rw [h, mem_insertAscending, ih, List.mem_cons]

end Fleet.Text
