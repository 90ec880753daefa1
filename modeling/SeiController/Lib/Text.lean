import Mathlib.Data.List.Basic

/-!
# Unique splitting of character lists

Two ways of reading one list as a first part and a rest agree when the first parts
consist of characters of one class and neither rest starts with such a character.
-/

set_option autoImplicit false

namespace Text

variable {α : Type}

/-- The list does not start with an element of the class. -/
def Stops (p : α → Bool) (rest : List α) : Prop :=
  ∀ a ∈ rest.head?, p a = false

@[simp] theorem stops_nil (p : α → Bool) : Stops p [] := by simp [Stops]

@[simp] theorem stops_cons (p : α → Bool) (a : α) (rest : List α) :
    Stops p (a :: rest) ↔ p a = false := by simp [Stops]

theorem append_inj_of_stops {p : α → Bool} {left right : List α} {rest rest' : List α}
    (leftAll : ∀ a ∈ left, p a = true) (rightAll : ∀ a ∈ right, p a = true)
    (stops : Stops p rest) (stops' : Stops p rest') (same : left ++ rest = right ++ rest') :
    left = right ∧ rest = rest' := by
  induction left generalizing right with
  | nil =>
    cases right with
    | nil => exact ⟨rfl, same⟩
    | cons b right =>
      have first : rest = b :: (right ++ rest') := same
      rw [first, stops_cons] at stops
      simp [rightAll b List.mem_cons_self] at stops
  | cons a left ih =>
    cases right with
    | nil =>
      have first : a :: (left ++ rest) = rest' := same
      rw [← first, stops_cons] at stops'
      simp [leftAll a List.mem_cons_self] at stops'
    | cons b right =>
      simp only [List.cons_append, List.cons.injEq] at same
      obtain ⟨heads, tails⟩ := same
      have inner := ih (fun c member => leftAll c (List.mem_cons_of_mem a member))
        (fun c member => rightAll c (List.mem_cons_of_mem b member)) tails
      exact ⟨by rw [heads, inner.1], inner.2⟩

/-- A part that is present exactly when the list starts with its mark. -/
theorem optional_inj {mark : α} {left right rest rest' : List α}
    (absent : rest.head? ≠ some mark) (absent' : rest'.head? ≠ some mark)
    (same : (if left = [] then [] else mark :: left) ++ rest =
      (if right = [] then [] else mark :: right) ++ rest') :
    left = [] ∧ right = [] ∧ rest = rest' ∨
      left ≠ [] ∧ right ≠ [] ∧ left ++ rest = right ++ rest' := by
  by_cases leftNil : left = [] <;> by_cases rightNil : right = []
  · simp only [leftNil, rightNil, if_true, List.nil_append] at same
    exact .inl ⟨leftNil, rightNil, same⟩
  · simp only [leftNil, rightNil, if_true, if_false, List.nil_append, List.cons_append] at same
    simp [same] at absent
  · simp only [leftNil, rightNil, if_true, if_false, List.nil_append, List.cons_append] at same
    simp [← same] at absent'
  · simp only [leftNil, rightNil, if_false, List.cons_append, List.cons.injEq, true_and] at same
    exact .inr ⟨leftNil, rightNil, same⟩

end Text
