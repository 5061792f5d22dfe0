/-
  VclReview/Ordering.lean
  =======================
  **Sorting by insertion.**  `sortWith le` puts each element before the first one
  that it may precede, so elements that compare equal keep their order.
-/

namespace VclReview

/-- Puts an element before the first one of the list that it may precede. -/
def insertWith {α : Type} (le : α → α → Bool) (x : α) : List α → List α
  | [] => [x]
  | y :: rest => if le x y then x :: y :: rest else y :: insertWith le x rest

/-- The elements of the list in order. -/
def sortWith {α : Type} (le : α → α → Bool) (list : List α) : List α :=
  list.foldr (insertWith le) []

/-- Sorting keeps the elements. -/
theorem mem_insertWith {α : Type} {le : α → α → Bool} {x a : α} {list : List α} :
    a ∈ insertWith le x list ↔ a = x ∨ a ∈ list := by
  induction list with
  | nil => simp [insertWith]
  | cons y rest ih =>
    simp only [insertWith]
    split
    · simp
    · simp only [List.mem_cons, ih]
      constructor
      · rintro (h | h | h) <;> simp [h]
      · rintro (h | h | h) <;> simp [h]

@[simp] theorem mem_sortWith {α : Type} {le : α → α → Bool} {a : α} {list : List α} :
    a ∈ sortWith le list ↔ a ∈ list := by
  induction list with
  | nil => simp [sortWith]
  | cons x rest ih =>
    rw [show sortWith le (x :: rest) = insertWith le x (sortWith le rest) from rfl,
      mem_insertWith, ih, List.mem_cons]

end VclReview
