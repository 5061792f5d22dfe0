/-
  VclReview/Proofs/Spans.lean
  ===========================
  **The longest run at the beginning of a list.**  A run of elements of one kind is as long as
  it can be if what follows it begins with an element of another kind; so a list can be taken
  apart in this way only once (`append_inj_of_run`).
-/
import Mathlib.Data.List.TakeWhile

namespace VclReview

variable {α : Type} {p : α → Bool} {run rest list : List α}

/-- A run that another kind follows is what is taken. -/
theorem takeWhile_append_of_head? (hrun : ∀ a ∈ run, p a = true)
    (hrest : ∀ a, rest.head? = some a → p a = false) : (run ++ rest).takeWhile p = run := by
  rw [List.takeWhile_append_of_pos hrun]
  cases rest with
  | nil => simp
  | cons a rest => simp [hrest a rfl]

/-- A run of one kind ends where another kind begins. -/
theorem append_inj_of_run {run' rest' : List α} (hrun : ∀ a ∈ run, p a = true)
    (hrun' : ∀ a ∈ run', p a = true) (hrest : ∀ a, rest.head? = some a → p a = false)
    (hrest' : ∀ a, rest'.head? = some a → p a = false) (h : run ++ rest = run' ++ rest') :
    run = run' ∧ rest = rest' := by
  have heq : run = run' := by
    rw [← takeWhile_append_of_head? hrun hrest, h, takeWhile_append_of_head? hrun' hrest']
  exact ⟨heq, List.append_cancel_left (heq ▸ h)⟩

/-- What is left over after the first elements of a kind begins with one that is not. -/
theorem not_of_head?_dropWhile {a : α} (h : (list.dropWhile p).head? = some a) : p a = false := by
  simpa [h] using List.head?_dropWhile_not p list

theorem dropWhile_of_head? (h : ∀ a, list.head? = some a → p a = false) :
    list.dropWhile p = list := by
  cases list with
  | nil => rfl
  | cons a rest => simp [h a rfl]

theorem drop_length_takeWhile (p : α → Bool) (list : List α) :
    list.drop (list.takeWhile p).length = list.dropWhile p := by
  have h : (list.takeWhile p ++ list.dropWhile p).drop (list.takeWhile p).length =
      list.dropWhile p := List.drop_left
  rwa [List.takeWhile_append_dropWhile] at h

theorem head?_eq_some_of_isPrefix {front : List α} {a : α} (hfront : front <+: list)
    (h : front.head? = some a) : list.head? = some a := by
  obtain ⟨rest, rfl⟩ := hfront
  rw [List.head?_append, h]
  rfl

end VclReview
