/-
  VclReview/Proofs/Sorting.lean
  =============================
  **Sorting and the order of texts.**  `sortWith le` is a stable sort: the result is a
  permutation of the list, it is in order, and what compares equal stands as it stood
  (`pairwise_sortWith`).  The orders it is used with are the ones of the library:
  texts compare by code points (`Text.before_iff_lt`).
-/
import VclReview.Ordering
import VclReview.Text.Basic
import Mathlib.Data.Char
import Mathlib.Data.List.Lex

namespace VclReview

variable {α β : Type} {le : α → α → Bool}

/-! ### The elements -/

theorem perm_insertWith (x : α) (list : List α) : (insertWith le x list).Perm (x :: list) := by
  induction list with
  | nil => exact List.Perm.refl _
  | cons y rest ih =>
    unfold insertWith
    split
    · exact List.Perm.refl _
    · exact (ih.cons y).trans (List.Perm.swap x y rest)

theorem perm_sortWith (list : List α) : (sortWith le list).Perm list := by
  induction list with
  | nil => exact List.Perm.refl _
  | cons x rest ih => exact (perm_insertWith x _).trans (ih.cons x)

/-! ### The order -/

/-- What is put into a sorted list comes before whatever it may precede, and after the
    rest.  The relation `Q` is one in which it stands to all elements of the list. -/
theorem pairwise_insertWith {Q : α → α → Prop} (htotal : ∀ a b, le a b = true ∨ le b a = true)
    (htrans : ∀ a b c, le a b = true → le b c = true → le a c = true) {x : α} {list : List α}
    (hx : ∀ y ∈ list, Q x y)
    (h : list.Pairwise fun a b => le a b = true ∧ (le b a = true → Q a b)) :
    (insertWith le x list).Pairwise fun a b => le a b = true ∧ (le b a = true → Q a b) := by
  induction h with
  | nil => exact List.pairwise_singleton _ _
  | @cons y rest hy hrest ih =>
    unfold insertWith
    split
    case isTrue hxy =>
      refine List.pairwise_cons.2 ⟨?_, List.pairwise_cons.2 ⟨hy, hrest⟩⟩
      intro z hz
      refine ⟨?_, fun _ => hx z hz⟩
      rcases List.mem_cons.1 hz with rfl | hz
      · exact hxy
      · exact htrans x y z hxy (hy z hz).1
    case isFalse hxy =>
      have hrest := ih fun z hz => hx z (List.mem_cons_of_mem y hz)
      refine List.pairwise_cons.2 ⟨?_, hrest⟩
      intro z hz
      rcases mem_insertWith.1 hz with rfl | hz
      · exact ⟨(htotal z y).resolve_left hxy, fun h => absurd h hxy⟩
      · exact hy z hz

/-- **The sort is stable:** of two elements of the result the first may precede the
    second, and if they may also stand the other way round, they stand as they stood
    in the list. -/
theorem pairwise_sortWith {Q : α → α → Prop} (htotal : ∀ a b, le a b = true ∨ le b a = true)
    (htrans : ∀ a b c, le a b = true → le b c = true → le a c = true) {list : List α}
    (h : list.Pairwise Q) :
    (sortWith le list).Pairwise fun a b => le a b = true ∧ (le b a = true → Q a b) := by
  induction h with
  | nil => exact List.Pairwise.nil
  | cons hx _ ih =>
    apply pairwise_insertWith htotal htrans _ ih
    intro y hy
    exact hx y (mem_sortWith.1 hy)

/-- Of two elements of a list in order, one comes before the other unless they are equal. -/
theorem eq_or_of_pairwise {R : α → α → Prop} {list : List α} (h : list.Pairwise R) {a b : α}
    (ha : a ∈ list) (hb : b ∈ list) : a = b ∨ R a b ∨ R b a := by
  induction h with
  | nil => cases ha
  | cons hhead _ ih =>
    rcases List.mem_cons.1 ha with ha | ha
    · rcases List.mem_cons.1 hb with hb | hb
      · exact Or.inl (ha.trans hb.symm)
      · exact Or.inr (Or.inl (ha ▸ hhead b hb))
    · rcases List.mem_cons.1 hb with hb | hb
      · exact Or.inr (Or.inr (hb ▸ hhead a ha))
      · exact ih ha hb

/-! ### Sorting images -/

theorem map_insertWith (le : β → β → Bool) (f : α → β) (x : α) (list : List α) :
    (insertWith (fun a b => le (f a) (f b)) x list).map f = insertWith le (f x) (list.map f) := by
  induction list with
  | nil => rfl
  | cons y rest ih =>
    simp only [insertWith, List.map_cons]
    split
    · rfl
    · rw [List.map_cons, ih]

theorem map_sortWith (le : β → β → Bool) (f : α → β) (list : List α) :
    (sortWith (fun a b => le (f a) (f b)) list).map f = sortWith le (list.map f) := by
  induction list with
  | nil => rfl
  | cons x rest ih =>
    calc (insertWith (fun a b => le (f a) (f b)) x (sortWith _ rest)).map f
        = insertWith le (f x) ((sortWith _ rest).map f) := map_insertWith le f x _
      _ = insertWith le (f x) (sortWith le (rest.map f)) := by rw [ih]

/-! ### Texts -/

theorem Text.before_iff_lt {text other : Text} : Text.before text other = true ↔ text < other := by
  unfold Text.before
  rw [List.lex_eq_true_iff_lex]
  simp only [decide_eq_true_eq]
  exact Iff.rfl

theorem Text.inOrder_iff_le {text other : Text} :
    Text.inOrder text other = true ↔ text ≤ other := by
  unfold Text.inOrder
  rw [Bool.not_eq_true', ← Bool.not_eq_true, Text.before_iff_lt, not_lt]

end VclReview
