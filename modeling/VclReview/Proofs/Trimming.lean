/-
  VclReview/Proofs/Trimming.lean
  ==============================
  **What is left of a text without the letters of one kind at its ends.**  The text consists
  of two runs of such letters and a core that neither begins nor ends with one (`Trimmed`).
  There is one such core, and trimming finds it: `trimmed_iff`.
-/
import VclReview.Proofs.Spans
import VclReview.Text.Blank
import Mathlib.Data.List.DropRight

namespace VclReview.Text

variable {α : Type} {kind : α → Bool} {text core : List α}

/-- No letter of the kind stands at either end of the text. -/
structure Bare (kind : α → Bool) (text : List α) : Prop where
  head : ∀ c, text.head? = some c → kind c = false
  last : ∀ c, text.getLast? = some c → kind c = false

/-- The core stands between two runs of letters of the kind, and they end where it begins
    and begin where it ends. -/
def Trimmed (kind : α → Bool) (text core : List α) : Prop :=
  ∃ front back, text = front ++ core ++ back ∧ (∀ c ∈ front, kind c = true) ∧
    (∀ c ∈ back, kind c = true) ∧ Bare kind core

theorem bare_nil : Bare kind [] := ⟨by simp, by simp⟩

theorem Bare.trimmed (h : Bare kind text) : Trimmed kind text text :=
  ⟨[], [], by simp, by simp, by simp, h⟩

/-- A text has no other core than what trimming leaves. -/
theorem Trimmed.eq (h : Trimmed kind text core) : core = trimWhere kind text := by
  obtain ⟨front, back, rfl, hfront, hback, hbare⟩ := h
  rw [trimWhere, List.append_assoc, List.dropWhile_append_of_pos hfront]
  cases core with
  | nil =>
    rw [List.nil_append, List.dropWhile_eq_nil_iff.2 hback]
    rfl
  | cons c more =>
    have hstart : (c :: more ++ back).dropWhile kind = c :: more ++ back :=
      dropWhile_of_head? hbare.head
    have hback' : ∀ d ∈ back.reverse, kind d = true := by simpa using hback
    have hend : (c :: more).reverse.dropWhile kind = (c :: more).reverse := by
      apply dropWhile_of_head?
      rw [List.head?_reverse]
      exact hbare.last
    rw [hstart, List.reverse_append, List.dropWhile_append_of_pos hback', hend, List.reverse_reverse]

theorem bare_trimWhere (kind : α → Bool) (text : List α) : Bare kind (trimWhere kind text) := by
  constructor
  case head =>
    intro c hc
    have hprefix : trimWhere kind text <+: text.dropWhile kind := List.rdropWhile_prefix kind _
    exact not_of_head?_dropWhile (head?_eq_some_of_isPrefix hprefix hc)
  case last =>
    intro c hc
    rw [trimWhere, List.getLast?_reverse] at hc
    exact not_of_head?_dropWhile hc

/-- **Trimming finds the core of a text.** -/
theorem trimmed_iff : Trimmed kind text core ↔ core = trimWhere kind text := by
  constructor
  · exact Trimmed.eq
  · rintro rfl
    have hfront : text.takeWhile kind ++ text.dropWhile kind = text :=
      List.takeWhile_append_dropWhile
    have hback : trimWhere kind text ++ (text.dropWhile kind).rtakeWhile kind =
        text.dropWhile kind := List.rdropWhile_append_rtakeWhile
    refine ⟨text.takeWhile kind, (text.dropWhile kind).rtakeWhile kind, ?_, ?_, ?_,
      bare_trimWhere kind text⟩
    · rw [List.append_assoc, hback, hfront]
    · exact fun c => List.mem_takeWhile_imp
    · exact fun c => List.mem_rtakeWhile_imp

theorem trimWhere_of_bare (h : Bare kind text) : trimWhere kind text = text :=
  (trimmed_iff.1 h.trimmed).symm

theorem mem_of_mem_trimWhere {c : α} (h : c ∈ trimWhere kind text) : c ∈ text := by
  obtain ⟨front, back, htext, -⟩ := trimmed_iff.2 (rfl : trimWhere kind text = trimWhere kind text)
  rw [htext]
  simp [h]

/-- It makes no difference if some of what is trimmed has gone before. -/
theorem trimWhere_dropWhile (kind : α → Bool) (text : List α) :
    trimWhere kind (text.dropWhile kind) = trimWhere kind text := by
  rw [trimWhere, List.dropWhile_idempotent, trimWhere]

end VclReview.Text
