/-
  VclReview/Proofs/PathTexts.lean
  ===============================
  **Paths as texts.**  A text that has been split at a character is joined by it again
  (`Text.intercalate_splitWhere`), and parts that hold no separator can be joined by one and
  split again (`Text.splitWhere_intercalate`).  So a path whose names are such as files can
  have is read back from its text (`Path.ofText_toText`).
-/
import VclReview.Path
import VclReview.Proofs.Fields
import Mathlib.Data.List.Basic

namespace VclReview

namespace Text

theorem intercalate_append {c : Char} {above below : List Text} (habove : above ≠ [])
    (hbelow : below ≠ []) : List.intercalate [c] (above ++ below) =
      List.intercalate [c] above ++ c :: List.intercalate [c] below := by
  induction above with
  | nil => exact absurd rfl habove
  | cons part rest ih =>
    rw [List.cons_append]
    by_cases hrest : rest = []
    · rw [hrest, List.nil_append, List.intercalate_cons_of_ne_nil hbelow,
        List.intercalate_singleton, List.append_assoc]
      rfl
    · have hall : rest ++ below ≠ [] := List.append_ne_nil_of_left_ne_nil hrest below
      rw [List.intercalate_cons_of_ne_nil hall, List.intercalate_cons_of_ne_nil hrest, ih hrest,
        List.append_assoc, List.append_assoc, List.append_assoc]

/-- Parts that have been joined by a separator come apart again. -/
theorem splitWhere_intercalate {sep : Char → Bool} {c : Char} (hc : sep c = true)
    {parts : List Text} (hparts : parts ≠ []) (h : ∀ part ∈ parts, ∀ d ∈ part, sep d = false) :
    splitWhere sep (List.intercalate [c] parts) = parts := by
  induction parts with
  | nil => exact absurd rfl hparts
  | cons part rest ih =>
    obtain ⟨hpart, hrest⟩ := List.forall_mem_cons.1 h
    cases rest with
    | nil => rw [List.intercalate_singleton, splitWhere_of_forall hpart]
    | cons next rest =>
      rw [List.intercalate_cons_cons, List.append_assoc, List.singleton_append,
        splitWhere_append_cons hc, splitWhere_of_forall hpart, ih (by simp) hrest]
      rfl

/-- What has been split at a character is joined by it again. -/
theorem intercalate_splitWhere (c : Char) (text : Text) :
    List.intercalate [c] (splitWhere (· == c) text) = text := by
  rw [splitWhere_eq_splitOnP]
  exact List.intercalate_splitOn c

theorem mem_intercalate {sep part : Text} {parts : List Text} {c : Char} (hpart : part ∈ parts)
    (hc : c ∈ part) : c ∈ List.intercalate sep parts := by
  induction parts with
  | nil => cases hpart
  | cons first rest ih =>
    cases rest with
    | nil =>
      rw [List.mem_singleton.1 hpart] at hc
      rwa [List.intercalate_singleton]
    | cons next rest =>
      rw [List.intercalate_cons_cons, List.append_assoc]
      rcases List.mem_cons.1 hpart with rfl | hpart
      · exact List.mem_append_left _ hc
      · exact List.mem_append_right _ (List.mem_append_right _ (ih hpart))

end Text

namespace Path

/-- The names of the path are such as files can have. -/
def Proper (path : Path) : Prop :=
  ∀ name ∈ path.parts, name ≠ [] ∧ name ≠ "." ∧ '/' ∉ name

/-- A path with proper names is read back from its text. -/
theorem ofText_toText {path : Path} (h : path.Proper) : ofText path.toText = path := by
  obtain ⟨anchor, parts⟩ := path
  by_cases hparts : parts = []
  · subst hparts
    cases anchor <;> rfl
  have hnames : ∀ name ∈ parts, ∀ c ∈ name, isSlash c = false := fun name hname =>
    Text.beq_eq_false_of_not_mem (h name hname).2.2
  have hjoined : Text.splitWhere isSlash (List.intercalate ['/'] parts) = parts :=
    Text.splitWhere_intercalate rfl hparts hnames
  have hstart : (List.intercalate ['/'] parts).takeWhile isSlash = [] := by
    obtain ⟨name, rest, rfl⟩ := List.exists_cons_of_ne_nil hparts
    obtain ⟨c, more, hname⟩ := List.exists_cons_of_ne_nil (h name List.mem_cons_self).1
    have hc : isSlash c = false := hnames name List.mem_cons_self c (hname ▸ List.mem_cons_self)
    cases rest with
    | nil => simp [hname, hc]
    | cons next rest => simp [List.intercalate_cons_cons, hname, hc]
  have hkept : ∀ name ∈ parts, ¬ name = ['.'] ∧ ¬ name = [] := fun name hname =>
    ⟨(h name hname).2.1, (h name hname).1⟩
  unfold ofText toText Text.pieces
  rw [if_neg (fun hnone => hparts hnone.2)]
  cases anchor with
  | relative => simpa [Anchor.text, hstart, hjoined, Anchor.ofSlashes] using hkept
  | root =>
    simpa [Anchor.text, hstart, hjoined, Anchor.ofSlashes, Text.splitWhere_cons, isSlash]
      using hkept
  | doubleRoot =>
    simpa [Anchor.text, hstart, hjoined, Anchor.ofSlashes, Text.splitWhere_cons, isSlash]
      using hkept

end Path

end VclReview
