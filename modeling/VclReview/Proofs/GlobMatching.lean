/-
  VclReview/Proofs/GlobMatching.lean
  ==================================
  **What a glob covers.**  `Glob.Covers` says it without an algorithm: a run takes any
  number of characters, every other item takes one character that it admits, and
  nothing may be left over.  `Glob.covers_iff` proves that the row of answers that is
  computed for a name agrees with it.

  The rows of a text and of its tail differ by one answer (`row_cons`), so the answer
  for the whole text can be read off item by item.
-/
import VclReview.Glob

namespace VclReview.Glob

/-- The items cover the text. -/
inductive Covers : List Item → Text → Prop where
  | nil : Covers [] []
  | run {rest : List Item} {text : Text} (skipped : Text) :
      Covers rest text → Covers (.anyRun :: rest) (skipped ++ text)
  | one {item : Item} {rest : List Item} {c : Char} {text : Text} :
      item.admits c = true → Covers rest text → Covers (item :: rest) (c :: text)

theorem covers_nil_iff {text : Text} : Covers [] text ↔ text = [] := by
  constructor
  · intro h
    cases h
    rfl
  · rintro rfl
    exact Covers.nil

theorem covers_run_nil_iff {rest : List Item} : Covers (.anyRun :: rest) [] ↔ Covers rest [] := by
  constructor
  · intro h
    -- `cases` needs a variable where the relation has an append
    generalize htext : ([] : Text) = text at h
    cases h with
    | run skipped h =>
      obtain ⟨rfl, rfl⟩ := List.append_eq_nil_iff.1 htext.symm
      exact h
    | one hadmits => cases htext
  · exact Covers.run []

/-- A run ends here, or it takes the next character. -/
theorem covers_run_cons_iff {rest : List Item} {c : Char} {text : Text} :
    Covers (.anyRun :: rest) (c :: text) ↔
      Covers rest (c :: text) ∨ Covers (.anyRun :: rest) text := by
  constructor
  · intro h
    generalize htext : c :: text = whole at h
    cases h with
    | run skipped h =>
      cases skipped with
      | nil =>
        obtain rfl : c :: text = _ := htext
        exact Or.inl h
      | cons d skipped =>
        obtain ⟨-, rfl⟩ := List.cons.inj htext
        exact Or.inr (Covers.run skipped h)
    | one hadmits => exact Bool.noConfusion hadmits
  · rintro (h | h)
    · exact Covers.run [] h
    · generalize hitems : Item.anyRun :: rest = items at h
      cases h with
      | nil => cases hitems
      | run skipped h =>
        cases hitems
        exact Covers.run (c :: skipped) h
      | one hadmits =>
        cases hitems
        exact Bool.noConfusion hadmits

theorem not_covers_cons_nil {item : Item} {rest : List Item} (hitem : item ≠ .anyRun) :
    ¬ Covers (item :: rest) [] := by
  intro h
  generalize htext : ([] : Text) = text at h
  cases h with
  | run => exact hitem rfl
  | one => cases htext

theorem covers_cons_iff {item : Item} {rest : List Item} {c : Char} {text : Text}
    (hitem : item ≠ .anyRun) :
    Covers (item :: rest) (c :: text) ↔ item.admits c = true ∧ Covers rest text := by
  constructor
  · intro h
    generalize htext : c :: text = whole at h
    cases h with
    | run => exact absurd rfl hitem
    | one hadmits h =>
      cases htext
      exact ⟨hadmits, h⟩
  · rintro ⟨hadmits, h⟩
    exact Covers.one hadmits h

/-! ### The rows that are computed -/

theorem extend_of_ne {item : Item} (hitem : item ≠ .anyRun) (text : Text) (later : List Bool) :
    item.extend text later =
      List.zipWith (fun c b => item.admits c && b) text later.tail ++ [false] := by
  cases item with
  | anyRun => exact absurd rfl hitem
  | anyOne | one | oneOf => rfl

theorem row_ne_nil (text : Text) (items : List Item) : row text items ≠ [] := by
  induction items with
  | nil => simp [row]
  | cons item rest ih =>
    by_cases hitem : item = .anyRun
    · subst hitem
      cases hrow : row text rest with
      | nil => exact absurd hrow ih
      | cons answer later => simp [row, Item.extend, hrow]
    · simp [row, extend_of_ne hitem]

/-- The row of a text is the answer for the text and the row of its tail. -/
theorem row_cons (c : Char) (text : Text) (items : List Item) :
    row (c :: text) items = accepts items (c :: text) :: row text items := by
  unfold accepts
  induction items with
  | nil => rfl
  | cons item rest ih =>
    by_cases hitem : item = .anyRun
    · subst hitem
      simp only [row, Item.extend]
      rw [ih]
      rfl
    · simp only [row, extend_of_ne hitem]
      rw [ih]
      cases hrow : row text rest with
      | nil => exact absurd hrow (row_ne_nil text rest)
      | cons answer later => rfl

theorem row_nil (items : List Item) : row [] items = [accepts items []] := by
  unfold accepts
  induction items with
  | nil => rfl
  | cons item rest ih =>
    by_cases hitem : item = .anyRun
    · subst hitem
      simp only [row, Item.extend]
      rw [ih]
      rfl
    · simp only [row, extend_of_ne hitem]
      rfl

theorem headD_row (text : Text) (items : List Item) :
    (row text items).headD false = accepts items text := rfl

/-- **The row answers what it is asked.** -/
theorem accepts_iff {items : List Item} {text : Text} :
    accepts items text = true ↔ Covers items text := by
  induction items generalizing text with
  | nil =>
    rw [covers_nil_iff]
    cases text with
    | nil => simp [accepts, row]
    | cons c text => simp [accepts, row, List.replicate_succ]
  | cons item rest ih =>
    by_cases hitem : item = .anyRun
    · subst hitem
      -- the answer of a run refers to itself at the next character
      induction text with
      | nil =>
        have hstep : accepts (.anyRun :: rest) [] = accepts rest [] := by
          rw [← headD_row, row, row_nil]
          simp [Item.extend]
        rw [covers_run_nil_iff, ← ih, hstep]
      | cons c text ihtext =>
        have hstep : accepts (.anyRun :: rest) (c :: text) =
            (accepts rest (c :: text) || accepts (.anyRun :: rest) text) := by
          rw [← headD_row, row, row_cons]
          rfl
        rw [covers_run_cons_iff, ← ih, ← ihtext, hstep, Bool.or_eq_true]
    · cases text with
      | nil =>
        have hnone : accepts (item :: rest) [] = false := by
          rw [← headD_row, row, extend_of_ne hitem]
          rfl
        rw [hnone]
        exact ⟨fun h => Bool.noConfusion h, fun h => absurd h (not_covers_cons_nil hitem)⟩
      | cons c text =>
        have hstep : accepts (item :: rest) (c :: text) =
            (item.admits c && accepts rest text) := by
          rw [← headD_row, row, extend_of_ne hitem, row_cons, ← headD_row text]
          cases row text rest with
          | nil => simp
          | cons answer later => rfl
        rw [covers_cons_iff hitem, ← ih, hstep, Bool.and_eq_true]

theorem covers_iff {pattern name : Text} :
    covers pattern name = true ↔ Covers (items pattern) name := accepts_iff

end VclReview.Glob
