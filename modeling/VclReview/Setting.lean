/-
  VclReview/Setting.lean
  ======================
  **What an option holds**: a value, or nothing.  An option that was given but got
  no value is `blank`, which is not the same as an option that was left out: that
  one keeps its usual value.
-/
import VclReview.Text.Basic

namespace VclReview

/-- A value, or nothing. -/
inductive Setting (α : Type) where
  | value (held : α)
  | blank
  deriving DecidableEq

/-- A value stands for the setting that holds it. -/
instance {α : Type} : Coe α (Setting α) := ⟨.value⟩

namespace Setting

/-- The text of a setting.  A blank one is shown as an empty list. -/
def text {α : Type} (write : α → Text) : Setting α → Text
  | .value held => write held
  | .blank => "[]"

/-- The items that a setting lists; a blank one lists none. -/
def items {α β : Type} (list : α → List β) : Setting α → List β
  | .value held => list held
  | .blank => []

end Setting

end VclReview
