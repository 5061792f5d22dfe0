/-
  VclReview/Numeral/Whole.lean
  ============================
  **Whole numbers as they are written on a command line.**  A numeral may stand
  between blanks and carry a sign; its digits may come from any script and may
  be grouped by single underscores; more than 4300 digits are refused.
-/
import VclReview.Text.Blank
import VclReview.Text.Digits

namespace VclReview.Numeral

open Text

/-- The blanks that may surround a numeral: all but the information separators. -/
def isMargin (c : Char) : Bool := isBlank c && !(0x1C ≤ c.toNat && c.toNat ≤ 0x1F)

/-- The sign of a numeral, `true` for minus, and what follows it. -/
def splitSign : Text → Bool × Text
  | '-' :: rest => (true, rest)
  | '+' :: rest => (false, rest)
  | rest => (false, rest)

/-- The values of one group of digits, which is not empty. -/
def group? (text : Text) : Option (List Nat) :=
  if text = [] then none else text.mapM digit?

/-- The values of the digits of a numeral whose groups are separated by single
    underscores. -/
def digits? (text : Text) : Option (List Nat) :=
  ((splitWhere (· == '_') text).mapM group?).map List.flatten

/-- The longest run of digits that is read as a whole number. -/
def maxDigits : Nat := 4300

/-- The whole number that a text denotes. -/
def whole? (text : Text) : Option Int :=
  let (negative, rest) := splitSign (trimWhere isMargin text)
  match digits? rest with
  | some digits =>
    if digits.length ≤ maxDigits then
      some (if negative then -(number digits : Int) else number digits)
    else none
  | none => none

end VclReview.Numeral
