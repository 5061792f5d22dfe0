/-
  VclReview/Text/Blank.lean
  =========================
  **Blank characters of all scripts.**  A character is blank when Unicode counts
  it as white space, or when it is one of the four information separators
  U+001C to U+001F.  `trim` removes blanks at both ends and `words` splits at
  runs of them.
-/
import VclReview.Text.Basic

namespace VclReview.Text

/-- The blank characters. -/
def blanks : Ranges :=
  [(0x09, 0x0D), (0x1C, 0x20), (0x85, 0x85), (0xA0, 0xA0), (0x1680, 0x1680), (0x2000, 0x200A),
   (0x2028, 0x2029), (0x202F, 0x202F), (0x205F, 0x205F), (0x3000, 0x3000)]

/-- Whether the character is blank. -/
def isBlank (c : Char) : Bool := blanks.has c

/-- The text without the letters satisfying `p` at its two ends. -/
def trimWhere {α : Type} (p : α → Bool) (text : List α) : List α :=
  ((text.dropWhile p).reverse.dropWhile p).reverse

/-- The text without blanks at its two ends. -/
def trim (text : Text) : Text := trimWhere isBlank text

/-- The runs of characters that are not blank. -/
def words (text : Text) : List Text := pieces isBlank text

end VclReview.Text
