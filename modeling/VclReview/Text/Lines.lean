/-
  VclReview/Text/Lines.lean
  =========================
  **Three notions of a line.**

    * `lines`: what a newline ends.  Nothing follows the last newline, so a text
      of `n` newlines has `n` lines, plus one when it does not end in a newline.
    * `rows`: what any of the Unicode line breaks separates.  A carriage return
      and a newline count as two breaks; the empty row between them is there for
      no reader to see, since rows are only searched for words.
    * `unifyBreaks`: the text with `\r\n` and `\r` written as `\n`.
-/
import VclReview.Text.Basic

namespace VclReview.Text

/-- The lines of a text, without the newlines that end them. -/
def lines (text : Text) : List Text :=
  let parts := splitWhere (· == '\n') text
  if parts.getLast? = some [] then parts.dropLast else parts

/-- The characters that end a row. -/
def rowBreaks : Ranges := [(0x0A, 0x0D), (0x1C, 0x1E), (0x85, 0x85), (0x2028, 0x2029)]

/-- The rows of a text: its parts between line breaks of any kind. -/
def rows (text : Text) : List Text := splitWhere rowBreaks.has text

/-- The text with every line break of the carriage-return kinds written as a
    newline. -/
def unifyBreaks : Text → Text
  | '\r' :: '\n' :: rest => '\n' :: unifyBreaks rest
  | '\r' :: rest => '\n' :: unifyBreaks rest
  | c :: rest => c :: unifyBreaks rest
  | [] => []

end VclReview.Text
