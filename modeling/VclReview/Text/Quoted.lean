/-
  VclReview/Text/Quoted.lean
  ==========================
  **Text shown between quotes**, as messages do with names and paths.  Single
  quotes are used unless the text has a single quote and no double quote; the
  backslash, the quote in use and the three common white-space controls are
  written as two characters, and whatever is not printable by its code in
  hexadecimal: two, four or eight digits, the fewest that hold it.
-/
import VclReview.Text.Printable

namespace VclReview.Text

/-- The lower-case hexadecimal digits of a number, filled up with zeros. -/
def hex (width n : Nat) : Text :=
  let digits := Nat.toDigits 16 n
  List.replicate (width - digits.length) '0' ++ digits

/-- A character that is not printable, by its code. -/
def byCode (c : Char) : Text :=
  if c.toNat ≤ 0xFF then '\\' :: 'x' :: hex 2 c.toNat
  else if c.toNat ≤ 0xFFFF then '\\' :: 'u' :: hex 4 c.toNat
  else '\\' :: 'U' :: hex 8 c.toNat

/-- One character between quotes of the given kind. -/
def quotedChar (quote c : Char) : Text :=
  if c = quote ∨ c = '\\' then ['\\', c]
  else if c = '\n' then ['\\', 'n']
  else if c = '\r' then ['\\', 'r']
  else if c = '\t' then ['\\', 't']
  else if isPrintable c then [c]
  else byCode c

/-- The quote to put around a text. -/
def quoteFor (text : Text) : Char :=
  if text.elem '\'' && !text.elem '"' then '"' else '\''

/-- The text between quotes. -/
def quoted (text : Text) : Text :=
  let quote := quoteFor text
  quote :: text.flatMap (quotedChar quote) ++ [quote]

end VclReview.Text
