/-
  VclReview/Text/Fields.lean
  ==========================
  **Reading one field out of a line.**  Fields are numbered from one and a field
  that is not there reads as the empty text.

    * `columns`     runs of characters other than space and tab;
    * `splitOn`     the parts between leftmost, non-overlapping occurrences of a
      separator text;
    * `quotedValue`, `assignedValue`, `synthCode`, `leadingColumn`: the readers
      for the places where a configuration line keeps its values;
    * `names`       the entries of a comma-separated list.
-/
import VclReview.Text.Blank

namespace VclReview.Text

/-! ### Numbered fields -/

/-- The field with the given number, or nothing for a number out of range. -/
def nth (fields : List Text) (number : Int) : Text :=
  if 0 < number then fields.getD (number.toNat - 1) [] else []

/-- The characters between columns: other white space belongs to a column. -/
def isColumnGap (c : Char) : Bool := c == ' ' || c == '\t'

/-- The columns of a line, gaps at either end ignored. -/
def columns (line : Text) : List Text := pieces isColumnGap line

/-- The column with the given number. -/
def column (line : Text) (number : Int) : Text := nth (columns line) number

/-- The parts of a line between the occurrences of a separator, taken from the
    left and without overlap.  An empty separator splits nothing. -/
def splitOn (sep : Text) (line : Text) : List Text :=
  if _ : sep = [] then [line]
  else
    match _ : cut? sep line with
    | some (field, rest) => field :: splitOn sep rest
    | none => [line]
termination_by line.length
decreasing_by exact length_lt_of_cut? ‹_› ‹_›

/-- The one way in which asking for a delimited field can fail. -/
inductive FieldError where
  | emptySeparator
  deriving DecidableEq

def FieldError.message : FieldError → Text
  | .emptySeparator => "empty separator"

/-- The field with the given number among the parts between separators; an empty
    separator delimits no field at all. -/
def delimited? (line sep : Text) (number : Int) : Except FieldError Text :=
  if sep = [] then .error .emptySeparator else .ok (nth (splitOn sep line) number)

/-! ### The places where values stand -/

/-- The text after the first double quote, up to the next one. -/
def quotedValue (line : Text) : Text := nth (splitOn ['"'] line) 2

def dropSemicolons (text : Text) : Text := text.filter (· != ';')

/-- The text without double quotes. -/
def dropQuotes (text : Text) : Text := text.filter (· != '"')

/-- The text after the first equals sign that has a space on both sides, up to
    the next such sign, without its semicolons. -/
def assignedValue (line : Text) : Text := dropSemicolons (nth (splitOn " = " line) 2)

/-- The first argument of the leftmost `synth(` call, trimmed: what stands before
    the next comma or closing parenthesis. -/
def synthCode (line : Text) : Text :=
  match cut? "synth(" line with
  | some (_, rest) => trim (rest.takeWhile fun c => c != ',' && c != ')')
  | none => []

/-- Whether the line ends with `tail` and has `mark` before that end. -/
def containsBefore (line mark tail : Text) : Bool :=
  endsWith tail line && contains mark (line.take (line.length - tail.length))

/-- What follows `lead` in the first column that starts with it. -/
def leadingColumn (line lead : Text) : Text :=
  ((columns line).findSome? (dropLead? lead)).getD []

/-! ### Lists of names -/

/-- The trimmed entries of a comma-separated list, blank entries left out. -/
def names (list : Text) : List Text :=
  ((splitWhere (· == ',') list).map trim).filter (!·.isEmpty)

end VclReview.Text
