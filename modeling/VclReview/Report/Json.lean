/-
  VclReview/Report/Json.lean
  ==========================
  **JSON documents** of texts, whole numbers, lists and objects, written in ASCII
  only.  Inside a text the quote, the backslash and five controls are written as
  two characters, and everything outside printable ASCII by its UTF-16 units, a
  surrogate like the unit that it is.

    * `compact`   on one line, with a space after each comma and colon;
    * `pretty`    one item per line, two more spaces for each level; an empty list
      or object stays on its line.
-/
import VclReview.Text.Letter
import VclReview.Text.Quoted

namespace VclReview

/-- A JSON document.  An object keeps the order of its fields. -/
inductive Json (α : Type := Char) where
  | str (text : List α)
  | num (value : Int)
  | arr (items : List (Json α))
  | obj (fields : List (List α × Json α))

namespace Json

/-! ### Texts -/

/-- A UTF-16 unit by its code. -/
def unitEscape (unit : Nat) : Text := '\\' :: 'u' :: Text.hex 4 unit

/-- A character by its UTF-16 units. -/
def codeEscape (c : Char) : Text :=
  if c.toNat < 0x10000 then unitEscape c.toNat
  else
    unitEscape (0xD800 + (c.toNat - 0x10000) / 0x400)
      ++ unitEscape (0xDC00 + (c.toNat - 0x10000) % 0x400)

/-- A character inside quotes. -/
def escape (c : Char) : Text :=
  if c = '"' then ['\\', '"']
  else if c = '\\' then ['\\', '\\']
  else if c = '\n' then ['\\', 'n']
  else if c = '\r' then ['\\', 'r']
  else if c = '\t' then ['\\', 't']
  else if c = '\x0c' then ['\\', 'f']
  else if c = '\x08' then ['\\', 'b']
  else if 0x20 ≤ c.toNat ∧ c.toNat < 0x7F then [c]
  else codeEscape c

/-- A code point inside quotes. -/
def pointEscape : CodePoint → Text
  | .char c => escape c
  | .surrogate index => unitEscape (CodePoint.firstSurrogate + index)

variable {α : Type} [Letter α]

/-- A text between quotes. -/
def string (text : List α) : Text :=
  '"' :: text.flatMap (fun a => pointEscape (Letter.point a)) ++ ['"']

/-! ### On one line -/

mutual

/-- The document on one line. -/
def compact : Json α → Text
  | str text => string text
  | num value => Text.ofInt value
  | arr items => '[' :: compactItems items ++ [']']
  | obj fields => '{' :: compactFields fields ++ ['}']

/-- The items of a list on one line. -/
def compactItems : List (Json α) → Text
  | [] => []
  | [item] => compact item
  | item :: next :: rest => compact item ++ ',' :: ' ' :: compactItems (next :: rest)

/-- The fields of an object on one line. -/
def compactFields : List (List α × Json α) → Text
  | [] => []
  | [(name, value)] => string name ++ ':' :: ' ' :: compact value
  | (name, value) :: next :: rest =>
    string name ++ ':' :: ' ' :: compact value ++ ',' :: ' ' :: compactFields (next :: rest)

end

/-! ### On many lines -/

/-- The end of a line and the indentation of the next one. -/
def newLine (level : Nat) : Text := '\n' :: List.replicate (2 * level) ' '

mutual

/-- The document, its inner lines indented below the given level. -/
def prettyAt (level : Nat) : Json α → Text
  | str text => string text
  | num value => Text.ofInt value
  | arr [] => ['[', ']']
  | arr (item :: rest) =>
    '[' :: newLine (level + 1) ++ prettyAt (level + 1) item ++ prettyItems (level + 1) rest
      ++ newLine level ++ [']']
  | obj [] => ['{', '}']
  | obj ((name, value) :: rest) =>
    '{' :: newLine (level + 1) ++ string name ++ ':' :: ' ' :: prettyAt (level + 1) value
      ++ prettyFields (level + 1) rest ++ newLine level ++ ['}']

/-- The items of a list after the first one. -/
def prettyItems (level : Nat) : List (Json α) → Text
  | [] => []
  | item :: rest => ',' :: newLine level ++ prettyAt level item ++ prettyItems level rest

/-- The fields of an object after the first one. -/
def prettyFields (level : Nat) : List (List α × Json α) → Text
  | [] => []
  | (name, value) :: rest =>
    ',' :: newLine level ++ string name ++ ':' :: ' ' :: prettyAt level value
      ++ prettyFields level rest

end

/-- The document on many lines. -/
def pretty (document : Json α) : Text := prettyAt 0 document

end Json

end VclReview
