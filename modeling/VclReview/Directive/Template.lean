/-
  VclReview/Directive/Template.lean
  =================================
  **Message templates.**  A template is a text with slots in braces; a slot names the
  value that fills it, and a doubled brace stands for a single one.  Such a text is
  read from left to right into pieces (`Template.read`), and the pieces are filled in
  the same order (`Template.fill`).  Values are inserted as they are, so no character of
  a value has a meaning of its own.

  The first piece that cannot be filled makes the template fail: a slot without a
  value, a slot that asks for a value by its number, as there are none but named
  values, or a flaw in the text itself.  A slot may also ask for more than a value as
  it is, for a part of it, a conversion or a format.  What is made of these is not
  followed any further.
-/
import VclReview.Text.Digits
import VclReview.Text.Quoted

namespace VclReview

/-- Named values, in the order in which they were read. -/
abbrev Values (α : Type := Char) := List (List α × List α)

/-- Why a template cannot be filled. -/
inductive FormatError where
  /-- There is no value with the name. -/
  | missing (name : Text)
  /-- A value is asked for by its number. -/
  | numbered (index : Nat)
  /-- The number is too large for one. -/
  | hugeNumber
  /-- A brace stands alone. -/
  | single (brace : Char)
  /-- The text ends within a slot. -/
  | unclosed
  /-- The name of a slot holds an opening brace. -/
  | nestedSlot
  /-- The text ends where a conversion should stand. -/
  | noConversion
  /-- The conversion is followed by something else than a format. -/
  | longConversion
  /-- The text ends within a format. -/
  | unclosedFormat
  /-- More is asked for than a value as it is. -/
  | elaborate
  deriving DecidableEq

def FormatError.message : FormatError → Text
  | .missing name => Text.quoted name
  | .numbered index =>
    "Replacement index " ++ Text.ofNat index ++ " out of range for positional args tuple"
  | .hugeNumber => "Too many decimal digits in format string"
  | .single brace => "Single '" ++ brace :: "' encountered in format string".toList
  | .unclosed => "expected '\x7d' before end of string"
  | .nestedSlot => "unexpected '\x7b' in field name"
  | .noConversion => "end of string while looking for conversion specifier"
  | .longConversion => "expected ':' after conversion specifier"
  | .unclosedFormat => "unmatched '\x7b' in format spec"
  | .elaborate => ""

/-- A piece of a template. -/
inductive Piece where
  /-- Words that stand as they are. -/
  | words (text : Text)
  /-- The place of the value with the given name. -/
  | slot (name : Text)
  /-- The place of something that is made of the value with the given name. -/
  | elaborate (name : Text)
  /-- A place that cannot be filled with any values. -/
  | flaw (error : FormatError)
  deriving DecidableEq

/-- A message with places for values. -/
abbrev Template := List Piece

namespace Template

/-! ### Reading -/

/-- The greatest number by which a value can be asked for. -/
def maxIndex : Nat := 9223372036854775807

/-- The number that the digits form, after those already read, if they are all digits. -/
def number? (sofar : Nat) : Text → Except FormatError (Option Nat)
  | [] => .ok (some sofar)
  | c :: rest =>
    match Text.digit? c with
    | none => .ok none
    | some digit =>
      if maxIndex < 10 * sofar + digit then .error .hugeNumber
      else number? (10 * sofar + digit) rest

/-- Whether the character ends the name of a value within a slot. -/
def endsName (c : Char) : Bool := c == '.' || c == '['

/-- The piece of a slot: what stands in it up to the conversion and the format, and
    whether there is any of these.  A slot without a name counts as the first one. -/
def slotPiece (field : Text) (adorned : Bool) : Piece :=
  let name := field.takeWhile (!endsName ·)
  match if name = [] then .ok (some 0) else number? 0 name with
  | .error error => .flaw error
  | .ok (some index) => .flaw (.numbered index)
  | .ok none => if adorned || field.any endsName then .elaborate name else .slot name

/-- Words in front of further pieces, given from the last character on. -/
def withWords (reversed : Text) (pieces : Template) : Template :=
  if reversed = [] then pieces else .words reversed.reverse :: pieces

/-- Where the reading of a template stands, with what has been read of the current
    piece, from the last character on. -/
inductive Stage where
  | words (sofar : Text)
  /-- Behind a brace. -/
  | brace (brace : Char) (sofar : Text)
  | name (sofar : Text)
  /-- Between brackets within a name. -/
  | item (sofar : Text)
  /-- Where a conversion should stand. -/
  | conversion (name : Text)
  /-- Behind a conversion. -/
  | converted (name : Text)
  /-- In a format, within so many pairs of braces; a format of no characters is none. -/
  | format (name : Text) (adorned : Bool) (depth : Nat)

/-- What a character of a slot does, before any conversion and format: the pieces that
    are complete now, and how the reading goes on, if it does. -/
def nameStep (sofar : Text) (c : Char) : Template × Option Stage :=
  if c = '{' then ([.flaw .nestedSlot], none)
  else if c = '}' then ([slotPiece sofar.reverse false], some (.words []))
  else if c = '!' then ([], some (.conversion sofar))
  else if c = ':' then ([], some (.format sofar false 0))
  else if c = '[' then ([], some (.item (c :: sofar)))
  else ([], some (.name (c :: sofar)))

namespace Stage

/-- What one character does. -/
def step : Stage → Char → Template × Option Stage
  | words sofar, c =>
    if c = '{' ∨ c = '}' then ([], some (brace c sofar)) else ([], some (words (c :: sofar)))
  | brace first sofar, c =>
    if c = first then ([], some (words (c :: sofar)))
    else if first = '}' then ([.flaw (.single first)], none)
    else
      let (pieces, next) := nameStep [] c
      (withWords sofar pieces, next)
  | name sofar, c => nameStep sofar c
  | item sofar, c =>
    if c = ']' then ([], some (name (c :: sofar))) else ([], some (item (c :: sofar)))
  | conversion field, _ => ([], some (converted field))
  | converted field, c =>
    if c = '}' then ([slotPiece field.reverse true], some (words []))
    else if c = ':' then ([], some (format field true 0))
    else ([.flaw .longConversion], none)
  | format field adorned depth, c =>
    if c = '{' then ([], some (format field true (depth + 1)))
    else if c = '}' then
      match depth with
      | 0 => ([slotPiece field.reverse adorned], some (words []))
      | outer + 1 => ([], some (format field true outer))
    else ([], some (format field true depth))

/-- What the end of the text comes to. -/
def finish : Stage → Template
  | words sofar => withWords sofar []
  | brace first _ => [.flaw (.single first)]
  | name _ | item _ => [.flaw .unclosed]
  | conversion _ => [.flaw .noConversion]
  | converted _ | format _ _ _ => [.flaw .unclosedFormat]

end Stage

/-- The pieces of the rest of a text. -/
def readFrom (stage : Stage) : Text → Template
  | [] => stage.finish
  | c :: rest =>
    match stage.step c with
    | (pieces, some next) => pieces ++ readFrom next rest
    | (pieces, none) => pieces

/-- The pieces of a text. -/
def read (text : Text) : Template := readFrom (.words []) text

end Template

/-! ### Filling -/

def Piece.fill (values : Values) : Piece → Except FormatError Text
  | .words text => .ok text
  | .slot name =>
    match values.lookup name with
    | some value => .ok value
    | none => .error (.missing name)
  | .elaborate name =>
    match values.lookup name with
    | some _ => .error .elaborate
    | none => .error (.missing name)
  | .flaw error => .error error

def Template.fill (values : Values) : Template → Except FormatError Text
  | [] => .ok []
  | piece :: rest => do
    let head ← piece.fill values
    let tail ← fill values rest
    return head ++ tail

end VclReview
