/-
  VclReview/Directive/Shape.lean
  ==============================
  **Directive shapes.**  A shape recognises lines of one kind, reads the values
  they carry and says what to tell about them: a message and further advice.
  Shapes are tried in ascending rank.  A shape without a rank takes no part, and
  one without a test cannot be asked about a line.
-/
import VclReview.Directive.Template

namespace VclReview

/-- A kind of configuration line. -/
structure Shape where
  /-- The name of the definition. -/
  label : Text
  name : Text
  /-- The place in the order of trial. -/
  rank : Option Int
  /-- The test that lines of this kind pass. -/
  test : Option (Text → Bool)
  extract : Text → Values
  /-- The template that says what a line of this kind does. -/
  message : Text
  /-- The templates that say what to keep in mind about it. -/
  advice : List Text

/-- The shape that all others start from: no rank, no test, nothing to tell. -/
def Shape.root : Shape where
  label := "DirectiveShape"
  name := "base"
  rank := none
  test := none
  extract _ := []
  message := []
  advice := []

/-- Fills templates in order. -/
def fillAll (values : Values) : List Template → Except FormatError (List Text)
  | [] => .ok []
  | template :: rest => do
    let head ← template.fill values
    let tail ← fillAll values rest
    return head :: tail

/-- The templates of the message and the advice, in reading order. -/
def Shape.templates (shape : Shape) : List Template :=
  (shape.message :: shape.advice).map Template.read

/-- The message and the advice for the given values. -/
def Shape.describe (shape : Shape) (values : Values) : Except FormatError (List Text) :=
  fillAll values shape.templates

/-- The shape in one short text: its label, its name and its rank. -/
def Shape.summary (shape : Shape) : Text :=
  "<" ++ shape.label ++ " " ++ shape.name ++ " order=" ++
    (match shape.rank with
      | some rank => Text.ofInt rank
      | none => "None") ++ ">"

end VclReview
