/-
  VclReview/Annotation.lean
  =========================
  **Annotating a line.**  The first shape whose test the line passes gives its
  name, the values it reads and its messages; a line that no shape takes is
  reported as it stands, with a warning.
-/
import VclReview.Directive.Shape
import VclReview.Text.Letter

namespace VclReview

/-- What is said about one line. -/
structure Annotation (α : Type := Char) where
  /-- The number of the line, counted from one. -/
  lineNumber : Int
  /-- The line itself. -/
  text : List α
  directive : List α
  /-- What to print about it. -/
  messages : List (List α)
  values : Values α
  /-- The file it stands in. -/
  location : List α
  deriving DecidableEq

namespace Annotation

/-- The directive of lines that no shape takes. -/
def unrecognized : Text := "unrecognized"

/-- Whether some shape took the line. -/
def recognized {α : Type} [Letter α] [DecidableEq α] (a : Annotation α) : Bool :=
  a.directive != Letter.spell unrecognized

/-- The template of the first message about a line that no shape takes. -/
def unrecognizedMessage : Text := "Unrecognized line: {line}"

/-- The second message about it. -/
def unrecognizedWarning : Text :=
  "Warning: This line could not be analyzed and may require manual review."

/-- The messages for a line that no shape takes. -/
def unrecognizedMessages (line : Text) : Except FormatError (List Text) := do
  let message ← (Template.read unrecognizedMessage).fill [("line", line)]
  return [message, unrecognizedWarning]

end Annotation

/-- Why a line cannot be annotated. -/
inductive AnnotationError where
  /-- A shape without a test was reached. -/
  | untestable
  /-- A message cannot be put together. -/
  | unfilled (error : FormatError)
  deriving DecidableEq

def AnnotationError.message : AnnotationError → Text
  | .untestable => "matches must be implemented in subclasses"
  | .unfilled error => error.message

/-- The first of the shapes whose test the line passes. -/
def firstMatch (line : Text) : List Shape → Except AnnotationError (Option Shape)
  | [] => .ok none
  | shape :: rest =>
    match shape.test with
    | none => .error .untestable
    | some test => if test line then .ok (some shape) else firstMatch line rest

/-- The annotation of a line by the given shapes. -/
def annotate (shapes : List Shape) (line : Text) (lineNumber : Int) (location : Text) :
    Except AnnotationError Annotation :=
  match firstMatch line shapes with
  | .error error => .error error
  | .ok none =>
    match Annotation.unrecognizedMessages line with
    | .error error => .error (.unfilled error)
    | .ok messages => .ok ⟨lineNumber, line, Annotation.unrecognized, messages, [], location⟩
  | .ok (some shape) =>
    let values := shape.extract line
    match shape.describe values with
    | .error error => .error (.unfilled error)
    | .ok messages => .ok ⟨lineNumber, line, shape.name, messages, values, location⟩

/-- The annotations of consecutive lines, counted from `start`. -/
def annotateFrom (shapes : List Shape) (location : Text) (start : Int) (lines : List Text) :
    Except AnnotationError (List Annotation) :=
  lines.zipIdx.mapM fun (line, i) => annotate shapes line (start + i) location

/-- The printed lines of annotations, each annotation after a line with its place
    if line numbers are asked for. -/
def render (lineNumbers : Bool) (annotations : List Annotation) : List Text :=
  annotations.flatMap fun a =>
    if lineNumbers then
      ("[" ++ a.location ++ ":" ++ Text.ofInt a.lineNumber ++ "]") :: a.messages
    else a.messages

end VclReview
