/-
  VclReview/Report/Artifact.lean
  ==============================
  **The four files of a report**: all annotations and the numbers of each file as
  JSON, and both once more for reading.
-/
import VclReview.Report.Json
import VclReview.Report.Summary

namespace VclReview

namespace Report

open Letter

variable {α : Type} [Letter α]

/-- Lines joined by newlines; the last one is not ended. -/
def joinLines (lines : List (List α)) : List α := List.intercalate (spell ['\n']) lines

/-! ### JSON -/

/-- Named values as an object. -/
def valuesJson (values : Values α) : Json α :=
  .obj (values.map fun (name, value) => (name, .str value))

/-- An annotation as an object. -/
def annotationJson (a : Annotation α) : Json α :=
  .obj [(spell "file_location", .str a.location), (spell "line_num", .num a.lineNumber),
    (spell "text", .str a.text), (spell "directive", .str a.directive),
    (spell "values", valuesJson a.values), (spell "messages", .arr (a.messages.map .str))]

/-- All annotations, file by file. -/
def annotationsJson (results : Results α) : Text :=
  (Json.arr (results.flatMap fun (_, annotations) => annotations.map annotationJson)).pretty

/-- The numbers of a file as an object. -/
def summaryJson (s : FileSummary α) : Json α :=
  .obj [(spell "file", .str s.file), (spell "lines", .num s.lines),
    (spell "recognized", .num s.recognized),
    (spell "directives", .obj (s.directives.map fun (name, count) => (name, .num count)))]

/-- The numbers of all files. -/
def indexJson [DecidableEq α] (results : Results α) : Text :=
  (Json.arr ((summaries results).map summaryJson)).pretty

/-! ### For reading -/

/-- The lines about an annotation. -/
def annotationLines (a : Annotation α) : List (List α) :=
  let place : List (List α) :=
    [spell ("- **line**: " ++ Text.ofInt a.lineNumber ++ "  "),
     spell "  **directive**: " ++ a.directive ++ spell "  ",
     spell "  **text**: `" ++ Text.trimWhere isBlank a.text ++ spell "`  "]
  let values : List (List α) :=
    if a.values = [] then []
    else [spell ("  **values**: `" ++ (valuesJson a.values).compact ++ "`  ")]
  let messages : List (List α) := a.messages.map fun message => spell "  - " ++ message
  place ++ values ++ messages ++ [[]]

/-- The lines about a file. -/
def fileLines (file : Path α) (annotations : List <| Annotation α) : List (List α) :=
  (spell "## " ++ file.toText) :: [] :: annotations.flatMap annotationLines

/-- All annotations, for reading. -/
def annotationsMarkdown (results : Results α) : List α :=
  let title : List (List α) := [spell "# VCL Annotations", []]
  joinLines (title ++ results.flatMap fun (file, annotations) => fileLines file annotations)

/-- The lines about the numbers of a file. -/
def summaryLines (s : FileSummary α) : List (List α) :=
  let numbers : List (List α) :=
    [spell "## " ++ s.file, spell ("- lines: " ++ Text.ofNat s.lines),
     spell ("- recognized: " ++ Text.ofNat s.recognized)]
  let directives : List (List α) :=
    s.directives.map fun (name, count) => spell "- " ++ name ++ spell (": " ++ Text.ofNat count)
  numbers ++ directives ++ [[]]

/-- The lines about the audit; there may have been none. -/
def auditSection : Option (List (List α)) → List (List α)
  | none => [spell "- not run"]
  | some lines => lines.map fun line => spell "- " ++ line

/-- The numbers of all files and the audit, for reading. -/
def summaryMarkdown [DecidableEq α] (results : Results α) (audit : Option (List (List α))) :
    List α :=
  let title : List (List α) := [spell "# Scan Summary", []]
  let heading : List (List α) := [spell "## Header audit"]
  joinLines
    (title ++ (summaries results).flatMap summaryLines ++ heading ++ auditSection audit ++ [[]])

end Report

/-- A file of a report. -/
inductive Artifact where
  | annotationsJson
  | indexJson
  | annotationsMarkdown
  | summaryMarkdown
  deriving DecidableEq

namespace Artifact

/-- The files of a report, in the order in which they are written. -/
def all : List Artifact := [annotationsJson, indexJson, annotationsMarkdown, summaryMarkdown]

def fileName : Artifact → Text
  | annotationsJson => "annotations.json"
  | indexJson => "index.json"
  | annotationsMarkdown => "annotations.md"
  | summaryMarkdown => "summary.md"

/-- The contents of the file. -/
def contents {α : Type} [Letter α] [DecidableEq α] (results : Results α)
    (audit : Option (List (List α))) : Artifact → List α
  | annotationsJson => Letter.spell (Report.annotationsJson results)
  | indexJson => Letter.spell (Report.indexJson results)
  | annotationsMarkdown => Report.annotationsMarkdown results
  | summaryMarkdown => Report.summaryMarkdown results audit

end Artifact

end VclReview
