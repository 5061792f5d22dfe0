/-
  VclReview/Report/Summary.lean
  =============================
  **The numbers of a scan**: for each file its lines, how many of them were
  recognized, and how often each directive occurs, the directives in
  alphabetical order.
-/
import VclReview.Ordering
import VclReview.Scan.Folder

namespace VclReview

/-- The numbers of one file. -/
structure FileSummary (α : Type := Char) where
  file : List α
  lines : Nat
  recognized : Nat
  /-- The directives that occur, each with its number of lines. -/
  directives : List (List α × Nat)
  deriving DecidableEq

variable {α : Type} [Letter α] [DecidableEq α]

/-- The directives of annotations, each with its number of lines. -/
def directiveCounts (annotations : List <| Annotation α) : List (List α × Nat) :=
  let names := annotations.map (·.directive)
  (sortWith Letter.inOrder names.eraseDups).map fun name => (name, names.count name)

/-- The numbers of a file. -/
def FileSummary.of (file : Path α) (annotations : List <| Annotation α) : FileSummary α where
  file := file.toText
  lines := annotations.length
  recognized := recognizedCount annotations
  directives := directiveCounts annotations

/-- The numbers of all files. -/
def summaries (results : Results α) : List (FileSummary α) :=
  results.map fun (file, annotations) => .of file annotations

end VclReview
