/-
  VclReview/Scan/File.lean
  ========================
  **Scanning one file**: its text is cut into lines, and every line is annotated
  under its number and the path of the file.
-/
import VclReview.Annotation
import VclReview.Bytes.Reading
import VclReview.Disk.Lookup
import VclReview.Scan.Log
import VclReview.Text.Lines

namespace VclReview

/-- Why files cannot be scanned. -/
inductive ScanError where
  | unreadable (file : Path)
  /-- A file cannot be opened, or a directory cannot be searched. -/
  | disk (error : DiskError)
  /-- Reading a file goes wrong. -/
  | reading (error : ReadError)
  | line (error : AnnotationError)
  /-- There is no limit to compare the size of a file with. -/
  | noLimit
  deriving DecidableEq

def ScanError.message : ScanError → Text
  | .unreadable file =>
    "Configuration file '" ++ file.toText ++ "' is not a readable text file"
  | .disk error => error.message
  | .reading error => error.message
  | .line error => error.message
  | .noLimit => "'>' not supported between instances of 'int' and 'list'"

/-- Whether the error lies with a file, so that a run can report it and other files
    are not affected. -/
def ScanError.blamesFile : ScanError → Bool
  | .unreadable _ | .disk _ => true
  | _ => false

/-- How many annotations are of recognized lines. -/
def recognizedCount {α : Type} [Letter α] [DecidableEq α] (annotations : List <| Annotation α) :
    Nat :=
  annotations.countP (·.recognized)

/-- The annotations of a text that stands in the given file. -/
def annotateText (shapes : List Shape) (file : Path) (text : Text) :
    Except AnnotationError (List Annotation) :=
  annotateFrom shapes file.toText 1 (Text.lines text)

/-- The annotations of the lines of a file. -/
def scanFile (tree : FileTree) (reader : TextReader) (shapes : List Shape) (file : Path) :
    Except ScanError (List Annotation) :=
  match tree.contentsAt file with
  | .error error => .error (.disk error)
  | .ok bytes =>
    match Bytes.readText reader Bytes.usualLimit bytes with
    | .error error => .error (.reading error)
    | .ok none => .error (.unreadable file)
    | .ok (some text) => (annotateText shapes file text).mapError .line

/-- The event of a file that has been scanned. -/
def scannedEvent (inFolder : Bool) (file : Path) (annotations : List Annotation) : Event :=
  .scanned inFolder file annotations.length (recognizedCount annotations)

end VclReview
