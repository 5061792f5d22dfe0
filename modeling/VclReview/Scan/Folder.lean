/-
  VclReview/Scan/Folder.lean
  ==========================
  **Scanning a directory.**  Of everything below it, in the order of the names,
  those files are chosen that no excluded directory holds, whose names a glob
  covers and which are not too large.  Each chosen file is scanned on its own,
  and one that cannot be read as text is left out with a warning.  Any other error
  stops the scan, and then there are no results.
-/
import VclReview.Glob
import VclReview.Scan.File
import VclReview.Setting

namespace VclReview

/-- The annotations of each scanned file, in the order of scanning. -/
abbrev Results (α : Type := Char) := List (Path α × (List <| Annotation α))

/-- The annotations for a path put in the place of those it had, or else at the
    end. -/
def Results.put (file : Path) (annotations : List Annotation) : Results → Results
  | [] => [(file, annotations)]
  | entry :: rest =>
    if entry.1 = file then (file, annotations) :: rest
    else entry :: Results.put file annotations rest

/-- How a directory is to be scanned. -/
structure FolderSettings where
  root : Path
  /-- The globs of which one must cover a file's name. -/
  globs : List Text
  /-- The names of the directories that are passed over. -/
  excluded : List Text
  /-- The greatest size of a file in bytes. -/
  sizeLimit : Setting Int
  showProgress : Bool
  progressTitle : Text

/-- The bar that shows how far a scan has come. -/
structure ProgressBar where
  total : Nat
  title : Text
  unit : Text
  /-- The label shown after each file. -/
  labels : List Text
  /-- How far the bar has moved. -/
  moved : Nat
  closed : Bool
  deriving DecidableEq

/-- What becomes of an entry below the directory. -/
inductive Verdict where
  | passedOver
  /-- It cannot be told what it leads to. -/
  | obstructed (error : DiskError)
  | unmeasured (reason : Text)
  | oversized (size : Nat) (limit : Int)
  /-- There is no limit to compare its size with. -/
  | incomparable
  | chosen
  deriving DecidableEq

def Verdict.stop? : Verdict → Option ScanError
  | .obstructed error => some (.disk error)
  | .incomparable => some .noLimit
  | _ => none

/-- The title of progress bars unless another is given. -/
def usualProgressTitle : Text := "Scanning VCL files"

/-- The greatest size of a file unless another is given. -/
def usualSizeLimit : Int := 5000000

namespace FolderSettings

/-- Whether a glob covers the name. -/
def wants (settings : FolderSettings) (name : Text) : Bool :=
  settings.globs.any (Glob.covers · name)

/-- The verdict on the entry with the given names below the directory. -/
def judge (settings : FolderSettings) (tree : FileTree) (names : List Text) : Verdict :=
  let file := settings.root.join names
  match tree.obstacle? file with
  | some fault => .obstructed (.refused fault file.toText)
  | none =>
    if tree.isFolder file then .passedOver
    else if names.dropLast.any settings.excluded.elem then .passedOver
    else if !settings.wants (names.getLast?.getD []) then .passedOver
    else
      match tree.size file, settings.sizeLimit with
      | .error error, _ => .unmeasured error.message
      | .ok _, .blank => .incomparable
      | .ok size, .value limit => if limit < size then .oversized size limit else .chosen

/-- The file with the given names below the directory, if it is chosen. -/
def chosen? (settings : FolderSettings) (tree : FileTree) (names : List Text) : Option Path :=
  if settings.judge tree names = .chosen then some (settings.root.join names) else none

/-- The event of an entry that would have been wanted but was not chosen. -/
def refusal? (settings : FolderSettings) (tree : FileTree) (names : List Text) : Option Event :=
  match settings.judge tree names with
  | .unmeasured reason => some (.unmeasured (settings.root.join names) reason)
  | .oversized size limit => some (.oversized (settings.root.join names) size limit)
  | _ => none

/-- The bar of a scan of the given files that has come to the end of some of them;
    there is none for no files. -/
def progress (settings : FolderSettings) (files done : List Path) : List ProgressBar :=
  if settings.showProgress ∧ files ≠ [] then
    [{ total := files.length, title := settings.progressTitle, unit := "file",
       labels := done.map (Path.labelBelow settings.root), moved := done.length,
       closed := true }]
  else []

end FolderSettings

/-- What a scan leaves behind. -/
structure Scan where
  results : Results
  events : List Event
  bars : List ProgressBar
  stop : Option ScanError

/-- What the scan of a file comes to. -/
abbrev FileScan := Except ScanError (List Annotation)

/-- The error of a scan of a file that stops all further scanning. -/
def FileScan.stop? : FileScan → Option ScanError
  | .ok _ => none
  | .error error => if error.blamesFile then none else some error

/-- The event of a chosen file. -/
def FileScan.event (file : Path) : FileScan → Event
  | .ok annotations => scannedEvent true file annotations
  | .error error => .skipped file error.message

/-- Scans the chosen files one after the other. -/
def scanFiles (tree : FileTree) (reader : TextReader) (shapes : List Shape)
    (settings : FolderSettings) (files : List Path) : Scan :=
  let scans := files.map fun file => (file, scanFile tree reader shapes file)
  let smooth := scans.takeWhile fun (_, scan) => (FileScan.stop? scan).isNone
  let events := smooth.map fun (file, scan) => FileScan.event file scan
  match (scans.drop smooth.length).head? with
  | none =>
    { results := scans.filterMap fun (file, scan) => scan.toOption.map (file, ·)
      events, bars := settings.progress files files, stop := none }
  | some (file, scan) =>
    { results := [], events, stop := FileScan.stop? scan
      bars := settings.progress files (smooth.map (·.1) ++ [file]) }

/-- Scans a directory. -/
def scanFolder (tree : FileTree) (reader : TextReader) (shapes : List Shape)
    (settings : FolderSettings) : Scan :=
  match tree.search settings.root with
  | .error error => ⟨[], [], [], some (.disk error)⟩
  | .ok entries =>
    let judged := entries.takeWhile fun names => (settings.judge tree names).stop?.isNone
    let refusals := judged.filterMap (settings.refusal? tree)
    match (entries.drop judged.length).head? with
    | some names => ⟨[], refusals, [], (settings.judge tree names).stop?⟩
    | none =>
      let files := entries.filterMap (settings.chosen? tree)
      let scan := scanFiles tree reader shapes settings files
      { scan with events := refusals ++ .discovered files.length settings.root :: scan.events }

end VclReview
