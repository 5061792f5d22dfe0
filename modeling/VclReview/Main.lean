/-
  VclReview/Main.lean
  ===================
  **The program.**  The files that a command line speaks of are read into a file
  tree, the run is computed on it, and then the lines are printed and the changed
  files are written.  No program is started from here, so the administration
  program cannot answer: a live audit ends with the error that it could not be
  started.
-/
import VclReview.Bytes.Charset
import VclReview.Run

namespace VclReview.Shell

/-- The absolute name of a place. -/
def nameOf (place : Place) : String := String.ofList ('/' :: List.intercalate ['/'] place)

/-- The place of an absolute name. -/
def placeOf (name : String) : Place := (Path.ofText name.toList).parts

/-- Where a link leads once all links have been followed, or a name that does not
    exist if it leads nowhere. -/
def targetOf (name : String) : IO Text := do
  try
    return (← IO.FS.realPath name).toString.toList
  catch _ => return name.toList ++ " (missing)"

/-- What stands at a place. -/
def entryAt? (place : Place) : IO (Option Entry) := do
  let name := nameOf place
  try
    match (← ((← IO.currentDir) / name).symlinkMetadata).type with
    | .dir => return some .folder
    | .symlink => return some (.link (← targetOf name))
    | .file => return some (.file ⟨(← IO.FS.readBinFile name).toList, true, none⟩)
    | .other => return some .socket
  catch _ => return none

/-- Reads what stands on the way from one place to another, links followed. -/
partial def readWay (tree : FileTree) (passed : Place) : List Text → IO FileTree
  | [] => return tree
  | name :: rest => do
    if name = ".." then
      readWay tree passed.dropLast rest
    else
      let place := passed ++ [name]
      match ← entryAt? place with
      | none => return tree
      | some (.link target) =>
        readWay (tree.put place (.link target)) [] ((Path.ofText target).parts ++ rest)
      | some entry => readWay (tree.put place entry) place rest

/-- Reads everything below a directory. -/
partial def readBelow (tree : FileTree) (folder : Place) : IO FileTree := do
  let mut found := tree
  for item in ← ((← IO.currentDir) / nameOf folder).readDir do
    let place := folder ++ [item.fileName.toList]
    found ← readWay found folder [item.fileName.toList]
    if found.get? place = some .folder then
      found ← readBelow found place
  return found

/-- Reads what a path leads to, and everything below it if it is a directory. -/
def readPath (tree : FileTree) (path : Path) : IO FileTree := do
  let found ← readWay tree (tree.origin path.anchor) path.parts
  match found.folder? path with
  | some folder => readBelow found folder
  | none => return found

/-- Reads what the settings speak of. -/
def readTree (workDir : Place) (settings : Settings) : IO FileTree := do
  let mut tree := FileTree.bare workDir
  if let some path := settings.path then
    tree ← readPath tree path
  if let some (.value folder) := settings.out then
    for artifact in Artifact.all do
      let file := folder.child artifact.fileName
      tree ← readWay tree (tree.origin file.anchor) file.parts
  match settings.admin.binary with
  | .blank => return tree
  | .value binary =>
    let program := Path.ofText (FileTree.programPath binary)
    readWay tree (tree.origin program.anchor) program.parts

/-- Writes what differs between two trees, the oldest change first. -/
def saveChanges (before after : FileTree) : IO Unit := do
  for (place, entry) in after.entries.reverse do
    if before.get? place ≠ some entry then
      match entry with
      | .folder => IO.FS.createDirAll (nameOf place)
      | .file data => IO.FS.writeBinFile (nameOf place) ⟨data.bytes.toArray⟩
      | _ => pure ()

/-- Runs the program and gives its exit status. -/
def runHere (arguments : List Text) : IO UInt32 := do
  let workDir := placeOf (← IO.currentDir).toString
  let tree ← match CommandLine.parse arguments with
    | .ok settings => readTree workDir settings
    | .error _ => pure (FileTree.bare workDir)
  let site : Site := { tree, logger := .fresh, reader := .guessing none, clock := .instant }
  let outcome := run site arguments
  for line in outcome.printed do
    IO.println (String.ofList line)
  for line in outcome.stderr do
    IO.eprintln (String.ofList line)
  saveChanges tree outcome.tree
  match outcome.status with
  | .ok status => return UInt32.ofNat status
  | .error crash =>
    IO.eprintln (String.ofList crash.message)
    return 1

end VclReview.Shell

/-- Runs the program on the arguments of the command line. -/
def main (arguments : List String) : IO UInt32 :=
  VclReview.Shell.runHere (arguments.map String.toList)
