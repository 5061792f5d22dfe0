/-
  VclReview/Disk/Lookup.lean
  ==========================
  **Finding a file.**  A path is followed step by step from the directory where
  it starts.  A step up leads to the parent of the place reached, not of the name
  read; a link is followed by taking the steps of its target first.  At most
  forty links are followed on one way, a name has at most 255 bytes, and a whole
  path has fewer than 4096.

  A slash after a name says that a directory is meant.  That matters only where a
  file is to be made (`Aim.create`), which cannot have such a name.
-/
import VclReview.Disk.Fault
import VclReview.Disk.Tree
import VclReview.Ordering
import VclReview.Path

namespace VclReview

/-- One step on the way to a file. -/
inductive Step where
  /-- Stay, which only a directory allows. -/
  | stay
  /-- Stay, because a slash follows another slash or ends the path. -/
  | slash
  /-- Go to the parent directory. -/
  | up
  /-- Go to the entry with the name. -/
  | into (name : Text)
  deriving DecidableEq

/-- The step that a name in a path asks for. -/
def Step.ofName (name : Text) : Step :=
  if name = "" then .slash
  else if name = "." then .stay
  else if name = ".." then .up
  else .into name

/-- The steps of a text that has not been read as a path: a slash at its end
    stays a step. -/
def Step.ofText (text : Text) : List Step :=
  (Text.splitWhere Path.isSlash text).map Step.ofName

def Path.steps (path : Path) : List Step := path.parts.map Step.ofName

/-- What a place is looked for. -/
inductive Aim where
  /-- To use what is there; links are followed. -/
  | use
  /-- To deal with the entry itself; a link at the very end is not followed. -/
  | entry
  /-- To make a file there or write into the one that is there; links are
      followed. -/
  | create
  deriving DecidableEq

/-- Whether nothing but slashes follows. -/
def Step.endInSlash (steps : List Step) : Bool := steps != [] && steps.all (· == .slash)

/-- Where a way ends. -/
inductive Located where
  /-- At an entry. -/
  | occupied (place : Place) (entry : Entry)
  /-- At a name that is still free in an existing directory. -/
  | free (folder : Place) (name : Text)
  deriving DecidableEq

namespace FileTree

/-- The greatest number of bytes of a name. -/
def maxNameBytes : Nat := 255

/-- The number of bytes at which a path is too long. -/
def pathLimit : Nat := 4096

/-- Follows steps from a directory.  A link is left to `follow`. -/
def walk (tree : FileTree) (aim : Aim) (follow : Place → List Step → Except Fault Located) :
    Place → List Step → Except Fault Located
  | folder, [] => .ok (.occupied folder .folder)
  | folder, .stay :: rest => walk tree aim follow folder rest
  | folder, .slash :: rest => walk tree aim follow folder rest
  | folder, .up :: rest => walk tree aim follow folder.dropLast rest
  | folder, .into name :: rest =>
    let place := folder ++ [name]
    if aim = .create ∧ Step.endInSlash rest then .error .isDirectory
    else if maxNameBytes < Text.byteCount name then .error .longName
    else
      match tree.get? place with
      | none => if rest = [] then .ok (.free folder name) else .error .notFound
      | some .folder => walk tree aim follow place rest
      | some (.link target) =>
        if rest = [] ∧ aim = .entry then .ok (.occupied place (.link target))
        else
          let start := if Text.startsWith "/" target then [] else folder
          follow start (Step.ofText target ++ rest)
      | some entry => if rest = [] then .ok (.occupied place entry) else .error .notDirectory

/-- Follows steps and at most the given number of links. -/
def resolve (tree : FileTree) (aim : Aim) :
    (links : Nat) → Place → List Step → Except Fault Located
  | 0 => walk tree aim fun _ _ => .error .tooManyLinks
  | links + 1 => walk tree aim (resolve tree aim links)

/-- The greatest number of links on one way. -/
def maxLinks : Nat := 40

/-- The directory where a path starts. -/
def origin (tree : FileTree) (anchor : Anchor) : Place :=
  match anchor with
  | .relative => tree.workDir
  | _ => []

/-- Where a path leads. -/
def locate (tree : FileTree) (aim : Aim) (path : Path) : Except Fault Located :=
  if pathLimit ≤ Text.byteCount path.toText then .error .longName
  else tree.resolve aim maxLinks (tree.origin path.anchor) path.steps

/-- Where a text leads that is used as a path without having been read as one. -/
def locateText (tree : FileTree) (text : Text) : Except Fault Located :=
  let start := if Text.startsWith "/" text then [] else tree.workDir
  if pathLimit ≤ Text.byteCount text then .error .longName
  else tree.resolve .use maxLinks start (Step.ofText text)

/-- What a path leads to, all links followed. -/
def status (tree : FileTree) (path : Path) : Except Fault (Place × Entry) :=
  match tree.locate .use path with
  | .ok (.occupied place entry) => .ok (place, entry)
  | .ok (.free _ _) => .error .notFound
  | .error fault => .error fault

/-- Whether a path leads to anything. -/
def pathExists (tree : FileTree) (path : Path) : Bool :=
  !path.hasNul && (tree.status path).toOption.isSome

/-- Why it cannot be told whether a path leads to anything. -/
def obstacle? (tree : FileTree) (path : Path) : Option Fault :=
  if path.hasNul then none
  else
    match tree.status path with
    | .ok _ => none
    | .error fault => if fault.meansAbsent then none else some fault

/-- The place of the directory that a path leads to. -/
def folder? (tree : FileTree) (path : Path) : Option Place :=
  if path.hasNul then none
  else
    match tree.status path with
    | .ok (place, .folder) => some place
    | _ => none

/-- Whether a path leads to a directory. -/
def isFolder (tree : FileTree) (path : Path) : Bool := (tree.folder? path).isSome

/-- The number of bytes of an entry. -/
def Entry.size : Entry → Nat
  | .file data => data.bytes.length
  | _ => 0

/-- The number of bytes of what a path leads to. -/
def size (tree : FileTree) (path : Path) : Except DiskError Nat :=
  match tree.status path with
  | .ok (_, entry) => .ok (Entry.size entry)
  | .error fault => .error (.refused fault path.toText)

/-- The contents of the file that a path leads to. -/
def contentsAt (tree : FileTree) (path : Path) : Except DiskError Bytes :=
  if path.hasNul then .error .nulInName
  else
    match tree.status path with
    | .ok (_, .file data) => .ok data.bytes
    | .ok (_, .folder) => .error (.refused .isDirectory path.toText)
    | .ok _ => .error (.refused .noDevice path.toText)
    | .error fault => .error (.refused fault path.toText)

/-! ### Everything below a directory -/

/-- Whether every name of the way but the last leads from the directory into a
    directory, no link among them. -/
def reaches (tree : FileTree) (folder : Place) (names : List Text) : Bool :=
  (List.range names.length).all fun n =>
    n = 0 || tree.get? (folder ++ names.take n) = some .folder

/-- Whether a way may stand in front of another one in a sorted list: they are
    compared name by name. -/
def namesInOrder (names other : List Text) : Bool := !List.lex other names Text.before

/-- The names that lead from a directory to the entries below it, links not
    followed, in the order of their names. -/
def below (tree : FileTree) (folder : Place) : List (List Text) :=
  let ways := tree.entries.filterMap fun (place, _) =>
    if folder.isPrefixOf place ∧ folder ≠ place then some (place.drop folder.length) else none
  sortWith namesInOrder (ways.filter (tree.reaches folder))

/-- The name by which an entry is called while a directory is searched: the name of
    the directory that holds it, a slash, and its own. -/
def searchedName (root : Path) (names : List Text) : Text :=
  if root.join names.dropLast = ⟨.relative, []⟩ then "./" ++ (names.getLast?.getD [])
  else (root.join names).toText

/-- Why a search cannot go past an entry.  Directories are listed and so must be
    reached by their paths; of links it must be told what they lead to. -/
def barrier? (tree : FileTree) (root : Path) (folder : Place) (names : List Text) :
    Option DiskError :=
  let path := root.join names
  match tree.get? (folder ++ names) with
  | some .folder => (tree.obstacle? path).map (DiskError.refused · path.toText)
  | some (.link _) => (tree.obstacle? path).map (DiskError.refused · (searchedName root names))
  | _ => none

/-- The names that lead from the directory at a path to the entries below it, in the
    order of their names; there are none if no directory is there.  The search is
    given up at the first entry that it cannot go past. -/
def search (tree : FileTree) (root : Path) : Except DiskError (List (List Text)) :=
  match tree.obstacle? root, tree.folder? root with
  | some fault, _ => .error (.refused fault root.toText)
  | none, none => .ok []
  | none, some folder =>
    let ways := tree.below folder
    match ways.findSome? (tree.barrier? root folder) with
    | some error => .error error
    | none => .ok ways

end FileTree

end VclReview
