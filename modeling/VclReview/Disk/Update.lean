/-
  VclReview/Disk/Update.lean
  ==========================
  **Changing files.**  Directories are made with the missing directories above
  them, text is written through links, links and sockets take free names only, and
  entries are removed with all that is below them.  A file is emptied before a text
  is written into it, and stays empty if the text turns out to have no UTF-8.  An
  operation that fails may have made or emptied some directories; an `Attempt` is
  the tree that is left together with what went wrong, if anything.
-/
import VclReview.Bytes.Utf8
import VclReview.Disk.Lookup

namespace VclReview

/-- The files after an operation, and why it was given up, if it was. -/
structure Attempt where
  tree : FileTree
  failure : Option DiskError

/-- Goes on with the next operation unless the attempt has failed. -/
def Attempt.andThen (attempt : Attempt) (next : FileTree → Attempt) : Attempt :=
  match attempt.failure with
  | some _ => attempt
  | none => next attempt.tree

namespace FileTree

/-! ### Directories -/

/-- The tree with a new directory. -/
def addFolder (tree : FileTree) (path : Path) : Except Fault FileTree :=
  match tree.locate .entry path with
  | .ok (.free folder name) => .ok (tree.put (folder ++ [name]) .folder)
  | .ok (.occupied _ _) => .error .alreadyThere
  | .error fault => .error fault

/-- The outcome when a directory could not be made: no harm is done if there
    already is one. -/
def settle (tree : FileTree) (fault : Fault) (path : Path) : Attempt :=
  if tree.isFolder path then ⟨tree, none⟩
  else ⟨tree, some (.refused ((tree.obstacle? path).getD fault) path.toText)⟩

/-- Makes a directory where its parent exists. -/
def makeFolder (tree : FileTree) (path : Path) : Attempt :=
  match tree.addFolder path with
  | .ok changed => ⟨changed, none⟩
  | .error .notFound => ⟨tree, some (.refused .notFound path.toText)⟩
  | .error fault => tree.settle fault path

/-- Makes a directory and the missing ones above it, the names given from the last
    one on. -/
def makeFoldersUp (tree : FileTree) (anchor : Anchor) : (reversed : List Text) → Attempt
  | [] => tree.makeFolder ⟨anchor, []⟩
  | name :: above =>
    let path : Path := ⟨anchor, (name :: above).reverse⟩
    match tree.addFolder path with
    | .ok changed => ⟨changed, none⟩
    | .error .notFound => (makeFoldersUp tree anchor above).andThen (·.makeFolder path)
    | .error fault => tree.settle fault path

/-- Makes a directory and the missing ones above it. -/
def makeFolders (tree : FileTree) (path : Path) : Attempt :=
  if path.hasNul then ⟨tree, some .nulInName⟩
  else tree.makeFoldersUp path.anchor path.parts.reverse

/-! ### Files -/

/-- Puts a file where a path leads.  What it becomes may hang on the file that is
    there; what is there must not be anything else. -/
def putFile (tree : FileTree) (path : Path) (become : Option FileData → FileData) : Attempt :=
  if path.hasNul then ⟨tree, some .nulInName⟩
  else
    match tree.locate .create path with
    | .ok (.free folder name) => ⟨tree.put (folder ++ [name]) (.file (become none)), none⟩
    | .ok (.occupied place (.file data)) => ⟨tree.put place (.file (become (some data))), none⟩
    | .ok (.occupied _ .folder) => ⟨tree, some (.refused .isDirectory path.toText)⟩
    | .ok (.occupied _ _) => ⟨tree, some (.refused .noDevice path.toText)⟩
    | .error fault => ⟨tree, some (.refused fault path.toText)⟩

/-- The file with new contents; whether it may be run stays as it was. -/
def FileData.overwrite (data : FileData) (bytes : Bytes) : FileData :=
  { data with bytes := bytes, program := none }

/-- Writes a file that may not be run, or new contents into an existing file. -/
def writeFile (tree : FileTree) (path : Path) (bytes : Bytes) : Attempt :=
  tree.putFile path fun
    | none => ⟨bytes, false, none⟩
    | some data => FileData.overwrite data bytes

section Texts

variable {α : Type} [Letter α]

/-- The bytes that a file holds after a text has been written into it: its UTF-8, or
    nothing if it has none. -/
def bytesOf (text : List α) : Bytes :=
  match Letter.chars? text with
  | some chars => Utf8.encode chars
  | none => []

/-- Why a text has no UTF-8, if it has none. -/
def encodingError? (text : List α) : Option DiskError :=
  match Letter.chars? text with
  | some _ => none
  | none => some (.unencodable (Letter.firstSurrogates text))

/-- Writes a text as UTF-8.  The file is opened, and emptied, before the text is
    encoded. -/
def writeText (tree : FileTree) (path : Path) (text : List α) : Attempt :=
  (tree.writeFile path (bytesOf text)).andThen fun changed => ⟨changed, encodingError? text⟩

theorem bytesOf_of_spelled {text : List α} {chars : Text} (h : text = Letter.spell chars) :
    bytesOf text = Utf8.encode chars ∧ encodingError? text = none := by
  rw [bytesOf, encodingError?, Letter.chars?_eq_some_iff.2 h]
  exact ⟨rfl, rfl⟩

theorem bytesOf_of_not_spelled {text : List α} (h : ∀ chars, text ≠ Letter.spell chars) :
    bytesOf text = [] ∧
      encodingError? text = some (.unencodable (Letter.firstSurrogates text)) := by
  have hnone : Letter.chars? text = none := by
    rw [Option.eq_none_iff_forall_ne_some]
    intro chars hchars
    exact h chars (Letter.chars?_eq_some_iff.1 hchars)
  rw [bytesOf, encodingError?, hnone]
  exact ⟨rfl, rfl⟩

/-- A text of characters can always be encoded. -/
theorem writeText_char (tree : FileTree) (path : Path) (text : Text) :
    tree.writeText path text = tree.writeFile path (Utf8.encode text) := by
  obtain ⟨hbytes, herror⟩ := bytesOf_of_spelled (Letter.spell_char text).symm
  rw [writeText, hbytes, herror]
  unfold Attempt.andThen
  split
  · rfl
  next hnone => rw [← hnone]

end Texts

/-! ### Links and sockets -/

/-- Why no link can have the target. -/
def targetFault? (target : Text) : Option Fault :=
  if target = [] then some .notFound
  else if pathLimit ≤ Text.byteCount target then some .longName
  else none

/-- Makes a link to a target, which need not lead anywhere, at a name that is still
    free. -/
def makeLink (tree : FileTree) (path : Path) (target : Text) : Attempt :=
  let refused (fault : Fault) : Attempt :=
    ⟨tree, some (.linkRefused fault target path.toText)⟩
  if path.hasNul || target.elem '\x00' then ⟨tree, some .nulInName⟩
  else
    match targetFault? target, tree.locate .entry path with
    | some fault, _ => refused fault
    | none, .ok (.free folder name) => ⟨tree.put (folder ++ [name]) (.link target), none⟩
    | none, .ok (.occupied _ _) => refused .alreadyThere
    | none, .error fault => refused fault

/-- The number of bytes at which a path is too long for a socket. -/
def socketLimit : Nat := 108

/-- Makes a socket at a name that is still free. -/
def makeSocket (tree : FileTree) (path : Path) : Attempt :=
  if path.hasNul then ⟨tree, some .nulInName⟩
  else if socketLimit ≤ Text.byteCount path.toText then ⟨tree, some .longSocketName⟩
  else
    match tree.locate .entry path with
    | .ok (.free folder name) => ⟨tree.put (folder ++ [name]) .socket, none⟩
    | .ok (.occupied _ _) => ⟨tree, some (.socketRefused .addressInUse)⟩
    | .error fault => ⟨tree, some (.socketRefused fault)⟩

/-! ### Entries of any kind -/

/-- Puts an entry where a path leads, the directory above it being there.  A
    directory that is already there stays, and a file takes the place of the file
    that a link at the end leads to; a link or a socket needs a free name. -/
def plantBelow (tree : FileTree) (path : Path) : Entry → Attempt
  | .folder => tree.makeFolders path
  | .file data => tree.putFile path fun _ => data
  | .link target => tree.makeLink path target
  | .socket => tree.makeSocket path

/-- Puts an entry where a path leads, after making the missing directories above
    it. -/
def plant (tree : FileTree) (path : Path) (entry : Entry) : Attempt :=
  (tree.makeFolders { path with parts := path.parts.dropLast }).andThen
    (·.plantBelow path entry)

/-! ### Removal -/

/-- Why a directory that has been emptied cannot be removed by its path.  A path
    that goes up at its end led through a directory that is gone by then. -/
def removalFault? (path : Path) : Option Fault :=
  match path.parts.getLast? with
  | none => some .invalid
  | some name => if name = ['.', '.'] then some .notFound else none

/-- Removes the entry that a path leads to, a link and not what the link leads to.
    A directory is emptied first, and is left empty where the path does not allow
    its removal.  Nothing is removed where it cannot be told what the path leads to
    in the end. -/
def remove (tree : FileTree) (path : Path) : Attempt :=
  if path.hasNul then ⟨tree, some .nulInName⟩
  else
    match tree.obstacle? path, tree.locate .entry path with
    | some fault, _ => ⟨tree, some (.refused fault path.toText)⟩
    | none, .ok (.occupied place .folder) =>
      match removalFault? path with
      | some fault => ⟨(tree.erase place).put place .folder, some (.refused fault path.toText)⟩
      | none => ⟨tree.erase place, none⟩
    | none, .ok (.occupied place _) => ⟨tree.erase place, none⟩
    | none, .ok (.free _ _) => ⟨tree, some (.refused .notFound path.toText)⟩
    | none, .error fault => ⟨tree, some (.refused fault path.toText)⟩

end FileTree

end VclReview
