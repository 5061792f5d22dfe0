/-
  VclReview/Disk/Tree.lean
  ========================
  **A tree of files**, as a finite table from places to entries.  A place is the
  list of names that leads to it from the root, which is always a directory.  No
  place has two entries.

  The table is read with `get?` and changed with `put` and `erase`; what each
  change does to what is read is said by `get?_put_self`, `get?_put_of_ne`,
  `get?_erase_of_not_below` and `get?_erase_below`.
-/
import VclReview.Bytes.Sniff
import VclReview.Text.Basic

namespace VclReview

/-- What a program does when it is run. -/
structure Program where
  /-- What it writes to standard output. -/
  stdout : Bytes
  /-- What it writes to standard error. -/
  stderr : Bytes
  /-- Its exit status; minus the number of the signal that ends it, if one does. -/
  status : Int
  /-- Whether it never ends. -/
  hangs : Bool
  deriving DecidableEq

/-- A regular file. -/
structure FileData where
  bytes : Bytes
  /-- Whether it may be run. -/
  executable : Bool
  /-- What running it does, if it is a program of its own. -/
  program : Option Program
  deriving DecidableEq

/-- What can stand at a place. -/
inductive Entry where
  | folder
  | file (data : FileData)
  /-- A symbolic link to the path written in it. -/
  | link (target : Text)
  | socket
  deriving DecidableEq

/-- The names that lead from the root to an entry. -/
abbrev Place := List Text

/-- The files, seen from a working directory. -/
structure FileTree where
  entries : List (Place × Entry)
  distinct : (entries.map (·.1)).Nodup
  workDir : Place

namespace FileTree

def get? (tree : FileTree) (place : Place) : Option Entry :=
  if place = [] then some .folder else tree.entries.lookup place

private theorem distinct_filter {entries : List (Place × Entry)}
    (h : (entries.map (·.1)).Nodup) (keep : Place × Entry → Bool) :
    ((entries.filter keep).map (·.1)).Nodup :=
  h.sublist (List.filter_sublist.map _)

def put (tree : FileTree) (place : Place) (entry : Entry) : FileTree where
  entries := (place, entry) :: tree.entries.filter (·.1 != place)
  distinct := by
    rw [List.map_cons, List.nodup_cons]
    exact ⟨by simp, distinct_filter tree.distinct _⟩
  workDir := tree.workDir

/-- The tree without the entry at the place and without everything below it. -/
def erase (tree : FileTree) (place : Place) : FileTree where
  entries := tree.entries.filter (!place.isPrefixOf ·.1)
  distinct := distinct_filter tree.distinct _
  workDir := tree.workDir

/-- The tree that has nothing but the directories on the way to its working
    directory. -/
def bare (workDir : Place) : FileTree :=
  (List.range workDir.length).foldl (fun tree n => tree.put (workDir.take (n + 1)) .folder)
    ⟨[], List.nodup_nil, workDir⟩

/-! ### Reading after a change -/

private theorem lookup_filter_of_keep (entries : List (Place × Entry)) {place : Place}
    (keep : Place × Entry → Bool) (h : ∀ entry, keep (place, entry) = true) :
    (entries.filter keep).lookup place = entries.lookup place := by
  induction entries with
  | nil => rfl
  | cons e rest ih =>
    obtain ⟨p, entry⟩ := e
    by_cases hp : place = p
    · subst hp
      simp [h]
    · have hbeq : (place == p) = false := by simpa using hp
      by_cases hk : keep (p, entry) = true
      · simp [hk, List.lookup_cons, hbeq, ih]
      · simp [hk, List.lookup_cons, hbeq, ih]

@[simp] theorem get?_nil (tree : FileTree) : tree.get? [] = some .folder := rfl

theorem get?_put_self (tree : FileTree) {place : Place} (entry : Entry) (h : place ≠ []) :
    (tree.put place entry).get? place = some entry := by
  simp [get?, put, h]

theorem get?_put_of_ne (tree : FileTree) {place other : Place} (entry : Entry)
    (h : other ≠ place) : (tree.put place entry).get? other = tree.get? other := by
  have hbeq : (other == place) = false := by simpa using h
  have := lookup_filter_of_keep tree.entries (·.1 != place) fun _ =>
    show (other != place) = true by simpa using h
  simp [get?, put, List.lookup_cons, hbeq, this]

theorem get?_erase_of_not_below (tree : FileTree) {place other : Place}
    (h : place.isPrefixOf other = false) : (tree.erase place).get? other = tree.get? other := by
  have := lookup_filter_of_keep tree.entries (fun e => !place.isPrefixOf e.1) fun _ =>
    show (!place.isPrefixOf other) = true by simp [h]
  simp [get?, erase, this]

theorem get?_erase_below (tree : FileTree) {place other : Place}
    (h : place.isPrefixOf other = true) (hother : other ≠ []) :
    (tree.erase place).get? other = none := by
  simp only [get?, hother, erase, if_false]
  rw [List.lookup_eq_none_iff]
  intro e he
  have := (List.mem_filter.1 he).2
  simp only [Bool.not_eq_true'] at this
  refine bne_iff_ne.2 fun heq => ?_
  rw [← heq, h] at this
  exact Bool.noConfusion this

end FileTree

end VclReview
