/-
  VclReview/Path.lean
  ===================
  **File paths.**  A path is an anchor and the names below it; empty names and
  single dots are dropped when a path is read, double dots are kept.  One leading
  slash and two leading slashes are different anchors, three or more count as
  one.  The names are texts of characters unless other letters are given: a name
  that is not UTF-8 comes from a disk with surrogates in it.
-/
import VclReview.Text.Letter

namespace VclReview

/-- Where a path starts. -/
inductive Anchor where
  /-- At the working directory. -/
  | relative
  /-- At the root. -/
  | root
  /-- At the root, written with two slashes. -/
  | doubleRoot
  deriving DecidableEq

/-- The slashes of an anchor. -/
def Anchor.text : Anchor → Text
  | .relative => ""
  | .root => "/"
  | .doubleRoot => "//"

/-- The anchor of a text that starts with the given number of slashes. -/
def Anchor.ofSlashes : Nat → Anchor
  | 0 => .relative
  | 2 => .doubleRoot
  | _ => .root

structure Path (α : Type := Char) where
  anchor : Anchor
  parts : List (List α)
  deriving DecidableEq

namespace Path

/-- Whether the character separates names. -/
def isSlash (c : Char) : Bool := c == '/'

/-- The path that a text denotes. -/
def ofText (text : Text) : Path where
  anchor := Anchor.ofSlashes (text.takeWhile isSlash).length
  parts := (Text.pieces isSlash text).filter (· != ".")

/-- The text of a path; a path without anchor and names is a single dot. -/
def toText {α : Type} [Letter α] (path : Path α) : List α :=
  if path.anchor = .relative ∧ path.parts = [] then Letter.spell "."
  else Letter.spell path.anchor.text ++ List.intercalate (Letter.spell ['/']) path.parts

/-- The path of an entry of the directory at `path`. -/
def child (path : Path) (name : Text) : Path := { path with parts := path.parts ++ [name] }

/-- The path of an entry further below the directory at `path`. -/
def join (path : Path) (names : List Text) : Path := { path with parts := path.parts ++ names }

/-- Whether the text of the path holds the character zero, which no file name
    can. -/
def hasNul (path : Path) : Bool := path.parts.any (·.elem '\x00')

/-- The names that lead from `base` to `path`, if `base` is where `path` starts. -/
def below? (base path : Path) : Option (List Text) :=
  if base.anchor = path.anchor ∧ base.parts.isPrefixOf path.parts then
    some (path.parts.drop base.parts.length)
  else none

/-- How many characters of a label are shown. -/
def labelWidth : Nat := 60

/-- A label cut to its end, after three dots, if it is too wide. -/
def clip (label : Text) : Text :=
  if labelWidth < label.length then "..." ++ label.drop (label.length - (labelWidth - 3))
  else label

/-- The path as it is shown to someone who knows the directory `base`. -/
def labelBelow (base path : Path) : Text :=
  clip (match below? base path with
    | some names => toText ⟨.relative, names⟩
    | none => path.toText)

end Path

end VclReview
