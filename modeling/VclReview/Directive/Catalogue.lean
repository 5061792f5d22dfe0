/-
  VclReview/Directive/Catalogue.lean
  ==================================
  **Finding the shapes to try.**  A catalogue holds shape definitions in four
  groups.  They are visited group by group, and by label within a group; of the
  ranked shapes whose names agree up to case the last one visited counts, at the
  place of the first.  What remains is tried in ascending rank (`discover`), and
  two shapes of one rank are an error.  `discover_builtin` says that the shapes
  of the language come out in their own order.
-/
import VclReview.Directive.Builtin
import VclReview.Ordering
import VclReview.Text.Lowercase
import VclReview.Text.Quoted

namespace VclReview

/-- The groups of definitions, in the order in which they are visited. -/
inductive Group where
  | backend
  | base
  | blocks
  | statements
  deriving DecidableEq

/-- All groups, in order. -/
def Group.all : List Group := [backend, base, blocks, statements]

/-- A shape and the group that defines it. -/
structure Definition where
  group : Group
  shape : Shape

/-- The group does not have the two under one label. -/
def Definition.Apart (definition other : Definition) : Prop :=
  definition.group = other.group → definition.shape.label ≠ other.shape.label

instance : DecidableRel Definition.Apart := fun _ _ => inferInstanceAs (Decidable (_ → _))

/-- Shape definitions; no group has two of one label. -/
structure Catalogue where
  definitions : List Definition
  apart : definitions.Pairwise Definition.Apart

namespace Catalogue

/-- The definitions of the language. -/
def builtin : Catalogue where
  definitions :=
    [⟨.backend, .backend⟩, ⟨.backend, .host⟩, ⟨.backend, .port⟩, ⟨.backend, .version⟩,
     ⟨.blocks, .acl⟩, ⟨.blocks, .inclusion⟩, ⟨.blocks, .subroutine⟩,
     ⟨.statements, .grace⟩, ⟨.statements, .requestHeader⟩, ⟨.statements, .synth⟩,
     ⟨.statements, .ttl⟩]
  apart := by decide

/-- The definitions that can stay beside a further one. -/
def besides (catalogue : Catalogue) (definition : Definition) : List Definition :=
  catalogue.definitions.filter (Definition.Apart · definition)

/-- The catalogue with one more definition, which replaces one of the same group
    and label. -/
def add (catalogue : Catalogue) (definition : Definition) : Catalogue where
  definitions := catalogue.besides definition ++ [definition]
  apart := by
    refine List.pairwise_append.2 ⟨catalogue.apart.filter _, List.pairwise_singleton _ _, ?_⟩
    intro d hd e he
    obtain rfl := List.mem_singleton.1 he
    exact of_decide_eq_true (List.mem_filter.1 hd).2

@[simp] theorem definitions_add (catalogue : Catalogue) (definition : Definition) :
    (catalogue.add definition).definitions = catalogue.besides definition ++ [definition] := rfl

/-- The definitions of a group. -/
def ofGroup (catalogue : Catalogue) (group : Group) : List Definition :=
  catalogue.definitions.filter (·.group = group)

/-- The shapes of a group, by label. -/
def inGroup (catalogue : Catalogue) (group : Group) : List Shape :=
  sortWith (fun s t => Text.inOrder s.label t.label) ((catalogue.ofGroup group).map (·.shape))

/-- The shape that a group knows by a label.  Every group knows the shape that all
    others start from. -/
def known? (catalogue : Catalogue) (label : Text) (group : Group) : Option Shape :=
  (catalogue.inGroup group ++ [Shape.root]).find? (·.label = label)

/-- The shape with a label, as the first group that knows one has it. -/
def shape? (catalogue : Catalogue) (label : Text) : Option Shape :=
  Group.all.findSome? (catalogue.known? label)

/-- All shapes, in the order in which they are visited. -/
def visited (catalogue : Catalogue) : List Shape := Group.all.flatMap catalogue.inGroup

/-- Puts a shape in the place of the one that has its key, or else at the end. -/
def put (key : Text) (rank : Int) (shape : Shape) :
    List (Text × Int × Shape) → List (Text × Int × Shape)
  | [] => [(key, rank, shape)]
  | entry :: rest =>
    if entry.1 = key then (key, rank, shape) :: rest else entry :: put key rank shape rest

/-- Visits one shape. -/
def visit (found : List (Text × Int × Shape)) (shape : Shape) : List (Text × Int × Shape) :=
  match shape.rank with
  | some rank => put (Text.lower shape.name) rank shape found
  | none => found

/-- The ranked shapes that remain, each with its rank, in the order in which their
    names were first met. -/
def found (catalogue : Catalogue) : List (Int × Shape) :=
  (catalogue.visited.foldl visit []).map (·.2)

end Catalogue

/-- Two shapes that ask for the same place in the order of trial. -/
structure SharedRank where
  first : Text
  second : Text
  rank : Int
  deriving DecidableEq

def SharedRank.message (error : SharedRank) : Text :=
  "Directive shapes " ++ Text.quoted error.first ++ " and " ++ Text.quoted error.second ++
    " share ORDER " ++ Text.ofInt error.rank

/-- The first two neighbours of one rank. -/
def sharedRank? : List (Int × Shape) → Option SharedRank
  | (r, s) :: (q, t) :: rest =>
    if r = q then some ⟨s.name, t.name, r⟩ else sharedRank? ((q, t) :: rest)
  | _ => none

/-- The shapes of a catalogue in the order in which they are tried. -/
def Catalogue.discover (catalogue : Catalogue) : Except SharedRank (List Shape) :=
  let ordered := sortWith (fun a b => decide (a.1 ≤ b.1)) catalogue.found
  match sharedRank? ordered with
  | some error => .error error
  | none => .ok (ordered.map (·.2))

/-- The shapes of the language are tried in the order of their ranks. -/
theorem discover_builtin : Catalogue.builtin.discover = .ok Shape.builtin := rfl

end VclReview
