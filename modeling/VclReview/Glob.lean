/-
  VclReview/Glob.lean
  ===================
  **Glob patterns for file names.**  A star stands for any run of characters, a
  question mark for any one character, and brackets for one character of a set;
  everything else stands for itself.  A pattern covers a whole name
  (`Glob.covers`), and no character is treated specially in the name.

  Inside brackets a dash between two characters makes a range.  The text of a set
  is cut into chunks at such dashes (`chunks`); a range that would run downwards
  is taken out together with its two ends (`joinChunks`).  An exclamation mark at
  the start of what remains asks for the characters outside the set.
-/
import VclReview.Text.Basic

namespace VclReview

/-- A set of characters, given by ranges or by the ranges it leaves out. -/
structure CharSet where
  outside : Bool
  ranges : List (Char × Char)
  deriving DecidableEq

namespace CharSet

/-- Whether the set has the character. -/
def has (set : CharSet) (c : Char) : Bool :=
  set.ranges.any (fun (first, last) => first ≤ c && c ≤ last) != set.outside

/-- Cuts the text of a set at the dashes that make ranges.  The next `skip`
    characters are kept whatever they are, and `chunk` holds the chunk that has
    been begun, last character first. -/
def chunksFrom : (skip : Nat) → (chunk : Text) → Text → List Text
  | _, chunk, [] => [chunk.reverse]
  | 0, chunk, c :: rest =>
    if c = '-' then chunk.reverse :: chunksFrom 2 [] rest else chunksFrom 0 (c :: chunk) rest
  | skip + 1, chunk, c :: rest => chunksFrom skip (c :: chunk) rest

/-- A dash at the very end makes no range; it belongs to the chunk before it. -/
def closeChunks : List Text → List Text
  | [chunk, []] => [chunk ++ ['-']]
  | chunk :: rest => chunk :: closeChunks rest
  | [] => []

/-- The chunks of the text of a set: the first character, or the first after an
    exclamation mark, cannot be a dash that makes a range. -/
def chunks (text : Text) : List Text :=
  closeChunks (chunksFrom (if text.head? = some '!' then 2 else 1) [] text)

/-- Takes out the ranges that would run downwards, from the right. -/
def joinChunks : List Text → List Text
  | [] => []
  | chunk :: rest =>
    match chunk.getLast?, joinChunks rest with
    | some first, (last :: more) :: others =>
      if last < first then (chunk.dropLast ++ more) :: others
      else chunk :: (last :: more) :: others
    | _, others => chunk :: others

/-- The ranges that chunks stand for: one from chunk to chunk, and one for every
    other character.  With `used`, the first character has had its part as the
    end of a range. -/
def rangesFrom : (used : Bool) → List Text → List (Char × Char)
  | _, [] => []
  | used, [chunk] => (chunk.drop used.toNat).map fun c => (c, c)
  | used, chunk :: next :: rest =>
    match chunk.getLast?, next.head? with
    | some first, some last =>
      (chunk.drop used.toNat).dropLast.map (fun c => (c, c))
        ++ (first, last) :: rangesFrom true (next :: rest)
    | _, _ => (chunk.drop used.toNat).map (fun c => (c, c)) ++ rangesFrom false (next :: rest)

/-- The ranges that chunks stand for. -/
def rangesOf (parts : List Text) : List (Char × Char) := rangesFrom false parts

/-- The set of characters outside the given chunks.  A dash that has lost its left
    end to the exclamation mark is a character of its own. -/
def outsideOf : List Text → CharSet
  | [] :: next :: rest => ⟨true, rangesOf (('-' :: next) :: rest)⟩
  | parts => ⟨true, rangesOf parts⟩

/-- The set that the text between brackets describes. -/
def ofText (text : Text) : CharSet :=
  match joinChunks (chunks text) with
  | ('!' :: chunk) :: rest => outsideOf (chunk :: rest)
  | parts => ⟨false, rangesOf parts⟩

end CharSet

namespace Glob

/-- An item of a pattern. -/
inductive Item where
  /-- Any run of characters. -/
  | anyRun
  /-- Any one character. -/
  | anyOne
  | one (c : Char)
  | oneOf (set : CharSet)
  deriving DecidableEq

/-- Whether the item is about one character and lets this one pass. -/
def Item.admits : Item → Char → Bool
  | anyRun, _ => false
  | anyOne, _ => true
  | one c, d => c = d
  | oneOf set, d => set.has d

/-- The text of a set whose opening bracket has just been read, and what follows
    its closing bracket.  A closing bracket that would make the set empty belongs
    to the set. -/
def setText? (pattern : Text) : Option (Text × Text) :=
  let mark : Text := if pattern.head? = some '!' then ['!'] else []
  let inner := pattern.drop mark.length
  let first : Text := if inner.head? = some ']' then [']'] else []
  (Text.cut? [']'] (inner.drop first.length)).map fun (set, rest) => (mark ++ first ++ set, rest)

/-- Reads a pattern; the next `skip` characters have been read already. -/
def itemsFrom : (skip : Nat) → Text → List Item
  | _, [] => []
  | skip + 1, _ :: rest => itemsFrom skip rest
  | 0, c :: rest =>
    if c = '*' then .anyRun :: itemsFrom 0 rest
    else if c = '?' then .anyOne :: itemsFrom 0 rest
    else if c = '[' then
      match setText? rest with
      | some (set, _) => .oneOf (CharSet.ofText set) :: itemsFrom (set.length + 1) rest
      | none => .one '[' :: itemsFrom 0 rest
    else .one c :: itemsFrom 0 rest

def items (pattern : Text) : List Item := itemsFrom 0 pattern

/-- One answer for each end of a text: whether the item, and then what the
    answers in `later` are about, covers it. -/
def Item.extend (item : Item) (text : Text) (later : List Bool) : List Bool :=
  match item with
  | anyRun => later.foldr (fun b row => (b || row.headD false) :: row) []
  | _ => List.zipWith (fun c b => item.admits c && b) text later.tail ++ [false]

/-- For each end of the text, the whole text first, whether the items cover it. -/
def row (text : Text) : List Item → List Bool
  | [] => List.replicate text.length false ++ [true]
  | item :: rest => item.extend text (row text rest)

/-- Whether the items cover the text. -/
def accepts (items : List Item) (text : Text) : Bool := (row text items).headD false

/-- Whether the pattern covers the name. -/
def covers (pattern name : Text) : Bool := accepts (items pattern) name

end Glob

end VclReview
