/-
  VclReview/Text/Letter.lean
  ==========================
  **Letters.**  A text that comes from outside can hold more than characters: what
  an encoding or a file name leaves undecoded stands in it as a surrogate without
  a partner.  `CodePoint` is either of the two, and a `Letter` type lies between the
  characters and all code points.  What holds of every such type holds of texts
  with surrogates and of texts without them.

    * `point`    the code point of a letter, which tells letters apart;
    * `ofChar`   the letter that a character is;
    * `spell`    the letters of a text of characters;
    * `chars?`   the characters of a text of letters, if it holds no surrogate.
-/
import VclReview.Text.Basic
import VclReview.Text.Blank

namespace VclReview

/-- A code point: a character, or one of the 2048 surrogates. -/
inductive CodePoint where
  | char (c : Char)
  | surrogate (index : Fin 2048)
  deriving DecidableEq

namespace CodePoint

/-- The number of the first surrogate. -/
def firstSurrogate : Nat := 0xD800

/-- The number of a code point. -/
def code : CodePoint → Nat
  | char c => c.toNat
  | surrogate index => firstSurrogate + index

/-- Whether the code point is blank; no surrogate is. -/
def isBlank : CodePoint → Bool
  | char c => Text.isBlank c
  | surrogate _ => false

/-- The characters of a text that holds no surrogate. -/
def chars? : List CodePoint → Option Text
  | [] => some []
  | char c :: rest => (chars? rest).map (c :: ·)
  | surrogate _ :: _ => none

theorem chars?_eq_some_iff {text : List CodePoint} {chars : Text} :
    chars? text = some chars ↔ text = chars.map char := by
  induction text generalizing chars with
  | nil => cases chars <;> simp [chars?]
  | cons point rest ih =>
    cases point with
    | char c =>
      cases chars with
      | nil => simp [chars?]
      | cons d chars =>
        rw [chars?, Option.map_eq_some_iff, List.map_cons, List.cons.injEq]
        constructor
        · rintro ⟨others, hothers, heq⟩
          cases heq
          exact ⟨rfl, ih.1 hothers⟩
        · rintro ⟨hc, hrest⟩
          cases hc
          exact ⟨chars, ih.2 hrest, rfl⟩
    | surrogate index => cases chars <;> simp [chars?]

end CodePoint

/-- Surrogates that stand together in a text, behind so many letters. -/
structure SurrogateRun where
  position : Nat
  indices : List (Fin 2048)
  deriving DecidableEq

/-- What the letters of a text can be: all characters, and perhaps surrogates. -/
class Letter (α : Type) where
  point : α → CodePoint
  ofChar : Char → α
  /-- The letters of a text of characters. -/
  spell : Text → List α
  /-- The characters of a text that holds no surrogate. -/
  chars? : List α → Option Text
  point_ofChar (c : Char) : point (ofChar c) = .char c
  spell_eq (text : Text) : spell text = text.map ofChar
  chars?_eq_some_iff {text : List α} {chars : Text} : chars? text = some chars ↔ text = spell chars
  point_inj {a b : α} : point a = point b → a = b

namespace Letter

/-- Characters are letters, each of them spelling itself. -/
instance : Letter Char where
  point := .char
  ofChar c := c
  spell text := text
  chars? text := some text
  point_ofChar _ := rfl
  spell_eq text := (List.map_id text).symm
  chars?_eq_some_iff := Option.some_inj
  point_inj := CodePoint.char.inj

/-- Code points are letters. -/
instance : Letter CodePoint where
  point := id
  ofChar := .char
  spell := List.map .char
  chars? := CodePoint.chars?
  point_ofChar _ := rfl
  spell_eq _ := rfl
  chars?_eq_some_iff := CodePoint.chars?_eq_some_iff
  point_inj h := h

@[simp] theorem spell_char (text : Text) : (spell text : List Char) = text := rfl

@[simp] theorem ofChar_char (c : Char) : (ofChar c : Char) = c := rfl

variable {α : Type} [Letter α]

/-! ### Spelling -/

@[simp] theorem ofChar_inj {c d : Char} : (ofChar c : α) = ofChar d ↔ c = d := by
  constructor
  · intro h
    have hpoint := congrArg point h
    rw [point_ofChar, point_ofChar] at hpoint
    exact CodePoint.char.inj hpoint
  · exact congrArg ofChar

@[simp] theorem spell_nil : (spell [] : List α) = [] := by rw [spell_eq, List.map_nil]

@[simp] theorem spell_cons (c : Char) (text : Text) :
    (spell (c :: text) : List α) = ofChar c :: spell text := by
  rw [spell_eq, List.map_cons, spell_eq]

@[simp] theorem spell_append (text other : Text) :
    (spell (text ++ other) : List α) = spell text ++ spell other := by
  rw [spell_eq, List.map_append, spell_eq, spell_eq]

/-- Different texts are spelled differently. -/
@[simp] theorem spell_inj {text other : Text} :
    (spell text : List α) = spell other ↔ text = other := by
  rw [spell_eq, spell_eq, List.map_inj_right fun _ _ => ofChar_inj.1]

@[simp] theorem ofChar_mem_spell {c : Char} {text : Text} :
    (ofChar c : α) ∈ spell text ↔ c ∈ text := by
  rw [spell_eq, List.mem_map]
  simp

/-! ### Surrogates -/

/-- The surrogate that a letter is, if it is one. -/
def surrogate? (a : α) : Option (Fin 2048) :=
  match point a with
  | .char _ => none
  | .surrogate index => some index

/-- The first surrogates of a text that stand together, and where they stand. -/
def firstSurrogates (text : List α) : SurrogateRun :=
  let before := text.takeWhile fun a => (surrogate? a).isNone
  ⟨before.length,
    ((text.drop before.length).takeWhile fun a => (surrogate? a).isSome).filterMap surrogate?⟩

/-! ### Blanks and order -/

/-- The number of a letter's code point. -/
def code (a : α) : Nat := (point a).code

/-- Whether the letter is blank. -/
def isBlank (a : α) : Bool := (point a).isBlank

variable [DecidableEq α]

/-- Whether the text may stand in front of the other one in a list sorted by code points. -/
def inOrder (text other : List α) : Bool :=
  !List.lex other text fun a b => decide (code a < code b)

theorem inOrder_char : (inOrder : Text → Text → Bool) = Text.inOrder := rfl

end Letter

end VclReview
