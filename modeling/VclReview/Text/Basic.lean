/-
  VclReview/Text/Basic.lean
  =========================
  **Text as a list of characters**, with the three operations everything else is
  built from:

    * `dropLead?`   strip a given beginning           — `dropLead?_eq_some_iff`;
    * `cut?`        cut at the leftmost occurrence    — `cut?_eq_some`,
      `cut?_eq_none_iff`;
    * `splitWhere`  split at every separator character, keeping empty parts
      (`splitWhere_cons` gives its recursion, `splitWhere_ne_nil` that there is
      always a part).

  `contains_iff` reads the search `contains` as the plain statement that the
  text has the mark somewhere inside it.
-/

namespace VclReview

/-- Text is a list of Unicode characters, so that searching, cutting and
    comparing follow the characters one by one. -/
abbrev Text := List Char

/-- A string literal stands for its characters wherever a text is expected. -/
instance : Coe String Text := ⟨String.toList⟩

namespace Text

/-! ### Beginnings and cuts -/

/-- What follows the beginning `lead` of the text, if the text starts with it. -/
def dropLead? : (lead text : Text) → Option Text
  | [], text => some text
  | _ :: _, [] => none
  | p :: ps, c :: cs => if p = c then dropLead? ps cs else none

/-- The parts before and after the leftmost occurrence of `mark`. -/
def cut? (mark : Text) : Text → Option (Text × Text)
  | [] => (dropLead? mark []).map fun rest => ([], rest)
  | c :: cs =>
    match dropLead? mark (c :: cs) with
    | some rest => some ([], rest)
    | none => (cut? mark cs).map fun (before, after) => (c :: before, after)

/-- Whether `mark` occurs somewhere in the text. -/
def contains (mark text : Text) : Bool := (cut? mark text).isSome

/-- Whether the text starts with `lead`. -/
def startsWith (lead text : Text) : Bool := (dropLead? lead text).isSome

/-- Whether the text ends with `tail`. -/
def endsWith (tail text : Text) : Bool := tail.isSuffixOf text

theorem dropLead?_eq_some_iff {lead text rest : Text} :
    dropLead? lead text = some rest ↔ text = lead ++ rest := by
  induction lead generalizing text with
  | nil => simp [dropLead?, eq_comm]
  | cons p ps ih =>
    cases text with
    | nil => simp [dropLead?]
    | cons c cs =>
      by_cases h : p = c
      · simp [dropLead?, h, ih]
      · simp [dropLead?, h, Ne.symm h]

@[simp] theorem dropLead?_append (lead rest : Text) : dropLead? lead (lead ++ rest) = some rest :=
  dropLead?_eq_some_iff.2 rfl

/-- A cut takes the text apart around the mark and loses nothing. -/
theorem cut?_eq_some {mark text before after : Text}
    (h : cut? mark text = some (before, after)) : text = before ++ mark ++ after := by
  induction text generalizing before after with
  | nil =>
    obtain ⟨rest, hrest, heq⟩ := Option.map_eq_some_iff.1 h
    cases heq
    simpa using dropLead?_eq_some_iff.1 hrest
  | cons c cs ih =>
    cases hlead : dropLead? mark (c :: cs) with
    | some rest =>
      simp only [cut?, hlead, Option.some.injEq, Prod.mk.injEq] at h
      obtain ⟨rfl, rfl⟩ := h
      simpa using dropLead?_eq_some_iff.1 hlead
    | none =>
      simp only [cut?, hlead] at h
      obtain ⟨⟨b, a⟩, hcut, heq⟩ := Option.map_eq_some_iff.1 h
      cases heq
      simp [ih hcut]

/-- There is no cut exactly when the mark occurs nowhere. -/
theorem cut?_eq_none_iff {mark text : Text} :
    cut? mark text = none ↔ ∀ before after, text ≠ before ++ mark ++ after := by
  constructor
  · intro h before
    induction before generalizing text with
    | nil =>
      intro after heq
      subst heq
      cases hm : mark ++ after with
      | nil => simp [cut?, List.append_eq_nil_iff.1 hm, dropLead?] at h
      | cons c cs =>
        have hlead : dropLead? mark (c :: cs) = some after := by rw [← hm]; simp
        simp [hm, cut?, hlead] at h
    | cons b bs ih =>
      intro after heq
      subst heq
      cases hlead : dropLead? mark (b :: (bs ++ mark ++ after)) with
      | some rest => simp only [List.cons_append, cut?, hlead, reduceCtorEq] at h
      | none =>
        simp only [List.cons_append, cut?, hlead, Option.map_eq_none_iff] at h
        exact ih h after rfl
  · intro h
    cases hcut : cut? mark text with
    | none => rfl
    | some parts => exact absurd (cut?_eq_some hcut) (h parts.1 parts.2)

theorem contains_iff {mark text : Text} :
    contains mark text = true ↔ ∃ before after, text = before ++ mark ++ after := by
  rw [contains, ← Option.not_isNone, Bool.not_eq_true', ← Bool.not_eq_true,
    Option.isNone_iff_eq_none, cut?_eq_none_iff]
  simp

/-- The text after the leftmost cut is shorter than the whole. -/
theorem length_lt_of_cut? {mark text before after : Text} (hmark : mark ≠ [])
    (h : cut? mark text = some (before, after)) : after.length < text.length := by
  have := List.length_pos_iff.2 hmark
  simp [cut?_eq_some h]
  omega

/-! ### Splitting at single characters -/

/-- The parts between the characters that satisfy `sep`; two separators in a row
    leave an empty part between them. -/
def splitWhere (sep : Char → Bool) (text : Text) : List Text :=
  text.foldr (fun c parts => if sep c then [] :: parts else parts.modifyHead (c :: ·)) [[]]

/-- The non-empty parts between the characters that satisfy `sep`. -/
def pieces (sep : Char → Bool) (text : Text) : List Text :=
  (splitWhere sep text).filter (!·.isEmpty)

@[simp] theorem splitWhere_nil (sep : Char → Bool) : splitWhere sep [] = [[]] := rfl

theorem splitWhere_cons (sep : Char → Bool) (c : Char) (text : Text) :
    splitWhere sep (c :: text) =
      if sep c then [] :: splitWhere sep text
      else (splitWhere sep text).modifyHead (c :: ·) := rfl

theorem splitWhere_ne_nil (sep : Char → Bool) (text : Text) : splitWhere sep text ≠ [] := by
  induction text with
  | nil => simp
  | cons c text ih =>
    rw [splitWhere_cons]
    split
    · simp
    · simpa using ih

/-! ### Order -/

/-- Whether the text comes before the other one when both are compared character by
    character, by their code points. -/
def before (text other : Text) : Bool :=
  List.lex text other fun c d => decide (c.toNat < d.toNat)

/-- Whether the text may stand in front of the other one in a sorted list. -/
def inOrder (text other : Text) : Bool := !before other text

/-! ### Size -/

/-- The number of bytes of the text in UTF-8. -/
def byteCount (text : Text) : Nat := text.foldr (fun c n => c.utf8Size + n) 0

/-! ### Numbers -/

/-- The decimal digits of a natural number. -/
def ofNat (n : Nat) : Text := Nat.toDigits 10 n

/-- The decimal digits of an integer, after a minus sign if it is negative.  Integers of any
    size are written: a limit for the digits, like that for reading them (`Numeral.maxDigits`),
    is a setting of the machine that is taken to be off for writing. -/
def ofInt : Int → Text
  | .ofNat n => ofNat n
  | .negSucc n => '-' :: ofNat (n + 1)

/-! ### Character tables -/

/-- A set of characters given by closed ranges of code points. -/
abbrev Ranges := List (Nat × Nat)

/-- Whether the character lies in one of the ranges. -/
def Ranges.has (ranges : Ranges) (c : Char) : Bool :=
  ranges.any fun (first, last) => first ≤ c.toNat && c.toNat ≤ last

end Text

end VclReview
