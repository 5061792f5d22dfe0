/-
  VclReview/Proofs/Surrogates.lean
  ================================
  **Texts with surrogates inside quotes.**  A text is written by its UTF-16 units, one after the
  other (`pointEscape_halves`), and what is written for the units says which they are
  (`flatMap_pointEscape_inj`).  The units of a text do not say everything: a character beyond
  the first plane has the same two as the surrogates that are its halves.  Where no such
  surrogates follow each other, the text can be read back (`string_append_inj`).
-/
import VclReview.Proofs.JsonWriting
import Mathlib.Data.List.Chain

namespace VclReview

namespace CodePoint

/-! ### Halves -/

/-- The first half of a character beyond the first plane. -/
def high (c : Char) : Fin 2048 := Fin.ofNat 2048 ((c.toNat - 0x10000) / 0x400)

/-- Its second half. -/
def low (c : Char) : Fin 2048 := Fin.ofNat 2048 (0x400 + (c.toNat - 0x10000) % 0x400)

/-- The code points of the first plane by which a code point is written. -/
def halves : CodePoint → List CodePoint
  | char c => if c.toNat < 0x10000 then [char c] else [surrogate (high c), surrogate (low c)]
  | surrogate index => [surrogate index]

/-- The code point belongs to the first plane. -/
def Narrow : CodePoint → Prop
  | char c => c.toNat < 0x10000
  | surrogate _ => True

/-- The two are halves, or could be, of one character. -/
def Pairs : CodePoint → CodePoint → Prop
  | surrogate first, surrogate second => first < 0x400 ∧ 0x400 ≤ second
  | _, _ => False

instance : DecidableRel Pairs
  | surrogate first, surrogate second =>
    inferInstanceAs (Decidable (first < 0x400 ∧ 0x400 ≤ second))
  | char _, _ => .isFalse id
  | surrogate _, char _ => .isFalse id

/-- No two code points that pair follow each other. -/
def Unpaired (points : List CodePoint) : Prop := points.IsChain fun p q => ¬ p.Pairs q

instance (points : List CodePoint) : Decidable (Unpaired points) :=
  inferInstanceAs (Decidable (points.IsChain fun p q => ¬ p.Pairs q))

theorem toNat_halves (c : Char) (h : 0x10000 ≤ c.toNat) :
    (high c).val = (c.toNat - 0x10000) / 0x400 ∧ (high c).val < 0x400 ∧
      (low c).val = 0x400 + (c.toNat - 0x10000) % 0x400 := by
  have hvalid : c.toNat < 0xD800 ∨ 0xDFFF < c.toNat ∧ c.toNat < 0x110000 := c.valid
  have hhigh : (c.toNat - 0x10000) / 0x400 < 0x400 := by omega
  refine ⟨Nat.mod_eq_of_lt (by omega), ?_, Nat.mod_eq_of_lt (by omega)⟩
  exact lt_of_le_of_lt (Nat.mod_le _ _) hhigh

/-- Two halves belong to one character only. -/
theorem char_eq_of_halves {c d : Char} (hc : 0x10000 ≤ c.toNat) (hd : 0x10000 ≤ d.toNat)
    (hhigh : high c = high d) (hlow : low c = low d) : c = d := by
  obtain ⟨hc₁, -, hc₂⟩ := toNat_halves c hc
  obtain ⟨hd₁, -, hd₂⟩ := toNat_halves d hd
  rw [hhigh] at hc₁
  rw [hlow] at hc₂
  apply Char.toNat_inj.1
  omega

theorem halves_cases (p : CodePoint) : p.Narrow ∧ p.halves = [p] ∨
    ∃ c, p = char c ∧ 0x10000 ≤ c.toNat ∧ p.halves = [surrogate (high c), surrogate (low c)] := by
  cases p with
  | char c =>
    by_cases hplane : c.toNat < 0x10000
    · exact Or.inl ⟨hplane, if_pos hplane⟩
    · exact Or.inr ⟨c, rfl, Nat.le_of_not_lt hplane, if_neg hplane⟩
  | surrogate index => exact Or.inl ⟨trivial, rfl⟩

theorem halves_ne_nil (p : CodePoint) : p.halves ≠ [] := by
  rcases p.halves_cases with ⟨-, hhalves⟩ | ⟨c, -, -, hhalves⟩
  · simp [hhalves]
  · simp [hhalves]

theorem narrow_of_mem_halves {p q : CodePoint} (h : q ∈ p.halves) : q.Narrow := by
  rcases p.halves_cases with ⟨hnarrow, hhalves⟩ | ⟨c, -, -, hhalves⟩
  · rw [hhalves, List.mem_singleton] at h
    exact h ▸ hnarrow
  · rw [hhalves, List.mem_pair] at h
    rcases h with rfl | rfl
    · exact trivial
    · exact trivial

/-- Behind a first half that is none no second half is written. -/
theorem head?_halves_ne {first second : Fin 2048} {rest : List CodePoint}
    (hfirst : first.val < 0x400) (hsecond : 0x400 ≤ second.val)
    (h : Unpaired (surrogate first :: rest)) :
    (rest.flatMap halves).head? ≠ some (surrogate second) := by
  cases rest with
  | nil => simp
  | cons p rest =>
    obtain ⟨hpairs, -⟩ := List.isChain_cons_cons.1 h
    rw [List.flatMap_cons]
    rcases p.halves_cases with ⟨-, hhalves⟩ | ⟨c, -, hwide, hhalves⟩
    · rw [hhalves]
      intro hhead
      obtain rfl : p = surrogate second := by simpa using hhead
      exact hpairs ⟨hfirst, hsecond⟩
    · rw [hhalves]
      intro hhead
      have hsame : high c = second := by simpa using hhead
      have hlt := (toNat_halves c hwide).2.1
      rw [hsame] at hlt
      omega

/-- **A text without pairs is known by its halves.** -/
theorem flatMap_halves_inj {points points' : List CodePoint} (h : Unpaired points)
    (h' : Unpaired points') (heq : points.flatMap halves = points'.flatMap halves) :
    points = points' := by
  induction points generalizing points' with
  | nil =>
    cases points' with
    | nil => rfl
    | cons q rest' => simp [q.halves_ne_nil] at heq
  | cons p rest ih =>
    cases points' with
    | nil => simp [p.halves_ne_nil] at heq
    | cons q rest' =>
      have hrest : Unpaired rest := List.IsChain.tail h
      have hrest' : Unpaired rest' := List.IsChain.tail h'
      rw [List.flatMap_cons, List.flatMap_cons] at heq
      rcases p.halves_cases with ⟨-, hp⟩ | ⟨c, rfl, hc, hp⟩
      · rcases q.halves_cases with ⟨-, hq⟩ | ⟨d, rfl, hd, hq⟩
        · rw [hp, hq, List.singleton_append, List.singleton_append] at heq
          obtain ⟨rfl, htail⟩ := List.cons.inj heq
          rw [ih hrest hrest' htail]
        · -- the first half of `d` stands alone on the left, and its second half is missing
          rw [hp, hq, List.singleton_append, List.cons_append] at heq
          obtain ⟨rfl, htail⟩ := List.cons.inj heq
          obtain ⟨-, hfirst, hsecond⟩ := toNat_halves d hd
          exact absurd (by rw [htail]; rfl) (head?_halves_ne hfirst (by omega) h)
      · rcases q.halves_cases with ⟨-, hq⟩ | ⟨d, rfl, hd, hq⟩
        · rw [hp, hq, List.singleton_append, List.cons_append] at heq
          obtain ⟨rfl, htail⟩ := List.cons.inj heq
          obtain ⟨-, hfirst, hsecond⟩ := toNat_halves c hc
          exact absurd (by rw [← htail]; rfl) (head?_halves_ne hfirst (by omega) h')
        · rw [hp, hq, List.cons_append, List.cons_append, List.cons_append, List.cons_append,
            List.nil_append, List.nil_append, List.cons.injEq, List.cons.injEq] at heq
          obtain ⟨hhigh, hlow, htail⟩ := heq
          rw [char_eq_of_halves hc hd (surrogate.inj hhigh) (surrogate.inj hlow),
            ih hrest hrest' htail]

end CodePoint

namespace Json

open CodePoint

/-! ### What is written for halves -/

/-- A character outside ASCII is written by its code. -/
theorem escape_of_wide {c : Char} (h : 0x10000 ≤ c.toNat) : escape c = codeEscape c := by
  rcases escape_cases c with ⟨letter, hletter, -⟩ | ⟨hprinted, -⟩ | hescape
  · have hnarrow : ∀ e ∈ shortEscapes, e.2.toNat < 0x10000 := by decide
    exact absurd (hnarrow _ hletter) (Nat.not_lt.2 h)
  · have hlt := hprinted.2
    omega
  · exact hescape

/-- **A code point is written by its halves.** -/
theorem pointEscape_halves (p : CodePoint) : pointEscape p = p.halves.flatMap pointEscape := by
  rcases p.halves_cases with ⟨-, hhalves⟩ | ⟨c, rfl, hwide, hhalves⟩
  · rw [hhalves, List.flatMap_singleton]
  · obtain ⟨hhigh, -, hlow⟩ := toNat_halves c hwide
    have hsecond : firstSurrogate + low c = 0xDC00 + (c.toNat - 0x10000) % 0x400 := by
      rw [hlow, firstSurrogate]
      omega
    rw [hhalves, List.flatMap_cons, List.flatMap_singleton]
    simp only [pointEscape]
    rw [escape_of_wide hwide, codeEscape, if_neg (Nat.not_lt.2 hwide), hsecond, hhigh]
    rfl

/-- A character is not written like a surrogate. -/
theorem escape_append_ne {c : Char} (hc : c.toNat < 0x10000) (index : Fin 2048)
    {rest rest' : Text} :
    escape c ++ rest ≠ unitEscape (firstSurrogate + index) ++ rest' := by
  intro heq
  rcases escape_cases c with ⟨letter, hletter, hescape⟩ | ⟨-, -, hplain, hescape⟩ | hescape
  · rw [hescape] at heq
    have hunit : letter = 'u' := (List.cons.inj (List.cons.inj heq).2).1
    exact not_short_unit _ hletter hunit
  · rw [hescape] at heq
    exact hplain (List.cons.inj heq).1
  · rw [hescape, codeEscape, if_pos hc] at heq
    have hdigits := (List.cons.inj (List.cons.inj heq).2).2
    have hunit : UnitDigits (firstSurrogate + index) (Text.hex 4 (firstSurrogate + index)) :=
      unitDigits_hex (by rw [firstSurrogate]; omega)
    obtain ⟨hcode, -⟩ := (unitDigits_hex hc).append_inj hunit hdigits
    have hvalid : c.toNat < 0xD800 ∨ 0xDFFF < c.toNat ∧ c.toNat < 0x110000 := c.valid
    rw [firstSurrogate] at hcode
    omega

theorem Narrow.append_inj {p q : CodePoint} (hp : p.Narrow) (hq : q.Narrow) {rest rest' : Text}
    (heq : pointEscape p ++ rest = pointEscape q ++ rest') : p = q ∧ rest = rest' := by
  cases p with
  | char c =>
    cases q with
    | char d =>
      obtain ⟨rfl, hrest⟩ := (spelledChar_escape c).append_inj (spelledChar_escape d) heq
      exact ⟨rfl, hrest⟩
    | surrogate index => exact absurd heq (escape_append_ne hp index)
  | surrogate index =>
    cases q with
    | char d => exact absurd heq.symm (escape_append_ne hq index)
    | surrogate index' =>
      have hunit (index : Fin 2048) :
          UnitDigits (firstSurrogate + index) (Text.hex 4 (firstSurrogate + index)) :=
        unitDigits_hex (by rw [firstSurrogate]; omega)
      have hdigits := (List.cons.inj (List.cons.inj heq).2).2
      obtain ⟨hcode, hrest⟩ := (hunit index).append_inj (hunit index') hdigits
      exact ⟨congrArg surrogate (Fin.ext (Nat.add_left_cancel hcode)), hrest⟩

/-- What is written for a code point is not the end of the text. -/
theorem head?_pointEscape (p : CodePoint) (rest : Text) :
    (pointEscape p ++ rest).head? ≠ some '"' := by
  cases p with
  | char c => exact (spelledChar_escape c).head rest
  | surrogate index => simp [pointEscape, unitEscape]

theorem flatMap_pointEscape_inj {points points' : List CodePoint} (h : ∀ p ∈ points, p.Narrow)
    (h' : ∀ p ∈ points', p.Narrow) {rest rest' : Text}
    (heq : points.flatMap pointEscape ++ '"' :: rest =
      points'.flatMap pointEscape ++ '"' :: rest') :
    points = points' ∧ rest = rest' := by
  induction points generalizing points' with
  | nil =>
    cases points' with
    | nil => exact ⟨rfl, (List.cons.inj heq).2⟩
    | cons q others' =>
      rw [List.flatMap_cons, List.append_assoc] at heq
      exact absurd (by rw [← heq]; rfl) (head?_pointEscape q _)
  | cons p others ih =>
    cases points' with
    | nil =>
      rw [List.flatMap_cons, List.append_assoc] at heq
      exact absurd (by rw [heq]; rfl) (head?_pointEscape p _)
    | cons q others' =>
      obtain ⟨hp, hothers⟩ := List.forall_mem_cons.1 h
      obtain ⟨hq, hothers'⟩ := List.forall_mem_cons.1 h'
      rw [List.flatMap_cons, List.flatMap_cons, List.append_assoc, List.append_assoc] at heq
      obtain ⟨rfl, htail⟩ := Narrow.append_inj hp hq heq
      obtain ⟨rfl, hrest⟩ := ih hothers hothers' htail
      exact ⟨rfl, hrest⟩

/-! ### Texts and values -/

section Letters

variable {α : Type} [Letter α]

/-- No first half is directly followed by a second half in the text. -/
def Unpaired (text : List α) : Prop := CodePoint.Unpaired (text.map Letter.point)

instance (text : List α) : Decidable (Unpaired text) :=
  inferInstanceAs (Decidable (CodePoint.Unpaired _))

theorem string_eq (text : List α) : string text =
    '"' :: ((text.map Letter.point).flatMap halves).flatMap pointEscape ++ ['"'] := by
  have hhalves : (fun a : α => pointEscape (Letter.point a)) =
      fun a => (Letter.point a).halves.flatMap pointEscape :=
    funext fun a => pointEscape_halves (Letter.point a)
  rw [string, hhalves, List.flatMap_assoc, List.flatMap_map]

/-- **A text without pairs is read back from what is written for it.** -/
theorem string_append_inj {text text' : List α} (h : Unpaired text) (h' : Unpaired text')
    {rest rest' : Text} (heq : string text ++ rest = string text' ++ rest') :
    text = text' ∧ rest = rest' := by
  have hnarrow (points : List CodePoint) : ∀ p ∈ points.flatMap halves, p.Narrow := by
    intro p hp
    obtain ⟨q, -, hq⟩ := List.mem_flatMap.1 hp
    exact narrow_of_mem_halves hq
  rw [string_eq, string_eq, List.cons_append, List.cons_append, List.append_assoc,
    List.append_assoc] at heq
  obtain ⟨hhalves, hrest⟩ :=
    flatMap_pointEscape_inj (hnarrow _) (hnarrow _) (List.cons.inj heq).2
  have hpoints := flatMap_halves_inj h h' hhalves
  exact ⟨List.map_injective_iff.2 (fun _ _ => Letter.point_inj) hpoints, hrest⟩

end Letters

end Json

end VclReview
