/-
  VclReview/Proofs/Trial.lean
  ===========================
  **Trying shapes one after the other.**  A shape either takes a line, leaves it
  or cannot be asked about it.  `firstMatch` goes down a list of shapes and ends
  in one of three ways (`firstMatch_cases`).  When it finds a shape and when it fails
  is said by one equivalence each:

    * `firstMatch_eq_some_iff`    a shape takes the line and all before it leave it;
    * `firstMatch_eq_error_iff`   a shape cannot be asked and all before it leave the
      line.

  Where the shapes stand in ascending rank, "before" may be read as "of lower
  rank": `firstMatch_ranked_eq_some_iff`, `firstMatch_ranked_eq_error_iff`.
-/
import VclReview.Annotation
import VclReview.Proofs.Sorting

namespace VclReview

/-! ### What one shape makes of a line -/

/-- The shape has a test, and the line passes it. -/
def Shape.Takes (shape : Shape) (line : Text) : Prop :=
  ∃ test, shape.test = some test ∧ test line = true

/-- The shape has a test, and the line fails it. -/
def Shape.Leaves (shape : Shape) (line : Text) : Prop :=
  ∃ test, shape.test = some test ∧ test line = false

theorem Shape.trial (shape : Shape) (line : Text) :
    shape.test = none ∨ shape.Takes line ∨ shape.Leaves line := by
  cases htest : shape.test with
  | none => exact Or.inl rfl
  | some test =>
    cases hline : test line with
    | true => exact Or.inr (Or.inl ⟨test, htest, hline⟩)
    | false => exact Or.inr (Or.inr ⟨test, htest, hline⟩)

theorem Shape.Takes.not_leaves {shape : Shape} {line : Text} (h : shape.Takes line) :
    ¬ shape.Leaves line := by
  rintro ⟨other, hother, hfails⟩
  obtain ⟨test, htest, hpasses⟩ := h
  have : test = other := Option.some.inj (htest.symm.trans hother)
  subst this
  rw [hpasses] at hfails
  exact Bool.noConfusion hfails

theorem Shape.Takes.test_ne_none {shape : Shape} {line : Text} (h : shape.Takes line) :
    shape.test ≠ none := by
  obtain ⟨test, htest, -⟩ := h
  simp [htest]

theorem Shape.Leaves.test_ne_none {shape : Shape} {line : Text} (h : shape.Leaves line) :
    shape.test ≠ none := by
  obtain ⟨test, htest, -⟩ := h
  simp [htest]

/-! ### One step -/

variable {line : Text} {shape : Shape} {rest : List Shape}

theorem firstMatch_cons_of_test_eq_none (h : shape.test = none) :
    firstMatch line (shape :: rest) = .error .untestable := by
  simp only [firstMatch, h]

theorem firstMatch_cons_of_takes (h : shape.Takes line) :
    firstMatch line (shape :: rest) = .ok (some shape) := by
  obtain ⟨test, htest, hline⟩ := h
  simp only [firstMatch, htest, hline, if_true]

theorem firstMatch_cons_of_leaves (h : shape.Leaves line) :
    firstMatch line (shape :: rest) = firstMatch line rest := by
  obtain ⟨test, htest, hline⟩ := h
  simp only [firstMatch, htest, hline, Bool.false_eq_true, if_false]

/-! ### The whole list -/

/-- Shapes that leave the line may be dropped from the front. -/
theorem firstMatch_append_of_leaves {earlier later : List Shape}
    (h : ∀ s ∈ earlier, s.Leaves line) :
    firstMatch line (earlier ++ later) = firstMatch line later := by
  induction earlier with
  | nil => rfl
  | cons s earlier ih =>
    rw [List.cons_append, firstMatch_cons_of_leaves (h s (by simp))]
    exact ih fun t ht => h t (by simp [ht])

/-- The shape stands in the list and all before it leave the line. -/
def Shape.ReachedIn (shape : Shape) (line : Text) (shapes : List Shape) : Prop :=
  ∃ earlier later, shapes = earlier ++ shape :: later ∧ ∀ s ∈ earlier, s.Leaves line

theorem Shape.ReachedIn.mem {shapes : List Shape} (h : shape.ReachedIn line shapes) :
    shape ∈ shapes := by
  obtain ⟨earlier, later, rfl, -⟩ := h
  simp

theorem Shape.ReachedIn.cons {shapes : List Shape} {s : Shape} (hs : s.Leaves line)
    (h : shape.ReachedIn line shapes) : shape.ReachedIn line (s :: shapes) := by
  obtain ⟨earlier, later, rfl, hearlier⟩ := h
  exact ⟨s :: earlier, later, rfl, List.forall_mem_cons.2 ⟨hs, hearlier⟩⟩

/-- A trial ends in one of three ways. -/
theorem firstMatch_cases (line : Text) (shapes : List Shape) :
    (firstMatch line shapes = .ok none ∧ ∀ s ∈ shapes, s.Leaves line) ∨
    (∃ s : Shape, firstMatch line shapes = .ok (some s) ∧ s.ReachedIn line shapes ∧ s.Takes line) ∨
    (firstMatch line shapes = .error .untestable ∧
      ∃ s : Shape, s.ReachedIn line shapes ∧ s.test = none) := by
  induction shapes with
  | nil => exact Or.inl ⟨rfl, by simp⟩
  | cons s rest ih =>
    rcases s.trial line with hnone | htakes | hleaves
    · exact Or.inr (Or.inr ⟨firstMatch_cons_of_test_eq_none hnone, s, ⟨[], rest, rfl, by simp⟩,
        hnone⟩)
    · exact Or.inr (Or.inl ⟨s, firstMatch_cons_of_takes htakes, ⟨[], rest, rfl, by simp⟩, htakes⟩)
    · rw [firstMatch_cons_of_leaves hleaves]
      rcases ih with ⟨h, hall⟩ | ⟨t, h, hreached, ht⟩ | ⟨h, t, hreached, ht⟩
      · exact Or.inl ⟨h, List.forall_mem_cons.2 ⟨hleaves, hall⟩⟩
      · exact Or.inr (Or.inl ⟨t, h, hreached.cons hleaves, ht⟩)
      · exact Or.inr (Or.inr ⟨h, t, hreached.cons hleaves, ht⟩)

theorem firstMatch_eq_some_iff {shapes : List Shape} :
    firstMatch line shapes = .ok (some shape) ↔
      shape.ReachedIn line shapes ∧ shape.Takes line := by
  constructor
  · intro h
    rcases firstMatch_cases line shapes with ⟨h', -⟩ | ⟨s, h', hs⟩ | ⟨h', -⟩
    · cases h'.symm.trans h
    · cases h'.symm.trans h
      exact hs
    · cases h'.symm.trans h
  · rintro ⟨⟨earlier, later, rfl, hearlier⟩, htakes⟩
    rw [firstMatch_append_of_leaves hearlier, firstMatch_cons_of_takes htakes]

theorem firstMatch_eq_error_iff {shapes : List Shape} {error : AnnotationError} :
    firstMatch line shapes = .error error ↔
      error = .untestable ∧ ∃ s : Shape, s.ReachedIn line shapes ∧ s.test = none := by
  constructor
  · intro h
    rcases firstMatch_cases line shapes with ⟨h', -⟩ | ⟨s, h', -⟩ | ⟨h', hs⟩
    · cases h'.symm.trans h
    · cases h'.symm.trans h
    · cases h'.symm.trans h
      exact ⟨rfl, hs⟩
  · rintro ⟨rfl, s, ⟨earlier, later, rfl, hearlier⟩, hnone⟩
    rw [firstMatch_append_of_leaves hearlier, firstMatch_cons_of_test_eq_none hnone]

/-! ### Shapes in ascending rank -/

/-- Both shapes have a rank, and that of the first is below that of the second. -/
def Shape.Precedes (shape other : Shape) : Prop :=
  ∃ low high, shape.rank = some low ∧ other.rank = some high ∧ low < high

theorem Shape.Precedes.asymm {shape other : Shape} (h : shape.Precedes other) :
    ¬ other.Precedes shape := by
  rintro ⟨low', high', hother', hshape', hlt'⟩
  obtain ⟨low, high, hshape, hother, hlt⟩ := h
  cases hshape.symm.trans hshape'
  cases hother.symm.trans hother'
  omega

/-- In ascending rank, what stands before a shape is what precedes it. -/
theorem Shape.reachedIn_iff_of_pairwise {shapes : List Shape}
    (h : shapes.Pairwise Shape.Precedes) :
    shape.ReachedIn line shapes ↔
      shape ∈ shapes ∧ ∀ s ∈ shapes, s.Precedes shape → s.Leaves line := by
  constructor
  · rintro ⟨earlier, later, rfl, hearlier⟩
    refine ⟨by simp, ?_⟩
    intro s hs hprecedes
    have hlater := (List.pairwise_cons.1 (List.pairwise_append.1 h).2.1).1
    rcases List.mem_append.1 hs with hs | hs
    · exact hearlier s hs
    · rcases List.mem_cons.1 hs with rfl | hs
      · exact absurd hprecedes hprecedes.asymm
      · exact absurd hprecedes (hlater s hs).asymm
  · rintro ⟨hmem, hleaves⟩
    obtain ⟨earlier, later, rfl⟩ := List.append_of_mem hmem
    refine ⟨earlier, later, rfl, ?_⟩
    intro s hs
    apply hleaves s (by simp [hs])
    exact (List.pairwise_append.1 h).2.2 s hs shape (by simp)

/-- **The matching shape of least rank is picked**, provided that no shape without
    a test comes before it. -/
theorem firstMatch_ranked_eq_some_iff {shapes : List Shape}
    (h : shapes.Pairwise Shape.Precedes) :
    firstMatch line shapes = .ok (some shape) ↔
      shape ∈ shapes ∧ shape.Takes line ∧
        (∀ s ∈ shapes, s.Takes line → s = shape ∨ shape.Precedes s) ∧
        ∀ s ∈ shapes, s.test = none → shape.Precedes s := by
  rw [firstMatch_eq_some_iff, Shape.reachedIn_iff_of_pairwise h]
  constructor
  · rintro ⟨⟨hmem, hleaves⟩, htakes⟩
    refine ⟨hmem, htakes, ?_, ?_⟩
    · intro s hs hsline
      rcases eq_or_of_pairwise h hs hmem with heq | hbefore | hafter
      · exact Or.inl heq
      · exact absurd (hleaves s hs hbefore) hsline.not_leaves
      · exact Or.inr hafter
    · intro s hs hnone
      rcases eq_or_of_pairwise h hs hmem with rfl | hbefore | hafter
      · exact absurd hnone htakes.test_ne_none
      · exact absurd hnone (hleaves s hs hbefore).test_ne_none
      · exact hafter
  · rintro ⟨hmem, htakes, hleast, huntestable⟩
    refine ⟨⟨hmem, ?_⟩, htakes⟩
    intro s hs hbefore
    rcases s.trial line with hnone | hsline | hleaves
    · exact absurd hbefore (huntestable s hs hnone).asymm
    · rcases hleast s hs hsline with rfl | hafter
      · exact absurd hbefore hbefore.asymm
      · exact absurd hbefore hafter.asymm
    · exact hleaves

/-- **A trial fails exactly when a shape without a test precedes all shapes that
    would take the line.** -/
theorem firstMatch_ranked_eq_error_iff {shapes : List Shape}
    (h : shapes.Pairwise Shape.Precedes) :
    firstMatch line shapes = .error .untestable ↔
      ∃ s ∈ shapes, s.test = none ∧ ∀ t ∈ shapes, t.Takes line → s.Precedes t := by
  constructor
  · intro herror
    obtain ⟨-, s, hreached, hnone⟩ := firstMatch_eq_error_iff.1 herror
    obtain ⟨hmem, hleaves⟩ := (Shape.reachedIn_iff_of_pairwise h).1 hreached
    refine ⟨s, hmem, hnone, ?_⟩
    intro t ht htakes
    rcases eq_or_of_pairwise h hmem ht with rfl | hbefore | hafter
    · exact absurd hnone htakes.test_ne_none
    · exact hbefore
    · exact absurd (hleaves t ht hafter) htakes.not_leaves
  · rintro ⟨s, hmem, hnone, hfirst⟩
    rcases firstMatch_cases line shapes with ⟨-, hall⟩ | ⟨t, -, hreached, htakes⟩ | ⟨herror, -⟩
    · exact absurd hnone (hall s hmem).test_ne_none
    · obtain ⟨ht, hleaves⟩ := (Shape.reachedIn_iff_of_pairwise h).1 hreached
      exact absurd hnone (hleaves s hmem (hfirst t ht htakes)).test_ne_none
    · exact herror

end VclReview
