/-
  VclReview/Proofs/Context.lean
  =============================
  **More text around a line never lowers the priority of its directive.**  A condition that
  asks for a mark goes on to hold whatever is put around the line; one that also looks at the
  end of the line goes on to hold whatever is put in front of it.  So the shape that took the
  line takes the longer one as well, and only a shape of lower rank can come in before it
  (`taker?_of_takes`).  `directive_in_context` is what follows for directives.
-/
import VclReview.Proofs.Recognition

namespace VclReview

variable {line : Text} {shape : Shape}

/-! ### Conditions in a longer line -/

/-- Whether the condition does not depend on how the line ends. -/
def Condition.isOpen : Condition → Bool
  | has _ => true
  | hasBefore _ _ => false

theorem Condition.Holds.behind {condition : Condition} (h : condition.Holds line)
    (before : Text) : condition.Holds (before ++ line) := by
  cases condition with
  | has mark =>
    obtain ⟨a, b, rfl⟩ := h
    exact ⟨before ++ a, b, by simp only [List.append_assoc]⟩
  | hasBefore mark tail =>
    obtain ⟨a, b, rfl⟩ := h
    exact ⟨before ++ a, b, by simp only [List.append_assoc]⟩

theorem Condition.Holds.inFrontOf {condition : Condition} (h : condition.Holds line)
    (hopen : condition.isOpen = true) (after : Text) : condition.Holds (line ++ after) := by
  cases condition with
  | has mark =>
    obtain ⟨a, b, rfl⟩ := h
    exact ⟨a, b ++ after, by simp only [List.append_assoc]⟩
  | hasBefore mark tail => cases hopen

/-! ### Shapes in a longer line -/

theorem Shape.exists_follows (hshape : shape ∈ Shape.builtin) :
    ∃ row ∈ Row.table, shape.Follows row := by
  have hfollows := builtin_follows_table
  generalize Shape.builtin = shapes, Row.table = rows at hshape hfollows
  induction hfollows with
  | nil => cases hshape
  | cons hhead _ ih =>
    rcases List.mem_cons.1 hshape with rfl | hrest
    · exact ⟨_, List.mem_cons_self, hhead⟩
    · obtain ⟨row, hrow, hrowline⟩ := ih hrest
      exact ⟨row, List.mem_cons_of_mem _ hrow, hrowline⟩

theorem Shape.Follows.takes_iff {row : Row} (h : shape.Follows row) :
    shape.Takes line ↔ row.condition.Holds line := by
  rw [← accepts_iff, h.2]

theorem Shape.Takes.behind (h : shape.Takes line) (hshape : shape ∈ Shape.builtin)
    (before : Text) : shape.Takes (before ++ line) := by
  obtain ⟨row, -, hfollows⟩ := exists_follows hshape
  exact hfollows.takes_iff.2 ((hfollows.takes_iff.1 h).behind before)

/-- The directives that are told from a mark, wherever it stands in the line. -/
def openDirectives : List Text :=
  ["version", "host", "port", "synth", "req_header", "ttl", "grace"]

theorem Row.isOpen_of_mem_openDirectives :
    ∀ row ∈ Row.table, row.directive ∈ openDirectives → row.condition.isOpen = true := by
  decide

theorem Shape.Takes.inFrontOf (h : shape.Takes line) (hshape : shape ∈ Shape.builtin)
    (hopen : shape.name ∈ openDirectives) (after : Text) : shape.Takes (line ++ after) := by
  obtain ⟨row, hrow, hfollows⟩ := exists_follows hshape
  rw [hfollows.1] at hopen
  have hcondition := Row.isOpen_of_mem_openDirectives row hrow hopen
  exact hfollows.takes_iff.2 ((hfollows.takes_iff.1 h).inFrontOf hcondition after)

/-- A line that some shape takes goes to this shape or to one of lower rank. -/
theorem taker?_of_takes (hshape : shape ∈ Shape.builtin) (h : shape.Takes line) :
    ∃ other, taker? line = some other ∧ (shape = other ∨ other.Precedes shape) := by
  cases htaker : taker? line with
  | none =>
    have hnone := List.find?_eq_none.1 htaker shape hshape
    exact absurd (Shape.accepts_iff.2 h) hnone
  | some other =>
    have hfirst : firstMatch line Shape.builtin = .ok (some other) := by
      rw [firstMatch_builtin, htaker]
    obtain ⟨-, -, hleast, -⟩ := (firstMatch_ranked_eq_some_iff Shape.pairwise_builtin).1 hfirst
    exact ⟨other, rfl, hleast shape hshape h⟩

/-! ### Directives -/

/-- The line is annotated with the directive, which has the rank among those of the language. -/
def GetsDirective (line directive : Text) (rank : Int) : Prop :=
  (∃ shape ∈ Shape.builtin, shape.name = directive ∧ shape.rank = some rank) ∧
    ∀ lineNumber location, ∃ a,
      annotate Shape.builtin line lineNumber location = .ok a ∧ a.directive = directive

theorem getsDirective_iff {directive : Text} {rank : Int} :
    GetsDirective line directive rank ↔
      ∃ shape, taker? line = some shape ∧ shape.name = directive ∧ shape.rank = some rank := by
  constructor
  · rintro ⟨⟨shape, hshape, rfl, hrank⟩, hannotated⟩
    obtain ⟨a, ha, hdirective⟩ := hannotated 0 []
    exact ⟨shape, (taker?_of_directive hshape ha hdirective).1, rfl, hrank⟩
  · rintro ⟨shape, htaker, rfl, hrank⟩
    refine ⟨⟨shape, mem_builtin_of_taker? htaker, rfl, hrank⟩, ?_⟩
    intro lineNumber location
    refine ⟨_, annotate_builtin line lineNumber location, ?_⟩
    simp only [annotationOf, htaker]

theorem getsDirective_of_takes {rank : Int} (hshape : shape ∈ Shape.builtin)
    (hrank : shape.rank = some rank) (h : shape.Takes line) :
    ∃ directive low, GetsDirective line directive low ∧ low ≤ rank := by
  obtain ⟨other, htaker, rfl | ⟨low, high, hlow, hhigh, hlt⟩⟩ := taker?_of_takes hshape h
  · exact ⟨_, rank, getsDirective_iff.2 ⟨shape, htaker, rfl, hrank⟩, Int.le_refl rank⟩
  · cases hhigh.symm.trans hrank
    exact ⟨_, low, getsDirective_iff.2 ⟨other, htaker, rfl, hlow⟩, Int.le_of_lt hlt⟩

/-- **A line with a directive keeps one of this rank or a lower one** whatever is put in front
    of it, and also whatever is put behind it if the directive does not depend on the end of the
    line. -/
theorem directive_in_context {directive : Text} {rank : Int}
    (h : GetsDirective line directive rank) (before after : Text) :
    (∃ other low, GetsDirective (before ++ line) other low ∧ low ≤ rank) ∧
      (directive ∈ openDirectives →
        ∃ other low, GetsDirective (before ++ line ++ after) other low ∧ low ≤ rank) := by
  obtain ⟨shape, htaker, rfl, hrank⟩ := getsDirective_iff.1 h
  have hshape := mem_builtin_of_taker? htaker
  have hbehind := (takes_of_taker? htaker).behind hshape before
  constructor
  · exact getsDirective_of_takes hshape hrank hbehind
  · intro hopen
    exact getsDirective_of_takes hshape hrank (hbehind.inFrontOf hshape hopen after)

/-- Put into the head of a backend, the line about its host has the directive of the head. -/
theorem directive_in_context_of_backend :
    GetsDirective ".host = \"a\";" "host" 30 ∧
      GetsDirective ("backend b # " ++ ".host = \"a\";" ++ [' ', '{']) "backend" 20 ∧
      ∃ other low, GetsDirective ("backend b # " ++ ".host = \"a\";" ++ [' ', '{']) other low ∧
        low ≤ 30 := by
  have hhost : GetsDirective ".host = \"a\";" "host" 30 :=
    getsDirective_iff.2 ⟨.host, rfl, rfl, rfl⟩
  have hbackend : GetsDirective ("backend b # " ++ ".host = \"a\";" ++ [' ', '{']) "backend" 20 :=
    getsDirective_iff.2 ⟨.backend, rfl, rfl, rfl⟩
  exact ⟨hhost, hbackend, (directive_in_context hhost _ _).2 (by decide)⟩

end VclReview
