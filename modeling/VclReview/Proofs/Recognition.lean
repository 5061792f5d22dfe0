/-
  VclReview/Proofs/Recognition.lean
  =================================
  **Which directive a line gets**, as a table.  Each row has a condition that speaks
  of the line alone: some words occur in it, or occur in it before a certain end.
  Several conditions may hold of one line; the first row whose condition holds gives
  the directive (`directive_iff_first_row`), whatever way the shapes have been found
  and are tried.
-/
import VclReview.Directive.Catalogue
import VclReview.Proofs.Language
import Mathlib.Data.List.Forall2
import Mathlib.Data.List.Nodup

namespace VclReview

/-! ### The table -/

/-- What may be asked of a line. -/
inductive Condition where
  /-- That it has the mark somewhere. -/
  | has (mark : Text)
  /-- That it ends with the tail and has the mark somewhere before it. -/
  | hasBefore (mark tail : Text)

def Condition.Holds (line : Text) : Condition → Prop
  | has mark => ∃ a b, line = a ++ mark ++ b
  | hasBefore mark tail => ∃ a b, line = a ++ mark ++ b ++ tail

structure Row where
  directive : Text
  condition : Condition

def Row.table : List Row :=
  [⟨"version", .has "vcl 4.0"⟩,
   ⟨"backend", .hasBefore "backend" ['{']⟩,
   ⟨"host", .has "host ="⟩,
   ⟨"port", .has "port ="⟩,
   ⟨"acl", .hasBefore "acl" ['{']⟩,
   ⟨"include", .hasBefore "include" ";"⟩,
   ⟨"sub", .hasBefore "sub" ['{']⟩,
   ⟨"synth", .has "return (synth("⟩,
   ⟨"req_header", .has "set req.http."⟩,
   ⟨"ttl", .has "set beresp.ttl ="⟩,
   ⟨"grace", .has "set beresp.grace ="⟩]

/-- The row stands in the list, its condition holds, and that of no row before it
    does. -/
def Row.FirstIn (row : Row) (line : Text) (rows : List Row) : Prop :=
  ∃ earlier later, rows = earlier ++ row :: later ∧ row.condition.Holds line ∧
    ∀ r ∈ earlier, ¬ r.condition.Holds line

/-! ### One shape and its row -/

theorem containsBefore_iff {line mark tail : Text} :
    Text.containsBefore line mark tail = true ↔ ∃ a b, line = a ++ mark ++ b ++ tail := by
  rw [Text.containsBefore, Bool.and_eq_true, Text.endsWith, List.isSuffixOf_iff_suffix,
    Text.contains_iff]
  constructor
  · rintro ⟨⟨front, rfl⟩, a, b, h⟩
    have hfront : front = a ++ mark ++ b := by simpa using h
    exact ⟨a, b, by rw [hfront]⟩
  · rintro ⟨a, b, rfl⟩
    have hfront : (a ++ mark ++ b ++ tail).length - tail.length = (a ++ mark ++ b).length := by
      simp only [List.length_append]
      omega
    exact ⟨⟨_, rfl⟩, a, b, by rw [hfront, List.take_left]⟩

/-- The shape gives the directive of the row to the lines of which the condition of
    the row holds. -/
def Shape.Follows (shape : Shape) (row : Row) : Prop :=
  shape.name = row.directive ∧ ∀ line, shape.accepts line = true ↔ row.condition.Holds line

theorem Shape.builtin_follows_table : List.Forall₂ Shape.Follows Shape.builtin Row.table := by
  have hcontains (name mark : Text) (shape : Shape) (hname : shape.name = name)
      (htest : shape.test = some fun line => Text.contains mark line) :
      shape.Follows ⟨name, .has mark⟩ :=
    ⟨hname, fun line => by simp only [accepts, htest, Text.contains_iff, Condition.Holds]⟩
  have hbefore (name mark tail : Text) (shape : Shape) (hname : shape.name = name)
      (htest : shape.test = some fun line => Text.containsBefore line mark tail) :
      shape.Follows ⟨name, .hasBefore mark tail⟩ :=
    ⟨hname, fun line => by simp only [accepts, htest, containsBefore_iff, Condition.Holds]⟩
  refine .cons ?version <| .cons ?backend <| .cons ?host <| .cons ?port <| .cons ?acl <|
    .cons ?inclusion <| .cons ?subroutine <| .cons ?synth <| .cons ?requestHeader <|
    .cons ?ttl <| .cons ?grace .nil
  case version | host | port | synth | requestHeader | ttl | grace =>
    exact hcontains _ _ _ rfl rfl
  case backend | acl | inclusion | subroutine => exact hbefore _ _ _ _ rfl rfl

/-! ### The whole table -/

/-- A search among shapes ends at the first row that holds. -/
theorem find?_accepts_of_follows {shapes : List Shape} {rows : List Row}
    (h : List.Forall₂ Shape.Follows shapes rows) (line : Text) :
    (shapes.find? (·.accepts line) = none ∧ ∀ row ∈ rows, ¬ row.condition.Holds line) ∨
    ∃ (shape : Shape) (row : Row), shapes.find? (·.accepts line) = some shape ∧
      shape.name = row.directive ∧ row.FirstIn line rows := by
  induction h with
  | nil => exact Or.inl ⟨rfl, by simp⟩
  | @cons shape row shapes rows hhead _ ih =>
    obtain ⟨hname, hline⟩ := hhead
    cases hshape : shape.accepts line with
    | true =>
      exact Or.inr ⟨shape, row, by simp only [List.find?_cons, hshape], hname,
        [], rows, rfl, (hline line).1 hshape, by simp⟩
    | false =>
      have hrow : ¬ row.condition.Holds line := fun hholds => by
        simp [(hline line).2 hholds] at hshape
      simp only [List.find?_cons, hshape]
      rcases ih with ⟨hnone, hall⟩ | ⟨s, r, hsome, hs, earlier, later, rfl, hholds, hearlier⟩
      · exact Or.inl ⟨hnone, List.forall_mem_cons.2 ⟨hrow, hall⟩⟩
      · exact Or.inr ⟨s, r, hsome, hs, row :: earlier, later, rfl, hholds,
          List.forall_mem_cons.2 ⟨hrow, hearlier⟩⟩

theorem Row.FirstIn.mem {row : Row} {line : Text} {rows : List Row}
    (h : row.FirstIn line rows) : row ∈ rows := by
  obtain ⟨earlier, later, rfl, -⟩ := h
  simp

theorem Row.FirstIn.holds {row : Row} {line : Text} {rows : List Row}
    (h : row.FirstIn line rows) : row.condition.Holds line := by
  obtain ⟨earlier, later, -, hholds, -⟩ := h
  exact hholds

theorem Row.FirstIn.unique {row other : Row} {line : Text} {rows : List Row}
    (h : row.FirstIn line rows) (h' : other.FirstIn line rows) : row = other := by
  obtain ⟨earlier, later, rfl, hholds, hearlier⟩ := h
  obtain ⟨earlier', later', heq, hholds', hearlier'⟩ := h'
  rcases List.append_eq_append_iff.1 heq with ⟨between, rfl, hlater⟩ | ⟨between, rfl, hlater⟩
  · cases between with
    | nil => exact (List.cons.inj hlater).1
    | cons r between =>
      have hrow : row = r := (List.cons.inj hlater).1
      exact absurd hholds (hearlier' row (by simp [hrow]))
  · cases between with
    | nil => exact (List.cons.inj hlater).1.symm
    | cons r between =>
      have hother : other = r := (List.cons.inj hlater).1
      exact absurd hholds' (hearlier other (by simp [hother]))

theorem Row.eq_of_directive_eq {row other : Row} (hrow : row ∈ table) (hother : other ∈ table)
    (h : row.directive = other.directive) : row = other :=
  List.inj_on_of_nodup_map (by decide : (table.map Row.directive).Nodup) hrow hother h

theorem Row.directive_ne_unrecognized :
    ∀ row ∈ table, row.directive ≠ Annotation.unrecognized := by
  decide

/-- **The first row whose condition holds gives the directive of a line, and a line of
    which no condition holds is unrecognized.** -/
theorem directive_iff_first_row (line : Text) (lineNumber : Int) (location : Text) :
    ∃ shapes a, Catalogue.builtin.discover = .ok shapes ∧
      annotate shapes line lineNumber location = .ok a ∧
      (∀ row ∈ Row.table, a.directive = row.directive ↔ row.FirstIn line Row.table) ∧
      (a.directive = Annotation.unrecognized ↔
        ∀ row ∈ Row.table, ¬ row.condition.Holds line) := by
  refine ⟨Shape.builtin, annotationOf line lineNumber location, discover_builtin,
    annotate_builtin line lineNumber location, ?_⟩
  rcases find?_accepts_of_follows Shape.builtin_follows_table line with
    ⟨hnone, hall⟩ | ⟨shape, first, hsome, hname, hfirst⟩
  · have hdirective :
        (annotationOf line lineNumber location).directive = Annotation.unrecognized := by
      simp only [annotationOf, taker?, hnone]
    refine ⟨?_, fun _ => hall, fun _ => hdirective⟩
    intro row hrow
    constructor
    · intro h
      exact absurd (h.symm.trans hdirective) (Row.directive_ne_unrecognized row hrow)
    · intro h
      exact absurd h.holds (hall row hrow)
  · have hdirective : (annotationOf line lineNumber location).directive = first.directive := by
      simp only [annotationOf, taker?, hsome, hname]
    constructor
    · intro row hrow
      constructor
      · intro h
        rw [Row.eq_of_directive_eq hrow hfirst.mem (h.symm.trans hdirective)]
        exact hfirst
      · intro h
        rw [h.unique hfirst]
        exact hdirective
    · constructor
      · intro h
        exact absurd (hdirective.symm.trans h) (Row.directive_ne_unrecognized first hfirst.mem)
      · intro h
        exact absurd hfirst.holds (h first hfirst.mem)

end VclReview
