/-
  VclReview/Proofs/Wording.lean
  =============================
  **What is said about a line is said with its values as they are.**  The shapes of the
  language read a value for every slot of their templates, so describing a line never fails,
  and no character of a value has a meaning of its own (`Template.Says`).  The first message
  about a line is told from those after it by how it begins (`announcedOnce_of_isBlock`).

  `messages_say_values` says this of all lines, and of all shapes and values when describing
  fails and what it depends on.
-/
import VclReview.Proofs.Readback

namespace VclReview

/-! ### The first message -/

/-- The message begins like the first one about a line. -/
def Announces (message : Text) : Prop :=
  "Configuration: ".toList <+: message ∨ "Unrecognized line: ".toList <+: message

/-- There are one to three messages, and the first is the only one that begins like the first
    one about a line. -/
def AnnouncedOnce (messages : List Text) : Prop :=
  ∃ first later, messages = first :: later ∧ later.length ≤ 2 ∧ Announces first ∧
    ∀ message ∈ later, ¬ Announces message

theorem opensBlock_of_announces {message : Text} (h : Announces message) :
    opensBlock message = true := by
  rcases h with h | h
  · simp [opensBlock, head?_eq_some_of_isPrefix h (a := 'C') rfl]
  · simp [opensBlock, head?_eq_some_of_isPrefix h (a := 'U') rfl]

theorem announcedOnce_of_isBlock {first : Text} {later : List Text}
    (hblock : IsBlock (first :: later)) (hlength : later.length ≤ 2) (hfirst : Announces first) :
    AnnouncedOnce (first :: later) := by
  refine ⟨first, later, rfl, hlength, hfirst, ?_⟩
  intro message hmessage hannounces
  obtain ⟨opening, others, heq, -, hothers⟩ := hblock
  cases heq
  cases (hothers message hmessage).symm.trans (opensBlock_of_announces hannounces)

theorem Shape.length_advice_le : ∀ shape ∈ Shape.builtin, shape.advice.length ≤ 2 := by decide

theorem announcedOnce_messages (line : Text) (lineNumber : Int) (location : Text) :
    AnnouncedOnce (annotationOf line lineNumber location).messages := by
  have hblock := isBlock_messages line lineNumber location
  cases htaker : taker? line with
  | none =>
    simp only [annotationOf, htaker] at hblock ⊢
    exact announcedOnce_of_isBlock hblock (by simp) (Or.inr (List.prefix_append _ _))
  | some shape =>
    have hshape := mem_builtin_of_taker? htaker
    simp only [annotationOf, htaker] at hblock ⊢
    have hopening := Shape.configuration_prefix_opening hshape line
    refine announcedOnce_of_isBlock hblock ?_ (Or.inl hopening)
    rw [List.length_map, List.length_map]
    exact Shape.length_advice_le shape hshape

/-! ### Any line, and any shape -/

/-- Every shape of the language says its templates with the values that it reads. -/
theorem Shape.says_said {shape : Shape} (hshape : shape ∈ Shape.builtin) (line : Text) :
    List.Forall₂ (Template.Says (shape.extract line)) (shape.message :: shape.advice)
      (shape.said line) :=
  have hsupplies := supplies_builtin shape hshape
  (describe_eq_ok_iff hsupplies.plain).1 (describe_eq_ok hsupplies line)

/-- A shape of plain templates fails to describe values exactly if it has a slot without a
    value. -/
theorem Shape.exists_describe_eq_error_iff {shape : Shape} {values : Values}
    (hplain : shape.Plain) :
    (∃ error, shape.describe values = .error error) ↔
      ∃ name ∈ shape.slots, values.lookup name = none := by
  constructor
  · rintro ⟨error, herror⟩
    obtain ⟨name, -, earlier, later, hslots, hname, -⟩ := (describe_eq_error_iff hplain).1 herror
    exact ⟨name, by simp [hslots], hname⟩
  · rintro ⟨name, hname, hlookup⟩
    cases hdescribe : shape.describe values with
    | error error => exact ⟨error, rfl⟩
    | ok messages =>
      rw [describe_eq hplain] at hdescribe
      cases hmissing : firstMissing? values shape.slots with
      | some missing => simp [hmissing] at hdescribe
      | none =>
        have hvalue := firstMissing?_eq_none_iff.1 hmissing name hname
        rw [hlookup] at hvalue
        cases hvalue

/-- **Whatever is written in a line, what is said about it repeats the values letter by letter**:
    describing the line never fails, its messages are those of the shape that takes it, and a
    line that no shape takes is repeated itself.  Of any shape whose templates ask for values by
    their names, and any values: describing fails exactly if a slot lacks its value, it names
    the first such slot, and values that no slot asks for make no difference. -/
theorem messages_say_values :
    (∀ (line : Text) (lineNumber : Int) (location : Text),
      (∀ shape ∈ Shape.builtin, ∃ messages, shape.describe (shape.extract line) = .ok messages ∧
        List.Forall₂ (Template.Says (shape.extract line)) (shape.message :: shape.advice)
          messages) ∧
      ∃ a, annotate Shape.builtin line lineNumber location = .ok a ∧ AnnouncedOnce a.messages ∧
        (∀ shape, firstMatch line Shape.builtin = .ok (some shape) →
          List.Forall₂ (Template.Says (shape.extract line)) (shape.message :: shape.advice)
            a.messages) ∧
        (firstMatch line Shape.builtin = .ok none →
          ∃ warning, a.messages = ["Unrecognized line: " ++ line, warning])) ∧
    ∀ (shape : Shape) (names : List (List Text)),
      List.Forall₂ Template.Asks (shape.message :: shape.advice) names → ∀ values : Values,
      ((∃ error, shape.describe values = .error error) ↔
        ∃ name ∈ names.flatten, values.lookup name = none) ∧
      (∀ error, shape.describe values = .error error →
        ∃ name, error = .missing name ∧ FirstMissing values names.flatten name) ∧
      (∀ messages, shape.describe values = .ok messages ↔
        List.Forall₂ (Template.Says values) (shape.message :: shape.advice) messages) ∧
      ∀ others : Values, (∀ name ∈ names.flatten, others.lookup name = values.lookup name) →
        shape.describe others = shape.describe values := by
  constructor
  · intro line lineNumber location
    constructor
    · intro shape hshape
      exact ⟨_, Shape.describe_eq_ok (Shape.supplies_builtin shape hshape) line,
        Shape.says_said hshape line⟩
    · refine ⟨_, annotate_builtin line lineNumber location,
        announcedOnce_messages line lineNumber location, ?_, ?_⟩
      · intro shape hfirst
        have htaker := Except.ok.inj ((firstMatch_builtin line).symm.trans hfirst)
        simp only [annotationOf, htaker]
        exact Shape.says_said (mem_builtin_of_taker? htaker) line
      · intro hnone
        have htaker := Except.ok.inj ((firstMatch_builtin line).symm.trans hnone)
        simp only [annotationOf, htaker]
        exact ⟨_, rfl⟩
  · intro shape names hasks values
    obtain ⟨htexts, rfl⟩ := Template.forall₂_asks_iff.1 hasks
    have hplain := Shape.plain_iff.2 htexts
    rw [← Shape.slots_eq_flatten]
    exact ⟨Shape.exists_describe_eq_error_iff hplain,
      fun _ => (Shape.describe_eq_error_iff hplain).1,
      fun _ => Shape.describe_eq_ok_iff hplain, fun _ => Shape.describe_congr hplain⟩

/-- A value that looks like a slot stays as it is, and a slot whose value is missing is named
    where two are. -/
theorem messages_say_values_like_slots :
    let line : Text := ".port = \x7bport\x7d%s;"
    (∃ a, annotate Shape.builtin line 3 "main.vcl" = .ok a ∧
      a.messages.head? =
        some ("Configuration: Backend server port is '\x7bport\x7d%s'." : Text)) ∧
    ∀ error, Shape.requestHeader.describe [("host", "x")] = .error error →
      error = .missing "header" := by
  intro line
  have htaker : taker? line = some .port := rfl
  have hfirst : firstMatch line Shape.builtin = .ok (some .port) := by
    rw [firstMatch_builtin, htaker]
  obtain ⟨-, a, hannotate, -, htemplates, -⟩ := messages_say_values.1 line 3 "main.vcl"
  have hport := Shape.plain_iff.1 (Shape.supplies_builtin .port (by simp [Shape.builtin])).plain
  have hmessages := ((Template.forall₂_says_iff hport).1 (htemplates _ hfirst)).2
  refine ⟨⟨a, hannotate, ?_⟩, ?_⟩
  · rw [hmessages]
    decide +kernel
  · have hmember : Shape.requestHeader ∈ Shape.builtin := by simp [Shape.builtin]
    have hplain := Shape.plain_iff.1 (Shape.supplies_builtin .requestHeader hmember).plain
    have hasks := Template.forall₂_asks_iff.2 ⟨hplain, rfl⟩
    obtain ⟨-, hnames, -⟩ := messages_say_values.2 .requestHeader _ hasks [("host", "x")]
    intro error herror
    obtain ⟨name, rfl, hmissing⟩ := hnames error herror
    have hheader : firstMissing? [("host", "x")] Shape.requestHeader.slots = some "header" := by
      decide +kernel
    rw [← Shape.slots_eq_flatten, ← firstMissing?_eq_some_iff, hheader] at hmissing
    exact congrArg FormatError.missing (Option.some.inj hmissing).symm

/-- A slot that asks for a value by its number fails whatever values there are, and it is no
    value that is found missing. -/
theorem describe_numbered_slot :
    let shape := { Shape.root with message := "Value \x7b0\x7d." }
    shape.describe [("0", "x")] = .error (.numbered 0) ∧
      (∃ error, shape.describe [] = .error error) ∧
      ∀ name, shape.describe [] ≠ .error (.missing name) := by
  intro shape
  have hnumbered (values : Values) : shape.describe values = .error (.numbered 0) := rfl
  refine ⟨hnumbered _, ⟨_, hnumbered []⟩, ?_⟩
  intro name hmissing
  rw [hnumbered] at hmissing
  cases hmissing

end VclReview
