/-
  VclReview/Proofs/Messages.lean
  ==============================
  **What a shape says.**  Filling plain templates fails at the first slot without a value and
  otherwise gives the texts that the templates say.

  `Template.fill_eq`, `fillAll_eq` and `Shape.describe_eq` are the equations of filling one
  plain template, several, and those of a shape; all that is said about filling follows from
  them.
-/
import VclReview.Directive.Shape
import VclReview.Proofs.Templates
import Mathlib.Data.List.Forall2

namespace VclReview

/-! ### The first slot without a value -/

/-- The first of the names that has no value. -/
def firstMissing? (values : Values) (names : List Text) : Option Text :=
  names.find? fun name => (values.lookup name).isNone

theorem firstMissing?_cons_of_none {values : Values} {name : Text} (h : values.lookup name = none)
    (names : List Text) : firstMissing? values (name :: names) = some name := by
  simp [firstMissing?, h]

theorem firstMissing?_cons_of_some {values : Values} {name value : Text}
    (h : values.lookup name = some value) (names : List Text) :
    firstMissing? values (name :: names) = firstMissing? values names := by
  simp [firstMissing?, h]

theorem firstMissing?_append (values : Values) (names more : List Text) :
    firstMissing? values (names ++ more) =
      (firstMissing? values names).or (firstMissing? values more) := List.find?_append

theorem firstMissing?_eq_none_iff {values : Values} {names : List Text} :
    firstMissing? values names = none ↔ ∀ name ∈ names, (values.lookup name).isSome = true := by
  simp [firstMissing?, Option.isSome_iff_ne_none]

theorem firstMissing?_congr {values others : Values} {names : List Text}
    (h : ∀ name ∈ names, others.lookup name = values.lookup name) :
    firstMissing? others names = firstMissing? values names := by
  induction names with
  | nil => rfl
  | cons name names ih =>
    obtain ⟨hname, hnames⟩ := List.forall_mem_cons.1 h
    have hrest := ih hnames
    unfold firstMissing? at hrest ⊢
    rw [List.find?_cons, List.find?_cons, hname, hrest]

/-- The name has no value, and all names before it have one. -/
def FirstMissing (values : Values) (names : List Text) (name : Text) : Prop :=
  ∃ earlier later, names = earlier ++ name :: later ∧ values.lookup name = none ∧
    ∀ other ∈ earlier, values.lookup other ≠ none

theorem firstMissing?_eq_some_iff {values : Values} {names : List Text} {name : Text} :
    firstMissing? values names = some name ↔ FirstMissing values names name := by
  unfold firstMissing? FirstMissing
  rw [List.find?_eq_some_iff_append]
  constructor
  · rintro ⟨hname, earlier, later, hnames, hearlier⟩
    refine ⟨earlier, later, hnames, by simpa using hname, ?_⟩
    intro other hother
    simpa using hearlier other hother
  · rintro ⟨earlier, later, hnames, hname, hearlier⟩
    refine ⟨by simp [hname], earlier, later, hnames, ?_⟩
    intro other hother
    simpa using hearlier other hother

/-! ### Filling -/

theorem Template.fill_eq (values : Values) {template : Template} (h : template.Plain) :
    template.fill values =
      match firstMissing? values template.slots with
      | some name => .error (.missing name)
      | none => .ok (template.text values) := by
  induction template with
  | nil => rfl
  | cons piece rest ih =>
    obtain ⟨hpiece, hrest⟩ := plain_cons.1 h
    cases piece with
    | words text =>
      rw [fill, ih hrest, slots]
      · cases firstMissing? values (slots rest) <;> rfl
      · simp
    | slot name =>
      rw [fill, ih hrest, slots]
      cases hvalue : values.lookup name with
      | none =>
        rw [firstMissing?_cons_of_none hvalue]
        simp only [Piece.fill, hvalue]
        rfl
      | some value =>
        rw [firstMissing?_cons_of_some hvalue]
        simp only [Piece.fill, hvalue, text_cons, Piece.text, Option.getD_some]
        cases firstMissing? values (slots rest) <;> rfl
    | elaborate name => exact hpiece.elim
    | flaw error => exact hpiece.elim

theorem fillAll_eq (values : Values) {templates : List Template}
    (h : ∀ template ∈ templates, template.Plain) :
    fillAll values templates =
      match firstMissing? values (templates.flatMap Template.slots) with
      | some name => .error (.missing name)
      | none => .ok (templates.map (Template.text values)) := by
  induction templates with
  | nil => rfl
  | cons template rest ih =>
    obtain ⟨htemplate, hrest⟩ := List.forall_mem_cons.1 h
    rw [fillAll, Template.fill_eq values htemplate, ih hrest, List.flatMap_cons,
      firstMissing?_append]
    cases firstMissing? values template.slots with
    | some name => rfl
    | none => cases firstMissing? values (rest.flatMap Template.slots) <;> rfl

/-- What a template says does not depend on values without a slot. -/
theorem Template.text_congr {values others : Values} {template : Template}
    (h : ∀ name ∈ template.slots, others.lookup name = values.lookup name) :
    template.text others = template.text values := by
  induction template with
  | nil => rfl
  | cons piece rest ih =>
    rw [text_cons, text_cons]
    cases piece with
    | words text => rw [ih h, Piece.text, Piece.text]
    | slot name =>
      obtain ⟨hname, hrest⟩ := List.forall_mem_cons.1 h
      rw [ih hrest, Piece.text, Piece.text, hname]
    | elaborate name => rw [ih h, Piece.text, Piece.text]
    | flaw error => rw [ih h, Piece.text, Piece.text]

/-! ### Several templates -/

theorem Template.forall₂_says_iff {values : Values} {texts messages : List Text}
    (hplain : ∀ text ∈ texts, (read text).Plain) :
    List.Forall₂ (Says values) texts messages ↔
      (∀ text ∈ texts, (read text).Supplied values) ∧
        messages = texts.map fun text => (read text).text values := by
  induction texts generalizing messages with
  | nil => simp
  | cons text rest ih =>
    obtain ⟨htext, hrest⟩ := List.forall_mem_cons.1 hplain
    cases messages with
    | nil => simp
    | cons message messages =>
      rw [List.forall₂_cons, says_iff htext, ih hrest, List.forall_mem_cons, List.map_cons,
        List.cons.injEq]
      exact and_and_and_comm

theorem Template.forall₂_asks_iff {texts : List Text} {names : List (List Text)} :
    List.Forall₂ Asks texts names ↔
      (∀ text ∈ texts, (read text).Plain) ∧ names = texts.map fun text => (read text).slots := by
  induction texts generalizing names with
  | nil => simp
  | cons text rest ih =>
    cases names with
    | nil => simp
    | cons name names =>
      rw [List.forall₂_cons, asks_iff, ih, List.forall_mem_cons, List.map_cons, List.cons.injEq,
        eq_comm]
      exact and_and_and_comm

/-! ### Literals -/

/-- Reads the characters of a literal off its own form: computing them is slow. -/
theorem toList_eq {words : String} {chars : List Char} (h : words = String.ofList chars) :
    words.toList = chars := by
  rw [h, String.toList_ofList]

theorem cons_toList_eq {words : String} {chars : List Char} {texts others : List Text}
    (h : words = String.ofList chars) (hrest : texts = others) :
    words.toList :: texts = chars :: others := by
  rw [toList_eq h, hrest]

/-! ### Shapes -/

/-- The names of all slots of a shape, in reading order. -/
def Shape.slots (shape : Shape) : List Text := shape.templates.flatMap Template.slots

/-- All templates of the shape are plain. -/
def Shape.Plain (shape : Shape) : Prop := ∀ template ∈ shape.templates, template.Plain

instance (shape : Shape) : Decidable shape.Plain :=
  inferInstanceAs (Decidable (∀ template ∈ shape.templates, template.Plain))

theorem Shape.plain_iff {shape : Shape} :
    shape.Plain ↔ ∀ text ∈ shape.message :: shape.advice, (Template.read text).Plain :=
  List.forall_mem_map

theorem Shape.slots_eq_flatten (shape : Shape) :
    shape.slots =
      ((shape.message :: shape.advice).map fun text => (Template.read text).slots).flatten := by
  rw [slots, templates, List.flatMap_map, List.flatMap_def]

theorem Shape.describe_eq {shape : Shape} (h : shape.Plain) (values : Values) :
    shape.describe values =
      match firstMissing? values shape.slots with
      | some name => .error (.missing name)
      | none => .ok (shape.templates.map (Template.text values)) :=
  fillAll_eq values h

/-- The message and the advice of a shape for the values that it reads from a
    line. -/
def Shape.said (shape : Shape) (line : Text) : List Text :=
  shape.templates.map (Template.text (shape.extract line))

/-- The templates of the shape are plain, and whatever line it reads, it finds a value for
    every slot of them. -/
structure Shape.Supplies (shape : Shape) : Prop where
  plain : shape.Plain
  supplied : ∀ line, ∀ template ∈ shape.templates, template.Supplied (shape.extract line)

theorem Shape.supplied_iff {shape : Shape} {values : Values} :
    (∀ name ∈ shape.slots, (values.lookup name).isSome = true) ↔
      ∀ template ∈ shape.templates, template.Supplied values := by
  simp only [slots, List.forall_mem_flatMap, Template.Supplied]

theorem Shape.describe_eq_ok {shape : Shape} (h : shape.Supplies) (line : Text) :
    shape.describe (shape.extract line) = .ok (shape.said line) := by
  rw [describe_eq h.plain, firstMissing?_eq_none_iff.2 (supplied_iff.2 (h.supplied line))]
  rfl

/-- **The messages are what the templates say**, one for each of them. -/
theorem Shape.describe_eq_ok_iff {shape : Shape} {values : Values} {messages : List Text}
    (hplain : shape.Plain) :
    shape.describe values = .ok messages ↔
      List.Forall₂ (Template.Says values) (shape.message :: shape.advice) messages := by
  have hsupplied : (∀ text ∈ shape.message :: shape.advice,
      (Template.read text).Supplied values) ↔
        ∀ template ∈ shape.templates, template.Supplied values := List.forall_mem_map.symm
  have htexts : ((shape.message :: shape.advice).map fun text =>
      (Template.read text).text values) = shape.templates.map (Template.text values) :=
    List.map_map.symm
  rw [Template.forall₂_says_iff (plain_iff.1 hplain), hsupplied, htexts, ← supplied_iff,
    describe_eq hplain]
  cases hmissing : firstMissing? values shape.slots with
  | some name =>
    rw [← firstMissing?_eq_none_iff, hmissing]
    simp
  | none =>
    have hall := firstMissing?_eq_none_iff.1 hmissing
    constructor
    · intro h
      exact ⟨hall, (Except.ok.inj h).symm⟩
    · rintro ⟨-, rfl⟩
      rfl

theorem Shape.describe_eq_error_iff {shape : Shape} {values : Values} {error : FormatError}
    (hplain : shape.Plain) :
    shape.describe values = .error error ↔
      ∃ name, error = .missing name ∧ FirstMissing values shape.slots name := by
  simp only [← firstMissing?_eq_some_iff]
  rw [describe_eq hplain]
  cases firstMissing? values shape.slots with
  | some name => simp [eq_comm]
  | none => simp

/-- Only the values of the slots matter. -/
theorem Shape.describe_congr {shape : Shape} {values others : Values} (hplain : shape.Plain)
    (h : ∀ name ∈ shape.slots, others.lookup name = values.lookup name) :
    shape.describe others = shape.describe values := by
  have htexts : shape.templates.map (Template.text others) =
      shape.templates.map (Template.text values) := by
    apply List.map_congr_left
    intro template htemplate
    apply Template.text_congr
    intro name hname
    exact h name (List.mem_flatMap.2 ⟨template, htemplate, hname⟩)
  rw [describe_eq hplain, describe_eq hplain, firstMissing?_congr h, htexts]

end VclReview
