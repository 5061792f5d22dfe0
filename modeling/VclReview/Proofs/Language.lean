/-
  VclReview/Proofs/Language.lean
  ==============================
  **The shapes of the language leave no line without an annotation.**  Each of them
  has a test and reads a value for every slot of its messages.  So a line goes to
  the first shape whose test it passes (`taker?`), and what is said about it is a
  plain function of the line (`annotationOf`): `annotate_builtin` and
  `annotateFrom_builtin` say that annotating never fails.
-/
import VclReview.Directive.Builtin
import VclReview.Proofs.Messages
import VclReview.Proofs.Trial
import Mathlib.Data.List.Nodup

namespace VclReview

/-! ### Every slot has its value -/

theorem Shape.supplies_of_keys {shape : Shape} {texts : List Text} (keys : List Text)
    (htexts : shape.message :: shape.advice = texts)
    (hkeys : ∀ line, (shape.extract line).map (·.1) = keys)
    (hslots : ∀ text ∈ texts, (Template.read text).Plain ∧
      ∀ name ∈ (Template.read text).slots, name ∈ keys) : shape.Supplies := by
  have htemplates : shape.templates = texts.map Template.read := by
    rw [templates, htexts]
  constructor
  · intro template htemplate
    rw [htemplates] at htemplate
    obtain ⟨text, htext, rfl⟩ := List.mem_map.1 htemplate
    exact (hslots text htext).1
  · intro line template htemplate name hname
    rw [htemplates] at htemplate
    obtain ⟨text, htext, rfl⟩ := List.mem_map.1 htemplate
    have hkey : name ∈ (shape.extract line).map (·.1) := by
      rw [hkeys]
      exact (hslots text htext).2 name hname
    obtain ⟨⟨key, value⟩, hmem, rfl⟩ := List.mem_map.1 hkey
    exact List.lookup_isSome_iff.2 ⟨_, hmem, by simp⟩

theorem Shape.supplies_builtin : ∀ shape ∈ Shape.builtin, shape.Supplies := by
  -- the texts of a shape with one template, with two and with three
  have hone {message : String} {chars : List Char} (h : message = String.ofList chars) :
      [message.toList] = [chars] := cons_toList_eq h rfl
  have htwo {message advice : String} {chars chars' : List Char}
      (h : message = String.ofList chars) (h' : advice = String.ofList chars') :
      [message.toList, advice.toList] = [chars, chars'] := cons_toList_eq h (hone h')
  have hthree {message advice more : String} {chars chars' chars'' : List Char}
      (h : message = String.ofList chars) (h' : advice = String.ofList chars')
      (h'' : more = String.ofList chars'') :
      [message.toList, advice.toList, more.toList] = [chars, chars', chars''] :=
    cons_toList_eq h (htwo h' h'')
  simp only [Shape.builtin, List.forall_mem_cons]
  refine ⟨?version, ?backend, ?host, ?port, ?acl, ?inclusion, ?subroutine, ?synth,
    ?requestHeader, ?ttl, ?grace, by simp⟩
  case version => exact supplies_of_keys [] (htwo rfl rfl) (fun _ => rfl) (by decide)
  case backend => exact supplies_of_keys ["name"] (hone rfl) (fun _ => rfl) (by decide)
  case host => exact supplies_of_keys ["host"] (htwo rfl rfl) (fun _ => rfl) (by decide)
  case port => exact supplies_of_keys ["port"] (htwo rfl rfl) (fun _ => rfl) (by decide)
  case acl => exact supplies_of_keys ["name"] (htwo rfl rfl) (fun _ => rfl) (by decide)
  case inclusion => exact supplies_of_keys ["filename"] (htwo rfl rfl) (fun _ => rfl) (by decide)
  case subroutine => exact supplies_of_keys ["name"] (htwo rfl rfl) (fun _ => rfl) (by decide)
  case synth => exact supplies_of_keys ["code"] (htwo rfl rfl) (fun _ => rfl) (by decide)
  case requestHeader =>
    exact supplies_of_keys ["header", "value"] (htwo rfl rfl) (fun _ => rfl) (by decide)
  case ttl => exact supplies_of_keys ["ttl"] (hthree rfl rfl rfl) (fun _ => rfl) (by decide)
  case grace => exact supplies_of_keys ["grace"] (hthree rfl rfl rfl) (fun _ => rfl) (by decide)

/-! ### Every shape has its test -/

/-- Whether the line passes the test of the shape. -/
def Shape.accepts (shape : Shape) (line : Text) : Bool :=
  match shape.test with
  | some test => test line
  | none => false

theorem Shape.accepts_iff {shape : Shape} {line : Text} :
    shape.accepts line = true ↔ shape.Takes line := by
  cases htest : shape.test <;> simp [accepts, Takes, htest]

theorem Shape.leaves_of_accepts_eq_false {shape : Shape} {line : Text}
    (htest : shape.test.isSome = true) (h : shape.accepts line = false) : shape.Leaves line := by
  obtain ⟨test, htest⟩ := Option.isSome_iff_exists.1 htest
  exact ⟨test, htest, by simpa [accepts, htest] using h⟩

/-- With tests for all of them, a trial is a search. -/
theorem firstMatch_eq_find? {shapes : List Shape}
    (h : ∀ shape ∈ shapes, shape.test.isSome = true) (line : Text) :
    firstMatch line shapes = .ok (shapes.find? (·.accepts line)) := by
  induction shapes with
  | nil => rfl
  | cons shape rest ih =>
    have hshape := h shape (by simp)
    cases hline : shape.accepts line with
    | true =>
      rw [firstMatch_cons_of_takes (Shape.accepts_iff.1 hline)]
      simp only [List.find?_cons, hline]
    | false =>
      rw [firstMatch_cons_of_leaves (Shape.leaves_of_accepts_eq_false hshape hline),
        ih fun s hs => h s (by simp [hs])]
      simp only [List.find?_cons, hline]

/-- The shape of the language that a line goes to. -/
def taker? (line : Text) : Option Shape := Shape.builtin.find? (·.accepts line)

theorem Shape.test_builtin : ∀ shape ∈ Shape.builtin, shape.test.isSome = true := by decide

theorem firstMatch_builtin (line : Text) : firstMatch line Shape.builtin = .ok (taker? line) :=
  firstMatch_eq_find? Shape.test_builtin line

theorem mem_builtin_of_taker? {line : Text} {shape : Shape} (h : taker? line = some shape) :
    shape ∈ Shape.builtin :=
  List.mem_of_find?_eq_some h

theorem takes_of_taker? {line : Text} {shape : Shape} (h : taker? line = some shape) :
    shape.Takes line := by
  have haccepts := List.find?_some h
  exact Shape.accepts_iff.1 haccepts

theorem Shape.eq_of_name_eq {shape other : Shape} (hshape : shape ∈ Shape.builtin)
    (hother : other ∈ Shape.builtin) (h : shape.name = other.name) : shape = other :=
  List.inj_on_of_nodup_map (by decide : (Shape.builtin.map Shape.name).Nodup) hshape hother h

theorem Shape.name_ne_unrecognized :
    ∀ shape ∈ Shape.builtin, shape.name ≠ Annotation.unrecognized := by
  decide

theorem Shape.pairwise_builtin : Shape.builtin.Pairwise Shape.Precedes := by
  have hranks : Shape.builtin.map Shape.rank =
      ([10, 20, 30, 40, 50, 60, 70, 80, 90, 100, 110] : List Int).map some := rfl
  have hascending : (Shape.builtin.map Shape.rank).Pairwise
      fun a b => ∃ low high, a = some low ∧ b = some high ∧ low < high := by
    rw [hranks, List.pairwise_map]
    exact List.Pairwise.imp (fun hlt => ⟨_, _, rfl, rfl, hlt⟩) (by decide)
  rwa [List.pairwise_map] at hascending

/-- A line goes to a shape that takes it, unless one of lower rank takes it too. -/
theorem firstMatch_eq_some_of_takes {line : Text} {shape : Shape} (hmem : shape ∈ Shape.builtin)
    (htakes : shape.Takes line)
    (hearlier : ∀ s ∈ Shape.builtin, s.Precedes shape → ¬ s.Takes line) :
    firstMatch line Shape.builtin = .ok (some shape) := by
  rw [firstMatch_eq_some_iff, Shape.reachedIn_iff_of_pairwise Shape.pairwise_builtin]
  refine ⟨⟨hmem, ?_⟩, htakes⟩
  intro s hs hprecedes
  rcases s.trial line with hnone | hline | hleaves
  · exact absurd hnone (Option.isSome_iff_ne_none.1 (Shape.test_builtin s hs))
  · exact absurd hline (hearlier s hs hprecedes)
  · exact hleaves

/-! ### The annotation of a line -/

/-- The messages about a line that no shape takes, put together. -/
def Annotation.unrecognizedLines (line : Text) : List Text :=
  ["Unrecognized line: " ++ line, unrecognizedWarning]

theorem Annotation.unrecognizedMessages_eq (line : Text) :
    unrecognizedMessages line = .ok (unrecognizedLines line) := by
  have hread : Template.read unrecognizedMessage =
      [.words "Unrecognized line: ", .slot "line"] := by decide
  unfold unrecognizedMessages
  rw [hread]
  simp [Template.fill, Piece.fill, bind, Except.bind, pure, Except.pure, unrecognizedLines]

/-- What the language says about a line. -/
def annotationOf (line : Text) (lineNumber : Int) (location : Text) : Annotation :=
  match taker? line with
  | some shape =>
    ⟨lineNumber, line, shape.name, shape.said line, shape.extract line, location⟩
  | none =>
    ⟨lineNumber, line, Annotation.unrecognized, Annotation.unrecognizedLines line, [],
      location⟩

/-- **Every line has an annotation.** -/
theorem annotate_builtin (line : Text) (lineNumber : Int) (location : Text) :
    annotate Shape.builtin line lineNumber location =
      .ok (annotationOf line lineNumber location) := by
  cases htaker : taker? line with
  | none =>
    simp only [annotate, annotationOf, firstMatch_builtin, htaker,
      Annotation.unrecognizedMessages_eq]
  | some shape =>
    have hsupplies := Shape.supplies_builtin shape (mem_builtin_of_taker? htaker)
    simp only [annotate, annotationOf, firstMatch_builtin, htaker,
      Shape.describe_eq_ok hsupplies line]

/-- The directive of an annotation tells the shape that the line has gone to, and with it the
    values. -/
theorem taker?_of_directive {line location : Text} {lineNumber : Int} {a : Annotation}
    {shape : Shape} (hshape : shape ∈ Shape.builtin)
    (h : annotate Shape.builtin line lineNumber location = .ok a)
    (hdirective : a.directive = shape.name) :
    taker? line = some shape ∧ a.values = shape.extract line := by
  obtain rfl := Except.ok.inj ((annotate_builtin line lineNumber location).symm.trans h)
  cases htaker : taker? line with
  | none =>
    simp only [annotationOf, htaker] at hdirective
    exact absurd hdirective.symm (Shape.name_ne_unrecognized shape hshape)
  | some other =>
    simp only [annotationOf, htaker] at hdirective ⊢
    obtain rfl := Shape.eq_of_name_eq (mem_builtin_of_taker? htaker) hshape hdirective
    exact ⟨rfl, rfl⟩

theorem location_annotationOf (line : Text) (lineNumber : Int) (location : Text) :
    (annotationOf line lineNumber location).location = location := by
  unfold annotationOf
  cases taker? line <;> rfl

theorem lineNumber_annotationOf (line : Text) (lineNumber : Int) (location : Text) :
    (annotationOf line lineNumber location).lineNumber = lineNumber := by
  unfold annotationOf
  cases taker? line <;> rfl

theorem text_annotationOf (line : Text) (lineNumber : Int) (location : Text) :
    (annotationOf line lineNumber location).text = line := by
  unfold annotationOf
  cases taker? line <;> rfl

theorem mapM_eq_ok_map {α β ε : Type} {f : α → Except ε β} {g : α → β} (list : List α)
    (h : ∀ x, f x = .ok (g x)) : list.mapM f = .ok (list.map g) := by
  induction list with
  | nil => rfl
  | cons x rest ih =>
    rw [List.mapM_cons, h, ih]
    rfl

/-- The annotations of consecutive lines, counted from `start`. -/
def annotationsOf (location : Text) (start : Int) (lines : List Text) : List Annotation :=
  lines.zipIdx.map fun (line, i) => annotationOf line (start + i) location

@[simp] theorem length_annotationsOf (location : Text) (start : Int) (lines : List Text) :
    (annotationsOf location start lines).length = lines.length := by
  simp [annotationsOf]

theorem getElem?_annotationsOf (location : Text) (start : Int) (lines : List Text) (i : Nat) :
    (annotationsOf location start lines)[i]? =
      lines[i]?.map fun line => annotationOf line (start + i) location := by
  simp only [annotationsOf, List.getElem?_map, List.getElem?_zipIdx, Option.map_map, Nat.zero_add]
  rfl

theorem map_lineNumber_annotationsOf (location : Text) (start : Int) (lines : List Text) :
    (annotationsOf location start lines).map (·.lineNumber) =
      (List.range lines.length).map fun n : Nat => (n : Int) + start := by
  apply List.ext_getElem
  · simp
  · intro i h _
    simp [annotationsOf, lineNumber_annotationOf, Int.add_comm]

theorem annotateFrom_builtin (location : Text) (start : Int) (lines : List Text) :
    annotateFrom Shape.builtin location start lines = .ok (annotationsOf location start lines) :=
  mapM_eq_ok_map _ fun _ => annotate_builtin _ _ _

/-- There is no line that the shapes cannot annotate. -/
def AnnotateAll (shapes : List Shape) : Prop :=
  ∀ location start lines, ∃ annotations, annotateFrom shapes location start lines = .ok annotations

theorem annotateAll_builtin : AnnotateAll Shape.builtin := by
  intro location start lines
  exact ⟨_, annotateFrom_builtin location start lines⟩

end VclReview
