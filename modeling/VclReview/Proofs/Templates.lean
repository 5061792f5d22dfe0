/-
  VclReview/Proofs/Templates.lean
  ===============================
  **How templates are read.**  A template is plain when its slots hold nothing but names
  (`Template.Asks`), and it says a text when the text is the template letter by letter, with
  the values in the places of the slots (`Template.Says`).  Neither speaks of how a template
  is read.  `Template.asks_iff` says that the plain templates are those that are read without
  a flaw, and `Template.says_iff` that such a template says the text of its pieces and no
  other.
-/
import VclReview.Directive.Template
import Mathlib.Data.List.TakeWhile

namespace VclReview

/-! ### Pieces -/

/-- The piece is words, or a slot that a value fills as it is. -/
def Piece.Plain : Piece → Prop
  | .words _ | .slot _ => True
  | .elaborate _ | .flaw _ => False

instance : DecidablePred Piece.Plain
  | .words _ | .slot _ => .isTrue trivial
  | .elaborate _ | .flaw _ => .isFalse id

/-- The text of a piece; a slot without a value stays empty. -/
def Piece.text (values : Values) : Piece → Text
  | .words text => text
  | .slot name => (values.lookup name).getD []
  | .elaborate _ | .flaw _ => []

namespace Template

/-- Every slot of the template is filled by a value as it is. -/
def Plain (template : Template) : Prop := ∀ piece ∈ template, piece.Plain

instance (template : Template) : Decidable template.Plain :=
  inferInstanceAs (Decidable (∀ piece ∈ template, piece.Plain))

/-- The text of a template; slots without a value stay empty. -/
def text (values : Values) (template : Template) : Text :=
  template.flatMap (Piece.text values)

/-- The names of the slots of a template, in reading order. -/
def slots : Template → List Text
  | [] => []
  | .slot name :: rest => name :: slots rest
  | _ :: rest => slots rest

/-- Whether every slot of the template has a value. -/
def Supplied (values : Values) (template : Template) : Prop :=
  ∀ name ∈ template.slots, (values.lookup name).isSome = true

@[simp] theorem text_nil (values : Values) : text values [] = [] := rfl

@[simp] theorem text_cons (values : Values) (piece : Piece) (rest : Template) :
    text values (piece :: rest) = piece.text values ++ text values rest := by
  simp [text]

@[simp] theorem plain_cons {piece : Piece} {rest : Template} :
    Plain (piece :: rest) ↔ piece.Plain ∧ Plain rest := List.forall_mem_cons

theorem plain_withWords {sofar : Text} {pieces : Template} :
    Plain (withWords sofar pieces) ↔ Plain pieces := by
  unfold withWords
  split
  · rfl
  · exact plain_cons.trans (and_iff_right trivial)

@[simp] theorem slots_withWords (sofar : Text) (pieces : Template) :
    slots (withWords sofar pieces) = slots pieces := by
  unfold withWords
  split <;> rfl

@[simp] theorem text_withWords (values : Values) (sofar : Text) (pieces : Template) :
    text values (withWords sofar pieces) = sofar.reverse ++ text values pieces := by
  unfold withWords
  split
  case isTrue hnone => simp [hnone]
  case isFalse hsome => simp [Piece.text]

end Template

/-! ### How plain templates are read -/

namespace Template

theorem readFrom_cons (stage : Stage) (c : Char) (rest : Text) :
    readFrom stage (c :: rest) =
      (stage.step c).1 ++ ((stage.step c).2.map (readFrom · rest)).getD [] := by
  rw [readFrom]
  rcases stage.step c with ⟨pieces, next | next⟩
  · simp
  · rfl

/-- A name that a slot can hold: it is no number, and none of its characters means anything
    else there. -/
structure SlotName (name : Text) : Prop where
  given : name ≠ []
  noNumber : number? 0 name = .ok none
  plain : ∀ c ∈ name, c ∉ ['{', '}', '!', ':', '[', '.']

/-- The end of a slot, with or without a format of no characters. -/
def Closes (close : Text) : Prop := close = ['}'] ∨ close = [':', '}']

/-- The text is a plain template: letters, doubled braces, and slots for the values with the
    given names. -/
inductive Asks : Text → List Text → Prop where
  | nothing : Asks [] []
  | letter {c : Char} {rest : Text} {names : List Text} (hc : c ≠ '{' ∧ c ≠ '}')
      (hrest : Asks rest names) : Asks (c :: rest) names
  | brace {c : Char} {rest : Text} {names : List Text} (hc : c = '{' ∨ c = '}')
      (hrest : Asks rest names) : Asks (c :: c :: rest) names
  | slot {name close rest : Text} {names : List Text} (hname : SlotName name)
      (hclose : Closes close) (hrest : Asks rest names) :
      Asks ('{' :: (name ++ (close ++ rest))) (name :: names)

/-- The text is that of the template: letters stand as they are, doubled braces for single
    ones, and each slot is replaced by its value, whatever characters that has. -/
inductive Says (values : Values) : (template text : Text) → Prop where
  | nothing : Says values [] []
  | letter {c : Char} {rest text : Text} (hc : c ≠ '{' ∧ c ≠ '}')
      (hrest : Says values rest text) : Says values (c :: rest) (c :: text)
  | brace {c : Char} {rest text : Text} (hc : c = '{' ∨ c = '}')
      (hrest : Says values rest text) : Says values (c :: c :: rest) (c :: text)
  | slot {name close rest value text : Text} (hname : SlotName name) (hclose : Closes close)
      (hvalue : values.lookup name = some value) (hrest : Says values rest text) :
      Says values ('{' :: (name ++ (close ++ rest))) (value ++ text)

theorem readFrom_letter {c : Char} (hc : c ≠ '{' ∧ c ≠ '}') (sofar rest : Text) :
    readFrom (.words sofar) (c :: rest) = readFrom (.words (c :: sofar)) rest := by
  simp [readFrom_cons, Stage.step, hc]

theorem readFrom_brace {c : Char} (hc : c = '{' ∨ c = '}') (sofar rest : Text) :
    readFrom (.words sofar) (c :: c :: rest) = readFrom (.words (c :: sofar)) rest := by
  simp [readFrom_cons, Stage.step, hc]

theorem slotPiece_eq_slot {name : Text} (h : SlotName name) :
    slotPiece name false = .slot name := by
  have hend (c : Char) (hc : c ∈ name) : endsName c = false := by
    have hplain := h.plain c hc
    simp only [List.mem_cons, not_or] at hplain
    simp [endsName, hplain]
  have htake : name.takeWhile (!endsName ·) = name := by
    rw [List.takeWhile_eq_self_iff]
    intro c hc
    simp [hend c hc]
  have hany : name.any endsName = false := by
    rw [List.any_eq_false]
    intro c hc
    simp [hend c hc]
  unfold slotPiece
  simp only [htake, h.given, h.noNumber, hany, if_false, Bool.or_false, Bool.false_eq_true]

theorem nameStep_plain {c : Char} (hc : c ∉ ['{', '}', '!', ':', '[', '.']) (sofar : Text) :
    nameStep sofar c = ([], some (.name (c :: sofar))) := by
  simp only [List.mem_cons, not_or] at hc
  simp [nameStep, hc]

/-- The rest of a name and the end of its slot. -/
theorem readFrom_name {name close : Text} (hplain : ∀ c ∈ name, c ∉ ['{', '}', '!', ':', '[', '.'])
    (hclose : Closes close) (sofar rest : Text) :
    readFrom (.name sofar) (name ++ (close ++ rest)) =
      slotPiece (sofar.reverse ++ name) false :: readFrom (.words []) rest := by
  induction name generalizing sofar with
  | nil =>
    rcases hclose with rfl | rfl
    · simp [readFrom_cons, Stage.step, nameStep]
    · simp [readFrom_cons, Stage.step, nameStep]
  | cons c name ih =>
    obtain ⟨hc, hname⟩ := List.forall_mem_cons.1 hplain
    rw [List.cons_append, readFrom_cons, Stage.step, nameStep_plain hc, List.nil_append,
      Option.map_some, Option.getD_some, ih hname]
    simp

theorem withWords_append (sofar : Text) (pieces more : Template) :
    withWords sofar pieces ++ more = withWords sofar (pieces ++ more) := by
  unfold withWords
  split <;> rfl

theorem readFrom_slot {name close : Text} (hname : SlotName name) (hclose : Closes close)
    (sofar rest : Text) :
    readFrom (.words sofar) ('{' :: (name ++ (close ++ rest))) =
      withWords sofar (.slot name :: readFrom (.words []) rest) := by
  obtain ⟨c, later, rfl⟩ := List.exists_cons_of_ne_nil hname.given
  obtain ⟨hc, hlater⟩ := List.forall_mem_cons.1 hname.plain
  have hbrace : c ≠ '{' := fun h => hc (by simp [h])
  have hstep : (Stage.brace '{' sofar).step c = (withWords sofar [], some (.name [c])) := by
    simp [Stage.step, hbrace, nameStep_plain hc]
  have hopen : readFrom (.words sofar) ('{' :: (c :: later ++ (close ++ rest))) =
      readFrom (.brace '{' sofar) (c :: (later ++ (close ++ rest))) := by
    simp [readFrom_cons (.words sofar), Stage.step]
  rw [hopen, readFrom_cons, hstep, Option.map_some, Option.getD_some,
    readFrom_name hlater hclose, withWords_append, List.reverse_singleton,
    List.singleton_append, slotPiece_eq_slot hname, List.nil_append]

/-- What is read of a plain template is plain, and has its slots. -/
theorem Asks.readFrom {template : Text} {names : List Text} (h : Asks template names)
    (sofar : Text) :
    Plain (readFrom (.words sofar) template) ∧
      slots (readFrom (.words sofar) template) = names := by
  induction h generalizing sofar with
  | nothing => exact ⟨plain_withWords.2 (List.forall_mem_nil _), slots_withWords sofar []⟩
  | letter hc _ ih =>
    rw [readFrom_letter hc]
    exact ih _
  | brace hc _ ih =>
    rw [readFrom_brace hc]
    exact ih _
  | slot hname hclose _ ih =>
    obtain ⟨hplain, hslots⟩ := ih []
    rw [readFrom_slot hname hclose, plain_withWords, plain_cons, slots_withWords, slots, hslots]
    exact ⟨⟨trivial, hplain⟩, rfl⟩

theorem Says.readFrom {values : Values} {template text : Text} (h : Says values template text)
    (sofar : Text) :
    Supplied values (readFrom (.words sofar) template) ∧
      Template.text values (readFrom (.words sofar) template) = sofar.reverse ++ text := by
  induction h generalizing sofar with
  | nothing => simp [Template.readFrom, Stage.finish, Supplied, slots]
  | letter hc _ ih =>
    rw [readFrom_letter hc]
    exact ⟨(ih _).1, (ih _).2.trans (by simp)⟩
  | brace hc _ ih =>
    rw [readFrom_brace hc]
    exact ⟨(ih _).1, (ih _).2.trans (by simp)⟩
  | slot hname hclose hvalue _ ih =>
    obtain ⟨hsupplied, htext⟩ := ih []
    rw [readFrom_slot hname hclose, Supplied, slots_withWords, slots, text_withWords, text_cons,
      htext, Piece.text, hvalue]
    exact ⟨List.forall_mem_cons.2 ⟨by simp [hvalue], hsupplied⟩, by simp⟩

end Template

/-! ### Every template that is read without a flaw is plain -/

namespace Template

theorem not_plain_singleton {piece : Piece} (h : ¬ piece.Plain) : ¬ Plain [piece] :=
  fun hplain => h (hplain piece List.mem_cons_self)

theorem not_plain_cons {piece : Piece} (h : ¬ piece.Plain) (rest : Template) :
    ¬ Plain (piece :: rest) := fun hplain => h (plain_cons.1 hplain).1

/-- A slot that asks for more than a value as it is. -/
theorem not_plain_slotPiece {field : Text} {adorned : Bool}
    (h : adorned = true ∨ ∃ c ∈ field, endsName c = true) : ¬ (slotPiece field adorned).Plain := by
  have hmore : (adorned || field.any endsName) = true := by
    rw [Bool.or_eq_true, List.any_eq_true]
    exact h
  unfold slotPiece
  simp only [hmore, if_true]
  split <;> exact id

theorem slotName_of_plain {name : Text} (hplain : ∀ c ∈ name, c ∉ ['{', '}', '!', ':', '['])
    (h : (slotPiece name false).Plain) : SlotName name := by
  have hend : ∀ c ∈ name, endsName c = false := by
    intro c hc
    rw [← Bool.not_eq_true]
    exact fun hends => not_plain_slotPiece (Or.inr ⟨c, hc, hends⟩) h
  have htake : name.takeWhile (!endsName ·) = name := by
    rw [List.takeWhile_eq_self_iff]
    intro c hc
    simp [hend c hc]
  unfold slotPiece at h
  simp only [htake] at h
  by_cases hgiven : name = []
  · simp only [hgiven, if_true] at h
    exact h.elim
  simp only [hgiven, if_false] at h
  refine ⟨hgiven, ?_, ?_⟩
  · split at h
    · exact h.elim
    · exact h.elim
    · assumption
  · intro c hc
    have hdot : c ≠ '.' := by
      rintro rfl
      cases hend '.' hc
    simpa [hdot] using hplain c hc

/-- In a format that is not empty, a slot asks for more than a value as it is. -/
theorem not_plain_format (field text : Text) (depth : Nat) :
    ¬ Plain (readFrom (.format field true depth) text) := by
  induction text generalizing depth with
  | nil => exact not_plain_singleton id
  | cons c rest ih =>
    rw [readFrom_cons]
    by_cases hopen : c = '{'
    · simpa [Stage.step, hopen] using ih (depth + 1)
    by_cases hclose : c = '}'
    · cases depth with
      | zero =>
        simp only [Stage.step, hclose, if_true]
        exact not_plain_cons (not_plain_slotPiece (Or.inl rfl)) _
      | succ outer => simpa [Stage.step, hclose] using ih outer
    · simpa [Stage.step, hopen, hclose] using ih depth

/-- With a conversion, a slot asks for more than a value as it is. -/
theorem not_plain_conversion (field text : Text) :
    ¬ Plain (readFrom (.conversion field) text) := by
  rcases text with _ | ⟨conversion, _ | ⟨c, rest⟩⟩
  · exact not_plain_singleton id
  · exact not_plain_singleton id
  have hstep : readFrom (.conversion field) (conversion :: c :: rest) =
      readFrom (.converted field) (c :: rest) := by
    simp [readFrom_cons (.conversion field), Stage.step]
  rw [hstep, readFrom_cons]
  by_cases hclose : c = '}'
  · simp only [Stage.step, hclose, if_true, List.singleton_append]
    exact not_plain_cons (not_plain_slotPiece (Or.inl rfl)) _
  by_cases hcolon : c = ':'
  · simpa [Stage.step, hcolon] using not_plain_format field rest 0
  · simp only [Stage.step, hclose, hcolon, if_false, Option.map_none, Option.getD_none,
      List.append_nil]
    exact not_plain_singleton id

/-- A format of no characters ends at once. -/
theorem plain_format {field text : Text} (h : Plain (readFrom (.format field false 0) text)) :
    ∃ rest, text = '}' :: rest ∧ (slotPiece field.reverse false).Plain ∧
      Plain (readFrom (.words []) rest) := by
  cases text with
  | nil => exact absurd h (not_plain_singleton id)
  | cons c rest =>
    rw [readFrom_cons] at h
    by_cases hopen : c = '{'
    · exact absurd (by simpa [Stage.step, hopen] using h) (not_plain_format field rest 1)
    by_cases hclose : c = '}'
    · subst hclose
      exact ⟨rest, rfl, plain_cons.1 (by simpa [Stage.step] using h)⟩
    · exact absurd (by simpa [Stage.step, hopen, hclose] using h) (not_plain_format field rest 0)

/-- Within brackets, and behind them, a slot asks for more than a value as it is. -/
theorem not_plain_item {sofar : Text} (h : '[' ∈ sofar) (text : Text) :
    ¬ Plain (readFrom (.item sofar) text) ∧ ¬ Plain (readFrom (.name sofar) text) := by
  induction text generalizing sofar with
  | nil => exact ⟨not_plain_singleton id, not_plain_singleton id⟩
  | cons c rest ih =>
    have hdeeper := ih (List.mem_cons_of_mem c h)
    have hpiece : ¬ (slotPiece sofar.reverse false).Plain :=
      not_plain_slotPiece (Or.inr ⟨'[', by simpa using h, rfl⟩)
    rw [readFrom_cons, readFrom_cons]
    constructor
    · by_cases hclose : c = ']'
      · simpa [Stage.step, hclose] using hclose ▸ hdeeper.2
      · simpa [Stage.step, hclose] using hdeeper.1
    · unfold Stage.step nameStep
      simp only
      split
      · exact not_plain_singleton id
      split
      · exact not_plain_cons hpiece _
      split
      · exact not_plain_conversion sofar rest
      split
      · intro hformat
        obtain ⟨_, -, hplain, -⟩ := plain_format hformat
        exact hpiece hplain
      split
      · exact hdeeper.1
      · exact hdeeper.2

/-- A slot that is read without a flaw holds the rest of a name. -/
theorem plain_name {sofar text : Text} (h : Plain (readFrom (.name sofar) text)) :
    ∃ name close rest, text = name ++ (close ++ rest) ∧ Closes close ∧
      (∀ c ∈ name, c ∉ ['{', '}', '!', ':', '[']) ∧
      (slotPiece (sofar.reverse ++ name) false).Plain ∧ Plain (readFrom (.words []) rest) := by
  induction text generalizing sofar with
  | nil => exact absurd h (not_plain_singleton id)
  | cons c later ih =>
    rw [readFrom_cons] at h
    unfold Stage.step nameStep at h
    simp only at h
    split at h
    · exact absurd h (not_plain_singleton id)
    next hopen =>
    split at h
    next hclose =>
      obtain ⟨hpiece, hrest⟩ := plain_cons.1 h
      exact ⟨[], ['}'], later, by simp [hclose], Or.inl rfl, by simp, by simpa using hpiece, hrest⟩
    next hclose =>
    split at h
    · exact absurd h (not_plain_conversion sofar later)
    next hmark =>
    split at h
    next hcolon =>
      obtain ⟨rest, rfl, hpiece, hrest⟩ := plain_format h
      exact ⟨[], [':', '}'], rest, by simp [hcolon], Or.inr rfl, by simp, by simpa using hpiece,
        hrest⟩
    next hcolon =>
    split at h
    next hbracket =>
      subst hbracket
      exact absurd h (not_plain_item List.mem_cons_self later).1
    next hbracket =>
      obtain ⟨name, close, rest, rfl, hcloses, hplain, hpiece, hrest⟩ := ih h
      refine ⟨c :: name, close, rest, by simp, hcloses, ?_, by simpa using hpiece, hrest⟩
      exact List.forall_mem_cons.2
        ⟨by simp [hopen, hclose, hmark, hcolon, hbracket], hplain⟩

theorem exists_asks_of_plain (text sofar : Text) (h : Plain (readFrom (.words sofar) text)) :
    ∃ names, Asks text names := by
  induction hlength : text.length using Nat.strong_induction_on generalizing text sofar with
  | _ length ih =>
  subst hlength
  rcases text with _ | ⟨c, _ | ⟨d, rest⟩⟩
  · exact ⟨[], .nothing⟩
  · by_cases hc : c = '{' ∨ c = '}'
    · rw [readFrom_cons] at h
      simp only [Stage.step, hc, if_true] at h
      exact absurd h (not_plain_singleton id)
    · exact ⟨[], .letter (not_or.1 hc) .nothing⟩
  by_cases hc : c = '{' ∨ c = '}'
  case neg =>
    rw [readFrom_letter (not_or.1 hc)] at h
    obtain ⟨names, hnames⟩ := ih _ (by simp) (d :: rest) _ h rfl
    exact ⟨names, .letter (not_or.1 hc) hnames⟩
  by_cases hdouble : d = c
  · subst hdouble
    rw [readFrom_brace hc] at h
    have hshorter : rest.length < (d :: d :: rest).length :=
      Nat.lt_succ_of_lt (Nat.lt_succ_self rest.length)
    obtain ⟨names, hnames⟩ := ih _ hshorter rest _ h rfl
    exact ⟨names, .brace hc hnames⟩
  have hopen : readFrom (.words sofar) (c :: d :: rest) =
      readFrom (.brace c sofar) (d :: rest) := by
    simp [readFrom_cons (.words sofar), Stage.step, hc]
  rw [hopen, readFrom_cons] at h
  rcases hc with rfl | rfl
  · have hname : Plain (readFrom (.name []) (d :: rest)) := by
      simp only [Stage.step, hdouble, Char.reduceEq, if_false] at h
      rw [withWords_append, plain_withWords] at h
      rwa [readFrom_cons]
    obtain ⟨name, close, later, heq, hcloses, hplain, hpiece, hrest⟩ := plain_name hname
    have hshorter : later.length < (d :: rest).length := by
      have hpos : 0 < close.length := by
        rcases hcloses with rfl | rfl <;> decide
      rw [heq, List.length_append, List.length_append]
      omega
    obtain ⟨names, hnames⟩ := ih _ (Nat.lt_succ_of_lt hshorter) later _ hrest rfl
    rw [heq]
    exact ⟨name :: names, .slot (slotName_of_plain hplain hpiece) hcloses hnames⟩
  · simp only [Stage.step, hdouble, if_false, if_true] at h
    exact absurd h (not_plain_singleton id)

/-- **A text is a plain template exactly if it is read without a flaw**, and then the slots
    that are read are those that it asks for. -/
theorem asks_iff {text : Text} {names : List Text} :
    Asks text names ↔ (read text).Plain ∧ (read text).slots = names := by
  constructor
  · exact fun h => h.readFrom []
  · rintro ⟨hplain, rfl⟩
    obtain ⟨names, hnames⟩ := exists_asks_of_plain text [] hplain
    rw [read, (hnames.readFrom []).2]
    exact hnames

/-- A plain template has something to say when all its slots have values. -/
theorem Asks.exists_message {values : Values} {text : Text} {names : List Text}
    (h : Asks text names)
    (hnames : ∀ name ∈ names, (values.lookup name).isSome = true) :
    ∃ message, Says values text message := by
  induction h with
  | nothing => exact ⟨_, .nothing⟩
  | letter hc _ ih =>
    obtain ⟨message, hmessage⟩ := ih hnames
    exact ⟨_, .letter hc hmessage⟩
  | brace hc _ ih =>
    obtain ⟨message, hmessage⟩ := ih hnames
    exact ⟨_, .brace hc hmessage⟩
  | slot hname hclose _ ih =>
    obtain ⟨hvalue, hrest⟩ := List.forall_mem_cons.1 hnames
    obtain ⟨value, hvalue⟩ := Option.isSome_iff_exists.1 hvalue
    obtain ⟨message, hmessage⟩ := ih hrest
    exact ⟨_, .slot hname hclose hvalue hmessage⟩

/-- A plain template says a text if each slot has its value, and then only one. -/
theorem says_iff {values : Values} {text message : Text} (hplain : (read text).Plain) :
    Says values text message ↔
      (read text).Supplied values ∧ message = (read text).text values := by
  constructor
  · intro h
    obtain ⟨hsupplied, htext⟩ := h.readFrom []
    exact ⟨hsupplied, htext.symm⟩
  · rintro ⟨hsupplied, rfl⟩
    obtain ⟨message, hmessage⟩ := (asks_iff.2 ⟨hplain, rfl⟩).exists_message hsupplied
    have htext := (hmessage.readFrom []).2
    rw [List.reverse_nil, List.nil_append] at htext
    rw [read, htext]
    exact hmessage

end Template

end VclReview
