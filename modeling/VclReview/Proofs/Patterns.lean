/-
  VclReview/Proofs/Patterns.lean
  ==============================
  **Searching a text for a pattern.**  A pattern asks for fixed words and for runs of characters
  of one kind.  It is fitted by trial: a run is taken as long as it can be, and given up
  character by character as long as what follows it does not fit; the leftmost place where the
  pattern fits counts (`Pattern.search`).

  Two lemmas say when nothing has to be given up:

    * a run is taken whole if the rest of the pattern fits behind it
                                                  — `head?_ways_run`, `head?_ways_kept`;
    * a pattern that begins with a word, and otherwise fits everywhere, is found where the text
      is cut at that word                         — `search_exactly`.
-/
import VclReview.Text.Basic
import Mathlib.Data.List.Basic
import Mathlib.Data.List.Infix

namespace VclReview

/-- What a pattern asks for next. -/
inductive Pattern.Atom where
  /-- These characters. -/
  | exactly (word : Text)
  /-- Any number of characters of one kind. -/
  | run (kind : Char → Bool)
  /-- The same, to be kept. -/
  | kept (kind : Char → Bool)

abbrev Pattern := List Pattern.Atom

namespace Pattern

/-- The runs of one kind that the text begins with and what follows each of them, the longest
    run first. -/
def runs (kind : Char → Bool) : Text → List (Text × Text)
  | [] => [([], [])]
  | c :: rest =>
    if kind c then
      ((runs kind rest).map fun (run, after) => (c :: run, after)) ++ [([], c :: rest)]
    else [([], c :: rest)]

/-- The ways in which the pattern fits the beginning of a text, in the order in which they are
    tried, each by what it keeps. -/
def ways : Pattern → Text → List (List Text)
  | [], _ => [[]]
  | .exactly word :: pattern, text =>
    match Text.dropLead? word text with
    | some rest => ways pattern rest
    | none => []
  | .run kind :: pattern, text => (runs kind text).flatMap fun (_, rest) => ways pattern rest
  | .kept kind :: pattern, text =>
    (runs kind text).flatMap fun (run, rest) => (ways pattern rest).map (run :: ·)

/-- What the pattern keeps in the first way at the leftmost place where there is one. -/
def search (pattern : Pattern) (text : Text) : Option (List Text) :=
  text.tails.findSome? fun rest => (ways pattern rest).head?

variable {kind : Char → Bool} {pattern : Pattern} {text word : Text}

theorem head?_runs (kind : Char → Bool) (text : Text) :
    (runs kind text).head? = some (text.takeWhile kind, text.dropWhile kind) := by
  induction text with
  | nil => rfl
  | cons c rest ih =>
    cases hc : kind c with
    | true => simp only [runs, hc, if_true, List.head?_append, List.head?_map, ih,
        List.takeWhile_cons, List.dropWhile_cons, Option.map_some, Option.some_or]
    | false => simp only [runs, hc, Bool.false_eq_true, if_false, List.head?_cons,
        List.takeWhile_cons, List.dropWhile_cons]

/-- The longest run comes first, with all that may follow it. -/
theorem exists_runs_eq_cons (kind : Char → Bool) (text : Text) :
    ∃ shorter, runs kind text = (text.takeWhile kind, text.dropWhile kind) :: shorter :=
  List.head?_eq_some_iff.1 (head?_runs kind text)

/-- **A run is taken whole if the rest fits behind it.** -/
theorem head?_ways_run (h : ways pattern (text.dropWhile kind) ≠ []) :
    (ways (.run kind :: pattern) text).head? = (ways pattern (text.dropWhile kind)).head? := by
  obtain ⟨shorter, hruns⟩ := exists_runs_eq_cons kind text
  rw [ways, hruns, List.flatMap_cons, List.head?_append_of_ne_nil _ h]

theorem head?_ways_kept (h : ways pattern (text.dropWhile kind) ≠ []) :
    (ways (.kept kind :: pattern) text).head? =
      (ways pattern (text.dropWhile kind)).head?.map (text.takeWhile kind :: ·) := by
  obtain ⟨shorter, hruns⟩ := exists_runs_eq_cons kind text
  have hkept : (ways pattern (text.dropWhile kind)).map (text.takeWhile kind :: ·) ≠ [] := by
    simpa using h
  rw [ways, hruns, List.flatMap_cons, List.head?_append_of_ne_nil _ hkept, List.head?_map]

/-- **A word that anything may follow is found where the text is cut at it.** -/
theorem search_exactly (h : ∀ rest, ways pattern rest ≠ []) :
    search (.exactly word :: pattern) text =
      (Text.cut? word text).bind fun parts => (ways pattern parts.2).head? := by
  have hplace (text : Text) : (ways (.exactly word :: pattern) text).head? =
      (Text.dropLead? word text).bind fun rest => (ways pattern rest).head? := by
    rw [ways]
    cases Text.dropLead? word text with
    | none => rfl
    | some rest => rfl
  unfold search
  induction text with
  | nil =>
    rw [List.tails, List.findSome?_singleton, hplace, Text.cut?]
    cases Text.dropLead? word [] with
    | none => rfl
    | some rest => rfl
  | cons c text ih =>
    rw [List.tails_cons, List.findSome?_cons, hplace, Text.cut?]
    cases Text.dropLead? word (c :: text) with
    | none =>
      simp only [Option.bind_none, ih, Option.bind_map]
      rfl
    | some rest =>
      obtain ⟨kept, others, hways⟩ := List.exists_cons_of_ne_nil (h rest)
      simp only [Option.bind_some, hways, List.head?_cons]

end Pattern

end VclReview
