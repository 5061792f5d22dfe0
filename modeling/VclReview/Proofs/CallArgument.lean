/-
  VclReview/Proofs/CallArgument.lean
  ==================================
  **The code of a synthetic response** is the first argument of a call: what stands behind the
  leftmost `synth(` of a line, up to a comma or a closing parenthesis or up to the end, less the
  blanks around it (`callCode_iff`).  That is also what a pattern finds which passes over blanks
  first and then keeps all but commas and closing parentheses (`synthCode_eq_readBy`).  The two
  runs overlap, since a blank may belong to either of them, but no blank is ever given back: what
  follows can always be kept.

  A line returns the response in `return (synth(`.  If no other call stands in front of that, its
  argument is the one that is read.
-/
import VclReview.Proofs.Fields
import VclReview.Proofs.Language
import VclReview.Proofs.Patterns
import VclReview.Proofs.Trimming

namespace VclReview

namespace Text

variable {text line argument code : Text}

/-! ### The first argument -/

/-- The argument that a text begins with: the longest run without commas and closing parentheses,
    trimmed. -/
def FirstArgument (text argument : Text) : Prop :=
  ∃ run rest, text = run ++ rest ∧ (∀ c ∈ run, c ≠ ',' ∧ c ≠ ')') ∧
    (∀ c, rest.head? = some c → c = ',' ∨ c = ')') ∧ Trimmed isBlank run argument

/-- The code of a line is the first argument of its leftmost call, and nothing without a call. -/
inductive CallCode : (line code : Text) → Prop where
  | uncalled {line : Text} : ¬ "synth(".toList <:+: line → CallCode line []
  | called {line before after code : Text} : CutAt "synth(" line before after →
      FirstArgument after code → CallCode line code

/-- Whether the character may belong to an argument. -/
def isInArgument (c : Char) : Bool := c != ',' && c != ')'

theorem isInArgument_iff {c : Char} : isInArgument c = true ↔ c ≠ ',' ∧ c ≠ ')' := by
  simp [isInArgument]

theorem isInArgument_of_isBlank {c : Char} (h : isBlank c = true) : isInArgument c = true := by
  rw [isInArgument_iff]
  constructor
  · rintro rfl
    revert h
    decide
  · rintro rfl
    revert h
    decide

theorem firstArgument_iff :
    FirstArgument text argument ↔ argument = trim (text.takeWhile isInArgument) := by
  constructor
  · rintro ⟨run, rest, rfl, hrun, hrest, htrimmed⟩
    have hinside : ∀ c ∈ run, isInArgument c = true := fun c hc => isInArgument_iff.2 (hrun c hc)
    have hstop : ∀ c, rest.head? = some c → isInArgument c = false := by
      intro c hc
      rcases hrest c hc with rfl | rfl
      · rfl
      · rfl
    rw [takeWhile_append_of_head? hinside hstop]
    exact htrimmed.eq
  · rintro rfl
    refine ⟨text.takeWhile isInArgument, text.dropWhile isInArgument,
      List.takeWhile_append_dropWhile.symm, ?_, ?_, trimmed_iff.2 rfl⟩
    · intro c hc
      exact isInArgument_iff.1 (List.mem_takeWhile_imp hc)
    · intro c hc
      have hstop : isInArgument c = false := not_of_head?_dropWhile hc
      rw [← Bool.not_eq_true, isInArgument_iff] at hstop
      by_cases hcomma : c = ','
      · exact Or.inl hcomma
      · exact Or.inr (by_contra fun hparenthesis => hstop ⟨hcomma, hparenthesis⟩)

theorem synthCode_eq (line : Text) : synthCode line =
    ((cut? "synth(" line).map fun parts => trim (parts.2.takeWhile isInArgument)).getD [] := by
  rw [synthCode]
  cases cut? "synth(" line with
  | none => rfl
  | some parts => rfl

theorem CallCode.eq (h : CallCode line code) : code = synthCode line := by
  cases h with
  | uncalled hcall =>
    rw [synthCode_eq, cut?_eq_none_iff_not_isInfix.2 hcall]
    rfl
  | called hcut hargument =>
    rw [synthCode_eq, cut?_eq_some_iff.2 hcut]
    exact firstArgument_iff.1 hargument

theorem exists_callCode (line : Text) : ∃ code, CallCode line code := by
  by_cases hcall : "synth(".toList <:+: line
  case neg => exact ⟨[], .uncalled hcall⟩
  obtain ⟨⟨before, after⟩, hcut⟩ := exists_cut?_of_isInfix hcall
  exact ⟨_, .called (cut?_eq_some_iff.1 hcut) (firstArgument_iff.2 rfl)⟩

theorem callCode_iff : CallCode line code ↔ code = synthCode line := by
  constructor
  · exact CallCode.eq
  · rintro rfl
    obtain ⟨code, hcode⟩ := exists_callCode line
    rwa [← hcode.eq]

theorem CallCode.clean (h : CallCode line code) : ',' ∉ code ∧ ')' ∉ code ∧ Bare isBlank code := by
  cases h with
  | uncalled _ => exact ⟨by simp, by simp, bare_nil⟩
  | called _ hargument =>
    obtain ⟨run, rest, -, hrun, -, front, back, rfl, -, -, hbare⟩ := hargument
    refine ⟨fun hcomma => ?_, fun hparenthesis => ?_, hbare⟩
    · exact (hrun ',' (by simp [hcomma])).1 rfl
    · exact (hrun ')' (by simp [hparenthesis])).2 rfl

/-! ### The pattern of a call -/

/-- The pattern of a call, which keeps the argument. -/
def callPattern : Pattern := [.exactly "synth(", .run isBlank, .kept isInArgument]

/-- What the pattern keeps first, trimmed, and nothing if it is not found. -/
def readBy (pattern : Pattern) (line : Text) : Text :=
  match pattern.search line with
  | some (kept :: _) => trim kept
  | _ => []

/-- Behind the blanks, all of the argument is kept. -/
theorem head?_ways_argument (text : Text) :
    (Pattern.ways [.run isBlank, .kept isInArgument] text).head? =
      some [(text.dropWhile isBlank).takeWhile isInArgument] := by
  have hkept : (Pattern.ways [.kept isInArgument] (text.dropWhile isBlank)).head? =
      some [(text.dropWhile isBlank).takeWhile isInArgument] :=
    Pattern.head?_ways_kept (List.cons_ne_nil [] [])
  rw [Pattern.head?_ways_run, hkept]
  intro hnone
  rw [hnone] at hkept
  cases hkept

/-- A run that blanks may belong to is the same behind them. -/
theorem takeWhile_dropWhile_isBlank (text : Text) :
    (text.dropWhile isBlank).takeWhile isInArgument =
      (text.takeWhile isInArgument).dropWhile isBlank := by
  induction text with
  | nil => rfl
  | cons c rest ih =>
    cases hblank : isBlank c with
    | true =>
      have hinside := isInArgument_of_isBlank hblank
      simp only [List.dropWhile_cons, List.takeWhile_cons, hblank, hinside, if_true, ih]
    | false =>
      cases hinside : isInArgument c with
      | true => simp [hblank, hinside]
      | false => simp [hblank, hinside]

/-- **What the pattern finds is the code.** -/
theorem synthCode_eq_readBy (line : Text) : synthCode line = readBy callPattern line := by
  have hfits (rest : Text) : Pattern.ways [.run isBlank, .kept isInArgument] rest ≠ [] := by
    intro hnone
    have hfirst := head?_ways_argument rest
    rw [hnone] at hfirst
    cases hfirst
  rw [synthCode_eq, readBy, callPattern, Pattern.search_exactly hfits]
  cases cut? "synth(" line with
  | none => rfl
  | some parts =>
    rw [Option.bind_some, head?_ways_argument, Option.map_some, Option.getD_some]
    dsimp only
    rw [takeWhile_dropWhile_isBlank, trim, trim, trimWhere_dropWhile]

/-! ### The call that is returned -/

/-- A returned call is the leftmost one if none stands in front of it. -/
theorem cutAt_returned {before after : Text} (h : ¬ "synth(".toList <:+: before) :
    CutAt "synth(" (before ++ "return (synth(" ++ after) (before ++ "return (") after := by
  have hreturn : ("return (synth(" ++ after : Text) = 'r' :: ("eturn (" ++ ("synth(" ++ after)) := rfl
  have hmark : ("synth(" : Text) = 's' :: "ynth(".toList := rfl
  have hclear : cut? "synth(" ("return (" ++ ("synth(" ++ after)) =
      some (("return (" : Text), after) := by
    rw [cut?_append_of_not_mem hmark (by decide), cut?_append]
    rfl
  rw [← cut?_eq_some_iff, List.append_assoc, hreturn, cut?_append_cons_of_not_mem (by decide) h]
  change (cut? "synth(" ("return (" ++ ("synth(" ++ after))).map _ = _
  rw [hclear]
  rfl

end Text

/-- **The code is the first argument of the leftmost call, and the pattern of a call finds it.**
    In the annotation of a line that returns a synthetic response, it is the argument of that
    response unless another call stands in front of it. -/
theorem synthCode_callCode (line : Text) :
    (∀ code, Text.CallCode line code ↔ code = Text.synthCode line) ∧
    Text.synthCode line = Text.readBy Text.callPattern line ∧
    (',' ∉ Text.synthCode line ∧ ')' ∉ Text.synthCode line ∧
      Text.Bare Text.isBlank (Text.synthCode line)) ∧
    ∀ (lineNumber : Int) (location : Text), ∃ a,
      annotate Shape.builtin line lineNumber location = .ok a ∧
      (a.directive = "synth" → a.values = [(("code" : Text), Text.synthCode line)] ∧
        ∀ before after, line = before ++ "return (synth(" ++ after →
          ¬ "synth(".toList <:+: before → Text.FirstArgument after (Text.synthCode line)) := by
  refine ⟨fun _ => Text.callCode_iff, Text.synthCode_eq_readBy line,
    (Text.callCode_iff.2 rfl).clean, ?_⟩
  intro lineNumber location
  have hannotate := annotate_builtin line lineNumber location
  refine ⟨_, hannotate, fun hdirective => ⟨?_, ?_⟩⟩
  · have hmem : Shape.synth ∈ Shape.builtin := by simp [Shape.builtin]
    exact (taker?_of_directive hmem hannotate hdirective).2
  · rintro before after rfl hfirst
    have hargument : Text.FirstArgument after (Text.trim (after.takeWhile Text.isInArgument)) :=
      Text.firstArgument_iff.2 rfl
    have hcode := (Text.CallCode.called (Text.cutAt_returned hfirst) hargument).eq
    rwa [← hcode]

/-- The code stands between blanks, and another argument follows it. -/
theorem synthCode_callCode_of_guarded_response :
    let line : Text := "if (req.url ~ \"^/x\") \x7b return (synth(\t404 , \"gone\")); \x7d"
    (∃ a, annotate Shape.builtin line 7 "main.vcl" = .ok a ∧
      a.values = [(("code" : Text), ("404" : Text))]) ∧
      Text.FirstArgument "\t404 , \"gone\")); \x7d" "404" := by
  intro line
  obtain ⟨a, hannotate, hreturned⟩ := (synthCode_callCode line).2.2.2 7 "main.vcl"
  have hcode : Text.synthCode line = "404" := by decide +kernel
  have hdirective : a.directive = "synth" := by
    cases hannotate.symm.trans (annotate_builtin line 7 "main.vcl")
    rfl
  obtain ⟨hvalues, hargument⟩ := hreturned hdirective
  rw [hcode] at hvalues
  refine ⟨⟨a, hannotate, hvalues⟩, ?_⟩
  rw [← hcode]
  exact hargument "if (req.url ~ \"^/x\") \x7b " _ rfl (by decide)

/-- The blanks in front of an argument are not kept, even if the call is never closed. -/
example : Text.readBy Text.callPattern "return (synth( \t404 " = "404" := by decide

end VclReview
