/-
  VclReview/Proofs/Misreadings.lean
  =================================
  **Values that are read from the wrong place.**  A shape tests a line and reads its values
  from it in two separate searches, and these need not end at the same place.

    * The header of a request is looked for among the columns of the line.  Where a column in
      front of the statement names another header, that one is reported:
      `requestHeader_is_target_iff`.
    * A quotation is what follows the first double quote, so one that is never closed is
      reported with all that stands behind it: `quotation_is_closed_iff`.

  Both statements say exactly when the value is the intended one, and what it is otherwise.
-/
import VclReview.Proofs.Fields
import VclReview.Proofs.Language

namespace VclReview

namespace Text

/-! ### The first column with a given beginning -/

/-- Of the columns of the text that begin with `lead`, the first goes on with `rest`. -/
def FirstLed (lead text rest : Text) : Prop :=
  ∃ earlier later, columns text = earlier ++ (lead ++ rest) :: later ∧
    ∀ column ∈ earlier, ¬ lead <+: column

theorem firstLed_iff {lead text rest : Text} :
    FirstLed lead text rest ↔ (columns text).findSome? (dropLead? lead) = some rest := by
  rw [List.findSome?_eq_some_iff]
  constructor
  · rintro ⟨earlier, later, hcolumns, hearlier⟩
    refine ⟨earlier, lead ++ rest, later, hcolumns, dropLead?_append lead rest, ?_⟩
    intro column hcolumn
    exact dropLead?_eq_none_iff.2 (hearlier column hcolumn)
  · rintro ⟨earlier, column, later, hcolumns, hlead, hearlier⟩
    obtain rfl := dropLead?_eq_some_iff.1 hlead
    refine ⟨earlier, later, hcolumns, ?_⟩
    intro column hcolumn
    exact dropLead?_eq_none_iff.1 (hearlier column hcolumn)

/-- A column that begins with `lead` stands behind the gap, so this is the last place where one
    is found. -/
theorem leadingColumn_append_cons {c : Char} (hc : isColumnGap c = true) {lead : Text}
    (hne : lead ≠ []) (hlead : GapFree lead) (front after : Text) :
    leadingColumn (front ++ c :: (lead ++ after)) lead =
      ((columns front).findSome? (dropLead? lead)).getD (upToGap after) := by
  have htarget : upToGap (lead ++ after) = lead ++ upToGap after := by
    apply List.takeWhile_append_of_pos
    intro d hd
    simp [hlead d hd]
  have hbegun : upToGap (lead ++ after) ≠ [] := by simp [htarget, hne]
  obtain ⟨others, hcolumns⟩ := exists_columns_eq_cons hbegun
  rw [leadingColumn, columns_append_cons hc, hcolumns, htarget, List.findSome?_append,
    List.findSome?_cons, dropLead?_append]
  cases (columns front).findSome? (dropLead? lead) with
  | none => rfl
  | some rest => rfl

/-! ### Zero, one and two double quotes -/

/-- The value between the first two double quotes of a line, and nothing if there are no two. -/
def Quotation (line value : Text) : Prop :=
  (∃ before after, line = before ++ ['"'] ++ value ++ ['"'] ++ after ∧
    '"' ∉ before ∧ '"' ∉ value) ∨
  line.count '"' < 2 ∧ value = []

/-- The line has one double quote, and `rest` behind it. -/
def LeftOpen (line rest : Text) : Prop :=
  ∃ before, line = before ++ ['"'] ++ rest ∧ '"' ∉ before ∧ '"' ∉ rest

theorem LeftOpen.count {line rest : Text} (h : LeftOpen line rest) : line.count '"' = 1 := by
  obtain ⟨before, rfl, hbefore, hrest⟩ := h
  simp [List.count_append, List.count_eq_zero.2 hbefore, List.count_eq_zero.2 hrest]

theorem quote_cases (line : Text) : '"' ∉ line ∨ (∃ rest, LeftOpen line rest) ∨
    ∃ before value after, line = before ++ ['"'] ++ value ++ ['"'] ++ after ∧
      '"' ∉ before ∧ '"' ∉ value := by
  by_cases hfirst : '"' ∈ line
  case neg => exact Or.inl hfirst
  obtain ⟨before, behind, rfl, hbefore⟩ := List.eq_append_cons_of_mem hfirst
  by_cases hsecond : '"' ∈ behind
  case neg => exact Or.inr (Or.inl ⟨behind, before, by simp, hbefore, hsecond⟩)
  obtain ⟨value, after, rfl, hvalue⟩ := List.eq_append_cons_of_mem hsecond
  exact Or.inr (Or.inr ⟨before, value, after, by simp, hbefore, hvalue⟩)

theorem quotedValue_of_not_mem {line : Text} (h : '"' ∉ line) : quotedValue line = [] := by
  have hcut : cut? ['"'] line = none := by
    apply cut?_eq_none_iff.2
    rintro before after rfl
    simp at h
  rw [quotedValue, splitOn_of_cut?_eq_none hcut]
  rfl

theorem quotedValue_of_leftOpen {line rest : Text} (h : LeftOpen line rest) :
    quotedValue line = rest := by
  obtain ⟨before, rfl, hbefore, hrest⟩ := h
  have hfirst : cut? ['"'] (before ++ (['"'] ++ rest)) = some (before, rest) := by
    rw [cut?_append_of_not_mem rfl hbefore, cut?_append]
    simp
  have hsecond : cut? ['"'] rest = none := by
    apply cut?_eq_none_iff.2
    rintro front back rfl
    simp at hrest
  rw [quotedValue, List.append_assoc, splitOn_of_cut?_eq_some (by simp) hfirst,
    splitOn_of_cut?_eq_none hsecond]
  rfl

/-- **What is read is the quotation, unless one is left open and something stands behind it.** -/
theorem quotation_quotedValue_iff (line : Text) :
    Quotation line (quotedValue line) ↔ ∀ rest, LeftOpen line rest → rest = [] := by
  rcases line.quote_cases with hnone | ⟨rest, hopen⟩ | ⟨before, value, after, rfl, hbefore, hvalue⟩
  · have hcount : line.count '"' = 0 := List.count_eq_zero.2 hnone
    constructor
    · intro _ rest hopen
      exact absurd hopen.count (by omega)
    · intro _
      exact Or.inr ⟨by omega, quotedValue_of_not_mem hnone⟩
  · rw [quotedValue_of_leftOpen hopen]
    have hcount := hopen.count
    constructor
    · rintro (⟨before, after, rfl, -⟩ | ⟨-, hempty⟩) other hother
      · simp only [List.count_append, List.count_singleton_self] at hcount
        omega
      · rw [← quotedValue_of_leftOpen hother, quotedValue_of_leftOpen hopen, hempty]
    · intro hempty
      exact Or.inr ⟨by omega, hempty rest hopen⟩
  · rw [quotedValue_append hbefore hvalue]
    constructor
    · intro _ rest hopen
      have hcount := hopen.count
      simp only [List.count_append, List.count_singleton_self] at hcount
      omega
    · intro _
      exact Or.inl ⟨before, after, rfl, hbefore, hvalue⟩

end Text

/-! ### The header of a request -/

/-- What follows the statement up to the next gap is reported as the header, unless a column in
    front of it begins like a header: then the first such column is. -/
theorem lookup_header {line before after : Text}
    (hcut : Text.CutAt "set req.http." line before after) :
    (Shape.requestHeader.extract line).lookup ("header" : Text) =
      some (((Text.columns (before ++ "set")).findSome? (Text.dropLead? "req.http.")).getD
        (Text.upToGap after)) := by
  have hline : line = (before ++ "set") ++ ' ' :: ("req.http." ++ after) := by
    rw [hcut.1, List.append_assoc, List.append_assoc]
    rfl
  have hlead : Text.GapFree "req.http." := by decide
  have hspace : Text.isColumnGap ' ' = true := rfl
  rw [← Text.leadingColumn_append_cons hspace (by decide) hlead, ← hline]
  rfl

/-- **The header that is reported is the one that is set** by the first statement of the line
    exactly if no column in front of it names another one before. -/
theorem requestHeader_is_target_iff {line location : Text} {lineNumber : Int} {a : Annotation}
    (h : annotate Shape.builtin line lineNumber location = .ok a)
    (hdirective : a.directive = "req_header") :
    ∃ before after, Text.CutAt "set req.http." line before after ∧
      (a.values.lookup ("header" : Text) = some (Text.upToGap after) ↔
        ∀ rest, Text.FirstLed "req.http." (before ++ "set") rest → rest = Text.upToGap after) ∧
      ∀ rest, Text.FirstLed "req.http." (before ++ "set") rest →
        a.values.lookup ("header" : Text) = some rest := by
  have hmem : Shape.requestHeader ∈ Shape.builtin := by simp [Shape.builtin]
  obtain ⟨htaker, hvalues⟩ := taker?_of_directive hmem h hdirective
  obtain ⟨test, htest, hpasses⟩ := takes_of_taker? htaker
  cases htest
  obtain ⟨⟨before, after⟩, hcut⟩ := Option.isSome_iff_exists.1 hpasses
  rw [Text.cut?_eq_some_iff] at hcut
  refine ⟨before, after, hcut, ?_⟩
  rw [hvalues, lookup_header hcut]
  simp only [Text.firstLed_iff, Option.some.injEq]
  cases hfound : (Text.columns (before ++ "set")).findSome? (Text.dropLead? "req.http.") with
  | none => simp
  | some other => simp

/-- A comparison with another header stands behind a parenthesis and is passed over. -/
theorem requestHeader_is_target_of_guarded_statement :
    let line : Text := "if (req.http.A == 1) \x7b set req.http.B = req.http.C;"
    ∃ a before after, annotate Shape.builtin line 7 "main.vcl" = .ok a ∧
      a.directive = "req_header" ∧ Text.CutAt "set req.http." line before after ∧
      Text.upToGap after = "B" ∧ a.values.lookup ("header" : Text) = some ("B" : Text) := by
  intro line
  have hannotate := annotate_builtin line 7 "main.vcl"
  obtain ⟨before, after, hcut, hiff, -⟩ := requestHeader_is_target_iff hannotate (by decide)
  have hparts : Text.cut? "set req.http." line =
      some (("if (req.http.A == 1) \x7b " : Text), ("B = req.http.C;" : Text)) := by decide
  cases hparts.symm.trans (Text.cut?_eq_some_iff.2 hcut)
  refine ⟨_, _, _, hannotate, by decide, hcut, by decide, hiff.2 ?_⟩
  intro rest hled
  have hnone : (Text.columns ("if (req.http.A == 1) \x7b " ++ "set")).findSome?
      (Text.dropLead? "req.http.") = none := by decide
  cases hnone.symm.trans (Text.firstLed_iff.1 hled)

/-- The header that a comparison ends with is taken for the one that is set. -/
theorem requestHeader_is_compared_one :
    let line : Text := "if (req.http.A == req.http.B) \x7b set req.http.C = \"1\"; \x7d"
    ∃ a before after, annotate Shape.builtin line 1 [] = .ok a ∧
      a.directive = "req_header" ∧ Text.CutAt "set req.http." line before after ∧
      Text.upToGap after = "C" ∧ a.values.lookup ("header" : Text) = some ("B)" : Text) := by
  intro line
  have hparts : Text.cut? "set req.http." line =
      some (("if (req.http.A == req.http.B) \x7b " : Text), ("C = \"1\"; \x7d" : Text)) := by
    decide
  exact ⟨_, _, _, annotate_builtin line 1 [], by decide, Text.cut?_eq_some_iff.1 hparts, by decide,
    by decide⟩

/-! ### Quotations -/

/-- **A value in double quotes is read as it is written**, and as nothing where a quote is
    missing, exactly if no quotation with something in it is left open. -/
theorem quotation_is_closed_iff {line location : Text} {lineNumber : Int} {a : Annotation}
    (h : annotate Shape.builtin line lineNumber location = .ok a) {key : Text}
    (hdirective : a.directive = "host" ∧ key = "host" ∨
      a.directive = "include" ∧ key = "filename") :
    ∃ value, a.values = [(key, value)] ∧
      (Text.Quotation line value ↔ ∀ rest, Text.LeftOpen line rest → rest = []) ∧
      ∀ rest, Text.LeftOpen line rest → value = rest := by
  have hvalues : a.values = [(key, Text.quotedValue line)] := by
    rcases hdirective with ⟨hhost, rfl⟩ | ⟨hinclusion, rfl⟩
    · have hmem : Shape.host ∈ Shape.builtin := by simp [Shape.builtin]
      exact (taker?_of_directive hmem h hhost).2
    · have hmem : Shape.inclusion ∈ Shape.builtin := by simp [Shape.builtin]
      exact (taker?_of_directive hmem h hinclusion).2
  exact ⟨_, hvalues, Text.quotation_quotedValue_iff line,
    fun _ hopen => Text.quotedValue_of_leftOpen hopen⟩

theorem quotation_is_closed_of_two_files :
    let line : Text := "include \"a.vcl\"; include \"b.vcl\";"
    ∃ a value, annotate Shape.builtin line 2 "main.vcl" = .ok a ∧ a.directive = "include" ∧
      a.values = [(("filename" : Text), value)] ∧ Text.Quotation line value := by
  intro line
  have hannotate := annotate_builtin line 2 "main.vcl"
  have hdirective : (annotationOf line 2 "main.vcl").directive = "include" := by decide
  obtain ⟨value, hvalues, hiff, -⟩ := quotation_is_closed_iff hannotate (Or.inr ⟨hdirective, rfl⟩)
  refine ⟨_, value, hannotate, hdirective, hvalues, hiff.2 ?_⟩
  intro rest hopen
  exact absurd hopen.count (by decide)

/-- A quotation that is never closed is not left out. -/
theorem quotation_is_left_open :
    let line : Text := ".host = \"127.0.0.1;"
    ∃ a, annotate Shape.builtin line 1 [] = .ok a ∧ a.directive = "host" ∧
      a.values = [(("host" : Text), ("127.0.0.1;" : Text))] ∧
      ¬ Text.Quotation line "127.0.0.1;" := by
  intro line
  have hannotate := annotate_builtin line 1 []
  have hdirective : (annotationOf line 1 []).directive = "host" := by decide
  have hmem : Shape.host ∈ Shape.builtin := by simp [Shape.builtin]
  have hopen : Text.LeftOpen line "127.0.0.1;" := ⟨".host = ", rfl, by decide, by decide⟩
  refine ⟨_, hannotate, hdirective, ?_, ?_⟩
  · rw [(taker?_of_directive hmem hannotate hdirective).2, ← Text.quotedValue_of_leftOpen hopen]
    rfl
  · intro hquotation
    rw [← Text.quotedValue_of_leftOpen hopen, Text.quotation_quotedValue_iff] at hquotation
    cases hquotation _ hopen

end VclReview
