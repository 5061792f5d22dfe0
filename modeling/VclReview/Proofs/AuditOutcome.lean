/-
  VclReview/Proofs/AuditOutcome.lean
  ==================================
  **An audit tells how its program ended.**  It comes to lines exactly if the program has
  ended with status zero, and to an error of the probe otherwise, so a failed probe is never
  taken for an empty configuration (`AuditsOutcome`).  The lines tell of the rows that show
  a header, in the order of the listing (`TellsRows`), and nothing about the headers is lost
  in them (`auditHeaders_inj`).

  All of this holds as long as the program can be asked (`audit_outcome_iff`).
-/
import VclReview.Proofs.Listings
import VclReview.Proofs.Runs

namespace VclReview

/-! ### What is said about headers -/

/-- What is said about one header. -/
def headerLines (header : Text) : List Text := ["Header: " ++ header, advise header]

theorem auditHeaders_of_ne_nil {headers : List Text} (h : headers ≠ []) :
    auditHeaders headers =
      "Checking HTTP headers set in the active VCL:".toList :: headers.flatMap headerLines :=
  if_neg h

theorem length_flatMap_headerLines (headers : List Text) :
    (headers.flatMap headerLines).length = 2 * headers.length := by
  induction headers with
  | nil => rfl
  | cons header rest ih =>
    rw [List.flatMap_cons, List.length_append, ih, List.length_cons]
    simp only [headerLines, List.length_cons, List.length_nil]
    omega

/-- A header can be read off the first of its lines. -/
theorem headerLines_flatMap_inj {headers other : List Text}
    (h : headers.flatMap headerLines = other.flatMap headerLines) : headers = other := by
  induction headers generalizing other with
  | nil =>
    rcases other with _ | ⟨header', rest'⟩
    · rfl
    · cases h
  | cons header rest ih =>
    rcases other with _ | ⟨header', rest'⟩
    · cases h
    · simp only [List.flatMap_cons] at h
      obtain ⟨hlines, hrest⟩ := List.append_inj h rfl
      have hheader : header = header' := List.append_cancel_left (List.cons.inj hlines).1
      rw [hheader, ih hrest]

theorem auditHeaders_eq_nothing_iff {headers : List Text} :
    auditHeaders headers = ["No HTTP headers set in the active VCL."] ↔ headers = [] := by
  constructor
  · intro h
    by_contra hne
    rw [auditHeaders_of_ne_nil hne] at h
    exact absurd (List.cons.inj h).1 (by decide)
  · rintro rfl
    rfl

/-- **Different headers are told differently.** -/
theorem auditHeaders_inj {headers other : List Text}
    (h : auditHeaders headers = auditHeaders other) : headers = other := by
  by_cases hnil : headers = []
  · rw [hnil] at h ⊢
    exact (auditHeaders_eq_nothing_iff.1 (h.symm.trans rfl)).symm
  by_cases hnil' : other = []
  · rw [hnil'] at h ⊢
    exact auditHeaders_eq_nothing_iff.1 (h.trans rfl)
  rw [auditHeaders_of_ne_nil hnil, auditHeaders_of_ne_nil hnil'] at h
  exact headerLines_flatMap_inj (List.cons.inj h).2

/-! ### What is said about rows -/

/-- The row shows a header. -/
def Qualifies (row : Text) : Prop := ∃ header, ShowsHeader row header

theorem isSome_rowHeader?_iff {row : Text} : (rowHeader? row).isSome = true ↔ Qualifies row := by
  rw [Option.isSome_iff_exists]
  exact exists_congr fun _ => rowHeader?_eq_some_iff

instance : DecidablePred Qualifies := fun _ => decidable_of_iff _ isSome_rowHeader?_iff

/-- The lines tell of the headers that the rows show, in the order of the rows. -/
structure TellsRows (rows lines : List Text) : Prop where
  nothing_iff : lines = ["No HTTP headers set in the active VCL."] ↔ ∀ row ∈ rows, ¬ Qualifies row
  length : (∃ row ∈ rows, Qualifies row) → lines.length = 1 + 2 * rows.countP Qualifies
  told : (∃ row ∈ rows, Qualifies row) → ∃ headers : List Text,
    List.Forall₂ ShowsHeader (rows.filter Qualifies) headers ∧
      lines = "Checking HTTP headers set in the active VCL:".toList ::
        headers.flatMap fun header => ["Header: " ++ header, advise header]

theorem shows_filterMap_rowHeader? (rows : List Text) :
    List.Forall₂ ShowsHeader (rows.filter Qualifies) (rows.filterMap rowHeader?) := by
  induction rows with
  | nil => exact .nil
  | cons row rest ih =>
    rcases hrow : rowHeader? row with _ | header
    · have hshows : ¬ Qualifies row := by simp [← isSome_rowHeader?_iff, hrow]
      rwa [List.filterMap_cons_none hrow, List.filter_cons_of_neg (by simpa using hshows)]
    · have hshows : ShowsHeader row header := rowHeader?_eq_some_iff.1 hrow
      have hqualifies : Qualifies row := ⟨header, hshows⟩
      rw [List.filterMap_cons_some hrow, List.filter_cons_of_pos (by simpa using hqualifies)]
      exact .cons hshows ih

theorem tellsRows_auditHeaders (rows : List Text) :
    TellsRows rows (auditHeaders (rows.filterMap rowHeader?)) := by
  have hshows := shows_filterMap_rowHeader? rows
  have hnil : rows.filterMap rowHeader? = [] ↔ ∀ row ∈ rows, ¬ Qualifies row := by
    simp only [List.filterMap_eq_nil_iff, ← isSome_rowHeader?_iff, Bool.not_eq_true,
      Option.isSome_eq_false_iff, Option.isNone_iff_eq_none]
  have hne (h : ∃ row ∈ rows, Qualifies row) : rows.filterMap rowHeader? ≠ [] := by
    intro hempty
    obtain ⟨row, hrow, hqualifies⟩ := h
    exact hnil.1 hempty row hrow hqualifies
  refine ⟨auditHeaders_eq_nothing_iff.trans hnil, ?_, ?_⟩
  · intro h
    have hlength := hshows.length_eq
    rw [auditHeaders_of_ne_nil (hne h), List.length_cons, length_flatMap_headerLines, ← hlength,
      List.countP_eq_length_filter]
    omega
  · intro h
    exact ⟨_, hshows, auditHeaders_of_ne_nil (hne h)⟩

/-! ### How the program ended -/

/-- What the administration program comes to within its time, or by itself if that time
    cannot be measured. -/
def AdminSettings.outcome (settings : AdminSettings) (clock : Clock) (tree : FileTree)
    (binary : Text) : Launch :=
  match (tree.launch binary settings.arguments).within clock settings.timeout with
  | .ok outcome => outcome
  | .error _ => tree.launch binary settings.arguments

/-- The program has ended with status zero. -/
def Launch.Succeeded (outcome : Launch) : Prop :=
  ∃ stdout stderr received, outcome = .ended 0 stdout stderr received

/-- What a failed program says: what it complains of, or else what it has written, or else
    that there is nothing. -/
inductive SaysOnFailure (stdout stderr : Bytes) : Text → Prop where
  | complaint : Text.trim (writtenText stderr) ≠ [] →
      SaysOnFailure stdout stderr (Text.trim (writtenText stderr))
  | answer : Text.trim (writtenText stderr) = [] → Text.trim (writtenText stdout) ≠ [] →
      SaysOnFailure stdout stderr (Text.trim (writtenText stdout))
  | nothing : Text.trim (writtenText stderr) = [] → Text.trim (writtenText stdout) = [] →
      SaysOnFailure stdout stderr "no output"

/-- The audit tells how the program ended: by its lines if that was with status zero, and by
    an error of the probe otherwise, whatever the program has written. -/
structure AuditsOutcome (binary : Text) (outcome : Launch)
    (result : Except ProbeFailure (List Text)) : Prop where
  returns_iff : (∃ lines, result = .ok lines) ↔ outcome.Succeeded
  fails : ¬ outcome.Succeeded → ∃ error, result = .error (.failed error)
  reason : ∀ status stdout stderr received, outcome = .ended status stdout stderr received →
    status ≠ 0 → ∃ error detail, result = .error (.failed error) ∧
      SaysOnFailure stdout stderr detail ∧
        error.message = binary ++ " exited with status " ++ Text.ofInt status ++ ": " ++ detail
  tells : ∀ stdout stderr received lines rows, outcome = .ended 0 stdout stderr received →
    result = .ok lines → Text.Rowed (writtenText stdout) rows → TellsRows rows lines

theorem saysOnFailure_failureDetail (stdout stderr : Bytes) :
    SaysOnFailure stdout stderr (failureDetail stdout stderr) := by
  unfold failureDetail
  dsimp only
  split
  case isTrue hcomplaint => exact .complaint hcomplaint
  case isFalse hcomplaint =>
    split
    case isTrue hanswer => exact .answer (not_not.1 hcomplaint) hanswer
    case isFalse hanswer => exact .nothing (not_not.1 hcomplaint) (not_not.1 hanswer)

/-- An outcome other than a command that cannot be run gives headers or an error of the
    probe. -/
theorem auditsOutcome_headersOf (settings : AdminSettings) (binary : Text) {outcome : Launch}
    (h : outcome ≠ .nulInArgument) :
    AuditsOutcome binary outcome ((headersOf settings binary outcome).map auditHeaders) := by
  -- only an end with status zero gives headers
  have hfailed (error : ProbeError) (hsucceeded : ¬ outcome.Succeeded)
      (hended : ∀ status stdout stderr received, outcome ≠ .ended status stdout stderr received)
      (herror : headersOf settings binary outcome = .error (.failed error)) :
      AuditsOutcome binary outcome ((headersOf settings binary outcome).map auditHeaders) := by
    rw [herror]
    refine ⟨iff_of_false (by simp [Except.map]) hsucceeded, fun _ => ⟨error, rfl⟩, ?_, ?_⟩
    · intro status stdout stderr received houtcome
      exact absurd houtcome (hended status stdout stderr received)
    · intro stdout stderr received lines rows houtcome
      exact absurd houtcome (hended 0 stdout stderr received)
  rcases outcome with _ | fault | _ | ⟨status, stdout, stderr, received⟩
  · exact absurd rfl h
  · obtain ⟨error, herror⟩ : ∃ error, headersOf settings binary (.refused fault) =
        .error (.failed error) := by
      cases fault <;> exact ⟨_, rfl⟩
    exact hfailed error (by simp [Launch.Succeeded]) (by simp) herror
  · exact hfailed _ (by simp [Launch.Succeeded]) (by simp) rfl
  by_cases hstatus : status = 0
  · subst hstatus
    have hheaders : headersOf settings binary (.ended 0 stdout stderr received) =
        .ok (listedHeaders (writtenText stdout)) := rfl
    rw [hheaders]
    refine ⟨iff_of_true ⟨_, rfl⟩ ⟨_, _, _, rfl⟩, fun hnot => absurd ⟨_, _, _, rfl⟩ hnot, ?_, ?_⟩
    · intro status stdout stderr received houtcome hne
      cases houtcome
      exact absurd rfl hne
    · intro stdout stderr received lines rows houtcome hlines hrows
      cases houtcome
      obtain rfl := Except.ok.inj hlines
      rw [hrows.listedHeaders_eq]
      exact tellsRows_auditHeaders rows
  · have hheaders : headersOf settings binary (.ended status stdout stderr received) =
        .error (.failed (.failed binary status (failureDetail stdout stderr))) := if_neg hstatus
    have hsucceeded : ¬ (Launch.ended status stdout stderr received).Succeeded := by
      rintro ⟨_, _, _, hended⟩
      cases hended
      exact hstatus rfl
    rw [hheaders]
    refine ⟨iff_of_false (by simp [Except.map]) hsucceeded, fun _ => ⟨_, rfl⟩, ?_, ?_⟩
    · intro status stdout stderr received houtcome _
      cases houtcome
      exact ⟨_, _, rfl, saysOnFailure_failureDetail _ _, rfl⟩
    · intro stdout stderr received lines rows houtcome
      cases houtcome
      exact absurd rfl hstatus

/-! ### The audit -/

variable {clock : Clock} {tree : FileTree} {settings : AdminSettings} {binary : Text}

theorem audit_of_outcome {outcome : Launch} (hbinary : settings.binary = .value binary)
    (h : (tree.launch binary settings.arguments).within clock settings.timeout = .ok outcome) :
    (HeaderSource.cache clock tree settings).audit =
      (headersOf settings binary outcome).map auditHeaders := by
  rw [HeaderSource.audit, probe_of_launch hbinary h]

/-- A probe that answers has waited for a command that could be run. -/
theorem exists_outcome_of_answers (hbinary : settings.binary = .value binary)
    (h : (probe clock tree settings).Answers) :
    ∃ outcome, (tree.launch binary settings.arguments).within clock settings.timeout = .ok outcome ∧
      outcome ≠ .nulInArgument := by
  rcases hwithin : (tree.launch binary settings.arguments).within clock settings.timeout with
    error | outcome
  · have hheaders : (probe clock tree settings).headers = .error (.wait error) := by
      unfold probe
      simp only [hbinary, hwithin]
    simp [Probe.Answers, hheaders] at h
  · refine ⟨outcome, rfl, ?_⟩
    rintro rfl
    have hheaders := probe_of_launch hbinary hwithin
    simp [Probe.Answers, hheaders, headersOf] at h

theorem audit_of_no_answer (h : ¬ (probe clock tree settings).Answers) :
    ∃ failure, (HeaderSource.cache clock tree settings).audit = .error failure ∧
      ∀ error, failure ≠ .failed error := by
  rw [HeaderSource.audit]
  rcases hheaders : (probe clock tree settings).headers with failure | headers
  · refine ⟨failure, rfl, ?_⟩
    rintro error rfl
    exact h (Or.inr ⟨error, hheaders⟩)
  · exact absurd (Or.inl ⟨headers, hheaders⟩) h

/-- **An audit tells how its program ended, exactly if the program can be asked.**  Otherwise
    it is ended by an error that is none of the probe. -/
theorem audit_outcome_iff (clock : Clock) (tree : FileTree) (settings : AdminSettings)
    (binary : Text) (hbinary : settings.binary = .value binary) :
    (AuditsOutcome binary (settings.outcome clock tree binary)
        (HeaderSource.cache clock tree settings).audit ↔ settings.CanAsk clock tree) ∧
      (¬ settings.CanAsk clock tree → ∃ failure,
        (HeaderSource.cache clock tree settings).audit = .error failure ∧
          ∀ error, failure ≠ .failed error) ∧
      ∀ headers other, auditHeaders headers = auditHeaders other → headers = other := by
  rw [← probe_answers_iff]
  refine ⟨⟨?_, ?_⟩, audit_of_no_answer, fun _ _ => auditHeaders_inj⟩
  · intro haudits
    by_contra hsilent
    obtain ⟨failure, hfailure, hnone⟩ := audit_of_no_answer hsilent
    by_cases hsucceeded : (settings.outcome clock tree binary).Succeeded
    · obtain ⟨lines, hlines⟩ := haudits.returns_iff.2 hsucceeded
      cases hfailure.symm.trans hlines
    · obtain ⟨error, herror⟩ := haudits.fails hsucceeded
      cases hfailure.symm.trans herror
      exact hnone error rfl
  · intro hanswers
    obtain ⟨outcome, hwithin, hne⟩ := exists_outcome_of_answers hbinary hanswers
    have houtcome : settings.outcome clock tree binary = outcome := by
      simp only [AdminSettings.outcome, hwithin]
    rw [houtcome, audit_of_outcome hbinary hwithin]
    exact auditsOutcome_headersOf settings binary hne

/-- A program that lists a header and fails is said to have failed. -/
theorem audit_outcome_of_failing_program :
    let stdout := Utf8.encode "active auto warm Host\n"
    let stderr := Utf8.encode " \n"
    let tree := FileTree.withProgram ⟨stdout, stderr, 1, false⟩
    listedHeaders (writtenText stdout) = ["Host"] ∧
      ∃ error, (HeaderSource.cache .instant tree .usual).audit = .error (.failed error) := by
  intro stdout stderr tree
  obtain ⟨haudits, -⟩ := audit_outcome_iff .instant tree .usual "varnishadm" rfl
  have houtcome : AdminSettings.usual.outcome .instant tree "varnishadm" =
      .ended 1 stdout stderr AdminSettings.usual.arguments := by decide +kernel
  refine ⟨by decide +kernel, (haudits.2 canAsk_usual).fails ?_⟩
  rw [houtcome]
  rintro ⟨_, _, _, hended⟩
  cases hended

/-- A program that never ends and that the timer cannot wait for gives no error of the
    probe. -/
theorem audit_outcome_of_long_timeout :
    let settings := { AdminSettings.usual with timeout := .value (.whole 3000000) }
    let tree := FileTree.withProgram ⟨[], [], 0, true⟩
    (∀ text ∈ "varnishadm".toList :: settings.arguments, '\x00' ∉ text) ∧
      settings.outcome .instant tree "varnishadm" = .timedOut ∧
      (HeaderSource.cache .instant tree settings).audit = .error (.wait .beyondTimer) ∧
      ¬ AuditsOutcome "varnishadm" (settings.outcome .instant tree "varnishadm")
        (HeaderSource.cache .instant tree settings).audit := by
  intro settings tree
  have houtcome : settings.outcome .instant tree "varnishadm" = .timedOut := by decide +kernel
  have hresult :
      (HeaderSource.cache .instant tree settings).audit = .error (.wait .beyondTimer) := by
    decide +kernel
  refine ⟨by decide, houtcome, hresult, ?_⟩
  intro haudits
  have hsucceeded : ¬ (settings.outcome .instant tree "varnishadm").Succeeded := by
    rw [houtcome]
    rintro ⟨_, _, _, hended⟩
    cases hended
  obtain ⟨error, herror⟩ := haudits.fails hsucceeded
  cases hresult.symm.trans herror

end VclReview
