/-
  VclReview/Proofs/AuditApart.lean
  ================================
  **The audit stands apart.**  Two runs of which one goes without the audit print the
  same analysis and write the same report, down to the heading under which the summary
  tells of the audit (`run_adds_audit`).  This holds whatever the probe comes to; but an
  administration program that cannot even be asked ends the run before its report.
-/
import VclReview.Proofs.Flags
import VclReview.Proofs.PathTexts
import VclReview.Proofs.Runs

namespace VclReview

/-- The lines are those of the audit: advice on the headers, or why they are not known. -/
def Site.AuditSays (site : Site) (settings : Settings) (lines : List Text) : Prop :=
  (∃ headers, (probe site.clock site.tree settings.admin).headers = .ok headers ∧
      lines = auditHeaders headers) ∨
    ∃ error, (probe site.clock site.tree settings.admin).headers = .error (.failed error) ∧
      lines = ["Header audit failed: " ++ error.message]

/-- Two runs have written the same report but for what the summary tells of the audit: the
    lines, or that there was none. -/
structure Outcome.SharesReport (loud silent : Outcome) (folder : Path) (lines : List Text) :
    Prop where
  same : ∀ artifact : Artifact, artifact ≠ .summaryMarkdown →
    ∃ text, loud.Reports folder artifact text ∧ silent.Reports folder artifact text
  summary : ∃ above : Text,
    loud.Reports folder .summaryMarkdown
        (above ++ "## Header audit\n" ++
          (Report.joinLines (lines.map (fun line => ("- " ++ line : Text)) ++ [[]]) : Text)) ∧
      silent.Reports folder .summaryMarkdown (above ++ "## Header audit\n" ++ "- not run\n")

/-- Of two runs the first shows all that the second does, and the lines of the audit
    besides.  If the administration program cannot be asked, there are no such lines, and
    nothing is written. -/
structure Outcome.AddsAudit (loud silent : Outcome) (site : Site) (settings : Settings)
    (lines : List Text) : Prop where
  printed : loud.printed = silent.printed ++ lines
  told : settings.admin.CanAsk site.clock site.tree → site.AuditSays settings lines
  report : settings.admin.CanAsk site.clock site.tree →
    ∀ folder, settings.out = some (.value folder) →
    Report.Unlinked site.tree folder → loud.SparedByReport → silent.SparedByReport →
      loud.SharesReport silent folder lines
  unanswered : ¬ settings.admin.CanAsk site.clock site.tree →
    lines = [] ∧ loud.tree = site.tree ∧ ∃ failure, loud.status = .error (.probe failure)

/-! ### The summary -/

namespace Report

theorem joinLines_append {above below : List Text} (habove : above ≠ []) (hbelow : below ≠ []) :
    joinLines (above ++ below) = joinLines above ++ '\n' :: joinLines below :=
  Text.intercalate_append habove hbelow

/-- The summary above the heading of its section on the audit. -/
def summaryTop (results : Results) : Text :=
  joinLines ("# Scan Summary" :: [] :: (summaries results).flatMap summaryLines) ++ ['\n']

theorem summaryMarkdown_eq (results : Results) (audit : Option (List Text)) :
    summaryMarkdown results audit =
      summaryTop results ++ "## Header audit\n" ++
        (joinLines (auditSection audit ++ [[]]) : Text) := by
  unfold summaryMarkdown summaryTop
  simp only [List.append_assoc]
  have hbelow : auditSection audit ++ [[]] ≠ [] := List.append_ne_nil_of_right_ne_nil _ (by simp)
  rw [← List.append_assoc, joinLines_append (by simp) (by simp), joinLines_append (by simp) hbelow]
  rfl

end Report

/-! ### Two runs -/

variable {site : Site} {settings : Settings} {path folder : Path}

theorem Site.Reads.switchOn_noAudit (h : site.Reads settings path) :
    site.Reads (settings.switchOn .noAudit) path :=
  ⟨h.given, h.there, h.goes_on⟩

/-- The report of a run shows its audit at the end of the summary only. -/
theorem sharesReport_of_audit {audit : Audit} {lines : List Text} (h : site.Reads settings path)
    (haudit : runAudit site.clock site.tree settings = .ok audit)
    (hlines : audit.lines = some lines)
    (hout : settings.out = some (.value folder)) (hunlinked : Report.Unlinked site.tree folder)
    (hloud : (runWith site settings).SparedByReport)
    (hsilent : (runWith site (settings.switchOn .noAudit)).SparedByReport) :
    (runWith site settings).SharesReport (runWith site (settings.switchOn .noAudit)) folder
      lines := by
  have hreports := reports_of_reads h haudit hloud hout hunlinked
  have hreports' := reports_of_reads h.switchOn_noAudit (runAudit_of_noAudit rfl) hsilent hout
    hunlinked
  constructor
  · intro artifact hartifact
    refine ⟨_, hreports artifact, ?_⟩
    cases artifact with
    | annotationsJson => exact hreports' .annotationsJson
    | indexJson => exact hreports' .indexJson
    | annotationsMarkdown => exact hreports' .annotationsMarkdown
    | summaryMarkdown => exact absurd rfl hartifact
  · have hloud := hreports .summaryMarkdown
    have hsilent := hreports' .summaryMarkdown
    rw [Artifact.contents, Report.summaryMarkdown_eq] at hloud hsilent
    rw [hlines] at hloud
    exact ⟨_, hloud, hsilent⟩

/-- **Without the audit a run prints the same analysis and writes the same report.** -/
theorem run_adds_audit (site : Site) (arguments silent : List Text) (settings : Settings)
    (path : Path) (hparse : CommandLine.parse arguments = .ok settings)
    (hsilent : CommandLine.parse silent = .ok (settings.switchOn .noAudit))
    (hon : settings.noAudit = false) (hreads : site.Reads settings path) :
    ∃ lines, (run site arguments).AddsAudit (run site silent) site settings lines := by
  rw [run_of_parse hparse, run_of_parse hsilent]
  obtain ⟨hquiet, -⟩ := runWith_of_reads hreads.switchOn_noAudit (runAudit_of_noAudit rfl)
  have hquiet : (runWith site (settings.switchOn .noAudit)).printed = site.account settings path :=
    hquiet.trans (List.append_nil _)
  rcases runAudit_cases site.clock site.tree settings with
    ⟨hoff, -⟩ | ⟨-, ⟨headers, hheaders, haudit⟩ | ⟨error, herror, haudit⟩ |
      ⟨hanswers, failure, haudit⟩⟩
  · cases hon.symm.trans hoff
  · have hask : settings.admin.CanAsk site.clock site.tree :=
      probe_answers_iff.1 (Or.inl ⟨headers, hheaders⟩)
    obtain ⟨hprinted, -⟩ := runWith_of_reads hreads haudit
    refine ⟨auditHeaders headers, by rw [hprinted, hquiet]; rfl, ?_, ?_, absurd hask⟩
    · exact fun _ => Or.inl ⟨headers, hheaders, rfl⟩
    · exact fun _ folder => sharesReport_of_audit hreads haudit rfl
  · have hask : settings.admin.CanAsk site.clock site.tree :=
      probe_answers_iff.1 (Or.inr ⟨error, herror⟩)
    obtain ⟨hprinted, -⟩ := runWith_of_reads hreads haudit
    refine ⟨["Header audit failed: " ++ error.message], by rw [hprinted, hquiet]; rfl, ?_, ?_,
      absurd hask⟩
    · exact fun _ => Or.inr ⟨error, herror, rfl⟩
    · exact fun _ folder => sharesReport_of_audit hreads haudit rfl
  · have hask : ¬ settings.admin.CanAsk site.clock site.tree := fun hask =>
      hanswers (probe_answers_iff.2 hask)
    obtain ⟨hprinted, htree, hstatus⟩ := runWith_of_no_answer hreads haudit
    refine ⟨[], by rw [hprinted, hquiet, List.append_nil], fun h => absurd h hask,
      fun h => absurd h hask, fun _ => ⟨rfl, htree, failure, hstatus⟩⟩

/-! ### A program that fails, and one that cannot be waited for -/

theorem run_adds_audit_of_failing_program :
    let site := Site.ofTree (FileTree.withProgram ⟨[], [110, 111], 1, false⟩)
    let loud := run site ["a.vcl", "--out", "o"]
    let silent := run site ["--no-audit", "a.vcl", "--out", "o"]
    ∃ lines text, loud.printed = silent.printed ++ lines ∧
      loud.Reports ⟨.relative, ["o"]⟩ .indexJson text ∧
        silent.Reports ⟨.relative, ["o"]⟩ .indexJson text := by
  intro site loud silent
  obtain ⟨lines, hadds⟩ := run_adds_audit site _ _ _ ⟨.relative, ["a.vcl"]⟩ parse_reporting
    (CommandLine.parse_noAudit_cons parse_reporting) rfl
    ⟨rfl, by decide +kernel, by decide +kernel⟩
  have hloud : loud.status = .ok 3 := by decide +kernel
  have hsilent : silent.status = .ok 0 := by decide +kernel
  have hshares := hadds.report canAsk_usual ⟨.relative, ["o"]⟩ rfl
    (FileTree.unlinked_withProgram _ _) (fun crash h => by cases hloud.symm.trans h)
    (fun crash h => by cases hsilent.symm.trans h)
  obtain ⟨text, htexts⟩ := hshares.same .indexJson (by decide)
  exact ⟨lines, text, hadds.printed, htexts⟩

/-- A program that the timer cannot wait for keeps the run from writing its report. -/
theorem run_drops_report_of_long_timeout :
    let site := Site.ofTree (FileTree.withProgram ⟨[], [], 0, true⟩)
    let loud := run site ["a.vcl", "--out", "o", "--admin-timeout", "3000000"]
    let silent := run site ["--no-audit", "a.vcl", "--out", "o", "--admin-timeout", "3000000"]
    loud.status = .error (.probe (.wait .beyondTimer)) ∧ silent.status = .ok 0 ∧
      Report.Unlinked site.tree ⟨.relative, ["o"]⟩ ∧
      ¬ ∃ text, loud.Reports ⟨.relative, ["o"]⟩ .indexJson text ∧
        silent.Reports ⟨.relative, ["o"]⟩ .indexJson text := by
  intro site loud silent
  refine ⟨by decide +kernel, by decide +kernel, FileTree.unlinked_withProgram _ _, ?_⟩
  rintro ⟨text, htext, -⟩
  have hmissing : loud.tree.contentsAt ⟨.relative, ["o", "index.json"]⟩ =
      .error (.refused .notFound "o/index.json") := by decide +kernel
  cases hmissing.symm.trans htext

end VclReview
