/-
  VclReview/Proofs/ExitStatus.lean
  ================================
  **What an exit status says.**  An orderly run (`Outcome.Orderly`) leaves status one, a
  single line and no trace where there is nothing to analyse.  Everywhere else it prints
  the whole analysis, tries the administration program once unless that is switched off,
  and leaves status three if the probe failed and zero if not.

  Three things can hinder a run: something in the way of the search, no limit to compare
  the size of a file with, and an administration program that cannot even be asked.  A
  run is orderly exactly if none of them does (`run_orderly_iff`).
-/
import VclReview.Proofs.Runs

namespace VclReview

/-- The audit is wanted and its probe fails. -/
def Site.AuditFails (site : Site) (settings : Settings) (error : ProbeError) : Prop :=
  settings.noAudit = false ∧
    (probe site.clock site.tree settings.admin).headers = .error (.failed error)

/-- The administration program has been tried once, with arguments for its address and its
    secret, and if it came to its end it had got these. -/
def Outcome.AsksOnce (outcome : Outcome) (admin : AdminSettings) : Prop :=
  ∃ (binary : Text) (arguments : List Text), admin.binary = .value binary ∧
    arguments = (["-T", admin.host.text id ++ ":" ++ admin.port.text Text.ofInt,
      "-S", admin.secret.text Path.toText, "vcl.list"] : List Text) ∧
    outcome.attempts = [binary :: arguments] ∧
      (outcome.runs = [] ∨ ∃ received, outcome.runs = [received] ∧ arguments <:+ received)

/-- The lines are those of the audit, which the exit status tells to have failed or not.
    Unless it is switched off, the command has been tried once. -/
structure Outcome.Audits (outcome : Outcome) (site : Site) (settings : Settings)
    (lines : List Text) : Prop where
  switched_off : settings.noAudit = true →
    lines = [] ∧ outcome.attempts = [] ∧ outcome.runs = []
  asks : settings.noAudit = false → outcome.AsksOnce settings.admin
  listed : settings.noAudit = false → ∀ headers,
    (probe site.clock site.tree settings.admin).headers = .ok headers → lines = auditHeaders headers
  failed_iff : outcome.status = .ok 3 ↔ ∃ error, site.AuditFails settings error
  failed : ∀ error, site.AuditFails settings error →
    lines = ["Header audit failed: " ++ error.message]
  done : (¬ ∃ error, site.AuditFails settings error) → outcome.status = .ok 0

/-- The run does what it should: it refuses exactly if there is nothing to analyse, and
    otherwise prints the analysis and what the audit says. -/
structure Outcome.Orderly (outcome : Outcome) (site : Site) (settings : Settings) : Prop where
  refused_iff : outcome.status = .ok 1 ↔ settings.LacksInput site.tree site.reader
  refuses : settings.LacksInput site.tree site.reader → outcome.Refuses site
  analyses : ¬ settings.LacksInput site.tree site.reader →
    ∃ path lines, settings.path = some path ∧
      outcome.printed = site.account settings path ++ lines ∧ outcome.Audits site settings lines

/-- It can be told what the path leads to, a scan of a directory can come to its end, and
    the administration program can be asked if it has to be. -/
structure Site.Unhindered (site : Site) (settings : Settings) : Prop where
  input : ∀ path, settings.path = some path → site.tree.obstacle? path = none ∧
    (site.tree.isFolder path = true → (settings.folder path).GoesOn site.tree)
  audit : ¬ settings.LacksInput site.tree site.reader → settings.noAudit = false →
    settings.admin.CanAsk site.clock site.tree

variable {site : Site} {settings : Settings} {path : Path}

/-! ### Runs without input -/

theorem refuses_of_lacksInput (hreader : site.reader.NamesEncodings)
    (h : site.Unhindered settings) (hlacks : settings.LacksInput site.tree site.reader) :
    (runWith site settings).Refuses site := by
  cases hpath : settings.path with
  | none => exact runWith_of_no_path hpath
  | some path =>
    obtain ⟨hclear, -⟩ := h.input path hpath
    cases hthere : site.tree.pathExists path with
    | false => exact runWith_of_absent hpath hclear hthere
    | true =>
      rcases hlacks path hpath with habsent | ⟨hfile, htext⟩
      · cases hthere.symm.trans habsent
      · exact runWith_of_unreadable hreader hpath hthere hfile htext

/-! ### Runs with input -/

theorem reads_of_not_lacksInput (hreader : site.reader.NamesEncodings)
    (hinput : ∀ path, settings.path = some path → site.tree.isFolder path = true →
      (settings.folder path).GoesOn site.tree)
    (h : ¬ settings.LacksInput site.tree site.reader) : ∃ path, site.Reads settings path := by
  unfold Settings.LacksInput at h
  simp only [not_forall, not_or, not_and] at h
  obtain ⟨path, hpath, hthere, htext⟩ := h
  refine ⟨path, hpath, by simpa using hthere, ?_⟩
  rw [scanPath_goes_on_iff hreader]
  split
  case isTrue hfolder => exact hinput path hpath hfolder
  case isFalse hfile => exact Option.isSome_iff_ne_none.2 (htext (by simpa using hfile))

theorem asks_once {outcome : Outcome} (hask : settings.admin.CanAsk site.clock site.tree)
    (hattempts : outcome.attempts =
      (probe site.clock site.tree settings.admin).events.filterMap Event.command?)
    (hruns : outcome.runs = (probe site.clock site.tree settings.admin).runs) :
    outcome.AsksOnce settings.admin := by
  obtain ⟨binary, hbinary, -⟩ := hask
  refine ⟨binary, settings.admin.arguments, hbinary, rfl, ?_, ?_⟩
  · rw [hattempts, commands_probe]
    simp only [AdminSettings.command?, hbinary, Option.toList_some]
  · rw [hruns]
    exact runs_probe site.clock site.tree settings.admin

theorem audits_of_done {outcome : Outcome} {lines : List Text}
    (hnever : ¬ ∃ error, site.AuditFails settings error) (hstatus : outcome.status = .ok 0)
    (hoff : settings.noAudit = true → lines = [] ∧ outcome.attempts = [] ∧ outcome.runs = [])
    (hasks : settings.noAudit = false → outcome.AsksOnce settings.admin)
    (hlisted : settings.noAudit = false → ∀ headers,
      (probe site.clock site.tree settings.admin).headers = .ok headers →
        lines = auditHeaders headers) :
    outcome.Audits site settings lines where
  switched_off := hoff
  asks := hasks
  listed := hlisted
  failed_iff := iff_of_false (by simp [hstatus]) hnever
  failed error hfails := absurd ⟨error, hfails⟩ hnever
  done _ := hstatus

theorem audits_of_failed {outcome : Outcome} {error : ProbeError}
    (hfails : site.AuditFails settings error) (hstatus : outcome.status = .ok 3)
    (hasks : outcome.AsksOnce settings.admin) :
    outcome.Audits site settings ["Header audit failed: " ++ error.message] where
  switched_off hoff := by
    cases hoff.symm.trans hfails.1
  asks _ := hasks
  listed _ headers hheaders := by
    cases hfails.2.symm.trans hheaders
  failed_iff := iff_of_true hstatus ⟨error, hfails⟩
  failed other hother := by
    cases hfails.2.symm.trans hother.2
    rfl
  done hnever := absurd ⟨error, hfails⟩ hnever

theorem audits_of_reads (h : site.Reads settings path)
    (hask : settings.noAudit = false → settings.admin.CanAsk site.clock site.tree)
    (hspared : (runWith site settings).SparedByReport) :
    ∃ lines, (runWith site settings).printed = site.account settings path ++ lines ∧
      (runWith site settings).Audits site settings lines := by
  rcases runAudit_cases site.clock site.tree settings with
    ⟨hoff, haudit⟩ |
      ⟨hon, ⟨headers, hheaders, haudit⟩ | ⟨error, herror, haudit⟩ | ⟨hanswers, -⟩⟩
  · obtain ⟨hprinted, hattempts, hruns, -, -⟩ := runWith_of_reads h haudit
    have hwanted : settings.noAudit ≠ false := by simp [hoff]
    refine ⟨[], hprinted, audits_of_done ?_ (status_of_reads h haudit hspared) ?_ ?_ ?_⟩
    · rintro ⟨error, hon, -⟩
      exact hwanted hon
    · exact fun _ => ⟨rfl, hattempts, hruns⟩
    · exact fun hon => absurd hon hwanted
    · exact fun hon => absurd hon hwanted
  · obtain ⟨hprinted, hattempts, hruns, -, -⟩ := runWith_of_reads h haudit
    refine ⟨auditHeaders headers, hprinted,
      audits_of_done ?_ (status_of_reads h haudit hspared) ?_ ?_ ?_⟩
    · rintro ⟨error, -, herror⟩
      cases hheaders.symm.trans herror
    · intro hoff
      cases hon.symm.trans hoff
    · exact fun _ => asks_once (hask hon) hattempts hruns
    · intro _ others hothers
      cases hheaders.symm.trans hothers
      rfl
  · obtain ⟨hprinted, hattempts, hruns, -, -⟩ := runWith_of_reads h haudit
    rw [List.filterMap_append] at hattempts
    have hasks := asks_once (hask hon) (hattempts.trans (List.append_nil _)) hruns
    exact ⟨_, hprinted, audits_of_failed ⟨hon, herror⟩ (status_of_reads h haudit hspared) hasks⟩
  · exact absurd (probe_answers_iff.2 (hask hon)) hanswers

/-! ### What an orderly run is not hindered by -/

theorem Outcome.Orderly.status {outcome : Outcome} (h : outcome.Orderly site settings)
    (hinput : ¬ settings.LacksInput site.tree site.reader) :
    outcome.status = .ok 3 ∨ outcome.status = .ok 0 := by
  obtain ⟨path, lines, -, -, haudits⟩ := h.analyses hinput
  by_cases hfails : ∃ error, site.AuditFails settings error
  · exact Or.inl (haudits.failed_iff.2 hfails)
  · exact Or.inr (haudits.done hfails)

theorem clear_of_orderly (h : (runWith site settings).Orderly site settings)
    (hpath : settings.path = some path) : site.tree.obstacle? path = none := by
  by_contra hobstacle
  obtain ⟨fault, hfault⟩ := Option.ne_none_iff_exists'.1 hobstacle
  -- what cannot be told to exist is not there to be analysed
  have hlacks : settings.LacksInput site.tree site.reader := by
    intro other hother
    cases hpath.symm.trans hother
    refine Or.inl (Bool.eq_false_iff.2 fun hthere => ?_)
    exact hobstacle (FileTree.obstacle?_of_pathExists hthere)
  cases (h.refuses hlacks).status.symm.trans (runWith_of_obstacle hpath hfault)

theorem goesOn_of_orderly (hreader : site.reader.NamesEncodings)
    (h : (runWith site settings).Orderly site settings) (hpath : settings.path = some path)
    (hfolder : site.tree.isFolder path = true) : (settings.folder path).GoesOn site.tree := by
  by_contra hstays
  have hthere := FileTree.pathExists_of_isFolder hfolder
  have hinput : ¬ settings.LacksInput site.tree site.reader := by
    intro hlacks
    rcases hlacks path hpath with habsent | ⟨hfile, -⟩
    · cases hthere.symm.trans habsent
    · cases hfolder.symm.trans hfile
  have hstop : (scanPath site.tree site.reader settings path).stop ≠ none := by
    rw [Ne, scanPath_goes_on_iff hreader, if_pos hfolder]
    exact hstays
  obtain ⟨error, herror⟩ := Option.ne_none_iff_exists'.1 hstop
  rcases status_of_stop hpath hthere herror with hstatus | hstatus
  · exact hinput (h.refused_iff.1 hstatus)
  · rcases h.status hinput with hother | hother
    · cases hstatus.symm.trans hother
    · cases hstatus.symm.trans hother

theorem canAsk_of_orderly (hreader : site.reader.NamesEncodings)
    (h : (runWith site settings).Orderly site settings)
    (hinput : ¬ settings.LacksInput site.tree site.reader) (hon : settings.noAudit = false) :
    settings.admin.CanAsk site.clock site.tree := by
  by_contra hask
  obtain ⟨path, hreads⟩ := reads_of_not_lacksInput hreader
    (fun path hpath => goesOn_of_orderly hreader h hpath) hinput
  cases haudit : runAudit site.clock site.tree settings with
  | ok audit => exact hask (runAudit_eq_ok_iff.1 ⟨audit, haudit⟩ hon)
  | error failure =>
    obtain ⟨-, -, hstatus⟩ := runWith_of_no_answer hreads haudit
    rcases h.status hinput with hother | hother
    · cases hstatus.symm.trans hother
    · cases hstatus.symm.trans hother

/-! ### Orderly runs -/

/-- **A run is orderly exactly if nothing hinders it.** -/
theorem run_orderly_iff (site : Site) (hreader : site.reader.NamesEncodings)
    (arguments : List Text) (settings : Settings)
    (hparse : CommandLine.parse arguments = .ok settings)
    (hspared : (run site arguments).SparedByReport) :
    (run site arguments).Orderly site settings ↔ site.Unhindered settings := by
  rw [run_of_parse hparse] at hspared ⊢
  constructor
  · intro h
    refine ⟨fun path hpath => ⟨clear_of_orderly h hpath, ?_⟩, ?_⟩
    · exact goesOn_of_orderly hreader h hpath
    · exact canAsk_of_orderly hreader h
  · intro h
    have hrefuses := refuses_of_lacksInput hreader h
    by_cases hlacks : settings.LacksInput site.tree site.reader
    · have hstatus := (hrefuses hlacks).status
      exact ⟨iff_of_true hstatus hlacks, hrefuses, fun hinput => absurd hlacks hinput⟩
    · obtain ⟨path, hreads⟩ := reads_of_not_lacksInput hreader
        (fun path hpath => (h.input path hpath).2) hlacks
      obtain ⟨lines, hprinted, haudits⟩ := audits_of_reads hreads (h.audit hlacks) hspared
      refine ⟨iff_of_false ?_ hlacks, hrefuses,
        fun _ => ⟨path, lines, hreads.given, hprinted, haudits⟩⟩
      by_cases hfails : ∃ error, site.AuditFails settings error
      · simp [haudits.failed_iff.2 hfails]
      · simp [haudits.done hfails]

/-! ### A program that fails, and a link that is in the way -/

theorem run_orderly_of_failing_program :
    let site := Site.ofTree (FileTree.withProgram ⟨[], [110, 111], 1, false⟩)
    let outcome := run site ["a.vcl", "--out", "o"]
    outcome.Orderly site (Settings.reporting "a.vcl" "o") ∧ outcome.status = .ok 3 := by
  intro site outcome
  have hstatus : outcome.status = .ok 3 := by decide +kernel
  have horderly := run_orderly_iff site (namesEncodings_ofTree _) _ _ parse_reporting
    (fun crash h => by cases hstatus.symm.trans h)
  refine ⟨horderly.2 ⟨?_, fun _ _ => canAsk_usual⟩, hstatus⟩
  intro path hpath
  cases hpath
  exact ⟨by decide +kernel, fun hfolder => absurd hfolder (by decide +kernel)⟩

/-- A link whose target is a name that is too long makes a run refuse a directory with a
    file that can be read. -/
theorem run_refuses_long_link :
    let site := Site.ofTree (FileTree.withLink (List.replicate 256 'x'))
    let settings := { Settings.usual with path := some ⟨.relative, ["d"]⟩, noAudit := true }
    let outcome := run site ["d", "--no-audit"]
    CommandLine.parse ["d", "--no-audit"] = .ok settings ∧ outcome.status = .ok 1 ∧
      site.tree.isFolder ⟨.relative, ["d"]⟩ = true ∧
      site.tree.textAt? site.reader ⟨.relative, ["d", "a.vcl"]⟩ = some ['x'] ∧
      ¬ outcome.Orderly site settings := by
  intro site settings outcome
  have hparse : CommandLine.parse ["d", "--no-audit"] = .ok settings := rfl
  have hstatus : outcome.status = .ok 1 := by decide +kernel
  have hfolder : site.tree.isFolder ⟨.relative, ["d"]⟩ = true := by decide +kernel
  refine ⟨hparse, hstatus, hfolder, by decide +kernel, fun horderly => ?_⟩
  rcases horderly.refused_iff.1 hstatus ⟨.relative, ["d"]⟩ rfl with habsent | ⟨hfile, -⟩
  · cases (FileTree.pathExists_of_isFolder hfolder).symm.trans habsent
  · cases hfolder.symm.trans hfile

end VclReview
