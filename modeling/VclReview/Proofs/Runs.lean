/-
  VclReview/Proofs/Runs.lean
  ==========================
  **A run step by step.**  A run that cannot read its input ends there (`Refuses`).  Any
  other goes through the same steps: it prints the analysis, then the audit, and writes
  the report last (`runWith_of_reads`), unless the audit ends it
  (`runWith_of_no_answer`).
-/
import VclReview.Proofs.Probing
import VclReview.Proofs.ReportFiles

namespace VclReview

/-- The commands of the attempts to run the administration program. -/
def Outcome.attempts (outcome : Outcome) : List (List Text) :=
  outcome.events.filterMap Event.command?

/-- Whether the run was ended by writing the report. -/
def Crash.ofReport : Crash → Bool
  | .report _ | .noReportFolder => true
  | .input _ | .scan _ | .probe _ => false

/-- The run was not ended by writing the report. -/
def Outcome.SparedByReport (outcome : Outcome) : Prop :=
  ∀ crash, outcome.status = .error crash → crash.ofReport = false

/-- The file of a report in the directory holds the text. -/
def Outcome.Reports (outcome : Outcome) (folder : Path) (artifact : Artifact) (text : Text) :
    Prop :=
  outcome.tree.contentsAt (folder.child artifact.fileName) = .ok (Utf8.encode text)

/-- There is nothing to analyse: no path, or one that leads nowhere or to what is neither a
    directory nor text. -/
def Settings.LacksInput (settings : Settings) (tree : FileTree) (reader : TextReader) : Prop :=
  ∀ path, settings.path = some path →
    tree.pathExists path = false ∨ tree.isFolder path = false ∧ tree.textAt? reader path = none

/-- The run gets past reading its input. -/
structure Site.Reads (site : Site) (settings : Settings) (path : Path) : Prop where
  given : settings.path = some path
  there : site.tree.pathExists path = true
  goes_on : (scanPath site.tree site.reader settings path).stop = none

/-- The run does nothing but tell with one line why there is nothing to analyse. -/
structure Outcome.Refuses (outcome : Outcome) (site : Site) : Prop where
  status : outcome.status = .ok 1
  printed : ∃ line, outcome.printed = [line] ∧
    (("Usage: " : Text) <+: line ∨ ("Error: " : Text) <+: line)
  attempts : outcome.attempts = []
  runs : outcome.runs = []
  tree : outcome.tree = site.tree

variable {site : Site} {settings : Settings} {path : Path}

theorem run_of_parse {arguments : List Text} (h : CommandLine.parse arguments = .ok settings) :
    run site arguments = runWith site settings := by
  unfold run
  rw [h]

/-! ### Whether there is anything -/

theorem FileTree.pathExists_of_isFolder {tree : FileTree} (h : tree.isFolder path = true) :
    tree.pathExists path = true := by
  obtain ⟨home, hfolder⟩ := Option.isSome_iff_exists.1 h
  unfold folder? at hfolder
  unfold pathExists
  split at hfolder
  · cases hfolder
  split at hfolder
  case h_1 hnul _ _ hstatus => simp [hnul, hstatus, Except.toOption]
  case h_2 => cases hfolder

theorem FileTree.obstacle?_of_pathExists {tree : FileTree} (h : tree.pathExists path = true) :
    tree.obstacle? path = none := by
  unfold pathExists at h
  unfold obstacle?
  cases hstatus : tree.status path with
  | ok found => simp
  | error fault => simp [hstatus, Except.toOption] at h

/-! ### Without input -/

theorem runWith_of_no_path (h : settings.path = none) : (runWith site settings).Refuses site := by
  unfold runWith
  rw [h]
  exact ⟨rfl, ⟨_, rfl, Or.inl ⟨_, rfl⟩⟩, rfl, rfl, rfl⟩

theorem runWith_of_obstacle {fault : Fault} (hpath : settings.path = some path)
    (h : site.tree.obstacle? path = some fault) :
    (runWith site settings).status = .error (.input (.refused fault path.toText)) := by
  unfold runWith
  simp only [hpath, h]
  rfl

theorem runWith_of_absent (hpath : settings.path = some path)
    (hclear : site.tree.obstacle? path = none) (h : site.tree.pathExists path = false) :
    (runWith site settings).Refuses site := by
  unfold runWith
  simp only [hpath, hclear, h, Bool.not_false, if_true]
  refine ⟨rfl, ⟨_, rfl, Or.inr ?_⟩, rfl, rfl, rfl⟩
  simp only [List.append_assoc]
  exact ⟨"Configuration file '" ++ (path.toText ++ "' not found!"), rfl⟩

theorem runWith_of_stop {error : ScanError} (hpath : settings.path = some path)
    (hthere : site.tree.pathExists path = true)
    (h : (scanPath site.tree site.reader settings path).stop = some error) :
    runWith site settings =
      abandon { site with logger := site.logger.configure settings.verbose }
        (scanPath site.tree site.reader settings path) error := by
  unfold runWith
  simp only [hpath, FileTree.obstacle?_of_pathExists hthere, hthere, Bool.not_true,
    Bool.false_eq_true, if_false, h]

/-- A scan that is stopped leaves the exit status of a refusal, or none. -/
theorem status_of_stop {error : ScanError} (hpath : settings.path = some path)
    (hthere : site.tree.pathExists path = true)
    (h : (scanPath site.tree site.reader settings path).stop = some error) :
    (runWith site settings).status = .ok 1 ∨
      (runWith site settings).status = .error (.scan error) := by
  rw [runWith_of_stop hpath hthere h]
  unfold abandon
  cases error.blamesFile with
  | true => exact Or.inl rfl
  | false => exact Or.inr rfl

theorem runWith_of_unreadable (hreader : site.reader.NamesEncodings)
    (hpath : settings.path = some path) (hthere : site.tree.pathExists path = true)
    (hfile : site.tree.isFolder path = false)
    (h : site.tree.textAt? site.reader path = none) : (runWith site settings).Refuses site := by
  obtain ⟨error, herror, hblames⟩ := scanFile_of_no_text hreader h Shape.builtin
  have hscan : scanPath site.tree site.reader settings path = ⟨[], [], [], some error⟩ := by
    unfold scanPath
    simp only [hfile, Bool.false_eq_true, if_false, herror]
  rw [runWith_of_stop hpath hthere (by rw [hscan]), hscan]
  simp only [abandon, hblames, if_true]
  exact ⟨rfl, ⟨_, rfl, Or.inr ⟨error.message, rfl⟩⟩, rfl, rfl, rfl⟩

/-! ### With input -/

theorem runWith_of_reads_eq_finish (h : site.Reads settings path) :
    runWith site settings =
      finish { site with logger := site.logger.configure settings.verbose } settings path
        (scanPath site.tree site.reader settings path) := by
  unfold runWith
  simp only [h.given, FileTree.obstacle?_of_pathExists h.there, h.there, Bool.not_true,
    Bool.false_eq_true, if_false, h.goes_on]

theorem Site.Reads.results (h : site.Reads settings path) :
    (scanPath site.tree site.reader settings path).results =
      analysed site.tree site.reader (settings.inputFiles site.tree path) := by
  rcases scanPath_cases site.tree site.reader settings path with ⟨-, hresults⟩ | ⟨⟨error, hstop⟩, -⟩
  · exact hresults
  · cases h.goes_on.symm.trans hstop

/-- What is to be printed about the input. -/
def Site.account (site : Site) (settings : Settings) (path : Path) : List Text :=
  analysis site.tree settings path
    (analysed site.tree site.reader (settings.inputFiles site.tree path))

theorem filterMap_command?_scanPath (tree : FileTree) (reader : TextReader) (settings : Settings)
    (path : Path) :
    (scanPath tree reader settings path).events.filterMap Event.command? = [] := by
  rw [List.filterMap_eq_nil_iff]
  exact command?_scanPath tree reader settings path

theorem runWith_of_reads {audit : Audit} (h : site.Reads settings path)
    (haudit : runAudit site.clock site.tree settings = .ok audit) :
    (runWith site settings).printed = site.account settings path ++ audit.lines.getD [] ∧
      (runWith site settings).attempts = audit.events.filterMap Event.command? ∧
      (runWith site settings).runs = audit.runs ∧
      (runWith site settings).tree = (writeReport site.tree settings
        (analysed site.tree site.reader (settings.inputFiles site.tree path)) audit.lines).1 ∧
      (runWith site settings).status =
        match (writeReport site.tree settings
          (analysed site.tree site.reader (settings.inputFiles site.tree path)) audit.lines).2 with
        | some crash => .error crash
        | none => .ok audit.status := by
  rw [runWith_of_reads_eq_finish h]
  unfold finish Site.account
  rw [haudit, h.results]
  refine ⟨rfl, ?_, rfl, rfl, rfl⟩
  calc (_ ++ audit.events).filterMap Event.command?
      = [] ++ audit.events.filterMap Event.command? := by
        rw [List.filterMap_append, filterMap_command?_scanPath]
    _ = _ := List.nil_append _

theorem runWith_of_no_answer {failure : ProbeFailure} {events : List Event}
    (h : site.Reads settings path)
    (haudit : runAudit site.clock site.tree settings = .error (failure, events)) :
    (runWith site settings).printed = site.account settings path ∧
      (runWith site settings).tree = site.tree ∧
      (runWith site settings).status = .error (.probe failure) := by
  rw [runWith_of_reads_eq_finish h]
  unfold finish Site.account
  simp only [haudit, h.results, and_self]

theorem ofReport_of_writeReport {tree : FileTree} {results : Results} {lines : Option (List Text)}
    {crash : Crash} (h : (writeReport tree settings results lines).2 = some crash) :
    crash.ofReport = true := by
  unfold writeReport at h
  split at h
  · cases h
  · cases h
    rfl
  · obtain ⟨error, -, rfl⟩ := Option.map_eq_some_iff.1 h
    rfl

/-- A run that returns has had its audit, or went without one. -/
theorem exists_audit_of_status {status : Nat} (h : site.Reads settings path)
    (hstatus : (runWith site settings).status = .ok status) :
    ∃ audit, runAudit site.clock site.tree settings = .ok audit ∧
      (audit.lines = none ↔ settings.noAudit = true) := by
  rcases runAudit_cases site.clock site.tree settings with
    ⟨hoff, haudit⟩ | ⟨hon, ⟨headers, -, haudit⟩ | ⟨error, -, haudit⟩ | ⟨-, failure, haudit⟩⟩
  · exact ⟨_, haudit, iff_of_true rfl hoff⟩
  · exact ⟨_, haudit, iff_of_false (by simp) (by simp [hon])⟩
  · exact ⟨_, haudit, iff_of_false (by simp) (by simp [hon])⟩
  · obtain ⟨-, -, hcrash⟩ := runWith_of_no_answer h haudit
    cases hstatus.symm.trans hcrash

/-! ### The report -/

theorem writeReport_of_reads {audit : Audit} (h : site.Reads settings path)
    (haudit : runAudit site.clock site.tree settings = .ok audit)
    (hspared : (runWith site settings).SparedByReport) :
    (writeReport site.tree settings
      (analysed site.tree site.reader (settings.inputFiles site.tree path)) audit.lines).2 =
        none := by
  obtain ⟨-, -, -, -, hstatus⟩ := runWith_of_reads h haudit
  by_contra hcrash
  obtain ⟨crash, hcrash⟩ := Option.ne_none_iff_exists'.1 hcrash
  rw [hcrash] at hstatus
  have hnot := hspared crash hstatus
  rw [ofReport_of_writeReport hcrash] at hnot
  cases hnot

theorem status_of_reads {audit : Audit} (h : site.Reads settings path)
    (haudit : runAudit site.clock site.tree settings = .ok audit)
    (hspared : (runWith site settings).SparedByReport) :
    (runWith site settings).status = .ok audit.status := by
  obtain ⟨-, -, -, -, hstatus⟩ := runWith_of_reads h haudit
  rw [hstatus, writeReport_of_reads h haudit hspared]

/-- A run that returns is done with its report. -/
theorem exists_report_of_status {status : Nat} (h : site.Reads settings path)
    (hstatus : (runWith site settings).status = .ok status) :
    ∃ audit, runAudit site.clock site.tree settings = .ok audit ∧ status = audit.status ∧
      writeReport site.tree settings
        (analysed site.tree site.reader (settings.inputFiles site.tree path)) audit.lines =
          ((runWith site settings).tree, none) := by
  obtain ⟨audit, haudit, -⟩ := exists_audit_of_status h hstatus
  have hspared : (runWith site settings).SparedByReport := by
    intro crash hcrash
    cases hstatus.symm.trans hcrash
  have hended := status_of_reads h haudit hspared
  have hnone := writeReport_of_reads h haudit hspared
  obtain ⟨-, -, -, htree, -⟩ := runWith_of_reads h haudit
  refine ⟨audit, haudit, Except.ok.inj (hstatus.symm.trans hended), ?_⟩
  rw [htree]
  exact Prod.ext rfl hnone

/-- After a run whose report does not end it, the files of the report hold their contents. -/
theorem reports_of_reads {audit : Audit} {folder : Path} (h : site.Reads settings path)
    (haudit : runAudit site.clock site.tree settings = .ok audit)
    (hspared : (runWith site settings).SparedByReport)
    (hout : settings.out = some (.value folder)) (hunlinked : Report.Unlinked site.tree folder)
    (artifact : Artifact) :
    (runWith site settings).Reports folder artifact
      (artifact.contents (analysed site.tree site.reader (settings.inputFiles site.tree path))
        audit.lines) := by
  obtain ⟨-, -, -, htree, -⟩ := runWith_of_reads h haudit
  have hwritten := writeReport_of_reads h haudit hspared
  unfold Outcome.Reports
  unfold writeReport at htree hwritten
  rw [hout] at htree hwritten
  rw [htree]
  exact Report.contentsAt_write hunlinked (Option.map_eq_none_iff.1 hwritten) artifact

/-! ### A site with a program -/

/-- A file `a.vcl` and an administration program that behaves as given. -/
def FileTree.withProgram (program : Program) : FileTree where
  entries :=
    [(["bin"], .folder), (["bin", "varnishadm"], .file ⟨[], true, some program⟩),
      (["a.vcl"], .file ⟨[120], false, none⟩)]
  distinct := by
    simp only [List.map]
    decide
  workDir := []

/-- A site with nothing but files. -/
def Site.ofTree (tree : FileTree) : Site := ⟨tree, .fresh, .guessing none, .instant⟩

theorem namesEncodings_ofTree (tree : FileTree) : (Site.ofTree tree).reader.NamesEncodings := by
  intro data name h
  cases h

theorem FileTree.unlinked_of_forall {tree : FileTree} {folder : Path}
    (h : ∀ entry ∈ tree.entries, ∀ target, entry.2 ≠ .link target) :
    Report.Unlinked tree folder := by
  intro home _ artifact target hget
  exact h _ (mem_entries_of_get? (by simp) hget) target rfl

theorem FileTree.unlinked_withProgram (program : Program) (folder : Path) :
    Report.Unlinked (FileTree.withProgram program) folder := by
  apply unlinked_of_forall
  simp [withProgram]

/-- The settings with the given path and directory for the report. -/
def Settings.reporting (file folder : Text) : Settings :=
  { Settings.usual with
    path := some ⟨.relative, [file]⟩
    out := some (.value ⟨.relative, [folder]⟩) }

theorem parse_reporting :
    CommandLine.parse ["a.vcl", "--out", "o"] = .ok (Settings.reporting "a.vcl" "o") := rfl

theorem canAsk_usual {program : Program} :
    AdminSettings.usual.CanAsk .instant (FileTree.withProgram program) :=
  ⟨"varnishadm", rfl, by decide, Or.inr ⟨.real 30.0, 30.0, .enough, rfl, rfl, by decide +kernel⟩⟩

end VclReview
