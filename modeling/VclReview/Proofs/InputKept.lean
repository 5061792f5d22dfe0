/-
  VclReview/Proofs/InputKept.lean
  ===============================
  **What a run does to the files it analyses.**  Nothing but the report changes files, and
  a file that has been analysed is changed by it only if a file of the report lands at its
  place, be it by its name or through links (`run_keeps_input`).  Nothing prevents that: a
  run may put its report where its input is (`run_overwrites_input`).
-/
import VclReview.Proofs.FileByFile
import VclReview.Proofs.Landing

namespace VclReview

/-- The file of the report that is written last at the place of the given file, if any
    is. -/
def Settings.overwriter? (settings : Settings) (tree : FileTree) (file : Path) :
    Option Artifact :=
  match settings.out, tree.status file with
  | some (.value folder), .ok (place, _) =>
    Report.lastAt? (tree.makeFolders folder).tree folder Artifact.all place
  | _, _ => none

/-- The run leaves the contents of the file as they were, or those of the file of the report
    that has been written there. -/
structure Outcome.Treats (outcome : Outcome) (site : Site) (settings : Settings)
    (results : Results) (file : Path) : Prop where
  kept : settings.overwriter? site.tree file = none →
    outcome.tree.contentsAt file = site.tree.contentsAt file
  lost : ∀ artifact, settings.overwriter? site.tree file = some artifact → ∃ audit,
    outcome.tree.contentsAt file = .ok (Utf8.encode (artifact.contents results audit))

variable {site : Site} {settings : Settings} {path file folder : Path}
  {annotations : List Annotation}

/-! ### What has been analysed -/

/-- A run whose scan has a result has got past its input, and the result is about a file
    with contents. -/
theorem reads_of_mem_results (hpath : settings.path = some path)
    (h : (file, annotations) ∈ (scanPath site.tree site.reader settings path).results) :
    site.Reads settings path ∧ ∃ bytes, site.tree.contentsAt file = .ok bytes := by
  rcases scanPath_cases site.tree site.reader settings path with
    ⟨hstop, hresults⟩ | ⟨-, hresults⟩
  case inr =>
    rw [hresults] at h
    cases h
  rw [hresults] at h
  obtain ⟨hfile, text, htext, -⟩ := mem_analysed_iff.1 h
  refine ⟨⟨hpath, ?_, hstop⟩, ?_⟩
  · by_cases hfolder : site.tree.isFolder path = true
    · exact FileTree.pathExists_of_isFolder hfolder
    · rw [Settings.inputFiles, if_neg hfolder, List.mem_singleton] at hfile
      exact FileTree.pathExists_of_textAt? (hfile ▸ htext)
  · unfold FileTree.textAt? at htext
    cases hcontents : site.tree.contentsAt file with
    | ok bytes => exact ⟨bytes, rfl⟩
    | error error => simp [hcontents] at htext

/-! ### What the report leaves of it -/

namespace Report

open FileTree

variable {tree : FileTree} {results : Results} {audit : Option (List Text)} {place : Place}
  {data : FileData}

/-- Making the directories of a report leaves the files as they are. -/
theorem file_makeFolders (hstatus : tree.status file = .ok (place, .file data)) (folder : Path) :
    (tree.makeFolders folder).tree.get? place = some (.file data) :=
  (tree.makeFolders_prepares folder).adds.get?_of_some (get?_of_status hstatus (by simp))

/-- After a report a path that led to a file leads to what is left at its place. -/
theorem status_write (h : (write tree folder results audit).failure = none)
    (hstatus : tree.status file = .ok (place, .file data)) {last : FileData}
    (hleft : left? (tree.makeFolders folder).tree (Artifact.contents results audit) place
      (lastAt? (tree.makeFolders folder).tree folder Artifact.all place) = some (.file last)) :
    (write tree folder results audit).tree.status file = .ok (place, .file last) := by
  obtain ⟨-, -, hrewrote⟩ := write_rewrote h
  have hways := (tree.makeFolders_prepares folder).adds.waysIn.trans hrewrote.ways
  have hget := (hrewrote.get? place).trans hleft
  exact status_of_waysIn hways (Or.inr ⟨by simp, hget, by simp⟩) hstatus

theorem status_write_of_none (h : (write tree folder results audit).failure = none)
    (hstatus : tree.status file = .ok (place, .file data))
    (hlast : lastAt? (tree.makeFolders folder).tree folder Artifact.all place = none) :
    (write tree folder results audit).tree.status file = .ok (place, .file data) := by
  apply status_write h hstatus
  rw [hlast, left?, file_makeFolders hstatus folder]

theorem status_write_of_some {artifact : Artifact}
    (h : (write tree folder results audit).failure = none)
    (hstatus : tree.status file = .ok (place, .file data))
    (hlast : lastAt? (tree.makeFolders folder).tree folder Artifact.all place = some artifact) :
    (write tree folder results audit).tree.status file = .ok (place,
      .file (FileData.overwrite data (Utf8.encode (artifact.contents results audit)))) := by
  apply status_write h hstatus
  rw [hlast, left?, file?_eq_some (file_makeFolders hstatus folder)]
  rfl

end Report

/-- **A run keeps the files it has analysed, but for those where its report lands.** -/
theorem run_keeps_input (site : Site) (arguments : List Text) (settings : Settings)
    (path file : Path) (annotations : List Annotation) (status : Nat)
    (hparse : CommandLine.parse arguments = .ok settings) (hpath : settings.path = some path)
    (hstatus : (run site arguments).status = .ok status)
    (hresult : (file, annotations) ∈ (scanPath site.tree site.reader settings path).results) :
    (run site arguments).Treats site settings
      (scanPath site.tree site.reader settings path).results file := by
  rw [run_of_parse hparse] at hstatus ⊢
  obtain ⟨hreads, bytes, hcontents⟩ := reads_of_mem_results hpath hresult
  obtain ⟨hnul, place, data, hfile, rfl⟩ := FileTree.contentsAt_eq_ok_iff.1 hcontents
  obtain ⟨audit, -, -, hwritten⟩ := exists_report_of_status hreads hstatus
  rw [hreads.results]
  unfold writeReport at hwritten
  cases hout : settings.out with
  | none =>
    simp only [hout, Prod.mk.injEq, and_true] at hwritten
    refine ⟨fun _ => by rw [hwritten], ?_⟩
    intro artifact hartifact
    simp [Settings.overwriter?, hout] at hartifact
  | some out =>
    cases out with
    | blank => simp [hout] at hwritten
    | value folder =>
      simp only [hout, Prod.mk.injEq, Option.map_eq_none_iff] at hwritten
      obtain ⟨htree, hnone⟩ := hwritten
      have hover : settings.overwriter? site.tree file =
          Report.lastAt? (site.tree.makeFolders folder).tree folder Artifact.all place := by
        simp only [Settings.overwriter?, hout, hfile]
      constructor
      · intro hunmet
        have hafter := Report.status_write_of_none hnone hfile (hover ▸ hunmet)
        rw [hcontents, ← htree]
        exact FileTree.contentsAt_eq_ok_iff.2 ⟨hnul, place, data, hafter, rfl⟩
      · intro artifact hartifact
        have hafter := Report.status_write_of_some hnone hfile (hover ▸ hartifact)
        rw [← htree]
        exact ⟨audit.lines, FileTree.contentsAt_eq_ok_iff.2 ⟨hnul, place, _, hafter, rfl⟩⟩

theorem run_keeps_file_beside_report :
    let site := Site.ofTree .twoFiles
    let file : Path := ⟨.relative, ["d", "a.vcl"]⟩
    let outcome := run site ["d", "--no-audit", "--out", "d"]
    outcome.status = .ok 0 ∧ outcome.tree.contentsAt file = site.tree.contentsAt file := by
  intro site file outcome
  have hstatus : outcome.status = .ok 0 := by decide +kernel
  have hunmet : Settings.overwriter?
      { Settings.usual with
        path := some ⟨.relative, ["d"]⟩
        noAudit := true
        out := some (.value ⟨.relative, ["d"]⟩) } site.tree file = none := by
    decide +kernel
  have htreats := run_keeps_input site ["d", "--no-audit", "--out", "d"] _ ⟨.relative, ["d"]⟩ file
    [] 0 rfl rfl hstatus (by decide +kernel)
  exact ⟨hstatus, htreats.kept hunmet⟩

/-- A file whose name is that of a file of a report. -/
def FileTree.reportName : FileTree where
  entries := [(["d"], .folder), (["d", "annotations.json"], .file ⟨[120], false, none⟩)]
  distinct := by
    simp only [List.map]
    decide
  workDir := []

/-- The report takes the place of the input. -/
theorem run_overwrites_input :
    let site := Site.ofTree .reportName
    let file : Path := ⟨.relative, ["d", "annotations.json"]⟩
    let settings :=
      { Settings.usual with
        path := some file
        noAudit := true
        out := some (.value ⟨.relative, ["d"]⟩) }
    let arguments : List Text := ["d/annotations.json", "--no-audit", "--out", "d"]
    CommandLine.parse arguments = .ok settings ∧ (run site arguments).status = .ok 0 ∧
      file ∈ (scanPath site.tree site.reader settings file).results.map (·.1) ∧
        site.tree.contentsAt file = .ok [120] ∧
          (run site arguments).tree.contentsAt file ≠ .ok [120] := by
  intro site file settings arguments
  refine ⟨rfl, ?_, ?_, ?_, ?_⟩
  · decide +kernel
  · decide +kernel
  · decide +kernel
  · decide +kernel

end VclReview
