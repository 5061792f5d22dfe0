/-
  VclReview/Proofs/FileByFile.lean
  ================================
  **A directory is analysed file by file.**  A run for a directory in which anything was
  found prints what the runs for its files print one after the other
  (`run_folder_eq_flatMap`).  The runs for the files all come to their end, since what
  a directory scan has read can be read again.
-/
import VclReview.Proofs.Flags
import VclReview.Proofs.PathTexts
import VclReview.Proofs.Runs

namespace VclReview

namespace CommandLine

/-- The command line asks for the analysis of one file and for nothing else. -/
def AnalysesOnly (arguments : List Text) (file : Path) (lineNumbers : Bool) : Prop :=
  ∃ settings, parse arguments = .ok settings ∧ settings.path = some file ∧
    settings.lineNumbers = lineNumbers ∧ settings.noAudit = true ∧ settings.out = none

/-- The plainest such command line for the file that a text leads to. -/
def analyseOnly (text : Text) (lineNumbers : Bool) : List Text :=
  "--no-audit" :: (if lineNumbers then ["--line-numbers", separator, text] else [separator, text])

theorem parse_separator_cons (text : Text) : parse [separator, text] =
    .ok { Settings.usual with path := some (Path.ofText text) } := rfl

theorem analysesOnly_toText {file : Path} (h : file.Proper) (lineNumbers : Bool) :
    AnalysesOnly (analyseOnly file.toText lineNumbers) file lineNumbers := by
  let plain := { Settings.usual with path := some file }
  have hplain : parse [separator, file.toText] = .ok plain := by
    rw [parse_separator_cons, Path.ofText_toText h]
  cases lineNumbers with
  | false => exact ⟨_, parse_noAudit_cons hplain, rfl, rfl, rfl, rfl⟩
  | true =>
    have hnumbered : parse ("--line-numbers" :: [separator, file.toText]) =
        .ok (plain.switchOn .lineNumbers) := parse_cons_flag rfl rfl (by decide) hplain
    exact ⟨_, parse_noAudit_cons hnumbered, rfl, rfl, rfl, rfl⟩

end CommandLine

variable {site : Site} {settings : Settings} {file root : Path}

/-! ### One file -/

theorem FileTree.pathExists_of_textAt? {tree : FileTree} {reader : TextReader} {text : Text}
    (h : tree.textAt? reader file = some text) : tree.pathExists file = true := by
  unfold textAt? at h
  cases hcontents : tree.contentsAt file with
  | error error => simp [hcontents] at h
  | ok bytes =>
    unfold contentsAt at hcontents
    split at hcontents
    · cases hcontents
    case isFalse hnul =>
    cases hstatus : tree.status file with
    | error fault => simp [hstatus] at hcontents
    | ok found => simp [pathExists, hnul, hstatus, Except.toOption]

theorem runWith_single {text : Text} (hpath : settings.path = some file)
    (hoff : settings.noAudit = true) (hout : settings.out = none)
    (hfile : site.tree.isFolder file = false)
    (htext : site.tree.textAt? site.reader file = some text) :
    (runWith site settings).status = .ok 0 ∧
      (runWith site settings).printed =
        fileReport settings.lineNumbers file (annotationsOf file.toText 1 (Text.lines text)) := by
  have hreads : site.Reads settings file := by
    refine ⟨hpath, FileTree.pathExists_of_textAt? htext, ?_⟩
    unfold scanPath
    simp only [hfile, Bool.false_eq_true, if_false, scanFile_of_text htext]
  obtain ⟨hprinted, -, -, -, hstatus⟩ := runWith_of_reads hreads (runAudit_of_noAudit hoff)
  constructor
  · rw [hstatus, writeReport, hout]
  · rw [hprinted]
    unfold Site.account Settings.inputFiles analysed analysis
    simp [hfile, htext]

/-! ### All files of a directory -/

theorem map_fst_analysed (tree : FileTree) (reader : TextReader) (files : List Path) :
    (analysed tree reader files).map (·.1) =
      files.filter fun file => (tree.textAt? reader file).isSome := by
  have hscans : analysed tree reader files =
      files.filterMap fun file =>
        (scanFile tree reader Shape.builtin file).toOption.map (file, ·) := by
    simp only [toOption_scanFile, Option.map_map]
    rfl
  rw [hscans, map_fst_filterMap]
  simp only [toOption_scanFile, Option.isSome_map]

/-- What has been read below a directory is a file that can be read on its own. -/
theorem readable_of_mem_results {annotations : List Annotation}
    (hfolder : site.tree.isFolder root = true)
    (h : (file, annotations) ∈
      analysed site.tree site.reader (settings.inputFiles site.tree root)) :
    site.tree.isFolder file = false ∧ ∃ text, site.tree.textAt? site.reader file = some text ∧
      annotations = annotationsOf file.toText 1 (Text.lines text) := by
  obtain ⟨hfile, htext⟩ := mem_analysed_iff.1 h
  rw [Settings.inputFiles, if_pos hfolder] at hfile
  obtain ⟨names, -, rfl, hchosen⟩ := mem_files_iff.1 hfile
  exact ⟨(FolderSettings.clear_of_chosen hchosen).2, htext⟩

/-- **A directory is analysed file by file.** -/
theorem run_folder_eq_flatMap (site : Site) (arguments : List Text) (settings : Settings)
    (root : Path) (files : List Path) (single : Path → List Text)
    (hparse : CommandLine.parse arguments = .ok settings) (hpath : settings.path = some root)
    (hfolder : site.tree.isFolder root = true) (hoff : settings.noAudit = true)
    (hfiles : (scanPath site.tree site.reader settings root).results.map (·.1) = files)
    (hsome : files ≠ [])
    (hsingle : ∀ file ∈ files,
      CommandLine.AnalysesOnly (single file) file settings.lineNumbers) :
    files.Pairwise (fun file other => file.parts < other.parts) ∧
      (run site arguments).printed = files.flatMap (fun file => (run site (single file)).printed) ∧
        ∀ file ∈ files, (run site (single file)).status = .ok 0 := by
  have hresults : (scanPath site.tree site.reader settings root).results ≠ [] := by
    intro hnone
    rw [hnone] at hfiles
    exact hsome hfiles.symm
  have hgoes : (scanPath site.tree site.reader settings root).stop = none := by
    rcases scanPath_cases site.tree site.reader settings root with ⟨hstop, -⟩ | ⟨-, hnone⟩
    · exact hstop
    · exact absurd hnone hresults
  have hreads : site.Reads settings root :=
    ⟨hpath, FileTree.pathExists_of_isFolder hfolder, hgoes⟩
  rw [hreads.results] at hresults hfiles
  have hruns : ∀ result ∈ analysed site.tree site.reader (settings.inputFiles site.tree root),
      (run site (single result.1)).status = .ok 0 ∧ (run site (single result.1)).printed =
        fileReport settings.lineNumbers result.1 result.2 := by
    rintro ⟨file, annotations⟩ hresult
    obtain ⟨hfile, text, htext, rfl⟩ := readable_of_mem_results hfolder hresult
    have hmem : file ∈ files := hfiles ▸ List.mem_map_of_mem hresult
    obtain ⟨alone, hparse, hpath, hnumbers, hoff, hout⟩ := hsingle file hmem
    rw [run_of_parse hparse, ← hnumbers]
    exact runWith_single hpath hoff hout hfile htext
  subst hfiles
  refine ⟨?_, ?_, ?_⟩
  · rw [map_fst_analysed, Settings.inputFiles, if_pos hfolder]
    exact (pairwise_files site.tree (settings.folder root)).filter _
  · obtain ⟨hprinted, -⟩ := runWith_of_reads hreads (runAudit_of_noAudit hoff)
    rw [run_of_parse hparse, hprinted, Site.account, analysis, if_neg (fun h => hresults h.2),
      List.flatMap_map, List.nil_append, Option.getD_none, List.append_nil]
    exact List.flatMap_congr fun result hresult => (hruns result hresult).2.symm
  · intro file hfile
    obtain ⟨result, hresult, rfl⟩ := List.mem_map.1 hfile
    exact (hruns result hresult).1

/-- A directory `d` with two files. -/
def FileTree.twoFiles : FileTree where
  entries :=
    [(["d"], .folder), (["d", "b.vcl"], .file ⟨[120], false, none⟩),
      (["d", "a.vcl"], .file ⟨[], false, none⟩)]
  distinct := by
    simp only [List.map]
    decide
  workDir := []

theorem run_two_files_eq_append :
    let site := Site.ofTree .twoFiles
    let single (file : Path) : List Text := CommandLine.analyseOnly file.toText false
    let first : Path := ⟨.relative, ["d", "a.vcl"]⟩
    let second : Path := ⟨.relative, ["d", "b.vcl"]⟩
    (run site ["d", "--no-audit"]).printed =
        (run site (single first)).printed ++ (run site (single second)).printed ∧
      (run site (single first)).status = .ok 0 ∧ (run site (single second)).status = .ok 0 := by
  intro site single first second
  have hproper : ∀ file ∈ [first, second], file.Proper := by
    unfold Path.Proper
    decide
  obtain ⟨-, hprinted, hstatus⟩ := run_folder_eq_flatMap site ["d", "--no-audit"]
    { Settings.usual with path := some ⟨.relative, ["d"]⟩, noAudit := true } ⟨.relative, ["d"]⟩
    [first, second] single rfl rfl (by decide +kernel) rfl (by decide +kernel) (by simp)
    (fun file hfile => CommandLine.analysesOnly_toText (hproper file hfile) false)
  exact ⟨by simpa using hprinted, hstatus first (by simp), hstatus second (by simp)⟩

end VclReview
