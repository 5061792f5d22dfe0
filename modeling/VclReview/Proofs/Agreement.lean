/-
  VclReview/Proofs/Agreement.lean
  ===============================
  **All outputs of a run agree.**  What is printed and what the report says are renderings
  of the same groups of annotations, one group for each file, with the numbers of the group
  (`run_agrees`).  The one line that no file accounts for is the notice about a directory
  in which nothing was found.
-/
import VclReview.Proofs.Runs
import Mathlib

namespace VclReview

/-- The numbers of a file are those of its annotations. -/
structure FileSummary.CountsUp (s : FileSummary) (annotations : List Annotation) : Prop where
  size : annotations.length = s.lines
  placed : ∀ a ∈ annotations, a.location = s.file
  numbered : annotations.map (·.lineNumber) = (List.range s.lines).map fun n : Nat => (n : Int) + 1
  recognized : s.recognized = annotations.countP fun a => a.directive ≠ ("unrecognized" : Text)
  ascending : (s.directives.map (·.1)).Pairwise (· < ·)
  counted : ∀ name count, (name, count) ∈ s.directives ↔
    0 < count ∧ count = annotations.countP (·.directive = name)
  sum : (s.directives.map (·.2)).sum = s.lines

/-- The annotations of a file with its numbers. -/
structure FileGroup where
  numbers : FileSummary
  annotations : List Annotation
  counts : numbers.CountsUp annotations

/-- What is printed about a file without the places of its lines. -/
def FileGroup.printed (group : FileGroup) : List Text :=
  ("Analyzing Varnish Configuration File: " ++ group.numbers.file) ::
    group.annotations.flatMap (·.messages)

/-- What is told about a file for reading. -/
def FileGroup.markdown (group : FileGroup) : List Text :=
  ("## " ++ group.numbers.file) :: [] :: group.annotations.flatMap Report.annotationLines

/-- A run prints, after the notice, and reports the same groups of annotations and the same
    lines of an audit, if there was one. -/
structure Outcome.Agrees (outcome : Outcome) (settings : Settings) (folder : Path)
    (notice : List Text) (groups : List FileGroup) (audit : Option (List Text)) : Prop where
  audited : audit = none ↔ settings.noAudit = true
  printed : settings.lineNumbers = false →
    outcome.printed = notice ++ groups.flatMap FileGroup.printed ++ audit.getD []
  annotations : outcome.Reports folder .annotationsJson
    (Json.arr (groups.flatMap fun group => group.annotations.map Report.annotationJson)).pretty
  index : outcome.Reports folder .indexJson
    (Json.arr (groups.map fun group => Report.summaryJson group.numbers)).pretty
  markdown : outcome.Reports folder .annotationsMarkdown
    (Report.joinLines ("# VCL Annotations".toList :: [] :: groups.flatMap FileGroup.markdown))
  summary : outcome.Reports folder .summaryMarkdown
    (Report.joinLines ("# Scan Summary".toList :: [] ::
      groups.flatMap (fun group => Report.summaryLines group.numbers) ++
        ["## Header audit".toList] ++ Report.auditSection audit ++ [[]]))

/-! ### The numbers of a file -/

theorem nodup_eraseDups (names : List Text) : names.eraseDups.Nodup := by
  induction hlength : names.length using Nat.strong_induction_on generalizing names with
  | _ length ih =>
    cases names with
    | nil => simp
    | cons name rest =>
      rw [List.eraseDups_cons, List.nodup_cons]
      refine ⟨by simp, ih _ ?_ _ rfl⟩
      rw [← hlength]
      exact Nat.lt_succ_of_le (List.length_filter_le _ _)

theorem ascending_directiveCounts (annotations : List Annotation) :
    ((directiveCounts annotations).map (·.1)).Pairwise (· < ·) := by
  have hfirst : (directiveCounts annotations).map (·.1) =
      sortWith Text.inOrder (annotations.map (·.directive)).eraseDups := by
    unfold directiveCounts
    simp [Function.comp_def, Letter.inOrder_char]
  rw [hfirst]
  have htotal (a b : Text) : Text.inOrder a b = true ∨ Text.inOrder b a = true := by
    simpa only [Text.inOrder_iff_le] using le_total a b
  have htrans (a b c : Text) (hab : Text.inOrder a b = true) (hbc : Text.inOrder b c = true) :
      Text.inOrder a c = true := by
    rw [Text.inOrder_iff_le] at hab hbc ⊢
    exact hab.trans hbc
  refine (pairwise_sortWith htotal htrans (nodup_eraseDups _)).imp ?_
  rintro a b ⟨hab, hne⟩
  rw [Text.inOrder_iff_le] at hab
  refine lt_of_le_of_ne hab fun heq => ?_
  subst heq
  exact hne (Text.inOrder_iff_le.2 le_rfl) rfl

theorem count_directives (annotations : List Annotation) (name : Text) :
    (annotations.map (·.directive)).count name = annotations.countP (·.directive = name) := by
  rw [List.count, List.countP_map]
  exact List.countP_congr fun a _ => by simp

theorem mem_directiveCounts_iff {annotations : List Annotation} {name : Text} {count : Nat} :
    (name, count) ∈ directiveCounts annotations ↔
      0 < count ∧ count = annotations.countP (·.directive = name) := by
  unfold directiveCounts
  simp only [List.mem_map, mem_sortWith, List.mem_eraseDups, Prod.mk.injEq, ← count_directives]
  constructor
  · rintro ⟨name, hname, rfl, rfl⟩
    exact ⟨List.count_pos_iff.2 (List.mem_map.2 hname), rfl⟩
  · rintro ⟨hpos, rfl⟩
    exact ⟨name, List.mem_map.1 (List.count_pos_iff.1 hpos), rfl, rfl⟩

theorem sum_directiveCounts (annotations : List Annotation) :
    ((directiveCounts annotations).map (·.2)).sum = annotations.length := by
  have hperm : (sortWith Text.inOrder (annotations.map (·.directive)).eraseDups).Perm
      (annotations.map (·.directive)).dedup := by
    refine (perm_sortWith _).trans ?_
    refine (List.perm_ext_iff_of_nodup (nodup_eraseDups _) (List.nodup_dedup _)).2 fun name => ?_
    rw [List.mem_eraseDups, List.mem_dedup]
  have hcounts : (directiveCounts annotations).map (·.2) =
      (sortWith Text.inOrder (annotations.map (·.directive)).eraseDups).map
        fun name => (annotations.map (·.directive)).count name := by
    unfold directiveCounts
    rw [List.map_map]
    rfl
  rw [hcounts, (hperm.map _).sum_eq, ← List.length_map (·.directive)]
  -- the lemma names the addition and the equality test by other instances
  convert List.sum_map_count_dedup_eq_length (annotations.map (·.directive))
  rfl

theorem recognizedCount_eq (annotations : List Annotation) :
    recognizedCount annotations =
      annotations.countP fun a => a.directive ≠ ("unrecognized" : Text) := by
  unfold recognizedCount
  apply List.countP_congr
  intro a _
  rw [decide_eq_true_eq]
  exact bne_iff_ne

theorem countsUp_of (file : Path) (lines : List Text) :
    FileSummary.CountsUp (.of file (annotationsOf file.toText 1 lines))
      (annotationsOf file.toText 1 lines) := by
  constructor
  case size => rfl
  case placed =>
    intro a ha
    obtain ⟨⟨line, n⟩, -, rfl⟩ := List.mem_map.1 ha
    exact location_annotationOf _ _ _
  case numbered =>
    rw [map_lineNumber_annotationsOf]
    simp only [FileSummary.of, length_annotationsOf]
  case recognized => exact recognizedCount_eq _
  case ascending => exact ascending_directiveCounts _
  case counted => exact fun _ _ => mem_directiveCounts_iff
  case sum => exact sum_directiveCounts (annotationsOf file.toText 1 lines)

/-! ### All outputs -/

/-- The annotations of the lines of a file with their numbers. -/
def FileGroup.of (file : Path) (lines : List Text) : FileGroup :=
  ⟨.of file (annotationsOf file.toText 1 lines), annotationsOf file.toText 1 lines,
    countsUp_of file lines⟩

/-- The files that can be read as text, each with its lines. -/
def readable (tree : FileTree) (reader : TextReader) (files : List Path) :
    List (Path × List Text) :=
  files.filterMap fun file => (tree.textAt? reader file).map fun text => (file, Text.lines text)

theorem analysed_eq_map (tree : FileTree) (reader : TextReader) (files : List Path) :
    analysed tree reader files = (readable tree reader files).map fun (file, lines) =>
      (file, annotationsOf file.toText 1 lines) := by
  unfold analysed readable
  rw [List.map_filterMap]
  simp only [Option.map_map]
  rfl

variable {site : Site} {settings : Settings} {path folder : Path}

/-- **All outputs of a run agree.** -/
theorem run_agrees (site : Site) (arguments : List Text) (settings : Settings) (path folder : Path)
    (status : Nat) (hparse : CommandLine.parse arguments = .ok settings)
    (hreads : site.Reads settings path) (hout : settings.out = some (.value folder))
    (hunlinked : Report.Unlinked site.tree folder)
    (hstatus : (run site arguments).status = .ok status) :
    ∃ groups audit, (run site arguments).Agrees settings folder
      (if site.tree.isFolder path = true ∧ groups = [] then [emptyNotice settings path] else [])
      groups audit := by
  rw [run_of_parse hparse] at hstatus ⊢
  obtain ⟨audit, haudit, haudited⟩ := exists_audit_of_status hreads hstatus
  have hspared : (runWith site settings).SparedByReport := by
    intro crash hcrash
    cases hstatus.symm.trans hcrash
  have hreports := reports_of_reads hreads haudit hspared hout hunlinked
  obtain ⟨hprinted, -⟩ := runWith_of_reads hreads haudit
  rw [analysed_eq_map] at hreports
  rw [Site.account, analysed_eq_map] at hprinted
  refine ⟨(readable site.tree site.reader (settings.inputFiles site.tree path)).map
    fun (file, lines) => .of file lines, audit.lines, ?_⟩
  constructor
  case audited => exact haudited
  case printed =>
    intro hplain
    rw [hprinted, analysis, hplain, List.flatMap_map, List.flatMap_map]
    simp only [List.map_eq_nil_iff]
    rfl
  case annotations =>
    have hcontents := hreports .annotationsJson
    rw [Artifact.contents, Report.annotationsJson, List.flatMap_map] at hcontents
    rw [List.flatMap_map]
    exact hcontents
  case index =>
    have hcontents := hreports .indexJson
    rw [Artifact.contents, Report.indexJson, summaries, List.map_map, List.map_map] at hcontents
    rw [List.map_map]
    exact hcontents
  case markdown =>
    have hcontents := hreports .annotationsMarkdown
    rw [Artifact.contents, Report.annotationsMarkdown, List.flatMap_map] at hcontents
    rw [List.flatMap_map]
    exact hcontents
  case summary =>
    have hcontents := hreports .summaryMarkdown
    rw [Artifact.contents, Report.summaryMarkdown, summaries, List.map_map, List.flatMap_map]
      at hcontents
    rw [List.flatMap_map]
    exact hcontents

theorem run_agrees_of_failing_program :
    let site := Site.ofTree (FileTree.withProgram ⟨[], [110, 111], 1, false⟩)
    ∃ groups audit, (run site ["a.vcl", "--out", "o"]).Agrees (Settings.reporting "a.vcl" "o")
      ⟨.relative, ["o"]⟩ [] groups audit := by
  intro site
  obtain ⟨groups, audit, hagrees⟩ := run_agrees site _ _ ⟨.relative, ["a.vcl"]⟩
    ⟨.relative, ["o"]⟩ 3 parse_reporting ⟨rfl, by decide +kernel, by decide +kernel⟩ rfl
    (FileTree.unlinked_withProgram _ _) (by decide +kernel)
  have hfile : ¬ site.tree.isFolder ⟨.relative, ["a.vcl"]⟩ = true := by decide +kernel
  rw [if_neg fun h => hfile h.1] at hagrees
  exact ⟨groups, audit, hagrees⟩

/-! ### An empty directory -/

/-- An empty directory `d`. -/
def FileTree.emptyFolder : FileTree where
  entries := [(["d"], .folder)]
  distinct := List.nodup_singleton _
  workDir := []

/-- The notice about an empty directory belongs to no group. -/
theorem run_notes_empty_folder :
    let site := Site.ofTree .emptyFolder
    let settings :=
      { Settings.usual with
        path := some ⟨.relative, ["d"]⟩
        noAudit := true
        out := some (.value ⟨.relative, ["o"]⟩) }
    let outcome := run site ["d", "--no-audit", "--out", "o"]
    CommandLine.parse ["d", "--no-audit", "--out", "o"] = .ok settings ∧
      outcome.status = .ok 0 ∧ Report.Unlinked site.tree ⟨.relative, ["o"]⟩ ∧
        ¬ ∃ groups audit, outcome.Agrees settings ⟨.relative, ["o"]⟩ [] groups audit := by
  intro site settings outcome
  refine ⟨rfl, by decide +kernel, FileTree.unlinked_of_forall (by simp [site, FileTree.emptyFolder,
    Site.ofTree]), ?_⟩
  rintro ⟨groups, audit, hagrees⟩
  have hprinted : outcome.printed = ["No files matching '*.vcl' found under 'd'."] := by
    decide +kernel
  have hlines := hagrees.printed rfl
  rw [hprinted, hagrees.audited.2 rfl] at hlines
  cases groups with
  | nil => simp at hlines
  | cons group rest => simp [FileGroup.printed] at hlines

end VclReview
