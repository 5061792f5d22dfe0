/-
  VclReview/Proofs/EmptyNotice.lean
  =================================
  **When a run says that there are no files.**  The notice is printed exactly if the scan of
  the directory comes to its end and none of the files that match is analysed
  (`run_notice_iff`).  So it is true of a directory in which nothing matches, and untrue of
  one whose matching files are all too large, without a size, or no text.
-/
import VclReview.Proofs.AuditOutcome
import VclReview.Proofs.Display
import VclReview.Proofs.Isolation
import VclReview.Proofs.LineByLine

namespace VclReview

/-- How the notice begins, and no other line does. -/
def noticeLead : Text := ['N', 'o', ' ', 'f']

/-- The file is small enough to be scanned, and it can be read as text. -/
structure FolderSettings.Analyses (settings : FolderSettings) (tree : FileTree)
    (reader : TextReader) (names : List Text) : Prop where
  small : ∃ limit, ∃ size : Nat, settings.sizeLimit = .value limit ∧
    tree.size (settings.root.join names) = .ok size ∧ size ≤ limit
  legible : (tree.textAt? reader (settings.root.join names)).isSome = true

/-! ### How the other lines begin -/

theorem noticeLead_prefix_emptyNotice (settings : Settings) (path : Path) :
    noticeLead <+: emptyNotice settings path := by
  have hwords : "No files matching '".toList = _ := toList_eq rfl
  unfold emptyNotice
  simp only [hwords, List.append_assoc]
  exact ⟨_, rfl⟩

theorem not_noticeLead_prefix {words : String} {chars : List Char} {line : Text}
    (hline : words.toList <+: line) (hwords : words = String.ofList chars)
    (hchars : Apart noticeLead chars) : ¬ noticeLead <+: line := by
  rw [toList_eq hwords] at hline
  exact hchars.not_prefix_left hline

theorem not_noticeLead_of_mem_fileReport {lineNumbers : Bool} {file : Path} {text line : Text}
    (h : line ∈ fileReport lineNumbers file (annotationsOf file.toText 1 (Text.lines text))) :
    ¬ noticeLead <+: line := by
  rcases List.mem_cons.1 h with rfl | h
  · exact not_noticeLead_prefix (List.prefix_append _ _) rfl (by decide)
  obtain ⟨a, ha, hline⟩ := List.mem_flatMap.1 h
  obtain ⟨source, -, lineNumber, rfl⟩ := mem_annotationsOf ha
  have hmessage (hm : line ∈ (annotationOf source lineNumber file.toText).messages) :
      ¬ noticeLead <+: line := by
    intro hlead
    have hshort : ['N', 'o', ' '] <+: noticeLead := by decide
    exact not_prefix_of_mem_messages (by decide) hm (hshort.trans hlead)
  cases lineNumbers with
  | false => exact hmessage hline
  | true =>
    rcases List.mem_cons.1 hline with rfl | hm
    · have hplace := Annotation.head?_place (annotationOf source lineNumber file.toText)
      have hapart : Apart noticeLead ['['] := by decide
      exact hapart.not_prefix_left (singleton_prefix_iff.2 hplace)
    · exact hmessage hm

theorem head?_advise (header : Text) : (advise header).head? = some 'R' := by
  unfold advise
  split
  case h_2 => rfl
  case h_1 advice hadvice =>
    have htable : ∀ entry ∈ headerAdvice, entry.2.head? = some 'R' := by
      simp only [headerAdvice, List.forall_mem_cons]
      exact ⟨congrArg List.head? (toList_eq rfl), congrArg List.head? (toList_eq rfl),
        congrArg List.head? (toList_eq rfl), by simp⟩
    obtain ⟨before, after, hentry, -⟩ := List.lookup_eq_some_iff.1 hadvice
    exact htable (header, advice) (hentry ▸ List.mem_append_cons_self)

theorem not_noticeLead_of_mem_auditHeaders {headers : List Text} {line : Text}
    (h : line ∈ auditHeaders headers) : ¬ noticeLead <+: line := by
  by_cases hnil : headers = []
  · subst hnil
    obtain rfl := List.mem_singleton.1 h
    exact not_noticeLead_prefix List.prefix_rfl rfl (by decide)
  rw [auditHeaders_of_ne_nil hnil] at h
  rcases List.mem_cons.1 h with rfl | h
  · exact not_noticeLead_prefix List.prefix_rfl rfl (by decide)
  obtain ⟨header, -, hline⟩ := List.mem_flatMap.1 h
  rcases List.mem_pair.1 hline with rfl | rfl
  · exact not_noticeLead_prefix (List.prefix_append _ _) rfl (by decide)
  · have hapart : Apart noticeLead ['R'] := by decide
    exact hapart.not_prefix_left (singleton_prefix_iff.2 (head?_advise header))

theorem not_noticeLead_of_mem_auditLines {clock : Clock} {tree : FileTree} {settings : Settings}
    {line : Text} (h : line ∈ settings.auditLines clock tree) : ¬ noticeLead <+: line := by
  unfold Settings.auditLines at h
  rcases runAudit_cases clock tree settings with
    ⟨-, haudit⟩ | ⟨-, ⟨headers, -, haudit⟩ | ⟨error, -, haudit⟩ | ⟨-, failure, haudit⟩⟩
  · rw [haudit] at h
    cases h
  · rw [haudit] at h
    exact not_noticeLead_of_mem_auditHeaders h
  · rw [haudit] at h
    obtain rfl := List.mem_singleton.1 h
    exact not_noticeLead_prefix (List.prefix_append _ _) rfl (by decide)
  · rw [haudit] at h
    cases h

/-! ### What is analysed -/

section Folder

variable {tree : FileTree} {reader : TextReader} {settings : FolderSettings} {names : List Text}

theorem FolderSettings.limit_of_chosen (h : settings.judge tree names = .chosen) :
    ∃ limit, settings.sizeLimit = .value limit := by
  cases hlimit : settings.sizeLimit with
  | value limit => exact ⟨limit, rfl⟩
  | blank =>
    -- without a limit an entry that passes all other filters has nothing to be compared with
    unfold judge at h
    simp only [(clear_of_chosen h).1, (clear_of_chosen h).2, Bool.false_eq_true, if_false,
      hlimit] at h
    split at h
    · cases h
    split at h
    · cases h
    · cases hsize : tree.size (settings.root.join names) <;> simp [hsize] at h

theorem mem_files_iff_of_unobstructed (h : tree.Unobstructed settings.root) {file : Path} :
    file ∈ settings.files tree ↔ ∃ names, file = settings.root.join names ∧
      settings.Admits tree names ∧ ∃ limit, ∃ size : Nat, settings.sizeLimit = .value limit ∧
        tree.size file = .ok size ∧ size ≤ limit := by
  rw [mem_files_iff]
  constructor
  · rintro ⟨names, hbelow, rfl, hchosen⟩
    obtain ⟨limit, hlimit⟩ := FolderSettings.limit_of_chosen hchosen
    obtain ⟨hadmits, size, hsize, hle⟩ :=
      (FolderSettings.judge_eq_chosen_iff hlimit hbelow (h.2 names hbelow)).1 hchosen
    exact ⟨names, rfl, hadmits, limit, size, hlimit, hsize, hle⟩
  · rintro ⟨names, rfl, hadmits, limit, size, hlimit, hsize, hle⟩
    have hclear := h.2 names hadmits.below
    exact ⟨names, hadmits.below, rfl,
      (FolderSettings.judge_eq_chosen_iff hlimit hadmits.below hclear).2 ⟨hadmits, size, hsize, hle⟩⟩

theorem analysed_eq_nil_iff {files : List Path} :
    analysed tree reader files = [] ↔ ∀ file ∈ files, tree.textAt? reader file = none := by
  simp only [analysed, List.filterMap_eq_nil_iff, Option.map_eq_none_iff]

theorem analysed_files_eq_nil_iff (h : tree.Unobstructed settings.root) :
    analysed tree reader (settings.files tree) = [] ↔
      ∀ names, settings.Admits tree names → ¬ settings.Analyses tree reader names := by
  simp only [analysed_eq_nil_iff, mem_files_iff_of_unobstructed h]
  constructor
  · intro hnone names hadmits hanalyses
    have htext := hnone _ ⟨names, rfl, hadmits, hanalyses.small⟩
    have hsome := hanalyses.legible
    rw [htext] at hsome
    cases hsome
  · rintro hnone file ⟨names, rfl, hadmits, hsmall⟩
    by_contra htext
    exact hnone names hadmits ⟨hsmall, Option.isSome_iff_ne_none.2 htext⟩

end Folder

/-! ### The run -/

variable {site : Site} {settings : Settings} {path : Path}

theorem emptyNotice_mem_account_iff (hfolder : site.tree.isFolder path = true) :
    emptyNotice settings path ∈ site.account settings path ↔
      analysed site.tree site.reader (settings.inputFiles site.tree path) = [] := by
  unfold Site.account analysis
  generalize hresults : analysed site.tree site.reader (settings.inputFiles site.tree path) = results
  by_cases hnone : results = []
  · rw [if_pos ⟨hfolder, hnone⟩]
    exact iff_of_true (List.mem_append_left _ (List.mem_singleton.2 rfl)) hnone
  rw [if_neg fun h => hnone h.2, List.nil_append]
  refine iff_of_false ?_ hnone
  intro hnotice
  obtain ⟨⟨file, annotations⟩, hresult, hline⟩ := List.mem_flatMap.1 hnotice
  obtain ⟨-, text, -, rfl⟩ := mem_analysed_iff.1 (hresults ▸ hresult)
  exact not_noticeLead_of_mem_fileReport hline (noticeLead_prefix_emptyNotice settings path)

theorem emptyNotice_not_mem_of_stop {error : ScanError} (hpath : settings.path = some path)
    (hthere : site.tree.pathExists path = true)
    (h : (scanPath site.tree site.reader settings path).stop = some error) :
    emptyNotice settings path ∉ (runWith site settings).printed := by
  rw [runWith_of_stop hpath hthere h]
  unfold abandon
  intro hnotice
  cases hblames : error.blamesFile with
  | false =>
    simp only [hblames] at hnotice
    cases hnotice
  | true =>
    simp only [hblames, if_true] at hnotice
    have hline := List.mem_singleton.1 hnotice
    have hlead := noticeLead_prefix_emptyNotice settings path
    rw [hline] at hlead
    exact not_noticeLead_prefix (List.prefix_append _ _) rfl (by decide) hlead

theorem emptyNotice_mem_iff (hpath : settings.path = some path)
    (hfolder : site.tree.isFolder path = true) :
    emptyNotice settings path ∈ (runWith site settings).printed ↔
      site.Reads settings path ∧ ∀ names, (settings.folder path).Admits site.tree names →
        ¬ (settings.folder path).Analyses site.tree site.reader names := by
  have hthere := FileTree.pathExists_of_isFolder hfolder
  cases hstop : (scanPath site.tree site.reader settings path).stop with
  | some error =>
    refine iff_of_false (emptyNotice_not_mem_of_stop hpath hthere hstop) ?_
    rintro ⟨hreads, -⟩
    cases hstop.symm.trans hreads.goes_on
  | none =>
    have hreads : site.Reads settings path := ⟨hpath, hthere, hstop⟩
    have haudit : emptyNotice settings path ∉ settings.auditLines site.clock site.tree := by
      intro hmem
      exact not_noticeLead_of_mem_auditLines hmem (noticeLead_prefix_emptyNotice settings path)
    rw [printed_of_reads hreads, List.mem_append, or_iff_left haudit,
      emptyNotice_mem_account_iff hfolder, Settings.inputFiles, if_pos hfolder,
      analysed_files_eq_nil_iff (goesOn_of_stop hfolder hstop).unobstructed]
    exact (and_iff_right hreads).symm

theorem reads_iff_goesOn (hreader : site.reader.NamesEncodings)
    (hpath : settings.path = some path) (hfolder : site.tree.isFolder path = true) :
    site.Reads settings path ↔ (settings.folder path).GoesOn site.tree := by
  have hgoes := @scanPath_goes_on_iff site.tree site.reader hreader settings path
  rw [if_pos hfolder] at hgoes
  rw [← hgoes]
  constructor
  · intro hreads
    exact hreads.goes_on
  · intro hstop
    exact ⟨hpath, FileTree.pathExists_of_isFolder hfolder, hstop⟩

/-- **A run says that there are no files exactly if it has analysed none.**  What it says is
    true exactly if, where the run gets past its input and anything matches, a file that
    matches is analysed. -/
theorem run_notice_iff (site : Site) (arguments : List Text) (settings : Settings) (path : Path)
    (hparse : CommandLine.parse arguments = .ok settings) (hpath : settings.path = some path)
    (hfolder : site.tree.isFolder path = true) :
    (emptyNotice settings path ∈ (run site arguments).printed ↔
        site.Reads settings path ∧ ∀ names, (settings.folder path).Admits site.tree names →
          ¬ (settings.folder path).Analyses site.tree site.reader names) ∧
      ((emptyNotice settings path ∈ (run site arguments).printed →
          ∀ names, ¬ (settings.folder path).Admits site.tree names) ↔
        (site.Reads settings path →
          (∃ names, (settings.folder path).Admits site.tree names) →
            ∃ names, (settings.folder path).Admits site.tree names ∧
              (settings.folder path).Analyses site.tree site.reader names)) ∧
      (site.reader.NamesEncodings →
        (site.Reads settings path ↔ (settings.folder path).GoesOn site.tree)) := by
  rw [run_of_parse hparse, emptyNotice_mem_iff hpath hfolder]
  refine ⟨Iff.rfl, ⟨?_, ?_⟩, fun hreader => reads_iff_goesOn hreader hpath hfolder⟩
  · rintro htrue hreads ⟨names, hadmits⟩
    by_contra hnone
    exact htrue ⟨hreads, fun other hother hanalyses => hnone ⟨other, hother, hanalyses⟩⟩ names
      hadmits
  · rintro hsome ⟨hreads, hnone⟩ names hadmits
    obtain ⟨other, hother, hanalyses⟩ := hsome hreads ⟨names, hadmits⟩
    exact hnone other hother hanalyses

/-- The settings of a run that analyses the directory `d` and does nothing else. -/
def Settings.analysing : Settings :=
  { Settings.usual with path := some ⟨.relative, ["d"]⟩, noAudit := true }

/-- A file that is no text does not lead to the notice where another one is analysed. -/
theorem run_notice_spares_analysed_file :
    let site := Site.ofTree .withBinary
    let folder := Settings.analysing.folder ⟨.relative, ["d"]⟩
    (∃ names, folder.Admits site.tree names ∧ ¬ folder.Analyses site.tree site.reader names) ∧
      emptyNotice .analysing ⟨.relative, ["d"]⟩ ∉ (run site ["d", "--no-audit"]).printed := by
  intro site folder
  have hadmits (name : Text) (hbelow : [name] ∈ site.tree.entriesBelow folder.root)
      (hfile : site.tree.isFolder (folder.root.join [name]) = false)
      (hwants : folder.wants name = true) : folder.Admits site.tree [name] :=
    (FolderSettings.admits_iff (FileTree.mem_entriesBelow_iff.1 hbelow)).2 ⟨hfile, rfl, hwants⟩
  obtain ⟨hnotice, -⟩ := run_notice_iff site ["d", "--no-audit"] .analysing ⟨.relative, ["d"]⟩ rfl
    rfl (by decide +kernel)
  constructor
  · refine ⟨["b.vcl"], hadmits _ (by decide +kernel) (by decide +kernel) (by decide +kernel), ?_⟩
    intro hanalyses
    exact absurd hanalyses.legible (by decide +kernel)
  · intro hprinted
    refine (hnotice.1 hprinted).2 ["a.vcl"]
      (hadmits _ (by decide +kernel) (by decide +kernel) (by decide +kernel)) ?_
    exact ⟨⟨_, 1, rfl, by decide +kernel, by decide⟩, by decide +kernel⟩

/-- A directory `d` whose only file is no text. -/
def FileTree.onlyBinary : FileTree where
  entries := [(["d"], .folder), (["d", "a.vcl"], .file ⟨[0], false, none⟩)]
  distinct := by
    simp only [List.map]
    decide
  workDir := []

/-- A run says that there are no files where one that matches is no text. -/
theorem run_notice_denies_binary_file :
    let site := Site.ofTree .onlyBinary
    CommandLine.parse ["d", "--no-audit"] = .ok .analysing ∧
      (run site ["d", "--no-audit"]).printed = [emptyNotice .analysing ⟨.relative, ["d"]⟩] ∧
      emptyNotice .analysing ⟨.relative, ["d"]⟩ =
        "No files matching '*.vcl' found under 'd'.".toList ∧
      (Settings.analysing.folder ⟨.relative, ["d"]⟩).Admits site.tree ["a.vcl"] := by
  intro site
  refine ⟨rfl, by decide +kernel, by decide +kernel, ?_⟩
  have hbelow : site.tree.EntryBelow ⟨.relative, ["d"]⟩ ["a.vcl"] :=
    FileTree.mem_entriesBelow_iff.1 (by decide +kernel)
  exact (FolderSettings.admits_iff hbelow).2
    ⟨by decide +kernel, by decide +kernel, by decide +kernel⟩

end VclReview
