/-
  VclReview/Proofs/Rerun.lean
  ===========================
  **Running again.**  A run for a directory may put its report below that very directory.
  The next run then searches a tree that has grown, but by directories and by files of a
  report only, and these are not among the files it is to scan.  So it scans the same
  files, prints the same and writes the same report, unless the report has lengthened some
  path beyond the limit (`run_again_repeats_iff`).
-/
import VclReview.Proofs.Diagnostics
import VclReview.Proofs.SoundTrees
import Mathlib.Data.List.Sort

namespace VclReview

/-- The second run ends and prints as the first, and leaves what the first has left. -/
structure Outcome.Repeats (second first : Outcome) : Prop where
  status : second.status = first.status
  printed : second.printed = first.printed
  entries : ∀ place, second.tree.get? place = first.tree.get? place
  workDir : second.tree.workDir = first.tree.workDir

/-- The tree has grown by new directories, and has changed otherwise only where the name of
    a file of a report stands. -/
structure FileTree.GrowsBy (tree after : FileTree) : Prop where
  ways : tree.WaysIn after
  get? : ∀ place, after.get? place = tree.get? place ∨
    (tree.get? place = none ∧ after.get? place = some .folder) ∨
      ∃ artifact : Artifact, place.getLast? = some artifact.fileName

/-! ### The tree after a report -/

namespace Report

open FileTree

variable {tree : FileTree} {folder : Path} {artifact : Artifact} {place : Place}
  {results : Results} {audit : Option (List Text)}

theorem getLast?_of_landing? (hlinks : tree.LinkFree) (hfolder : tree.isFolder folder = true)
    (h : tree.landing? (folder.child artifact.fileName) = some place) :
    place.getLast? = some artifact.fileName := by
  obtain ⟨home, hhome⟩ := Option.isSome_iff_exists.1 hfolder
  have hlocate := locate_child .create hhome artifact.ofName_fileName artifact.byteCount_fileName
    (hlinks _)
  rw [landing?, hlocate] at h
  split at h
  · cases h
  · rw [eq_of_landing?_standing h]
    exact List.getLast?_concat

theorem linkFree_makeFolders (hlinks : tree.LinkFree) (folder : Path) :
    (tree.makeFolders folder).tree.LinkFree := by
  intro place target hget
  exact hlinks place target ((tree.makeFolders_prepares folder).adds.link_iff.1 hget)

theorem lastAt?_eq_some {artifacts : List Artifact}
    (h : lastAt? tree folder artifacts place = some artifact) :
    tree.landing? (folder.child artifact.fileName) = some place := by
  simpa using List.find?_some h

theorem write_grows (hlinks : tree.LinkFree)
    (h : (write tree folder results audit).failure = none) :
    tree.GrowsBy (write tree folder results audit).tree ∧
      (write tree folder results audit).tree.LinkFree := by
  obtain ⟨hfolder, -, hrewrote⟩ := write_rewrote h
  have hadds := (tree.makeFolders_prepares folder).adds
  have hmade := linkFree_makeFolders hlinks folder
  refine ⟨⟨hadds.waysIn.trans hrewrote.ways, ?_⟩, ?_⟩
  · intro place
    rw [hrewrote.get? place]
    cases hlast : lastAt? (tree.makeFolders folder).tree folder Artifact.all place with
    | none =>
      rcases hadds.get? place with hsame | hnew
      · exact Or.inl hsame
      · exact Or.inr (Or.inl hnew)
    | some artifact =>
      exact Or.inr (Or.inr ⟨artifact, getLast?_of_landing? hmade hfolder (lastAt?_eq_some hlast)⟩)
  · intro place target hget
    rw [hrewrote.get? place] at hget
    cases hlast : lastAt? (tree.makeFolders folder).tree folder Artifact.all place with
    | none =>
      rw [hlast] at hget
      exact hmade place target hget
    | some artifact =>
      rw [hlast] at hget
      cases hget

end Report

/-! ### What is said of an entry -/

section Congr

variable {tree after : FileTree} {file : Path} {settings : FolderSettings} {names : List Text}

theorem FileTree.obstacle?_congr (h : after.status file = tree.status file) :
    after.obstacle? file = tree.obstacle? file := by
  simp only [obstacle?, h]

theorem FileTree.isFolder_congr (h : after.status file = tree.status file) :
    after.isFolder file = tree.isFolder file := by
  simp only [isFolder, folder?, h]

theorem FileTree.size_congr (h : after.status file = tree.status file) :
    after.size file = tree.size file := by
  simp only [size, h]

theorem FileTree.contentsAt_congr (h : after.status file = tree.status file) :
    after.contentsAt file = tree.contentsAt file := by
  simp only [contentsAt, h]

/-- The verdict on an entry depends on what its path leads to, and on nothing else. -/
theorem FolderSettings.judge_congr
    (h : after.status (settings.root.join names) = tree.status (settings.root.join names)) :
    settings.judge after names = settings.judge tree names := by
  simp only [judge, FileTree.obstacle?_congr h, FileTree.isFolder_congr h, FileTree.size_congr h]

end Congr

/-! ### The files to scan -/

/-- A directory can be searched before and after its tree has grown, and no glob covers a
    file of a report. -/
structure FolderSettings.Rescans (settings : FolderSettings) (tree after : FileTree)
    (home : Place) : Prop where
  grows : tree.GrowsBy after
  sound : tree.Sound ∧ after.Sound
  linkFree : tree.LinkFree ∧ after.LinkFree
  clear : tree.Unobstructed settings.root ∧ after.Unobstructed settings.root
  root : tree.folder? settings.root = some home
  ignores : ∀ artifact : Artifact, settings.wants artifact.fileName = false

namespace FolderSettings.Rescans

variable {settings : FolderSettings} {tree after : FileTree} {home : Place} {names : List Text}
  {entry : Entry} {file : Path}

theorem root_after (h : settings.Rescans tree after home) :
    after.folder? settings.root = some home :=
  FileTree.folder?_of_waysIn h.grows.ways h.root

theorem status (h : settings.Rescans tree after home) (hbelow : tree.LiesBelow home names)
    (hget : tree.get? (home ++ names) = some entry) :
    (settings.root.join names).hasNul = false ∧
      tree.status (settings.root.join names) = .ok (home ++ names, entry) :=
  h.sound.1.status_of_liesBelow h.linkFree.1 h.clear.1 h.root hbelow hget

theorem status_after (h : settings.Rescans tree after home) (hbelow : after.LiesBelow home names)
    (hget : after.get? (home ++ names) = some entry) :
    (settings.root.join names).hasNul = false ∧
      after.status (settings.root.join names) = .ok (home ++ names, entry) :=
  h.sound.2.status_of_liesBelow h.linkFree.2 h.clear.2 h.root_after hbelow hget

theorem get?_cases (h : settings.Rescans tree after home) (hnames : names ≠ [])
    (hwants : settings.wants (names.getLast?.getD []) = true) :
    after.get? (home ++ names) = tree.get? (home ++ names) ∨
      tree.get? (home ++ names) = none ∧ after.get? (home ++ names) = some .folder := by
  rcases h.grows.get? (home ++ names) with hsame | hnew | ⟨artifact, hlast⟩
  · exact Or.inl hsame
  · exact Or.inr hnew
  · -- no glob covers a file of a report
    rw [List.getLast?_append_of_ne_nil _ hnames] at hlast
    rw [hlast, Option.getD_some, h.ignores] at hwants
    cases hwants

theorem old_stays (h : settings.Rescans tree after home) (hbelow : tree.LiesBelow home names)
    (hwants : settings.wants (names.getLast?.getD []) = true) :
    after.LiesBelow home names ∧
      after.status (settings.root.join names) = tree.status (settings.root.join names) := by
  obtain ⟨hnames, ⟨entry, hget⟩, -⟩ := id hbelow
  have hafter : after.get? (home ++ names) = some entry := by
    rcases h.get?_cases hnames hwants with hsame | ⟨hfree, -⟩
    · rw [hsame, hget]
    · cases hfree.symm.trans hget
  have hbelow' := h.sound.2.liesBelow hnames hafter
  refine ⟨hbelow', ?_⟩
  rw [(h.status_after hbelow' hafter).2, (h.status hbelow hget).2]

theorem was_there (h : settings.Rescans tree after home)
    (hbelow : after.LiesBelow home names)
    (hwants : settings.wants (names.getLast?.getD []) = true)
    (hfile : after.isFolder (settings.root.join names) = false) : tree.LiesBelow home names := by
  obtain ⟨hnames, ⟨entry, hget⟩, -⟩ := id hbelow
  rcases h.get?_cases hnames hwants with hsame | ⟨-, hnew⟩
  · rw [hsame] at hget
    exact h.sound.1.liesBelow hnames hget
  · -- what is new and wanted is a directory
    have hfolder := FileTree.folder?_eq_some_iff_status.2 (h.status_after hbelow hnew)
    rw [FileTree.isFolder, hfolder] at hfile
    cases hfile

theorem entryBelow_iff (h : settings.Rescans tree after home) :
    tree.EntryBelow settings.root names ↔ tree.LiesBelow home names := by
  simp [FileTree.EntryBelow, h.root]

theorem entryBelow_after_iff (h : settings.Rescans tree after home) :
    after.EntryBelow settings.root names ↔ after.LiesBelow home names := by
  simp [FileTree.EntryBelow, h.root_after]

theorem mem_files_iff (h : settings.Rescans tree after home) :
    file ∈ settings.files after ↔ file ∈ settings.files tree := by
  rw [VclReview.mem_files_iff, VclReview.mem_files_iff]
  constructor
  · rintro ⟨names, hbelow, rfl, hchosen⟩
    have hwants := wants_of_chosen hchosen
    have hfile := (clear_of_chosen hchosen).2
    have hold := h.was_there (h.entryBelow_after_iff.1 hbelow) hwants hfile
    refine ⟨names, h.entryBelow_iff.2 hold, rfl, ?_⟩
    rw [← judge_congr (h.old_stays hold hwants).2, hchosen]
  · rintro ⟨names, hbelow, rfl, hchosen⟩
    obtain ⟨hstays, hsame⟩ := h.old_stays (h.entryBelow_iff.1 hbelow) (wants_of_chosen hchosen)
    refine ⟨names, h.entryBelow_after_iff.2 hstays, rfl, ?_⟩
    rw [judge_congr hsame, hchosen]

/-- **The same files are scanned.** -/
theorem files (h : settings.Rescans tree after home) :
    settings.files after = settings.files tree := by
  have hirrefl : Std.Irrefl fun p q : Path => p.parts < q.parts := ⟨fun _ => lt_irrefl _⟩
  have hantisymm : Std.Antisymm fun p q : Path => p.parts < q.parts :=
    ⟨fun _ _ hlt hgt => absurd (hlt.trans hgt) (lt_irrefl _)⟩
  exact List.Pairwise.eq_of_mem_iff (pairwise_files after settings) (pairwise_files tree settings)
    fun _ => h.mem_files_iff

theorem contentsAt (h : settings.Rescans tree after home) (hfile : file ∈ settings.files tree) :
    after.contentsAt file = tree.contentsAt file := by
  obtain ⟨names, hbelow, rfl, hchosen⟩ := VclReview.mem_files_iff.1 hfile
  exact FileTree.contentsAt_congr
    (h.old_stays (h.entryBelow_iff.1 hbelow) (wants_of_chosen hchosen)).2

/-- Nothing stops the scan that has not stopped it before. -/
theorem goesOn (h : settings.Rescans tree after home) (hgoes : settings.GoesOn tree) :
    settings.GoesOn after where
  unobstructed := h.clear.2
  limited hblank names hadmits := by
    have hwants := ((admits_iff hadmits.below).1 hadmits).2.2
    have hold := h.was_there (h.entryBelow_after_iff.1 hadmits.below) hwants hadmits.not_folder
    obtain ⟨-, hsame⟩ := h.old_stays hold hwants
    have hadmitted : settings.Admits tree names := by
      refine ⟨h.entryBelow_iff.2 hold, ?_, hadmits.named⟩
      rw [← FileTree.isFolder_congr hsame, hadmits.not_folder]
    obtain ⟨error, herror⟩ := hgoes.limited hblank names hadmitted
    exact ⟨error, by rw [FileTree.size_congr hsame, herror]⟩

theorem scanFiles (h : settings.Rescans tree after home) (reader : TextReader)
    (shapes : List Shape) :
    VclReview.scanFiles after reader shapes settings (settings.files tree) =
      VclReview.scanFiles tree reader shapes settings (settings.files tree) := by
  have hscans : (settings.files tree).map (fun file => (file, scanFile after reader shapes file)) =
      (settings.files tree).map fun file => (file, scanFile tree reader shapes file) := by
    apply List.map_congr_left
    intro file hfile
    simp only [scanFile, h.contentsAt hfile]
  simp only [VclReview.scanFiles, hscans]

end FolderSettings.Rescans

variable {settings : Settings} {tree after : FileTree} {reader : TextReader} {root : Path}
  {home : Place} {site : Site} {status : Nat}

/-- **The second scan finds what the first has found.** -/
theorem scanPath_again (h : (settings.folder root).Rescans tree after home)
    (hstop : (scanPath tree reader settings root).stop = none) :
    (scanPath after reader settings root).stop = none ∧
      (scanPath after reader settings root).results =
        (scanPath tree reader settings root).results := by
  have hfolder : tree.isFolder root = true := Option.isSome_iff_exists.2 ⟨home, h.root⟩
  have hfolder' : after.isFolder root = true := Option.isSome_iff_exists.2 ⟨home, h.root_after⟩
  have hgoes := goesOn_of_stop hfolder hstop
  obtain ⟨hfirst, hresults⟩ := scanFolder_of_goesOn hgoes reader
  obtain ⟨hsecond, hresults'⟩ := scanFolder_of_goesOn (h.goesOn hgoes) reader
  rw [h.files, h.scanFiles] at hsecond hresults'
  rw [scanPath, if_pos hfolder] at hstop
  rw [scanPath, if_pos hfolder', scanPath, if_pos hfolder]
  exact ⟨by rw [hsecond, ← hfirst, hstop], by rw [hresults', hresults]⟩

/-! ### The second run -/

/-- The logger has no part in how a run ends, in what it prints and in what it leaves. -/
theorem runWith_logger (site : Site) (settings : Settings) (logger : Logger) :
    (runWith { site with logger := logger } settings).status = (runWith site settings).status ∧
      (runWith { site with logger := logger } settings).printed =
        (runWith site settings).printed ∧
      (runWith { site with logger := logger } settings).tree = (runWith site settings).tree := by
  have hrun : runWith { site with logger := logger } settings = _ :=
    runWith_withLogger site settings logger
  rw [hrun]
  exact ⟨rfl, rfl, rfl⟩

theorem ignores_of_usual_globs (hglobs : settings.globs = .value "*.vcl") (root : Path)
    (artifact : Artifact) : (settings.folder root).wants artifact.fileName = false := by
  simp only [FolderSettings.wants, Settings.folder, hglobs]
  cases artifact <;> decide

/-- Writing the report a second time changes nothing. -/
theorem writeReport_again {results : Results} {audit : Option (List Text)}
    (hsound : tree.Sound) (hlinks : tree.LinkFree)
    (hwritten : writeReport tree settings results audit = (after, none)) :
    tree.GrowsBy after ∧ after.Sound ∧ after.LinkFree ∧
      (writeReport after settings results audit).2 = none ∧
        (writeReport after settings results audit).1.workDir = after.workDir ∧
          ∀ place, (writeReport after settings results audit).1.get? place = after.get? place := by
  unfold writeReport at hwritten ⊢
  cases hout : settings.out with
  | none =>
    -- without a directory for it there is no report
    simp only [hout, Prod.mk.injEq, and_true] at hwritten
    subst hwritten
    exact ⟨⟨FileTree.WaysIn.refl tree, fun _ => Or.inl rfl⟩, hsound, hlinks, rfl, rfl, fun _ => rfl⟩
  | some out =>
    cases out with
    | blank => simp [hout] at hwritten
    | value folder =>
      simp only [hout, Prod.mk.injEq, Option.map_eq_none_iff] at hwritten ⊢
      obtain ⟨rfl, hnone⟩ := hwritten
      obtain ⟨hgrows, hfree⟩ := Report.write_grows hlinks hnone
      obtain ⟨hagain, hworkDir, hsame⟩ := Report.write_again hnone
      exact ⟨hgrows, hsound.write folder results audit, hfree, hagain, hworkDir, hsame⟩

/-- The site that a run leaves to the next one. -/
def Site.left (site : Site) (outcome : Outcome) (logger : Logger) : Site :=
  { site with tree := outcome.tree, logger }

theorem repeats_of_stop {error : ScanError} (hpath : settings.path = some root)
    (hthere : site.tree.pathExists root = true)
    (hstop : (scanPath site.tree site.reader settings root).stop = some error) (logger : Logger) :
    (runWith (site.left (runWith site settings) logger) settings).Repeats
      (runWith site settings) := by
  have htree : (runWith site settings).tree = site.tree := by
    rw [runWith_of_stop hpath hthere hstop]
    unfold abandon
    cases error.blamesFile with
    | true => rfl
    | false => rfl
  obtain ⟨hstatus, hprinted, htree'⟩ := runWith_logger site settings logger
  rw [Site.left, htree]
  exact ⟨hstatus, hprinted, fun _ => by rw [htree'], by rw [htree']⟩

theorem writeReport_of_status (hreads : site.Reads settings root) (hoff : settings.noAudit = true)
    (hstatus : (runWith site settings).status = .ok status) :
    status = 0 ∧ writeReport site.tree settings
      (analysed site.tree site.reader (settings.inputFiles site.tree root)) none =
        ((runWith site settings).tree, none) := by
  obtain ⟨audit, haudit, hended, hwritten⟩ := exists_report_of_status hreads hstatus
  rw [runAudit_of_noAudit hoff] at haudit
  cases haudit
  exact ⟨hended, hwritten⟩

theorem reads_of_status (hpath : settings.path = some root)
    (hthere : site.tree.pathExists root = true)
    (hstatus : (runWith site settings).status = .ok 0) : site.Reads settings root := by
  refine ⟨hpath, hthere, ?_⟩
  cases hstop : (scanPath site.tree site.reader settings root).stop with
  | none => rfl
  | some error =>
    rcases status_of_stop hpath hthere hstop with hrefused | hcrash
    · cases hstatus.symm.trans hrefused
    · cases hstatus.symm.trans hcrash

/-- A scan that was not stopped is not stopped again, and the run repeats the first one, if
    nothing is in its way. -/
theorem repeats_of_reads (hreads : site.Reads settings root)
    (hglobs : settings.globs = .value "*.vcl") (hoff : settings.noAudit = true)
    (hsound : site.tree.Sound) (hlinks : site.tree.LinkFree)
    (hfolder : site.tree.isFolder root = true)
    (hstatus : (runWith site settings).status = .ok status)
    (hclear : (runWith site settings).tree.Unobstructed root) (logger : Logger) :
    (runWith (site.left (runWith site settings) logger) settings).Repeats
      (runWith site settings) := by
  obtain ⟨rfl, hwritten⟩ := writeReport_of_status hreads hoff hstatus
  obtain ⟨hgrows, hsound', hlinks', hagain, hworkDir, hsame⟩ :=
    writeReport_again hsound hlinks hwritten
  obtain ⟨home, hhome⟩ := Option.isSome_iff_exists.1 hfolder
  have hrescans : (settings.folder root).Rescans site.tree (runWith site settings).tree home :=
    ⟨hgrows, ⟨hsound, hsound'⟩, ⟨hlinks, hlinks'⟩,
      ⟨(goesOn_of_stop hfolder hreads.goes_on).unobstructed, hclear⟩, hhome,
      ignores_of_usual_globs hglobs root⟩
  have hfolder' : (runWith site settings).tree.isFolder root = true :=
    Option.isSome_iff_exists.2 ⟨home, hrescans.root_after⟩
  obtain ⟨hstop, hresults⟩ := scanPath_again hrescans hreads.goes_on
  have hreads' : (site.left (runWith site settings) logger).Reads settings root :=
    ⟨hreads.given, FileTree.pathExists_of_isFolder hfolder', hstop⟩
  have hanalysed := (hreads'.results.symm.trans hresults).trans hreads.results
  obtain ⟨hprinted, -⟩ := runWith_of_reads hreads (runAudit_of_noAudit hoff)
  obtain ⟨hprinted', -, -, htree', hended'⟩ := runWith_of_reads hreads' (runAudit_of_noAudit hoff)
  rw [hanalysed] at htree' hended'
  have hleft : (site.left (runWith site settings) logger).tree = (runWith site settings).tree := rfl
  rw [hleft, hagain] at hended'
  rw [hleft] at htree'
  constructor
  case status => exact hended'.trans hstatus.symm
  case printed =>
    rw [hprinted', hprinted, Site.account, Site.account, hanalysed]
    simp only [analysis, hfolder, hfolder', Site.left]
  case entries =>
    intro place
    rw [htree']
    exact hsame place
  case workDir =>
    rw [htree']
    exact hworkDir

/-- **Running again repeats the first run**, unless that has brought a path below the
    directory that is too long to be searched. -/
theorem run_again_repeats_iff (site : Site) (arguments : List Text) (settings : Settings)
    (root : Path) (status : Nat) (logger : Logger)
    (hparse : CommandLine.parse arguments = .ok settings) (hpath : settings.path = some root)
    (hglobs : settings.globs = .value "*.vcl") (hoff : settings.noAudit = true)
    (hsound : site.tree.Sound) (hlinks : site.tree.LinkFree)
    (hfolder : site.tree.isFolder root = true)
    (hstatus : (run site arguments).status = .ok status) :
    (run (site.left (run site arguments) logger) arguments).Repeats (run site arguments) ↔
      (status = 0 → (run site arguments).tree.Unobstructed root) := by
  simp only [run_of_parse hparse] at hstatus ⊢
  have hthere := FileTree.pathExists_of_isFolder hfolder
  cases hstop : (scanPath site.tree site.reader settings root).stop with
  | some error =>
    -- without input nothing has changed, and the status is not that of a run that is done
    refine iff_of_true (repeats_of_stop hpath hthere hstop logger) ?_
    rintro rfl
    cases hstop.symm.trans (reads_of_status hpath hthere hstatus).goes_on
  | none =>
    have hreads : site.Reads settings root := ⟨hpath, hthere, hstop⟩
    obtain ⟨rfl, hwritten⟩ := writeReport_of_status hreads hoff hstatus
    constructor
    · intro hrepeats _
      -- the second run is done too, so nothing has stopped its scan
      obtain ⟨hgrows, -⟩ := writeReport_again hsound hlinks hwritten
      obtain ⟨home, hhome⟩ := Option.isSome_iff_exists.1 hfolder
      have hfolder' : (runWith site settings).tree.isFolder root = true :=
        Option.isSome_iff_exists.2 ⟨home, FileTree.folder?_of_waysIn hgrows.ways hhome⟩
      have hreads' := reads_of_status hpath (FileTree.pathExists_of_isFolder hfolder')
        (hrepeats.status.trans hstatus)
      exact (goesOn_of_stop hfolder' hreads'.goes_on).unobstructed
    · intro hclear
      exact repeats_of_reads hreads hglobs hoff hsound hlinks hfolder hstatus (hclear rfl) logger

/-- A name that is almost as long as a name can be. -/
def Text.longName : Text := List.replicate 251 'x'

/-- A directory `d` with one file, beside an empty one with a long name. -/
def FileTree.besideLongName : FileTree where
  entries :=
    [(["d"], .folder), (["d", "a.vcl"], .file ⟨[120], false, none⟩), ([Text.longName], .folder)]
  distinct := by
    simp only [List.map]
    decide +kernel
  workDir := []

theorem linkFree_besideLongName : FileTree.besideLongName.LinkFree := by
  apply FileTree.linkFree_of_forall
  simp [FileTree.besideLongName]

theorem sound_besideLongName : FileTree.besideLongName.Sound := by
  apply linkFree_besideLongName.sound rfl
  decide +kernel

theorem run_again_repeats_below_input :
    let site := Site.ofTree .besideLongName
    let arguments : List Text := ["--no-audit", "--out", "d/o", "--", "d"]
    let first := run site arguments
    first.tree.isFolder ⟨.relative, ["d", "o"]⟩ = true ∧
      (run (site.left first .fresh) arguments).Repeats first := by
  intro site arguments first
  have hfolder : site.tree.isFolder ⟨.relative, ["d"]⟩ = true := by decide
  have hstatus : first.status = .ok 0 := by decide +kernel
  refine ⟨by decide +kernel, ?_⟩
  apply (run_again_repeats_iff site arguments _ ⟨.relative, ["d"]⟩ 0 .fresh rfl rfl rfl rfl
    sound_besideLongName linkFree_besideLongName hfolder hstatus).2
  intro _
  decide +kernel

/-- A path that goes into a directory and out again many times before it goes into `d`. -/
def Path.winding : Path :=
  ⟨.relative, (List.replicate 16 [Text.longName, ".."]).flatten ++ [("d" : Text)]⟩

/-- The report of the first run stops the second one. -/
theorem run_again_meets_long_path :
    let site := Site.ofTree .besideLongName
    let arguments : List Text :=
      ["--no-audit", "--no-progress", "--out", "d/o", "--", Path.winding.toText]
    let settings :=
      { Settings.usual with
        path := some Path.winding
        noAudit := true
        noProgress := true
        out := some (.value ⟨.relative, ["d", "o"]⟩) }
    let first := run site arguments
    CommandLine.parse arguments = .ok settings ∧ site.tree.Sound ∧ site.tree.LinkFree ∧
      site.tree.isFolder Path.winding = true ∧ first.status = .ok 0 ∧
        (run (site.left first .fresh) arguments).status = .ok 1 := by
  intro site arguments settings first
  have hproper : Path.winding.Proper := by
    unfold Path.Proper
    decide +kernel
  have hparse (text : Text) :
      CommandLine.parse ["--no-audit", "--no-progress", "--out", "d/o", "--", text] =
        .ok { settings with path := some (Path.ofText text) } := rfl
  have hpath := Path.ofText_toText hproper
  refine ⟨by rw [hparse, hpath], sound_besideLongName, linkFree_besideLongName, ?_, ?_⟩
  · decide +kernel
  · decide +kernel

end VclReview
