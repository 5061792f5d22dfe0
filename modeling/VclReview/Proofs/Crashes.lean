/-
  VclReview/Proofs/Crashes.lean
  =============================
  **What ends a run without a status.**  A run returns a status unless it cannot be told
  whether its path exists, a size has nothing to be compared with, the administration program
  cannot be asked, or the report cannot be written (`run_returns_iff`).  The first and the
  last of these are faults of the disk that nobody catches, since only the scan of the input
  is guarded against such faults.
-/
import VclReview.Proofs.Landing
import VclReview.Proofs.Runs

namespace VclReview

/-- Whether the run was ended by an operation on the disk that was refused. -/
def Crash.ofDisk : Crash → Bool
  | .input error | .scan (.disk error) | .report error => error != .nulInName
  | _ => false

/-! ### Sizes without a limit -/

/-- The scan comes to a file with a size, nothing having been in its way, and there is no limit
    to compare the size with. -/
def FolderSettings.LacksLimit (settings : FolderSettings) (tree : FileTree) : Prop :=
  settings.sizeLimit = .blank ∧ ∃ before names after,
    tree.search settings.root = .ok (before ++ names :: after) ∧
      (∀ other ∈ before, tree.obstacle? (settings.root.join other) = none) ∧
        tree.obstacle? (settings.root.join names) = none ∧ settings.Admits tree names ∧
          ∃ size, tree.size (settings.root.join names) = .ok size

section Scans

variable {tree : FileTree} {reader : TextReader} {settings : FolderSettings} {error : ScanError}

/-- Of two elements at which a list is taken apart one is in front of the other, unless they
    are the same. -/
theorem mem_of_append_cons_eq {α : Type} {before before' after after' : List α} {x y : α}
    (h : before ++ x :: after = before' ++ y :: after') :
    x = y ∨ x ∈ before' ∨ y ∈ before := by
  rcases List.append_eq_append_iff.1 h with ⟨middle, rfl, hmiddle⟩ | ⟨middle, rfl, hmiddle⟩
  · cases middle with
    | nil => exact Or.inl (List.cons.inj hmiddle).1
    | cons z rest =>
      obtain rfl := (List.cons.inj hmiddle).1
      exact Or.inr (Or.inl (by simp))
  · cases middle with
    | nil => exact Or.inl (List.cons.inj hmiddle).1.symm
    | cons z rest =>
      obtain rfl := (List.cons.inj hmiddle).1
      exact Or.inr (Or.inr (by simp))

namespace FolderSettings

theorem LacksLimit.not_goesOn (h : settings.LacksLimit tree) : ¬ settings.GoesOn tree := by
  intro hgoes
  obtain ⟨hblank, before, names, after, -, -, -, hadmits, size, hsize⟩ := h
  obtain ⟨error, herror⟩ := hgoes.limited hblank names hadmits
  cases hsize.symm.trans herror

/-- What stops a scan is in its way, or it is a size that cannot be compared. -/
theorem StopsWith.cases (h : settings.StopsWith tree error) :
    error.blamesFile = true ∧ ¬ settings.LacksLimit tree ∨
      error = .noLimit ∧ settings.LacksLimit tree := by
  cases h with
  | search hsearch herror =>
    subst herror
    refine Or.inl ⟨rfl, ?_⟩
    rintro ⟨-, before, names, after, hfound, -⟩
    cases hsearch.symm.trans hfound
  | @entry passed rest names hsearch hbelow hpassed hstop =>
    cases hobstacle : tree.obstacle? (settings.root.join names) with
    | some fault =>
      rw [judge_of_obstacle hobstacle] at hstop
      cases hstop
      refine Or.inl ⟨rfl, ?_⟩
      rintro ⟨hblank, before, names', after, hfound, hclear, hclear', hadmits, hsize⟩
      -- the entry in the way comes before every file that cannot be compared
      have hsame : passed ++ names :: rest = before ++ names' :: after :=
        Except.ok.inj (hsearch.symm.trans hfound)
      rcases mem_of_append_cons_eq hsame with rfl | hmem | hmem
      · cases hobstacle.symm.trans hclear'
      · cases hobstacle.symm.trans (hclear names hmem)
      · apply (stop?_judge_eq_none_iff.1 (hpassed names' hmem)).2
        rw [judge_eq_incomparable_iff hadmits.below hclear']
        exact ⟨hblank, hadmits, hsize⟩
    | none =>
      have hjudge : settings.judge tree names = .incomparable := by
        by_contra hcomparable
        have hnone := stop?_judge_eq_none_iff.2 ⟨hobstacle, hcomparable⟩
        cases hnone.symm.trans hstop
      rw [hjudge] at hstop
      cases hstop
      obtain ⟨hblank, hadmits, hsize⟩ := (judge_eq_incomparable_iff hbelow hobstacle).1 hjudge
      refine Or.inr ⟨rfl, hblank, passed, names, rest, hsearch, ?_, hobstacle, hadmits, hsize⟩
      intro other hother
      exact (stop?_judge_eq_none_iff.1 (hpassed other hother)).1

end FolderSettings

theorem stop_scanFolder_cases (hreader : reader.NamesEncodings)
    (h : (scanFolder tree reader Shape.builtin settings).stop = some error) :
    error.blamesFile = true ∧ ¬ settings.LacksLimit tree ∨
      error = .noLimit ∧ settings.LacksLimit tree := by
  by_cases hgoes : settings.GoesOn tree
  case pos =>
    rw [scanFolder_of_annotateAll hreader annotateAll_builtin hgoes.unobstructed
      (FolderSettings.goesOn_iff.1 hgoes).2] at h
    cases h
  case neg =>
    obtain ⟨other, refused, hstops, hscan⟩ := scanFolder_of_not_goesOn hgoes reader Shape.builtin
    rw [hscan] at h
    cases h
    exact hstops.cases

end Scans

/-- The path leads to a directory with a file whose size has nothing to be compared with. -/
def Settings.LacksLimit (settings : Settings) (tree : FileTree) (path : Path) : Prop :=
  tree.isFolder path = true ∧ (settings.folder path).LacksLimit tree

theorem not_lacksLimit_of_reads {site : Site} {settings : Settings} {path : Path}
    (h : site.Reads settings path) : ¬ settings.LacksLimit site.tree path := by
  rintro ⟨hfolder, hlacks⟩
  exact hlacks.not_goesOn (goesOn_of_stop hfolder h.goes_on)

theorem stop_scanPath_cases {tree : FileTree} {reader : TextReader} {settings : Settings}
    {path : Path} {error : ScanError} (hreader : reader.NamesEncodings)
    (h : (scanPath tree reader settings path).stop = some error) :
    error.blamesFile = true ∧ ¬ settings.LacksLimit tree path ∨
      error = .noLimit ∧ settings.LacksLimit tree path := by
  unfold scanPath at h
  split at h
  case isTrue hfolder =>
    rcases stop_scanFolder_cases hreader h with ⟨hblames, hlimit⟩ | ⟨rfl, hlacks⟩
    · exact Or.inl ⟨hblames, fun hlacks => hlimit hlacks.2⟩
    · exact Or.inr ⟨rfl, hfolder, hlacks⟩
  case isFalse hfile =>
    refine Or.inl ⟨?_, fun hlacks => hfile hlacks.1⟩
    cases htext : tree.textAt? reader path with
    | some text =>
      rw [scanFile_of_text htext] at h
      cases h
    | none =>
      obtain ⟨error, herror, hblames⟩ := scanFile_of_no_text hreader htext Shape.builtin
      rw [herror] at h
      cases h
      exact hblames

/-! ### Reports that cannot be written -/

namespace Report

open FileTree

variable {tree : FileTree} {folder : Path} {results : Results} {audit : Option (List Text)}
  {contents : Artifact → Text} {artifacts : List Artifact}

/-- There is a directory for the report or it can be made, and each file of the report lands
    somewhere. -/
structure Writable (tree : FileTree) (folder : Path) : Prop where
  made : (tree.makeFolders folder).failure = none
  lands : ∀ artifact, Lands (tree.makeFolders folder).tree folder artifact

theorem failure_write_eq_none_iff :
    (write tree folder results audit).failure = none ↔ Writable tree folder := by
  constructor
  · intro h
    obtain ⟨-, hlands, -⟩ := write_rewrote h
    refine ⟨?_, hlands⟩
    unfold write at h
    rcases Attempt.andThen_cases (tree.makeFolders folder) _ with ⟨hfailure, heq⟩ | ⟨hmade, -⟩
    · rw [heq] at h
      exact h
    · exact hmade
  · intro h
    unfold write
    rcases Attempt.andThen_cases (tree.makeFolders folder) _ with ⟨hfailure, -⟩ | ⟨-, heq⟩
    · exact absurd h.made hfailure
    · rw [heq]
      exact failure_writeArtifacts _ fun artifact _ => h.lands artifact

theorem failure_settle_ne_nulInName (tree : FileTree) (fault : Fault) (path : Path) :
    (tree.settle fault path).failure ≠ some .nulInName := by
  unfold settle
  split
  · simp
  · simp

theorem failure_makeFolder_ne_nulInName (tree : FileTree) (path : Path) :
    (tree.makeFolder path).failure ≠ some .nulInName := by
  unfold makeFolder
  split
  · simp
  · simp
  · exact failure_settle_ne_nulInName tree _ path

theorem failure_makeFoldersUp_ne_nulInName (tree : FileTree) (anchor : Anchor)
    (reversed : List Text) : (tree.makeFoldersUp anchor reversed).failure ≠ some .nulInName := by
  induction reversed with
  | nil => exact failure_makeFolder_ne_nulInName tree _
  | cons name above ih =>
    unfold makeFoldersUp
    simp only
    split
    · simp
    · rcases Attempt.andThen_cases (tree.makeFoldersUp anchor above) (·.makeFolder _) with
        ⟨-, heq⟩ | ⟨-, heq⟩
      · rw [heq]
        exact ih
      · rw [heq]
        exact failure_makeFolder_ne_nulInName _ _
    · exact failure_settle_ne_nulInName tree _ _

theorem failure_writeArtifacts_ne_nulInName (hnul : folder.hasNul = false) :
    (writeArtifacts folder contents tree artifacts).failure ≠ some .nulInName := by
  induction artifacts generalizing tree with
  | nil => simp [writeArtifacts]
  | cons artifact rest ih =>
    rw [writeArtifacts]
    rcases Attempt.andThen_cases
        (tree.writeText (folder.child artifact.fileName) (contents artifact))
        (fun changed => writeArtifacts folder contents changed rest) with ⟨-, heq⟩ | ⟨-, heq⟩
    · have hchild : (folder.child artifact.fileName).hasNul = false := by
        rw [Path.hasNul, Path.child, List.any_append, Bool.or_eq_false_iff]
        exact ⟨hnul, by cases artifact <;> decide⟩
      rw [heq, writeText_char]
      unfold writeFile putFile
      rw [if_neg (by simp [hchild])]
      split
      all_goals simp
    · rw [heq]
      exact ih

/-- A directory for a report is never asked for if its path holds the character zero. -/
theorem failure_write_eq_nulInName_iff :
    (write tree folder results audit).failure = some .nulInName ↔ folder.hasNul = true := by
  constructor
  · intro h
    by_contra hnul
    unfold write makeFolders at h
    rw [if_neg hnul] at h
    rcases Attempt.andThen_cases (tree.makeFoldersUp folder.anchor folder.parts.reverse) _ with
      ⟨-, heq⟩ | ⟨-, heq⟩
    · rw [heq] at h
      exact failure_makeFoldersUp_ne_nulInName _ _ _ h
    · rw [heq] at h
      exact failure_writeArtifacts_ne_nulInName (by simpa using hnul) h
  · intro hnul
    unfold write makeFolders
    rw [if_pos hnul]
    rfl

end Report

/-- No report is asked for, or it can be written. -/
def Settings.ReportPossible (settings : Settings) (tree : FileTree) : Prop :=
  ∀ out, settings.out = some out → ∃ folder, out = .value folder ∧ Report.Writable tree folder

section Writing

variable {tree : FileTree} {settings : Settings} {results : Results} {audit : Option (List Text)}

theorem writeReport_eq_none_iff :
    (writeReport tree settings results audit).2 = none ↔ settings.ReportPossible tree := by
  unfold writeReport Settings.ReportPossible
  cases settings.out with
  | none => simp
  | some out =>
    cases out with
    | blank => simp
    | value folder => simp [Report.failure_write_eq_none_iff]

theorem ofDisk_writeReport {crash : Crash}
    (h : (writeReport tree settings results audit).2 = some crash) :
    crash.ofDisk = true ↔
      ∃ folder, settings.out = some (.value folder) ∧ folder.hasNul = false := by
  unfold writeReport at h
  split at h
  case h_1 => cases h
  case h_2 hout =>
    cases h
    simp [Crash.ofDisk, hout]
  case h_3 folder hout =>
    obtain ⟨error, herror, rfl⟩ := Option.map_eq_some_iff.1 h
    simp only [hout, Option.some.injEq, Setting.value.injEq, exists_eq_left']
    rw [← Bool.not_eq_true, ← Report.failure_write_eq_nulInName_iff, herror]
    simp [Crash.ofDisk]

end Writing

/-! ### How a run ends -/

/-- Nothing ends the run without a status. -/
structure Site.Returns (site : Site) (settings : Settings) : Prop where
  told : ∀ path, settings.path = some path → site.tree.obstacle? path = none
  limited : ∀ path, settings.path = some path → ¬ settings.LacksLimit site.tree path
  audited : ∀ path, site.Reads settings path → settings.noAudit = false →
    settings.admin.CanAsk site.clock site.tree
  reported : ∀ path, site.Reads settings path → settings.ReportPossible site.tree

/-- An operation on the disk is refused where nobody catches it: it cannot be told whether the
    path exists, or the report cannot be written. -/
def Site.Unguarded (site : Site) (settings : Settings) : Prop :=
  (∃ path fault, settings.path = some path ∧ site.tree.obstacle? path = some fault) ∨
    ∃ path folder, site.Reads settings path ∧
      (settings.noAudit = false → settings.admin.CanAsk site.clock site.tree) ∧
        settings.out = some (.value folder) ∧ folder.hasNul = false ∧
          ¬ Report.Writable site.tree folder

/-- The run ends as its site and its settings let it: with a status, or with a crash that is a
    refusal of the disk or is none. -/
structure Outcome.EndsBy (outcome : Outcome) (site : Site) (settings : Settings) : Prop where
  returns_iff : (∃ status ∈ ([0, 1, 3] : List Nat), outcome.status = .ok status) ↔
    site.Returns settings
  ofDisk_iff : (∃ crash, outcome.status = .error crash ∧ crash.ofDisk = true) ↔
    site.Unguarded settings

variable {site : Site} {settings : Settings} {path : Path} {outcome : Outcome}

theorem endsBy_of_status {status : Nat} (hstatus : outcome.status = .ok status)
    (hlisted : status ∈ ([0, 1, 3] : List Nat)) (hreturns : site.Returns settings)
    (hguarded : ¬ site.Unguarded settings) : outcome.EndsBy site settings := by
  refine ⟨iff_of_true ⟨status, hlisted, hstatus⟩ hreturns, iff_of_false ?_ hguarded⟩
  rintro ⟨crash, hcrash, -⟩
  cases hstatus.symm.trans hcrash

theorem endsBy_of_crash {crash : Crash} (hcrash : outcome.status = .error crash)
    (hends : ¬ site.Returns settings)
    (hdisk : crash.ofDisk = true ↔ site.Unguarded settings) : outcome.EndsBy site settings := by
  refine ⟨iff_of_false ?_ hends, ?_⟩
  · rintro ⟨status, -, hstatus⟩
    cases hstatus.symm.trans hcrash
  · rw [← hdisk, hcrash]
    simp

/-- Without input nothing but the question for the path can end a run. -/
theorem endsBy_of_refusal (hstatus : outcome.status = .ok 1)
    (htold : ∀ path, settings.path = some path → site.tree.obstacle? path = none)
    (hlimited : ∀ path, settings.path = some path → ¬ settings.LacksLimit site.tree path)
    (hreads : ∀ path, ¬ site.Reads settings path) : outcome.EndsBy site settings := by
  apply endsBy_of_status hstatus (by simp)
  · exact ⟨htold, hlimited, fun path h => absurd h (hreads path),
      fun path h => absurd h (hreads path)⟩
  · rintro (⟨path, fault, hpath, hfault⟩ | ⟨path, -, h, -⟩)
    · cases (htold path hpath).symm.trans hfault
    · exact hreads path h

theorem told_of_reads (h : site.Reads settings path) :
    ∀ other, settings.path = some other → site.tree.obstacle? other = none := by
  intro other hother
  cases h.given.symm.trans hother
  exact FileTree.obstacle?_of_pathExists h.there

theorem limited_of_reads (h : site.Reads settings path) :
    ∀ other, settings.path = some other → ¬ settings.LacksLimit site.tree other := by
  intro other hother
  cases h.given.symm.trans hother
  exact not_lacksLimit_of_reads h

/-- A program that cannot be asked ends the run before its report. -/
theorem endsBy_of_no_answer (h : site.Reads settings path)
    (hask : ¬ (settings.noAudit = false → settings.admin.CanAsk site.clock site.tree)) :
    (runWith site settings).EndsBy site settings := by
  cases haudit : runAudit site.clock site.tree settings with
  | ok audit => exact absurd (runAudit_eq_ok_iff.1 ⟨audit, haudit⟩) hask
  | error failure =>
    obtain ⟨-, -, hcrash⟩ := runWith_of_no_answer h haudit
    apply endsBy_of_crash hcrash
    · intro hreturns
      exact hask (hreturns.audited path h)
    · apply iff_of_false (by simp [Crash.ofDisk])
      rintro (⟨other, fault, hother, hfault⟩ | ⟨-, -, -, hasked, -⟩)
      · cases (told_of_reads h other hother).symm.trans hfault
      · exact hask hasked

/-- A run that has come to its report ends as the report does. -/
theorem endsBy_of_answer (h : site.Reads settings path)
    (hask : settings.noAudit = false → settings.admin.CanAsk site.clock site.tree) :
    (runWith site settings).EndsBy site settings := by
  have htold := told_of_reads h
  obtain ⟨audit, haudit⟩ := runAudit_eq_ok_iff.2 hask
  obtain ⟨-, -, -, -, hstatus⟩ := runWith_of_reads h haudit
  cases hwritten : (writeReport site.tree settings
      (analysed site.tree site.reader (settings.inputFiles site.tree path)) audit.lines).2 with
  | none =>
    rw [hwritten] at hstatus
    have hpossible := writeReport_eq_none_iff.1 hwritten
    apply endsBy_of_status hstatus
    · rcases status_of_runAudit haudit with hstatus | hstatus
      · simp [hstatus]
      · simp [hstatus]
    · exact ⟨htold, limited_of_reads h, fun _ _ => hask, fun _ _ => hpossible⟩
    · rintro (⟨other, fault, hother, hfault⟩ | ⟨-, folder, -, -, hout, -, hblocked⟩)
      · cases (htold other hother).symm.trans hfault
      · obtain ⟨folder, hfolder, hwritable⟩ := hpossible _ hout
        cases hfolder
        exact hblocked hwritable
  | some crash =>
    rw [hwritten] at hstatus
    have himpossible : ¬ settings.ReportPossible site.tree := by
      intro hpossible
      cases hwritten.symm.trans (writeReport_eq_none_iff.2 hpossible)
    apply endsBy_of_crash hstatus
    · intro hreturns
      exact himpossible (hreturns.reported path h)
    · rw [ofDisk_writeReport hwritten]
      constructor
      · rintro ⟨folder, hout, hnul⟩
        refine Or.inr ⟨path, folder, h, hask, hout, hnul, fun hwritable => himpossible ?_⟩
        intro out hout'
        cases hout.symm.trans hout'
        exact ⟨folder, rfl, hwritable⟩
      · rintro (⟨other, fault, hother, hfault⟩ | ⟨-, folder, -, -, hout, hnul, -⟩)
        · cases (htold other hother).symm.trans hfault
        · exact ⟨folder, hout, hnul⟩

/-- A scan that is stopped ends the run with a status or for want of a limit. -/
theorem endsBy_of_stop {error : ScanError} (hreader : site.reader.NamesEncodings)
    (hpath : settings.path = some path) (hthere : site.tree.pathExists path = true)
    (hstop : (scanPath site.tree site.reader settings path).stop = some error) :
    (runWith site settings).EndsBy site settings := by
  have htold : ∀ other, settings.path = some other → site.tree.obstacle? other = none := by
    intro other hother
    cases hpath.symm.trans hother
    exact FileTree.obstacle?_of_pathExists hthere
  have hreads : ∀ other, ¬ site.Reads settings other := by
    intro other h
    cases hpath.symm.trans h.given
    cases hstop.symm.trans h.goes_on
  have hrun := runWith_of_stop hpath hthere hstop
  unfold abandon at hrun
  rcases stop_scanPath_cases hreader hstop with ⟨hblames, hlimit⟩ | ⟨rfl, hlacks⟩
  · rw [hblames] at hrun
    apply endsBy_of_refusal (by rw [hrun]; rfl) htold _ hreads
    intro other hother
    cases hpath.symm.trans hother
    exact hlimit
  · have hcrash : (runWith site settings).status = .error (.scan .noLimit) := by
      rw [hrun]
      rfl
    apply endsBy_of_crash hcrash
    · intro hreturns
      exact hreturns.limited path hpath hlacks
    · apply iff_of_false (by simp [Crash.ofDisk])
      rintro (⟨other, fault, hother, hfault⟩ | ⟨other, -, h, -⟩)
      · cases (htold other hother).symm.trans hfault
      · exact hreads other h

/-- **A run returns a status that is documented, unless one of four things keeps it from it; and
    only two of these are refusals of the disk.** -/
theorem run_returns_iff (site : Site) (hreader : site.reader.NamesEncodings)
    (arguments : List Text) (settings : Settings)
    (hparse : CommandLine.parse arguments = .ok settings) :
    (run site arguments).EndsBy site settings := by
  rw [run_of_parse hparse]
  cases hpath : settings.path with
  | none =>
    apply endsBy_of_refusal (runWith_of_no_path hpath).status
    · simp [hpath]
    · simp [hpath]
    · intro path h
      cases hpath.symm.trans h.given
  | some path =>
    cases hobstacle : site.tree.obstacle? path with
    | some fault =>
      apply endsBy_of_crash (runWith_of_obstacle hpath hobstacle)
      · intro hreturns
        cases hobstacle.symm.trans (hreturns.told path hpath)
      · exact iff_of_true (by simp [Crash.ofDisk]) (Or.inl ⟨path, fault, hpath, hobstacle⟩)
    | none =>
      have htold : ∀ other, settings.path = some other → site.tree.obstacle? other = none := by
        intro other hother
        cases hpath.symm.trans hother
        exact hobstacle
      cases hthere : site.tree.pathExists path with
      | false =>
        apply endsBy_of_refusal (runWith_of_absent hpath hobstacle hthere).status htold
        · intro other hother hlacks
          cases hpath.symm.trans hother
          cases hthere.symm.trans (FileTree.pathExists_of_isFolder hlacks.1)
        · intro other h
          cases hpath.symm.trans h.given
          cases hthere.symm.trans h.there
      | true =>
        cases hstop : (scanPath site.tree site.reader settings path).stop with
        | some error => exact endsBy_of_stop hreader hpath hthere hstop
        | none =>
          have hreads : site.Reads settings path := ⟨hpath, hthere, hstop⟩
          by_cases hask : settings.noAudit = false → settings.admin.CanAsk site.clock site.tree
          case pos => exact endsBy_of_answer hreads hask
          case neg => exact endsBy_of_no_answer hreads hask

/-! ### A program that fails, and a file where the report should go -/

theorem run_returns_of_failing_program :
    let site := Site.ofTree (FileTree.withProgram ⟨[], [110, 111], 1, false⟩)
    let settings := Settings.reporting "a.vcl" "o"
    let outcome := run site ["a.vcl", "--out", "o"]
    outcome.EndsBy site settings ∧ outcome.status = .ok 3 ∧ site.Returns settings := by
  intro site settings outcome
  have hstatus : outcome.status = .ok 3 := by decide +kernel
  have hends := run_returns_iff site (namesEncodings_ofTree _) _ _ parse_reporting
  exact ⟨hends, hstatus, hends.returns_iff.1 ⟨3, by simp, hstatus⟩⟩

/-- A file `o` beside a file that can be read. -/
def FileTree.takenFolder : FileTree where
  entries := [(["a.vcl"], .file ⟨[120], false, none⟩), (["o"], .file ⟨[121], false, none⟩)]
  distinct := by
    simp only [List.map]
    decide
  workDir := []

/-- A report for which there is a file in place of its directory ends the run without a
    status. -/
theorem run_crashes_on_taken_folder :
    let site := Site.ofTree .takenFolder
    let outcome := run site ["a.vcl", "--no-audit", "--out", "o"]
    (CommandLine.parse ["a.vcl", "--no-audit", "--out", "o"]).toOption.isSome = true ∧
      outcome.status = .error (.report (.refused .alreadyThere "o")) ∧
        ¬ ∃ status, outcome.status = .ok status := by
  intro site outcome
  have hstatus : outcome.status = .error (.report (.refused .alreadyThere "o")) := by
    decide +kernel
  refine ⟨by decide +kernel, hstatus, ?_⟩
  rintro ⟨status, hreturns⟩
  cases hstatus.symm.trans hreturns

end VclReview
