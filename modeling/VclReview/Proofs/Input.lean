/-
  VclReview/Proofs/Input.lean
  ===========================
  **What the input of a run comes to.**  A path asks for one file or for those chosen
  below a directory (`Settings.inputFiles`), and what is said about the files that can be
  read is a plain function of their texts (`analysed`).  A scan comes to exactly that, or
  it is stopped and then has no results (`scanPath_cases`); `scanPath_goes_on_iff` says
  when it is stopped.  No scan runs the administration program.
-/
import VclReview.Proofs.Selection
import VclReview.Run

namespace VclReview

/-- The files that a path asks for. -/
def Settings.inputFiles (settings : Settings) (tree : FileTree) (path : Path) : List Path :=
  if tree.isFolder path then (settings.folder path).files tree else [path]

/-- What is said about those of the files that can be read as text. -/
def analysed (tree : FileTree) (reader : TextReader) (files : List Path) : Results :=
  files.filterMap fun file => (tree.textAt? reader file).map fun text =>
    (file, annotationsOf file.toText 1 (Text.lines text))

/-- The command, if the event is about running the administration program. -/
def Event.command? : Event → Option (List Text)
  | .running command => some command
  | _ => none

variable {tree : FileTree} {reader : TextReader} {file path : Path} {annotations : List Annotation}

/-! ### One file -/

theorem scanFile_eq_ok_iff : scanFile tree reader Shape.builtin file = .ok annotations ↔
    ∃ text, tree.textAt? reader file = some text ∧
      annotations = annotationsOf file.toText 1 (Text.lines text) := by
  constructor
  · intro h
    obtain ⟨text, htext⟩ := exists_textAt?_of_scanFile h
    rw [scanFile_of_text htext] at h
    cases h
    exact ⟨text, htext, rfl⟩
  · rintro ⟨text, htext, rfl⟩
    exact scanFile_of_text htext

theorem toOption_scanFile (tree : FileTree) (reader : TextReader) (file : Path) :
    (scanFile tree reader Shape.builtin file).toOption =
      (tree.textAt? reader file).map fun text =>
        annotationsOf file.toText 1 (Text.lines text) := by
  cases hscan : scanFile tree reader Shape.builtin file with
  | ok annotations =>
    obtain ⟨text, htext, rfl⟩ := scanFile_eq_ok_iff.1 hscan
    rw [htext]
    rfl
  | error error =>
    cases htext : tree.textAt? reader file with
    | none => rfl
    | some text => cases hscan.symm.trans (scanFile_of_text htext)

theorem mem_analysed_iff {files : List Path} :
    (file, annotations) ∈ analysed tree reader files ↔ file ∈ files ∧
      ∃ text, tree.textAt? reader file = some text ∧
        annotations = annotationsOf file.toText 1 (Text.lines text) := by
  unfold analysed
  simp only [List.mem_filterMap, Option.map_eq_some_iff, Prod.mk.injEq]
  constructor
  · rintro ⟨file, hfile, text, htext, rfl, rfl⟩
    exact ⟨hfile, text, htext, rfl⟩
  · rintro ⟨hfile, text, htext, rfl⟩
    exact ⟨file, hfile, text, htext, rfl, rfl⟩

/-! ### The files of a directory -/

namespace FolderSettings

variable {settings : FolderSettings} {names : List Text}

theorem judge_eq_obstructed_iff {error : DiskError} :
    settings.judge tree names = .obstructed error ↔
      ∃ fault, tree.obstacle? (settings.root.join names) = some fault ∧
        error = .refused fault (settings.root.join names).toText := by
  cases hobstacle : tree.obstacle? (settings.root.join names) with
  | some fault =>
    rw [judge_of_obstacle hobstacle]
    simp [eq_comm]
  | none =>
    unfold judge
    simp only [hobstacle]
    split
    · simp
    split
    · simp
    split
    · simp
    split
    · simp
    · simp
    · split <;> simp

theorem clear_of_chosen (h : settings.judge tree names = .chosen) :
    tree.obstacle? (settings.root.join names) = none ∧
      tree.isFolder (settings.root.join names) = false := by
  cases hobstacle : tree.obstacle? (settings.root.join names) with
  | some fault => cases (judge_of_obstacle hobstacle).symm.trans h
  | none =>
    refine ⟨rfl, ?_⟩
    unfold judge at h
    simp only [hobstacle] at h
    split at h
    · cases h
    case isFalse hfolder => simpa using hfolder

theorem wants_of_chosen (h : settings.judge tree names = .chosen) :
    settings.wants (names.getLast?.getD []) = true := by
  unfold judge at h
  simp only [(clear_of_chosen h).1, (clear_of_chosen h).2, Bool.false_eq_true, if_false] at h
  split at h
  · cases h
  split at h
  · cases h
  case isFalse hwants => simpa using hwants

/-- An entry has nothing to be compared with if it has a size and there is no limit. -/
theorem judge_eq_incomparable_iff (hbelow : tree.EntryBelow settings.root names)
    (hobstacle : tree.obstacle? (settings.root.join names) = none) :
    settings.judge tree names = .incomparable ↔ settings.sizeLimit = .blank ∧
      settings.Admits tree names ∧ ∃ size, tree.size (settings.root.join names) = .ok size := by
  cases hlimit : settings.sizeLimit with
  | value limit =>
    rcases judge_cases hlimit hbelow hobstacle with
      ⟨-, h⟩ | ⟨-, ⟨error, -, h⟩ | ⟨size, -, ⟨-, h⟩ | ⟨-, h⟩⟩⟩
    all_goals
      rw [h]
      simp
  | blank =>
    unfold judge
    rw [admits_iff hbelow]
    simp only [hobstacle, hlimit, true_and]
    cases tree.isFolder (settings.root.join names) with
    | true => simp
    | false =>
      cases names.dropLast.any settings.excluded.elem with
      | true => simp
      | false =>
        cases settings.wants (names.getLast?.getD []) with
        | false => simp
        | true => cases tree.size (settings.root.join names) <;> simp

/-- The scan of the directory can come to its end: nothing is in its way, and there is a
    limit for the size of every file that has one. -/
structure GoesOn (settings : FolderSettings) (tree : FileTree) : Prop where
  unobstructed : tree.Unobstructed settings.root
  limited : settings.sizeLimit = .blank → ∀ names, settings.Admits tree names →
    ∃ error, tree.size (settings.root.join names) = .error error

theorem stop?_judge_eq_none_iff : (settings.judge tree names).stop? = none ↔
    tree.obstacle? (settings.root.join names) = none ∧
      settings.judge tree names ≠ .incomparable := by
  cases hjudge : settings.judge tree names with
  | obstructed error =>
    obtain ⟨fault, hfault, -⟩ := judge_eq_obstructed_iff.1 hjudge
    simp [Verdict.stop?, hfault]
  | passedOver | unmeasured | oversized | incomparable | chosen =>
    have hclear : tree.obstacle? (settings.root.join names) = none := by
      by_contra hobstacle
      obtain ⟨fault, hfault⟩ := Option.ne_none_iff_exists'.1 hobstacle
      cases (judge_of_obstacle hfault).symm.trans hjudge
    simp [Verdict.stop?, hclear]

theorem goesOn_iff : settings.GoesOn tree ↔ tree.obstacle? settings.root = none ∧
    ∀ names ∈ tree.entriesBelow settings.root, (settings.judge tree names).stop? = none := by
  simp only [stop?_judge_eq_none_iff, FileTree.mem_entriesBelow_iff]
  constructor
  · rintro ⟨⟨hroot, hbelow⟩, hlimited⟩
    refine ⟨hroot, fun names hnames => ⟨hbelow names hnames, fun hjudge => ?_⟩⟩
    obtain ⟨hblank, hadmits, size, hsize⟩ :=
      (judge_eq_incomparable_iff hnames (hbelow names hnames)).1 hjudge
    obtain ⟨error, herror⟩ := hlimited hblank names hadmits
    cases hsize.symm.trans herror
  · rintro ⟨hroot, hjudged⟩
    refine ⟨⟨hroot, fun names hnames => (hjudged names hnames).1⟩, fun hblank names hadmits => ?_⟩
    obtain ⟨hclear, hcomparable⟩ := hjudged names hadmits.below
    cases hsize : tree.size (settings.root.join names) with
    | error error => exact ⟨error, rfl⟩
    | ok size =>
      refine absurd ?_ hcomparable
      exact (judge_eq_incomparable_iff hadmits.below hclear).2 ⟨hblank, hadmits, size, hsize⟩

end FolderSettings

variable {settings : FolderSettings}

theorem scanFolder_of_goesOn (h : settings.GoesOn tree) (reader : TextReader) :
    (scanFolder tree reader Shape.builtin settings).stop =
        (scanFiles tree reader Shape.builtin settings (settings.files tree)).stop ∧
      (scanFolder tree reader Shape.builtin settings).results =
        (scanFiles tree reader Shape.builtin settings (settings.files tree)).results := by
  rw [scanFolder_of_judged h.unobstructed (FolderSettings.goesOn_iff.1 h).2]
  exact ⟨rfl, rfl⟩

theorem mem_files_iff : file ∈ settings.files tree ↔ ∃ names,
    tree.EntryBelow settings.root names ∧ file = settings.root.join names ∧
      settings.judge tree names = .chosen := by
  simp only [FolderSettings.files, List.mem_filterMap, FolderSettings.chosen?_eq_some_iff,
    FileTree.mem_entriesBelow_iff]

theorem pairwise_files (tree : FileTree) (settings : FolderSettings) :
    (settings.files tree).Pairwise fun p q => p.parts < q.parts := by
  apply pairwise_filterMap_parts (tree.pairwise_entriesBelow settings.root) settings.root
  intro names file hfile
  rw [(FolderSettings.chosen?_eq_some_iff.1 hfile).1]

theorem command?_event (file : Path) (scan : FileScan) :
    (FileScan.event file scan).command? = none := by
  cases scan with
  | ok annotations => rfl
  | error error => rfl

/-- The scan of the chosen files is stopped or comes to what is said about them. -/
theorem scanFiles_cases (tree : FileTree) (reader : TextReader) (settings : FolderSettings)
    (files : List Path) :
    ((scanFiles tree reader Shape.builtin settings files).stop = none ∧
          (scanFiles tree reader Shape.builtin settings files).results =
            analysed tree reader files ∨
        (∃ error, (scanFiles tree reader Shape.builtin settings files).stop = some error) ∧
          (scanFiles tree reader Shape.builtin settings files).results = []) ∧
      ∀ event ∈ (scanFiles tree reader Shape.builtin settings files).events,
        event.command? = none := by
  have hevents (scans : List (Path × FileScan)) :
      ∀ event ∈ scans.map fun pair => FileScan.event pair.1 pair.2, event.command? = none := by
    intro event hevent
    obtain ⟨scan, -, rfl⟩ := List.mem_map.1 hevent
    exact command?_event _ _
  unfold scanFiles
  simp only [drop_length_takeWhile]
  split
  case h_1 =>
    refine ⟨Or.inl ⟨rfl, ?_⟩, hevents _⟩
    rw [List.filterMap_map]
    refine congrArg (List.filterMap · files) (funext fun file => ?_)
    simp only [Function.comp_apply, toOption_scanFile, Option.map_map]
    rfl
  case h_2 file scan hhead =>
    refine ⟨Or.inr ⟨?_, rfl⟩, hevents _⟩
    -- what is left over begins with the scan that stops the others
    have hstays := not_of_head?_dropWhile hhead
    exact Option.isSome_iff_exists.1 (by simpa using hstays)

/-- A scan ends with the error because the search does, or because of the first entry on which
    the verdict stops it. -/
inductive FolderSettings.StopsWith (settings : FolderSettings) (tree : FileTree)
    (error : ScanError) : Prop where
  | search {failure : DiskError} (hsearch : tree.search settings.root = .error failure)
      (herror : error = .disk failure)
  | entry {passed rest : List (List Text)} {names : List Text}
      (hsearch : tree.search settings.root = .ok (passed ++ names :: rest))
      (hbelow : tree.EntryBelow settings.root names)
      (hpassed : ∀ other ∈ passed, (settings.judge tree other).stop? = none)
      (hstop : (settings.judge tree names).stop? = some error)

/-- A scan that cannot come to its end has no results, and tells of refused entries only. -/
theorem scanFolder_of_not_goesOn (h : ¬ settings.GoesOn tree) (reader : TextReader)
    (shapes : List Shape) :
    ∃ error, ∃ refused : List (List Text), settings.StopsWith tree error ∧
      scanFolder tree reader shapes settings =
        ⟨[], refused.filterMap (settings.refusal? tree), [], some error⟩ := by
  unfold scanFolder
  rcases tree.search_cases settings.root with ⟨hsearch, hroot⟩ | ⟨-, name, hsearch⟩
  case inr =>
    rw [hsearch]
    exact ⟨_, [], .search hsearch rfl, rfl⟩
  rw [hsearch]
  simp only [drop_length_takeWhile]
  cases hrest : (tree.entriesBelow settings.root).dropWhile
      fun names => (settings.judge tree names).stop?.isNone with
  | nil =>
    refine absurd (FolderSettings.goesOn_iff.2 ⟨hroot, fun names hnames => ?_⟩) h
    exact Option.isNone_iff_eq_none.1 (List.dropWhile_eq_nil_iff.1 hrest names hnames)
  | cons names rest =>
    have hstays := not_of_head?_dropWhile (congrArg List.head? hrest)
    obtain ⟨error, hstop⟩ : ∃ error, (settings.judge tree names).stop? = some error :=
      Option.ne_none_iff_exists'.1 fun hnone => by simp [hnone] at hstays
    have hsplit : tree.entriesBelow settings.root =
        (tree.entriesBelow settings.root).takeWhile
          (fun names => (settings.judge tree names).stop?.isNone) ++ names :: rest := by
      rw [← hrest, List.takeWhile_append_dropWhile]
    have hbelow : tree.EntryBelow settings.root names := by
      rw [← FileTree.mem_entriesBelow_iff, hsplit]
      exact List.mem_append_cons_self
    simp only [List.head?_cons, hstop]
    refine ⟨error, _, .entry (hsearch.trans (congrArg Except.ok hsplit)) hbelow ?_ hstop, rfl⟩
    intro other hother
    simpa using List.mem_takeWhile_imp hother

theorem scanFolder_cases (tree : FileTree) (reader : TextReader) (settings : FolderSettings) :
    ((scanFolder tree reader Shape.builtin settings).stop = none ∧ settings.GoesOn tree ∧
          (scanFolder tree reader Shape.builtin settings).results =
            analysed tree reader (settings.files tree) ∨
        (∃ error, (scanFolder tree reader Shape.builtin settings).stop = some error ∧
          (reader.NamesEncodings → ¬ settings.GoesOn tree)) ∧
          (scanFolder tree reader Shape.builtin settings).results = []) ∧
      ∀ event ∈ (scanFolder tree reader Shape.builtin settings).events,
        event.command? = none := by
  have hrefusals (entries : List (List Text)) :
      ∀ event ∈ entries.filterMap (settings.refusal? tree), event.command? = none := by
    intro event hevent
    obtain ⟨names, -, hrefusal⟩ := List.mem_filterMap.1 hevent
    rcases refusal?_cases hrefusal with ⟨reason, rfl⟩ | ⟨size, limit, rfl⟩
    · rfl
    · rfl
  by_cases hgoes : settings.GoesOn tree
  case pos =>
    rw [scanFolder_of_judged hgoes.unobstructed (FolderSettings.goesOn_iff.1 hgoes).2]
    obtain ⟨hscan, hevents⟩ := scanFiles_cases tree reader settings (settings.files tree)
    refine ⟨?_, ?_⟩
    · rcases hscan with ⟨hstop, hresults⟩ | ⟨⟨error, hstop⟩, hresults⟩
      · exact Or.inl ⟨hstop, hgoes, hresults⟩
      · refine Or.inr ⟨⟨error, hstop, fun hreader => ?_⟩, hresults⟩
        rw [scanFiles_of_annotateAll hreader annotateAll_builtin] at hstop
        cases hstop
    · intro event hevent
      rcases List.mem_append.1 hevent with hevent | hevent
      · exact hrefusals _ event hevent
      · rcases List.mem_cons.1 hevent with rfl | hevent
        · rfl
        · exact hevents event hevent
  case neg =>
    obtain ⟨error, refused, -, hscan⟩ := scanFolder_of_not_goesOn hgoes reader Shape.builtin
    rw [hscan]
    exact ⟨Or.inr ⟨⟨error, rfl, fun _ => hgoes⟩, rfl⟩, hrefusals refused⟩

/-! ### The scan of a path -/

/-- **A scan comes to what is said about the files asked for, or it is stopped.** -/
theorem scanPath_cases (tree : FileTree) (reader : TextReader) (settings : Settings) (path : Path) :
    (scanPath tree reader settings path).stop = none ∧
        (scanPath tree reader settings path).results =
          analysed tree reader (settings.inputFiles tree path) ∨
      (∃ error, (scanPath tree reader settings path).stop = some error) ∧
        (scanPath tree reader settings path).results = [] := by
  unfold scanPath Settings.inputFiles
  by_cases hfolder : tree.isFolder path = true
  · simp only [hfolder, if_true]
    rcases (scanFolder_cases tree reader (settings.folder path)).1 with
      ⟨hstop, -, hresults⟩ | ⟨⟨error, hstop, -⟩, hresults⟩
    · exact Or.inl ⟨hstop, hresults⟩
    · exact Or.inr ⟨⟨error, hstop⟩, hresults⟩
  · simp only [hfolder]
    cases hscan : scanFile tree reader Shape.builtin path with
    | error error => exact Or.inr ⟨⟨error, rfl⟩, rfl⟩
    | ok annotations =>
      obtain ⟨text, htext, rfl⟩ := scanFile_eq_ok_iff.1 hscan
      exact Or.inl ⟨rfl, by simp [analysed, htext]⟩

theorem command?_scanPath (tree : FileTree) (reader : TextReader) (settings : Settings)
    (path : Path) : ∀ event ∈ (scanPath tree reader settings path).events,
      event.command? = none := by
  unfold scanPath
  split
  · exact (scanFolder_cases tree reader (settings.folder path)).2
  · split
    · simp
    · intro event hevent
      rw [List.mem_singleton.1 hevent]
      rfl

/-- A scan of a directory that is not stopped can come to its end. -/
theorem goesOn_of_stop {settings : Settings} (hfolder : tree.isFolder path = true)
    (h : (scanPath tree reader settings path).stop = none) :
    (settings.folder path).GoesOn tree := by
  rw [scanPath, if_pos hfolder] at h
  rcases (scanFolder_cases tree reader (settings.folder path)).1 with
    ⟨-, hgoes, -⟩ | ⟨⟨error, hstop, -⟩, -⟩
  · exact hgoes
  · cases hstop.symm.trans h

/-- A scan is stopped only by a directory with something in the way, or by a file that
    is no text. -/
theorem scanPath_goes_on_iff (hreader : reader.NamesEncodings) (settings : Settings)
    (path : Path) : (scanPath tree reader settings path).stop = none ↔
      if tree.isFolder path then (settings.folder path).GoesOn tree
      else (tree.textAt? reader path).isSome = true := by
  unfold scanPath
  by_cases hfolder : tree.isFolder path = true
  · simp only [hfolder, if_true]
    rcases (scanFolder_cases tree reader (settings.folder path)).1 with
      ⟨hstop, hgoes, -⟩ | ⟨⟨error, hstop, hstays⟩, -⟩
    · simp [hstop, hgoes]
    · simp [hstop, hstays hreader]
  · simp only [hfolder]
    cases htext : tree.textAt? reader path with
    | some text =>
      rw [scanFile_of_text htext]
      simp
    | none =>
      obtain ⟨error, herror, -⟩ := scanFile_of_no_text hreader htext Shape.builtin
      rw [herror]
      simp

end VclReview
