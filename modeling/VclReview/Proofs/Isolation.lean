/-
  VclReview/Proofs/Isolation.lean
  ===============================
  **Files do not affect each other.**  A scan of a directory that comes to its end has scanned
  each chosen file as if it were alone, has warned once of each that it could not read, and has
  moved its bar once for every file of either kind (`Scan.Isolates`).  It comes to its end
  unless a name below the directory is in the way or a size has nothing to be compared with
  (`scanFolder_isolates_iff`).
-/
import VclReview.Proofs.Input
import Mathlib.Data.List.Forall2

namespace VclReview

/-! ### The account of a scan -/

/-- The file that was skipped and the reason, if the event is about that. -/
def Event.skipped? : Event → Option (Path × Text)
  | .skipped file reason => some (file, reason)
  | _ => none

/-- The files skipped, in order, with the reasons. -/
def Scan.skipped (scan : Scan) : List (Path × Text) := scan.events.filterMap Event.skipped?

/-- What is shown of the names that lead from the directory to the file: all of them, or the
    end of them after three dots. -/
def Path.ShownAs (root file : Path) (label : Text) : Prop :=
  ∃ names, file = root.join names ∧
    ((List.intercalate ['/'] names).length ≤ 60 ∧ label = List.intercalate ['/'] names ∨
      60 < (List.intercalate ['/'] names).length ∧
        ∃ ending, ending <:+ List.intercalate ['/'] names ∧ ending.length = 57 ∧
          label = "..." ++ ending)

/-- The bar has gone through all the files. -/
structure ProgressBar.Covers (bar : ProgressBar) (root : Path) (files : List Path) : Prop where
  total : bar.total = files.length
  labels : List.Forall₂ root.ShownAs files bar.labels
  moved : bar.moved = files.length
  closed : bar.closed = true

/-- The scan comes to its end, and what it says of a chosen file depends on that file only: the
    annotations of the file alone if it can be read, and else one reason why it is skipped. -/
structure Scan.Isolates (scan : Scan) (tree : FileTree) (reader : TextReader)
    (shapes : List Shape) (settings : FolderSettings) : Prop where
  stop : scan.stop = none
  mem_results_iff : ∀ file annotations, (file, annotations) ∈ scan.results ↔
    file ∈ settings.files tree ∧ scanFile tree reader shapes file = .ok annotations
  once : (scan.results.map (·.1)).Nodup
  reads_iff : ∀ file ∈ settings.files tree,
    file ∈ scan.results.map (·.1) ↔ tree.textAt? reader file ≠ none
  skips : ∀ file ∈ settings.files tree, tree.textAt? reader file = none →
    ∃ error, scanFile tree reader shapes file = .error error ∧
      scan.skipped.filter (·.1 = file) = [(file, error.message)]
  spares : ∀ file reason, (file, reason) ∈ scan.skipped →
    file ∈ settings.files tree ∧ tree.textAt? reader file = none
  accounts : scan.results.length + scan.skipped.length = (settings.files tree).length
  bars_iff : scan.bars ≠ [] ↔ settings.showProgress = true ∧ 0 < (settings.files tree).length
  covers : ∀ bar ∈ scan.bars, scan.bars = [bar] ∧ bar.Covers settings.root (settings.files tree)

/-! ### Labels -/

namespace Path

variable {root : Path} {names : List Text}

theorem below?_join (root : Path) (names : List Text) :
    below? root (root.join names) = some names := by
  simp [below?, join]

theorem clip_cases (label : Text) : label.length ≤ 60 ∧ clip label = label ∨
    60 < label.length ∧
      ∃ ending, ending <:+ label ∧ ending.length = 57 ∧ clip label = "..." ++ ending := by
  unfold clip labelWidth
  by_cases hwide : 60 < label.length
  · refine Or.inr ⟨hwide, label.drop (label.length - 57), List.drop_suffix _ _, ?_, if_pos hwide⟩
    rw [List.length_drop]
    omega
  · exact Or.inl ⟨by omega, if_neg hwide⟩

theorem shownAs_labelBelow (hnames : names ≠ []) :
    root.ShownAs (root.join names) (labelBelow root (root.join names)) := by
  have htext : toText ⟨.relative, names⟩ = List.intercalate ['/'] names := by
    unfold toText
    rw [if_neg (by simp [hnames])]
    rfl
  refine ⟨names, rfl, ?_⟩
  unfold labelBelow
  simp only [below?_join, htext]
  exact clip_cases _

end Path

/-! ### What is told of each file -/

variable {tree : FileTree} {reader : TextReader} {shapes : List Shape} {settings : FolderSettings}
  {file : Path}

theorem nodup_files (tree : FileTree) (settings : FolderSettings) : (settings.files tree).Nodup := by
  apply (pairwise_files tree settings).imp
  intro file other hlt heq
  exact absurd (heq ▸ hlt) (lt_irrefl _)

/-- A list that holds an element once has one pair for it. -/
theorem filter_filterMap_of_nodup {α β : Type} [DecidableEq α] {list : List α} {f : α → Option β}
    {x : α} {y : β} (hnodup : list.Nodup) (hx : x ∈ list) (hy : f x = some y) :
    (list.filterMap fun z => (f z).map (z, ·)).filter (·.1 = x) = [(x, y)] := by
  obtain ⟨before, after, rfl⟩ := List.append_of_mem hx
  obtain ⟨hbefore, hafter⟩ : x ∉ before ∧ x ∉ after := by
    simp only [List.nodup_append, List.nodup_cons] at hnodup
    exact ⟨fun hmem => hnodup.2.2 x hmem x (by simp) rfl, hnodup.2.1.1⟩
  have hothers {others : List α} (hothers : x ∉ others) :
      (others.filterMap fun z => (f z).map (z, ·)).filter (·.1 = x) = [] := by
    rw [List.filter_eq_nil_iff]
    intro pair hpair
    obtain ⟨z, hz, hpair⟩ := List.mem_filterMap.1 hpair
    obtain ⟨w, -, rfl⟩ := Option.map_eq_some_iff.1 hpair
    simp only [decide_eq_true_eq]
    exact fun heq => hothers (heq ▸ hz)
  rw [List.filterMap_append, List.filter_append, hothers hbefore,
    List.filterMap_cons_some (b := (x, y)) (by rw [hy]; rfl)]
  simp [hothers hafter]

/-- The reason why a file is skipped. -/
def FileScan.reason? : FileScan → Option Text
  | .ok _ => none
  | .error error => some error.message

theorem FileScan.skipped?_event (file : Path) (scan : FileScan) :
    (event file scan).skipped? = (reason? scan).map (file, ·) := by
  cases scan with
  | ok annotations => rfl
  | error error => rfl

theorem FileScan.isSome_reason? (scan : FileScan) :
    (reason? scan).isSome = !scan.toOption.isSome := by
  cases scan with
  | ok annotations => rfl
  | error error => rfl

theorem skipped?_refusal {names : List Text} {event : Event}
    (h : settings.refusal? tree names = some event) : event.skipped? = none := by
  rcases refusal?_cases h with ⟨reason, rfl⟩ | ⟨size, limit, rfl⟩
  · rfl
  · rfl

/-! ### The scan -/

theorem skipped_refusals (entries : List (List Text)) :
    (entries.filterMap (settings.refusal? tree)).filterMap Event.skipped? = [] := by
  rw [List.filterMap_eq_nil_iff]
  intro event hevent
  obtain ⟨names, -, hrefusal⟩ := List.mem_filterMap.1 hevent
  exact skipped?_refusal hrefusal

/-- Every chosen file that cannot be scanned is skipped with its reason, and no other is. -/
theorem skipped_scanFolder (hreader : reader.NamesEncodings) (hshapes : AnnotateAll shapes)
    (h : settings.GoesOn tree) : (scanFolder tree reader shapes settings).skipped =
      (settings.files tree).filterMap fun file =>
        (FileScan.reason? (scanFile tree reader shapes file)).map (file, ·) := by
  rw [scanFolder_of_annotateAll hreader hshapes h.unobstructed (FolderSettings.goesOn_iff.1 h).2]
  unfold Scan.skipped
  rw [List.filterMap_append, skipped_refusals, List.filterMap_cons_none rfl, List.filterMap_map,
    List.nil_append]
  apply List.filterMap_congr
  intro file _
  exact FileScan.skipped?_event file _

theorem covers_progress {bar : ProgressBar}
    (h : bar ∈ settings.progress (settings.files tree) (settings.files tree)) :
    settings.progress (settings.files tree) (settings.files tree) = [bar] ∧
      bar.Covers settings.root (settings.files tree) := by
  unfold FolderSettings.progress at h ⊢
  split at h
  case isFalse => cases h
  case isTrue hshown =>
    rw [if_pos hshown]
    obtain rfl := List.mem_singleton.1 h
    refine ⟨rfl, rfl, ?_, rfl, rfl⟩
    simp only [List.forall₂_map_right_iff, List.forall₂_same]
    intro file hfile
    obtain ⟨names, hbelow, rfl, -⟩ := mem_files_iff.1 hfile
    exact Path.shownAs_labelBelow hbelow.ne_nil

theorem progress_ne_nil_iff {files done : List Path} : settings.progress files done ≠ [] ↔
    settings.showProgress = true ∧ 0 < files.length := by
  unfold FolderSettings.progress
  rw [List.length_pos_iff]
  split
  case isTrue hshown => simp [hshown]
  case isFalse hhidden => simpa using hhidden

theorem scanFolder_isolates (hreader : reader.NamesEncodings) (hshapes : AnnotateAll shapes)
    (h : settings.GoesOn tree) :
    (scanFolder tree reader shapes settings).Isolates tree reader shapes settings := by
  have hskipped := skipped_scanFolder hreader hshapes h
  have hnodup := nodup_files tree settings
  have hscan := scanFolder_of_annotateAll hreader hshapes h.unobstructed
    (FolderSettings.goesOn_iff.1 h).2
  constructor
  case stop => rw [hscan]
  case mem_results_iff =>
    intro file annotations
    rw [hscan]
    rw [mem_filterMap_pair_iff]
    apply and_congr_right
    intro _
    cases scanFile tree reader shapes file with
    | ok others => simp [Except.toOption]
    | error error => simp [Except.toOption]
  case once =>
    rw [hscan, keys_scanned hreader hshapes]
    exact hnodup.filter _
  case reads_iff =>
    intro file hfile
    rw [hscan, keys_scanned hreader hshapes, List.mem_filter, Option.isSome_iff_ne_none]
    exact and_iff_right hfile
  case skips =>
    intro file hfile htext
    obtain ⟨error, herror, -⟩ := scanFile_of_no_text hreader htext shapes
    refine ⟨error, herror, ?_⟩
    rw [hskipped]
    apply filter_filterMap_of_nodup hnodup hfile
    rw [herror]
    rfl
  case spares =>
    intro file reason hmem
    rw [hskipped, mem_filterMap_pair_iff] at hmem
    obtain ⟨hfile, hreason⟩ := hmem
    refine ⟨hfile, ?_⟩
    have hsome := FileScan.isSome_reason? (scanFile tree reader shapes file)
    rw [hreason, isSome_scanFile hreader hshapes] at hsome
    simpa using hsome
  case accounts =>
    -- every file is counted on one side: with the scanned ones or with the skipped ones
    have hskips : (scanFolder tree reader shapes settings).skipped.length =
        ((settings.files tree).filter fun file => !(tree.textAt? reader file).isSome).length := by
      rw [hskipped, ← List.length_map (·.1), map_fst_filterMap]
      simp only [FileScan.isSome_reason?, isSome_scanFile hreader hshapes]
    have hreads : (scanFolder tree reader shapes settings).results.length =
        ((settings.files tree).filter fun file => (tree.textAt? reader file).isSome).length := by
      rw [hscan, ← keys_scanned hreader hshapes, List.length_map]
    rw [hskips, hreads, ← List.length_eq_length_filter_add]
  case bars_iff =>
    rw [hscan]
    exact progress_ne_nil_iff
  case covers =>
    rw [hscan]
    intro bar hbar
    exact covers_progress hbar

/-- **One bad file does not affect the others.**  A scan that can come to its end gives a true
    account of every chosen file, whatever is the matter with some of them; one that cannot is
    stopped and has no results. -/
theorem scanFolder_isolates_iff (tree : FileTree) (reader : TextReader)
    (hreader : reader.NamesEncodings) (shapes : List Shape) (hshapes : AnnotateAll shapes)
    (settings : FolderSettings) :
    ((scanFolder tree reader shapes settings).Isolates tree reader shapes settings ↔
        settings.GoesOn tree) ∧
      (¬ settings.GoesOn tree → ∃ error,
        (scanFolder tree reader shapes settings).stop = some error ∧
          (scanFolder tree reader shapes settings).results = [] ∧
            (scanFolder tree reader shapes settings).skipped = []) ∧
      ∀ file reason, (Event.skipped file reason).level = .warning ∧
        (Event.skipped file reason).message = "Skipping " ++ file.toText ++ ": " ++ reason := by
  have hstopped (h : ¬ settings.GoesOn tree) : ∃ error,
      (scanFolder tree reader shapes settings).stop = some error ∧
        (scanFolder tree reader shapes settings).results = [] ∧
          (scanFolder tree reader shapes settings).skipped = [] := by
    obtain ⟨error, refused, -, hscan⟩ := scanFolder_of_not_goesOn h reader shapes
    rw [hscan]
    exact ⟨error, rfl, rfl, skipped_refusals refused⟩
  refine ⟨⟨?_, scanFolder_isolates hreader hshapes⟩, hstopped, fun _ _ => ⟨rfl, rfl⟩⟩
  intro hisolates
  by_contra h
  obtain ⟨error, hstop, -⟩ := hstopped h
  cases hisolates.stop.symm.trans hstop

/-! ### Files that cannot be read, and a link that is in the way -/

/-- A directory `d` with a file `a.vcl` that can be read and a file `b.vcl` that cannot. -/
def FileTree.withBinary : FileTree where
  entries :=
    [(["d"], .folder), (["d", "a.vcl"], .file ⟨[120], false, none⟩),
      (["d", "b.vcl"], .file ⟨[0], false, none⟩)]
  distinct := by
    simp only [List.map]
    decide
  workDir := []

theorem scanFolder_isolates_binary_file :
    let tree := FileTree.withBinary
    let settings := { FolderSettings.ofFolder with showProgress := true }
    let scan := scanFolder tree (.guessing none) Shape.builtin settings
    scan.Isolates tree (.guessing none) Shape.builtin settings ∧
      scan.results.map (·.1) = [⟨.relative, ["d", "a.vcl"]⟩] ∧
        scan.skipped.map (·.1) = [⟨.relative, ["d", "b.vcl"]⟩] := by
  intro tree settings scan
  have hisolates := scanFolder_isolates_iff tree (.guessing none) (fun _ _ h => by cases h)
    Shape.builtin annotateAll_builtin settings
  refine ⟨hisolates.1.2 ⟨by decide +kernel, ?_⟩, by decide +kernel, by decide +kernel⟩
  intro hblank
  cases hblank

/-- A link whose target is a name that is too long takes the results of the file beside it
    away. -/
theorem scanFolder_fails_for_long_link :
    let tree := FileTree.withLink (List.replicate 256 'x')
    let settings := { FolderSettings.ofFolder with showProgress := true }
    let scan := scanFolder tree (.guessing none) Shape.builtin settings
    ⟨.relative, ["d", "a.vcl"]⟩ ∈ settings.files tree ∧
      tree.textAt? (.guessing none) ⟨.relative, ["d", "a.vcl"]⟩ = some ['x'] ∧
      scan.stop = some (.disk (.refused .longName "d/b.vcl")) ∧ scan.results = [] ∧
        ¬ scan.Isolates tree (.guessing none) Shape.builtin settings := by
  intro tree settings scan
  have hstop : scan.stop = some (.disk (.refused .longName "d/b.vcl")) := by decide +kernel
  refine ⟨by decide +kernel, by decide +kernel, hstop, by decide +kernel, ?_⟩
  intro hisolates
  cases hstop.symm.trans hisolates.stop

end VclReview
