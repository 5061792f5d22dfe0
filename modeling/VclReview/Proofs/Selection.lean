/-
  VclReview/Proofs/Selection.lean
  ===============================
  **Which files a scan of a directory tries.**  The verdict on an entry says which of the
  filters it passes (`judge_cases`).  As long as nothing is in the way of the search, a
  scan gives a verdict on every entry below the directory and tries those that are
  chosen, in the order of their names.  A name that is too long anywhere below the
  directory stops it before the first file (`scanFolder_selects_iff`).
-/
import VclReview.Proofs.FileScan
import VclReview.Proofs.GlobMatching
import VclReview.Proofs.Search
import VclReview.Proofs.Spans
import VclReview.Scan.Folder

namespace VclReview

/-! ### What a scan tells -/

/-- The file that was tried, if the event is about that. -/
def Event.tried? : Event → Option Path
  | .scanned _ file _ _ => some file
  | .skipped file _ => some file
  | _ => none

/-- The file that has no size and the reason, if the event is about that. -/
def Event.unmeasured? : Event → Option (Path × Text)
  | .unmeasured file reason => some (file, reason)
  | _ => none

/-- The files tried, in order. -/
def Scan.tried (scan : Scan) : List Path := scan.events.filterMap Event.tried?

/-- The files without a size, in order, with the reasons. -/
def Scan.unmeasured (scan : Scan) : List (Path × Text) := scan.events.filterMap Event.unmeasured?

/-- The entry lies below the directory and is not, and does not lead to, a directory; no
    directory on the way to it is excluded, and a glob covers its own name. -/
structure FolderSettings.Admits (settings : FolderSettings) (tree : FileTree)
    (names : List Text) : Prop where
  below : tree.EntryBelow settings.root names
  not_folder : tree.isFolder (settings.root.join names) = false
  named : ∃ onTheWay name, names = onTheWay ++ [name] ∧
    (∀ directory ∈ onTheWay, directory ∉ settings.excluded) ∧
      ∃ pattern ∈ settings.globs, Glob.Covers (Glob.items pattern) name

/-- The scan comes to its end.  The files it tries are the admitted ones that are small
    enough, each once and in order; it tells once of each admitted one that has no
    size; and its results are about the files tried that can be read, in order. -/
structure Scan.Selects (scan : Scan) (tree : FileTree) (reader : TextReader)
    (settings : FolderSettings) (limit : Int) : Prop where
  stop : scan.stop = none
  ascending : scan.tried.Pairwise fun p q => p.parts < q.parts
  mem_tried_iff : ∀ file, file ∈ scan.tried ↔
    ∃ names, file = settings.root.join names ∧ settings.Admits tree names ∧
      ∃ size : Nat, tree.size file = .ok size ∧ size ≤ limit
  unmeasured_ascending : scan.unmeasured.Pairwise fun p q => p.1.parts < q.1.parts
  mem_unmeasured_iff : ∀ file reason, (file, reason) ∈ scan.unmeasured ↔
    ∃ names, file = settings.root.join names ∧ settings.Admits tree names ∧
      ∃ error, tree.size file = .error error ∧ reason = error.message
  keys : scan.results.map (·.1) = scan.tried.filter fun file => (tree.textAt? reader file).isSome

/-! ### The verdict on an entry -/

namespace FolderSettings

variable {settings : FolderSettings} {tree : FileTree} {names : List Text} {limit : Int}

theorem wants_iff {name : Text} : settings.wants name = true ↔
    ∃ pattern ∈ settings.globs, Glob.Covers (Glob.items pattern) name := by
  unfold wants
  simp only [List.any_eq_true, Glob.covers_iff]

theorem admits_iff (hbelow : tree.EntryBelow settings.root names) : settings.Admits tree names ↔
    tree.isFolder (settings.root.join names) = false ∧
      names.dropLast.any settings.excluded.elem = false ∧
        settings.wants (names.getLast?.getD []) = true := by
  obtain ⟨onTheWay, name, rfl⟩ := (List.eq_nil_or_concat' names).resolve_left hbelow.ne_nil
  have hexcluded : onTheWay.any settings.excluded.elem = false ↔
      ∀ directory ∈ onTheWay, directory ∉ settings.excluded := by
    simp
  rw [List.dropLast_concat, List.getLast?_concat, Option.getD_some, hexcluded, wants_iff]
  constructor
  · rintro ⟨-, hfolder, onTheWay, name, heq, hway, hcovered⟩
    obtain ⟨rfl, hname⟩ := List.append_inj' heq rfl
    cases hname
    exact ⟨hfolder, hway, hcovered⟩
  · rintro ⟨hfolder, hway, hcovered⟩
    exact ⟨hbelow, hfolder, onTheWay, name, rfl, hway, hcovered⟩

theorem judge_of_obstacle {fault : Fault}
    (h : tree.obstacle? (settings.root.join names) = some fault) :
    settings.judge tree names = .obstructed (.refused fault (settings.root.join names).toText) := by
  unfold judge
  simp only [h]

theorem chosen?_eq_some_iff {file : Path} : settings.chosen? tree names = some file ↔
    file = settings.root.join names ∧ settings.judge tree names = .chosen := by
  unfold chosen?
  split
  case isTrue hchosen => simp [hchosen, eq_comm]
  case isFalse hchosen => simp [hchosen]

/-- Where nothing is in the way, the verdict says which filter an entry fails. -/
theorem judge_cases (hlimit : settings.sizeLimit = .value limit)
    (hbelow : tree.EntryBelow settings.root names)
    (hobstacle : tree.obstacle? (settings.root.join names) = none) :
    ¬ settings.Admits tree names ∧ settings.judge tree names = .passedOver ∨
      settings.Admits tree names ∧
        ((∃ error, tree.size (settings.root.join names) = .error error ∧
            settings.judge tree names = .unmeasured error.message) ∨
          ∃ size : Nat, tree.size (settings.root.join names) = .ok size ∧
            (size ≤ limit ∧ settings.judge tree names = .chosen ∨
              limit < size ∧ settings.judge tree names = .oversized size limit)) := by
  unfold judge
  rw [admits_iff hbelow]
  simp only [hobstacle]
  cases hfolder : tree.isFolder (settings.root.join names) with
  | true => exact Or.inl ⟨by simp, rfl⟩
  | false =>
    cases hexcluded : names.dropLast.any settings.excluded.elem with
    | true => exact Or.inl ⟨by simp, rfl⟩
    | false =>
      cases hwants : settings.wants (names.getLast?.getD []) with
      | false => exact Or.inl ⟨by simp, rfl⟩
      | true =>
        refine Or.inr ⟨⟨rfl, rfl, rfl⟩, ?_⟩
        cases hsize : tree.size (settings.root.join names) with
        | error error => exact Or.inl ⟨error, rfl, rfl⟩
        | ok size =>
          refine Or.inr ⟨size, rfl, ?_⟩
          simp only [Bool.false_eq_true, if_false, Bool.not_true, hlimit]
          by_cases hlarge : limit < size
          · exact Or.inr ⟨hlarge, if_pos hlarge⟩
          · exact Or.inl ⟨by omega, if_neg hlarge⟩

theorem judge_eq_chosen_iff (hlimit : settings.sizeLimit = .value limit)
    (hbelow : tree.EntryBelow settings.root names)
    (hobstacle : tree.obstacle? (settings.root.join names) = none) :
    settings.judge tree names = .chosen ↔ settings.Admits tree names ∧
      ∃ size : Nat, tree.size (settings.root.join names) = .ok size ∧ size ≤ limit := by
  rcases judge_cases hlimit hbelow hobstacle with
    ⟨hadmits, h⟩ | ⟨hadmits, ⟨error, hsize, h⟩ | ⟨size, hsize, ⟨hle, h⟩ | ⟨hlt, h⟩⟩⟩
  · simp [h, hadmits]
  · simp [h, hsize]
  · simp [h, hadmits, hsize, hle]
  · simp [h, hsize, hlt]

theorem judge_eq_unmeasured_iff (hlimit : settings.sizeLimit = .value limit)
    (hbelow : tree.EntryBelow settings.root names)
    (hobstacle : tree.obstacle? (settings.root.join names) = none) {reason : Text} :
    settings.judge tree names = .unmeasured reason ↔ settings.Admits tree names ∧
      ∃ error, tree.size (settings.root.join names) = .error error ∧ reason = error.message := by
  rcases judge_cases hlimit hbelow hobstacle with
    ⟨hadmits, h⟩ | ⟨hadmits, ⟨error, hsize, h⟩ | ⟨size, hsize, ⟨hle, h⟩ | ⟨hlt, h⟩⟩⟩
  · simp [h, hadmits]
  · simp [h, hadmits, hsize, eq_comm]
  · simp [h, hsize]
  · simp [h, hsize]

/-- Only an obstacle stops a scan while entries are judged. -/
theorem stop?_judge (hlimit : settings.sizeLimit = .value limit)
    (hbelow : tree.EntryBelow settings.root names) :
    (settings.judge tree names).stop? = none ∧
        tree.obstacle? (settings.root.join names) = none ∨
      tree.obstacle? (settings.root.join names) ≠ none ∧
        ∃ name, (settings.judge tree names).stop? = some (.disk (.refused .longName name)) := by
  cases hobstacle : tree.obstacle? (settings.root.join names) with
  | some fault =>
    rw [judge_of_obstacle hobstacle, FileTree.obstacle?_eq_some hobstacle]
    exact Or.inr ⟨by simp, _, rfl⟩
  | none =>
    refine Or.inl ⟨?_, rfl⟩
    rcases judge_cases hlimit hbelow hobstacle with
      ⟨-, h⟩ | ⟨-, ⟨error, -, h⟩ | ⟨size, -, ⟨-, h⟩ | ⟨-, h⟩⟩⟩
    all_goals
      rw [h]
      rfl

end FolderSettings

/-! ### The scan of the chosen files -/

variable {tree : FileTree} {reader : TextReader} {settings : FolderSettings} {limit : Int}

theorem tried?_event (file : Path) (scan : FileScan) :
    (FileScan.event file scan).tried? = some file := by
  cases scan with
  | ok annotations => rfl
  | error error => rfl

theorem unmeasured?_event (file : Path) (scan : FileScan) :
    (FileScan.event file scan).unmeasured? = none := by
  cases scan with
  | ok annotations => rfl
  | error error => rfl

theorem tried_scans (files : List Path) (scan : Path → FileScan) :
    (files.map fun file => FileScan.event file (scan file)).filterMap Event.tried? = files := by
  induction files with
  | nil => rfl
  | cons file rest ih =>
    rw [List.map_cons, List.filterMap_cons_some (tried?_event file (scan file)), ih]

theorem unmeasured_scans (files : List Path) (scan : Path → FileScan) :
    (files.map fun file => FileScan.event file (scan file)).filterMap Event.unmeasured? = [] := by
  induction files with
  | nil => rfl
  | cons file rest ih =>
    rw [List.map_cons, List.filterMap_cons_none (unmeasured?_event file (scan file)), ih]

theorem exists_scanFile_of_text {shapes : List Shape} (hshapes : AnnotateAll shapes)
    {file : Path} {text : Text} (htext : tree.textAt? reader file = some text) :
    ∃ annotations, scanFile tree reader shapes file = .ok annotations := by
  obtain ⟨annotations, hannotations⟩ := hshapes file.toText 1 (Text.lines text)
  refine ⟨annotations, ?_⟩
  rw [scanFile_eq_of_text htext, annotateText, hannotations]
  rfl

theorem stop?_scanFile {shapes : List Shape} (hreader : reader.NamesEncodings)
    (hshapes : AnnotateAll shapes) (file : Path) :
    FileScan.stop? (scanFile tree reader shapes file) = none := by
  cases htext : tree.textAt? reader file with
  | some text =>
    obtain ⟨annotations, hscan⟩ := exists_scanFile_of_text hshapes htext
    rw [hscan]
    rfl
  | none =>
    obtain ⟨error, herror, hblames⟩ := scanFile_of_no_text hreader htext shapes
    rw [herror]
    simp only [FileScan.stop?, hblames, if_true]

/-- No file stops the scan of the others. -/
theorem scanFiles_of_annotateAll {shapes : List Shape} (hreader : reader.NamesEncodings)
    (hshapes : AnnotateAll shapes) (files : List Path) :
    scanFiles tree reader shapes settings files =
      { results := files.filterMap fun file =>
          (scanFile tree reader shapes file).toOption.map (file, ·)
        events := files.map fun file => FileScan.event file (scanFile tree reader shapes file)
        bars := settings.progress files files
        stop := none } := by
  unfold scanFiles
  dsimp only
  rw [List.takeWhile_eq_self_iff.2]
  · simp only [List.drop_length, List.head?_nil]
    simp only [List.filterMap_map, List.map_map]
    rfl
  · -- no scan stops the others
    intro scan hscan
    obtain ⟨file, -, rfl⟩ := List.mem_map.1 hscan
    simp only [stop?_scanFile hreader hshapes, Option.isNone_none]

/-- The elements for which a function has a value, with their values. -/
theorem map_fst_filterMap {α β : Type} (list : List α) (f : α → Option β) :
    (list.filterMap fun x => (f x).map (x, ·)).map (·.1) = list.filter fun x => (f x).isSome := by
  induction list with
  | nil => rfl
  | cons x rest ih =>
    cases hx : f x with
    | none => simp [hx, ih]
    | some y => simp [hx, ih]

theorem mem_filterMap_pair_iff {α β : Type} {list : List α} {f : α → Option β} {x : α} {y : β} :
    (x, y) ∈ list.filterMap (fun x => (f x).map (x, ·)) ↔ x ∈ list ∧ f x = some y := by
  simp only [List.mem_filterMap, Option.map_eq_some_iff, Prod.mk.injEq]
  constructor
  · rintro ⟨x, hx, y, hy, rfl, rfl⟩
    exact ⟨hx, hy⟩
  · rintro ⟨hx, hy⟩
    exact ⟨x, hx, y, hy, rfl, rfl⟩

/-- A file is scanned exactly if it can be read. -/
theorem isSome_scanFile {shapes : List Shape} (hreader : reader.NamesEncodings)
    (hshapes : AnnotateAll shapes) (file : Path) :
    (scanFile tree reader shapes file).toOption.isSome = (tree.textAt? reader file).isSome := by
  cases htext : tree.textAt? reader file with
  | some text =>
    obtain ⟨annotations, hscan⟩ := exists_scanFile_of_text hshapes htext
    rw [hscan]
    rfl
  | none =>
    obtain ⟨error, herror, -⟩ := scanFile_of_no_text hreader htext shapes
    rw [herror]
    rfl

theorem keys_scanned {shapes : List Shape} (hreader : reader.NamesEncodings)
    (hshapes : AnnotateAll shapes) (files : List Path) :
    (files.filterMap fun file => (scanFile tree reader shapes file).toOption.map
      (file, ·)).map (·.1) = files.filter fun file => (tree.textAt? reader file).isSome := by
  rw [map_fst_filterMap]
  apply List.filter_congr
  intro file _
  exact isSome_scanFile hreader hshapes file

/-! ### The scan of the directory -/

theorem Path.parts_join_lt {names other : List Text} (h : names < other) (root : Path) :
    (root.join names).parts < (root.join other).parts :=
  List.Lex.append_left (· < ·) h root.parts

theorem pairwise_filterMap_parts {α : Type} {entries : List (List Text)}
    (h : entries.Pairwise (· < ·)) (root : Path) {f : List Text → Option α}
    {parts : α → List Text} (hf : ∀ names a, f names = some a → parts a = (root.join names).parts) :
    (entries.filterMap f).Pairwise fun a b => parts a < parts b := by
  rw [List.pairwise_filterMap]
  apply h.imp
  intro names other hlt a ha b hb
  rw [hf names a ha, hf other b hb]
  exact Path.parts_join_lt hlt root

/-- What is told of an entry that was refused is that it has no size or is too large. -/
theorem refusal?_cases {names : List Text} {event : Event}
    (h : settings.refusal? tree names = some event) :
    (∃ reason, event = .unmeasured (settings.root.join names) reason) ∨
      ∃ size limit, event = .oversized (settings.root.join names) size limit := by
  unfold FolderSettings.refusal? at h
  split at h
  case h_1 reason _ =>
    cases h
    exact Or.inl ⟨reason, rfl⟩
  case h_2 size limit _ =>
    cases h
    exact Or.inr ⟨size, limit, rfl⟩
  case h_3 => cases h

theorem tried?_refusal {names : List Text} {event : Event}
    (h : settings.refusal? tree names = some event) : event.tried? = none := by
  rcases refusal?_cases h with ⟨reason, rfl⟩ | ⟨size, limit, rfl⟩
  · rfl
  · rfl

theorem unmeasured?_refusal {names : List Text} {file : Path} {reason : Text} :
    (settings.refusal? tree names).bind Event.unmeasured? = some (file, reason) ↔
      file = settings.root.join names ∧ settings.judge tree names = .unmeasured reason := by
  unfold FolderSettings.refusal?
  cases hjudge : settings.judge tree names with
  | unmeasured why =>
    simp [Event.unmeasured?, eq_comm]
  | passedOver | obstructed | oversized | incomparable | chosen => simp [Event.unmeasured?]

theorem tried_refusals (entries : List (List Text)) :
    (entries.filterMap (settings.refusal? tree)).filterMap Event.tried? = [] := by
  rw [List.filterMap_filterMap, List.filterMap_eq_nil_iff]
  intro names _
  cases h : settings.refusal? tree names with
  | none => rfl
  | some event => exact tried?_refusal h

/-- The files that are chosen below the directory, in order. -/
def FolderSettings.files (settings : FolderSettings) (tree : FileTree) : List Path :=
  (tree.entriesBelow settings.root).filterMap (settings.chosen? tree)

/-- A scan that meets an obstacle ends before the first file. -/
theorem scanFolder_of_obstructed (hlimit : settings.sizeLimit = .value limit)
    (h : ¬ tree.Unobstructed settings.root) (reader : TextReader) (shapes : List Shape) :
    ∃ name, (scanFolder tree reader shapes settings).stop =
        some (.disk (.refused .longName name)) ∧
      (scanFolder tree reader shapes settings).results = [] ∧
      (scanFolder tree reader shapes settings).tried = [] := by
  unfold scanFolder
  rcases tree.search_cases settings.root with ⟨hsearch, hroot⟩ | ⟨-, name, hsearch⟩
  · rw [hsearch]
    -- what is left over after the entries judged begins with the one that stops the scan
    simp only [drop_length_takeWhile]
    cases hrest : (tree.entriesBelow settings.root).dropWhile
        fun names => (settings.judge tree names).stop?.isNone with
    | nil =>
      -- no verdict stops the scan, so nothing is in its way after all
      refine absurd ⟨hroot, ?_⟩ h
      intro names hnames
      have hgoes := List.dropWhile_eq_nil_iff.1 hrest names (FileTree.mem_entriesBelow_iff.2 hnames)
      rcases FolderSettings.stop?_judge hlimit hnames with ⟨-, hobstacle⟩ | ⟨-, name, hstop⟩
      · exact hobstacle
      · rw [hstop] at hgoes
        cases hgoes
    | cons names rest =>
      have hstays := not_of_head?_dropWhile (congrArg List.head? hrest)
      have hmem : names ∈ tree.entriesBelow settings.root :=
        (List.dropWhile_sublist _).mem (hrest ▸ List.mem_cons_self)
      rcases FolderSettings.stop?_judge hlimit (FileTree.mem_entriesBelow_iff.1 hmem) with
        ⟨hstop, -⟩ | ⟨-, name, hstop⟩
      · rw [hstop] at hstays
        cases hstays
      · exact ⟨name, hstop, rfl, tried_refusals _⟩
  · rw [hsearch]
    exact ⟨name, rfl, rfl, rfl⟩

/-- Where nothing is in its way and no verdict stops it, a scan judges all entries and goes
    on to the chosen ones. -/
theorem scanFolder_of_judged (h : tree.Unobstructed settings.root)
    (hjudge : ∀ names ∈ tree.entriesBelow settings.root,
      (settings.judge tree names).stop? = none) (reader : TextReader) (shapes : List Shape) :
    scanFolder tree reader shapes settings =
      { scanFiles tree reader shapes settings (settings.files tree) with
        events := (tree.entriesBelow settings.root).filterMap (settings.refusal? tree) ++
          .discovered (settings.files tree).length settings.root ::
            (scanFiles tree reader shapes settings (settings.files tree)).events } := by
  have hsearch : tree.search settings.root = .ok (tree.entriesBelow settings.root) := by
    rcases tree.search_cases settings.root with ⟨hsearch, -⟩ | ⟨hobstructed, -⟩
    · exact hsearch
    · exact absurd h hobstructed
  have hjudged : (tree.entriesBelow settings.root).takeWhile
      (fun names => (settings.judge tree names).stop?.isNone) =
        tree.entriesBelow settings.root := by
    rw [List.takeWhile_eq_self_iff]
    intro names hnames
    rw [hjudge names hnames]
    rfl
  unfold scanFolder
  rw [hsearch]
  simp only [hjudged, List.drop_length, List.head?_nil]
  rfl

/-- Such a scan tells of every refused entry and then of every chosen file. -/
theorem scanFolder_of_annotateAll {shapes : List Shape} (hreader : reader.NamesEncodings)
    (hshapes : AnnotateAll shapes) (h : tree.Unobstructed settings.root)
    (hjudge : ∀ names ∈ tree.entriesBelow settings.root,
      (settings.judge tree names).stop? = none) :
    scanFolder tree reader shapes settings =
      { results := (settings.files tree).filterMap fun file =>
          (scanFile tree reader shapes file).toOption.map (file, ·)
        events := (tree.entriesBelow settings.root).filterMap (settings.refusal? tree) ++
          .discovered (settings.files tree).length settings.root ::
            (settings.files tree).map fun file =>
              FileScan.event file (scanFile tree reader shapes file)
        bars := settings.progress (settings.files tree) (settings.files tree)
        stop := none } := by
  rw [scanFolder_of_judged h hjudge, scanFiles_of_annotateAll hreader hshapes]

theorem stop?_judge_of_unobstructed (hlimit : settings.sizeLimit = .value limit)
    (h : tree.Unobstructed settings.root) :
    ∀ names ∈ tree.entriesBelow settings.root, (settings.judge tree names).stop? = none := by
  intro names hnames
  have hbelow := FileTree.mem_entriesBelow_iff.1 hnames
  rcases FolderSettings.stop?_judge hlimit hbelow with ⟨hstop, -⟩ | ⟨hobstacle, -⟩
  · exact hstop
  · exact absurd (h.2 names hbelow) hobstacle

theorem scanFolder_selects (hreader : reader.NamesEncodings)
    (hlimit : settings.sizeLimit = .value limit) (h : tree.Unobstructed settings.root) :
    (scanFolder tree reader Shape.builtin settings).Selects tree reader settings limit := by
  have hscan := scanFolder_of_annotateAll hreader annotateAll_builtin h
    (stop?_judge_of_unobstructed hlimit h)
  have hordered := tree.pairwise_entriesBelow settings.root
  have htried : (scanFolder tree reader Shape.builtin settings).tried = settings.files tree := by
    rw [hscan]
    unfold Scan.tried
    rw [List.filterMap_append, tried_refusals, List.filterMap_cons_none rfl, tried_scans]
    rfl
  have hunmeasured : (scanFolder tree reader Shape.builtin settings).unmeasured =
      (tree.entriesBelow settings.root).filterMap fun names =>
        (settings.refusal? tree names).bind Event.unmeasured? := by
    rw [hscan]
    unfold Scan.unmeasured
    rw [List.filterMap_append, List.filterMap_filterMap, List.filterMap_cons_none rfl,
      unmeasured_scans, List.append_nil]
  refine ⟨by rw [hscan], ?_, ?_, ?_, ?_, ?_⟩
  · rw [htried]
    apply pairwise_filterMap_parts hordered settings.root
    intro names file hfile
    rw [(FolderSettings.chosen?_eq_some_iff.1 hfile).1]
  · intro file
    rw [htried, FolderSettings.files, List.mem_filterMap]
    constructor
    · rintro ⟨names, hmem, hchosen⟩
      obtain ⟨rfl, hjudge⟩ := FolderSettings.chosen?_eq_some_iff.1 hchosen
      have hbelow := FileTree.mem_entriesBelow_iff.1 hmem
      have hclear := h.2 names hbelow
      exact ⟨names, rfl, (FolderSettings.judge_eq_chosen_iff hlimit hbelow hclear).1 hjudge⟩
    · rintro ⟨names, rfl, hadmits, hsize⟩
      have hclear := h.2 names hadmits.below
      refine ⟨names, FileTree.mem_entriesBelow_iff.2 hadmits.below, ?_⟩
      rw [FolderSettings.chosen?_eq_some_iff, FolderSettings.judge_eq_chosen_iff hlimit
        hadmits.below hclear]
      exact ⟨rfl, hadmits, hsize⟩
  · rw [hunmeasured]
    apply pairwise_filterMap_parts hordered settings.root
    intro names entry hentry
    rw [(unmeasured?_refusal.1 hentry).1]
  · intro file reason
    rw [hunmeasured, List.mem_filterMap]
    constructor
    · rintro ⟨names, hmem, hrefusal⟩
      obtain ⟨rfl, hjudge⟩ := unmeasured?_refusal.1 hrefusal
      have hbelow := FileTree.mem_entriesBelow_iff.1 hmem
      have hclear := h.2 names hbelow
      exact ⟨names, rfl, (FolderSettings.judge_eq_unmeasured_iff hlimit hbelow hclear).1 hjudge⟩
    · rintro ⟨names, rfl, hadmits, hsize⟩
      have hclear := h.2 names hadmits.below
      refine ⟨names, FileTree.mem_entriesBelow_iff.2 hadmits.below, ?_⟩
      rw [unmeasured?_refusal, FolderSettings.judge_eq_unmeasured_iff hlimit hadmits.below hclear]
      exact ⟨rfl, hadmits, hsize⟩
  · rw [htried, hscan]
    exact keys_scanned hreader annotateAll_builtin _

/-- **A scan tries exactly the files that it should, unless a name is too long.**  Where
    no name at the directory or below it is in the way, the scan comes to its end, having
    tried the admitted files up to the limit and warned of those without a size.
    Otherwise it stops before the first file. -/
theorem scanFolder_selects_iff (tree : FileTree) (reader : TextReader)
    (hreader : reader.NamesEncodings) (settings : FolderSettings) (limit : Int)
    (hlimit : settings.sizeLimit = .value limit) :
    ((scanFolder tree reader Shape.builtin settings).Selects tree reader settings limit ↔
        tree.Unobstructed settings.root) ∧
      (¬ tree.Unobstructed settings.root →
        ∃ name, (scanFolder tree reader Shape.builtin settings).stop =
            some (.disk (.refused .longName name)) ∧
          (scanFolder tree reader Shape.builtin settings).results = [] ∧
          (scanFolder tree reader Shape.builtin settings).tried = []) ∧
      ∀ file reason, (Event.unmeasured file reason).level = .warning ∧
        (Event.unmeasured file reason).message =
          "Unable to stat " ++ file.toText ++ ": " ++ reason := by
  refine ⟨⟨?_, ?_⟩, ?_, fun _ _ => ⟨rfl, rfl⟩⟩
  · intro hselects
    by_contra h
    obtain ⟨name, hstop, -⟩ := scanFolder_of_obstructed hlimit h reader Shape.builtin
    cases hselects.stop.symm.trans hstop
  · intro h
    exact scanFolder_selects hreader hlimit h
  · intro h
    exact scanFolder_of_obstructed hlimit h reader Shape.builtin

/-! ### A directory with a link -/

/-- A directory `d` with a file `a.vcl` and a link `b.vcl`. -/
def FileTree.withLink (target : Text) : FileTree where
  entries :=
    [(["d"], .folder), (["d", "a.vcl"], .file ⟨[120], false, none⟩), (["d", "b.vcl"], .link target)]
  distinct := by
    simp only [List.map]
    decide
  workDir := []

/-- A scan of the directory `d` with the usual limit. -/
def FolderSettings.ofFolder : FolderSettings where
  root := ⟨.relative, ["d"]⟩
  globs := ["*.vcl"]
  excluded := []
  sizeLimit := .value usualSizeLimit
  showProgress := false
  progressTitle := usualProgressTitle

/-- A link that leads nowhere is in nobody's way. -/
theorem scanFolder_selects_broken_link :
    (scanFolder (FileTree.withLink "gone") (.guessing none) Shape.builtin
      FolderSettings.ofFolder).Selects (FileTree.withLink "gone") (.guessing none)
        FolderSettings.ofFolder usualSizeLimit := by
  have hselects := scanFolder_selects_iff (FileTree.withLink "gone") (.guessing none)
    (fun _ _ h => by cases h) FolderSettings.ofFolder usualSizeLimit rfl
  exact hselects.1.2 (by decide +kernel)

/-- A link whose target is a name that is too long keeps the scan from the file beside
    it, and nothing is told about the link. -/
theorem scanFolder_misses_long_link :
    let tree := FileTree.withLink (List.replicate 256 'x')
    let settings := FolderSettings.ofFolder
    let scan := scanFolder tree (.guessing none) Shape.builtin settings
    (settings.Admits tree ["a.vcl"] ∧ tree.size (settings.root.join ["a.vcl"]) = .ok 1 ∧
      settings.root.join ["a.vcl"] ∉ scan.tried) ∧
    (settings.Admits tree ["b.vcl"] ∧
      tree.size (settings.root.join ["b.vcl"]) = .error (.refused .longName "d/b.vcl") ∧
      scan.unmeasured = []) ∧
    scan.stop = some (.disk (.refused .longName "d/b.vcl")) ∧
    ¬ scan.Selects tree (.guessing none) settings usualSizeLimit := by
  intro tree settings scan
  have hsearch : tree.search settings.root = .error (.refused .longName "d/b.vcl") := by
    decide +kernel
  have hscan : scan = ⟨[], [], [], some (.disk (.refused .longName "d/b.vcl"))⟩ := by
    show scanFolder tree (.guessing none) Shape.builtin settings = _
    unfold scanFolder
    rw [hsearch]
  have hadmits (name : Text) (hbelow : [name] ∈ tree.entriesBelow settings.root)
      (hfolder : tree.isFolder (settings.root.join [name]) = false)
      (hcovered : Glob.covers "*.vcl" name = true) : settings.Admits tree [name] :=
    ⟨FileTree.mem_entriesBelow_iff.1 hbelow, hfolder, [], name, rfl, by simp, "*.vcl",
      List.mem_singleton.2 rfl, Glob.covers_iff.1 hcovered⟩
  refine ⟨⟨?_, ?_, ?_⟩, ⟨?_, ?_, ?_⟩, ?_, ?_⟩
  · exact hadmits _ (by decide +kernel) (by decide +kernel) (by decide +kernel)
  · decide +kernel
  · simp [hscan, Scan.tried]
  · exact hadmits _ (by decide +kernel) (by decide +kernel) (by decide +kernel)
  · decide +kernel
  · simp [hscan, Scan.unmeasured]
  · rw [hscan]
  · intro h
    have hstop := h.stop
    rw [hscan] at hstop
    cases hstop

end VclReview
