/-
  VclReview/Proofs/Interruption.lean
  ==================================
  **A report that is broken off.**  The files of a report are written in their order, and the
  first whose name is blocked ends the attempt.  So the files written are the first ones, each
  of them with all of its contents, and those that follow are as they were.  A text that holds
  surrogates ends the attempt as well, but not before its file has been emptied.  Nothing else
  changes but that directories are made on the way (`write_in_order`).
-/
import VclReview.Proofs.ReportFiles
import VclReview.Proofs.SoundTrees

namespace VclReview

namespace FileTree

/-- What is at the place is as before, unless nothing was there and a directory on the way to
    the path is there now. -/
def KeptAt (tree after : FileTree) (path : Path) (place : Place) : Prop :=
  after.get? place = tree.get? place ∨
    tree.get? place = none ∧ after.get? place = some .folder ∧ after.OnTheWay path place

variable {tree after : FileTree} {path : Path} {place : Place}

theorem Prepares.keptAt {attempt : Attempt} (h : tree.Prepares path attempt) (place : Place) :
    tree.KeptAt attempt.tree path place := by
  rcases h.adds.get? place with hsame | ⟨hfree, hnew⟩
  · exact Or.inl hsame
  · apply (h.onTheWay place).imp_right
    intro hway
    exact ⟨hfree, hnew, hway⟩

theorem KeptAt.mono {made : FileTree} (h : tree.KeptAt made path place)
    (hways : made.WaysIn after) (hsame : after.get? place = made.get? place) :
    tree.KeptAt after path place := by
  rcases h with hkept | ⟨hfree, hnew, hway⟩
  · exact Or.inl (hsame.trans hkept)
  · exact Or.inr ⟨hfree, hsame.trans hnew, hway.mono hways⟩

/-- Files are neither made nor changed where a tree is kept. -/
theorem KeptAt.file? (h : tree.KeptAt after path place) : after.file? place = tree.file? place := by
  rcases h with hsame | ⟨hfree, hnew, -⟩
  · rw [FileTree.file?, hsame, FileTree.file?]
  · rw [file?_eq_none hfree, FileTree.file?, hnew]

end FileTree

namespace Report

open FileTree

variable {α : Type} [Letter α]

/-- The attempt has come to an end with the first artifacts written, the next one emptied, if
    its text has no UTF-8, and the others left alone.  It has failed only for such a text, or if
    the directory could not be made or the next name was blocked. -/
structure WritesInOrder (tree : FileTree) (folder : Path) (contents : Artifact → List α)
    (attempt : Attempt) (written : List Artifact) (emptied : Option Artifact) : Prop where
  order : written ++ emptied.toList <+: Artifact.all
  returns_iff : attempt.failure = none ↔ written = Artifact.all
  complete : ∀ artifact ∈ written, ∃ text, contents artifact = Letter.spell text ∧
    attempt.tree.contentsAt (folder.child artifact.fileName) = .ok (Utf8.encode text)
  empty : ∀ artifact ∈ emptied, (∀ text, contents artifact ≠ Letter.spell text) ∧
    attempt.tree.contentsAt (folder.child artifact.fileName) = .ok [] ∧
      attempt.failure = some (.unencodable (Letter.firstSurrogates (contents artifact)))
  later : ∀ artifact, artifact ∉ written → artifact ∉ emptied →
    ∀ home, attempt.tree.folder? folder = some home →
      tree.KeptAt attempt.tree folder (home ++ [artifact.fileName]) ∧
        attempt.tree.file? (home ++ [artifact.fileName]) =
          tree.file? (home ++ [artifact.fileName])
  elsewhere : ∀ place,
    (∀ home, attempt.tree.folder? folder = some home →
      ∀ artifact : Artifact, place ≠ home ++ [artifact.fileName]) →
    tree.KeptAt attempt.tree folder place
  workDir : attempt.tree.workDir = tree.workDir
  stopped : attempt.failure ≠ none → emptied = none →
    written = [] ∧ (tree.makeFolders folder).failure = attempt.failure ∨
      ∃ home next, attempt.tree.folder? folder = some home ∧
        written ++ [next] <+: Artifact.all ∧ attempt.tree.Blocked folder home next.fileName

variable {tree : FileTree} {folder : Path} {home : Place} {contents : Artifact → List α}

/-- An attempt that cannot make the directory writes nothing. -/
theorem writesInOrder_of_failure (h : (tree.makeFolders folder).failure ≠ none) :
    WritesInOrder tree folder contents (tree.makeFolders folder) [] none := by
  have hkept := (tree.makeFolders_prepares folder).keptAt
  constructor
  case order => exact List.nil_prefix
  case returns_iff => exact iff_of_false h (by decide)
  case complete =>
    intro artifact hartifact
    cases hartifact
  case empty =>
    intro artifact hartifact
    cases hartifact
  case later =>
    intro artifact _ _ home _
    exact ⟨hkept _, (hkept _).file?⟩
  case elsewhere =>
    intro place _
    exact hkept place
  case workDir => exact (tree.makeFolders_prepares folder).adds.workDir
  case stopped =>
    intro _ _
    exact Or.inl ⟨rfl, rfl⟩

/-- What has been written into a directory that was made for it. -/
theorem Wrote.writesInOrder {attempt : Attempt} {written unwritten : List Artifact}
    {emptied : Option Artifact} (hmade : tree.Prepares folder (tree.makeFolders folder))
    (hfolder : (tree.makeFolders folder).tree.folder? folder = some home)
    (hsplit : Artifact.all = written ++ (emptied.toList ++ unwritten))
    (hspelled : ∀ artifact ∈ written, ∃ text, contents artifact = Letter.spell text)
    (hwrote : Wrote (tree.makeFolders folder).tree attempt.tree folder home contents
      (written ++ emptied.toList))
    (hend : Ending attempt.tree folder home contents attempt.failure emptied unwritten) :
    WritesInOrder tree folder contents attempt written emptied := by
  have hstays := folder?_of_waysIn hwrote.ways hfolder
  have hkept (place : Place)
      (hplace : ∀ artifact ∈ written ++ emptied.toList, place ≠ home ++ [artifact.fileName]) :
      tree.KeptAt attempt.tree folder place :=
    (hmade.keptAt place).mono hwrote.ways (hwrote.elsewhere place hplace)
  have hholds (artifact : Artifact) (hartifact : artifact ∈ written ++ emptied.toList) :
      attempt.tree.contentsAt (folder.child artifact.fileName) =
        .ok (bytesOf (contents artifact)) := by
    obtain ⟨haddressable, data, hbytes, hget⟩ := hwrote.written artifact hartifact
    rw [← hbytes]
    exact contentsAt_child hstays artifact.ofName_fileName artifact.byteCount_fileName
      haddressable hget
  constructor
  case order => exact ⟨unwritten, by rw [hsplit, List.append_assoc]⟩
  case returns_iff =>
    have hall : written = Artifact.all ↔ emptied = none ∧ unwritten = [] := by simp [hsplit]
    rw [hall]
    generalize attempt.failure = failure at hend
    cases hend with
    | done => simp
    | blocked => simp
    | emptied => simp
  case complete =>
    intro artifact hartifact
    obtain ⟨text, htext⟩ := hspelled artifact hartifact
    refine ⟨text, htext, ?_⟩
    rw [hholds artifact (List.mem_append_left _ hartifact), (bytesOf_of_spelled htext).1]
  case empty =>
    intro artifact hartifact
    rw [hholds artifact (List.mem_append_right _ (Option.mem_toList.2 hartifact))]
    generalize attempt.failure = failure at hend
    cases hend with
    | done => cases hartifact
    | blocked => cases hartifact
    | emptied hdamaged =>
      cases hartifact
      exact ⟨hdamaged, by rw [(bytesOf_of_not_spelled hdamaged).1], rfl⟩
  case later =>
    intro artifact hwritten hemptied home' hhome'
    obtain rfl : home' = home := Option.some.inj (hhome'.symm.trans hstays)
    have hplace : tree.KeptAt attempt.tree folder (home' ++ [artifact.fileName]) := by
      apply hkept
      intro other hother
      refine place_ne fun heq => ?_
      rcases List.mem_append.1 (heq ▸ hother) with hmem | hmem
      · exact hwritten hmem
      · exact hemptied (Option.mem_toList.1 hmem)
    exact ⟨hplace, hplace.file?⟩
  case elsewhere =>
    intro place hplace
    exact hkept place fun artifact _ => hplace home hstays artifact
  case workDir => exact hwrote.ways.workDir.trans hmade.adds.workDir
  case stopped =>
    intro hfailure hnone
    generalize attempt.failure = failure at hend hfailure
    cases hend with
    | done => exact absurd rfl hfailure
    | blocked hblocked =>
      refine Or.inr ⟨home, _, hstays, ?_, hblocked⟩
      rw [hsplit]
      simp
    | emptied => cases hnone

/-- The two files of a report that are JSON are written in characters only. -/
theorem emptied_for_reading [DecidableEq α] {results : Results α} {audit : Option (List (List α))}
    {artifact : Artifact} (h : ∀ text, artifact.contents results audit ≠ Letter.spell text) :
    artifact = .annotationsMarkdown ∨ artifact = .summaryMarkdown := by
  cases artifact with
  | annotationsJson => exact absurd rfl (h _)
  | indexJson => exact absurd rfl (h _)
  | annotationsMarkdown => exact Or.inl rfl
  | summaryMarkdown => exact Or.inr rfl

/-- **A report is written file by file, and one that is broken off leaves everything else as
    it was**, but for one of the two files for reading, which has been emptied if its text
    holds surrogates. -/
theorem write_in_order [DecidableEq α] (tree : FileTree) (hlinks : tree.LinkFree) (folder : Path)
    (results : Results α) (audit : Option (List (List α))) :
    ∃ written emptied, WritesInOrder tree folder (Artifact.contents results audit)
        (write tree folder results audit) written emptied ∧
      ∀ artifact ∈ emptied, artifact = .annotationsMarkdown ∨ artifact = .summaryMarkdown := by
  have hmade := tree.makeFolders_prepares folder
  have hinOrder : ∃ written emptied, WritesInOrder tree folder (Artifact.contents results audit)
      (write tree folder results audit) written emptied := by
    unfold write
    rcases Attempt.andThen_cases (tree.makeFolders folder) _ with ⟨hfailure, heq⟩ | ⟨hnone, heq⟩
    · rw [heq]
      exact ⟨[], none, writesInOrder_of_failure hfailure⟩
    · rw [heq]
      obtain ⟨home, hfolder⟩ := Option.isSome_iff_exists.1 (hmade.isFolder hnone)
      have hunlinked : UnlinkedAt (tree.makeFolders folder).tree home := by
        intro artifact target hget
        exact hlinks _ target (hmade.adds.link_iff.1 hget)
      have hnodup : Artifact.all.Nodup := by decide
      obtain ⟨written, emptied, unwritten, hsplit, hspelled, hwrote, hend⟩ :=
        writeArtifacts_cases (Artifact.contents results audit) hnodup hfolder hunlinked
      exact ⟨written, emptied, hwrote.writesInOrder hmade hfolder hsplit hspelled hend⟩
  obtain ⟨written, emptied, hwrites⟩ := hinOrder
  exact ⟨written, emptied, hwrites, fun artifact hartifact =>
    emptied_for_reading (hwrites.empty artifact hartifact).1⟩

end Report

/-- A directory `o` in which a directory has the name of a file of a report. -/
def FileTree.takenName : FileTree where
  entries :=
    [(["o"], .folder), (["o", "index.json"], .folder),
      (["o", "summary.md"], .file ⟨[120], false, none⟩)]
  distinct := by
    simp only [List.map]
    decide
  workDir := []

theorem write_in_order_to_taken_name :
    let folder : Path := ⟨.relative, ["o"]⟩
    let attempt := Report.write .takenName folder ([] : Results) none
    (∃ written emptied, Report.WritesInOrder .takenName folder
        (Artifact.contents ([] : Results) none) attempt written emptied ∧
      ∀ artifact ∈ emptied, artifact = .annotationsMarkdown ∨ artifact = .summaryMarkdown) ∧
      attempt.failure = some (.refused .isDirectory "o/index.json") := by
  intro folder attempt
  refine ⟨?_, by decide +kernel⟩
  apply Report.write_in_order
  apply FileTree.linkFree_of_forall
  simp [FileTree.takenName]

/-- A directory `o` that holds a report for reading. -/
def FileTree.earlierReport : FileTree where
  entries := [(["o"], .folder), (["o", "annotations.md"], .file ⟨[120], false, none⟩)]
  distinct := by
    simp only [List.map]
    decide
  workDir := []

/-- A report for reading on a file whose name is not UTF-8 is lost, and the earlier one with
    it. -/
theorem write_empties_earlier_report :
    let report : Path := ⟨.relative, ["o", "annotations.md"]⟩
    let file : Path CodePoint := ⟨.relative, [[.char 'a', .surrogate 0x4FF]]⟩
    let attempt := Report.write .earlierReport ⟨.relative, ["o"]⟩ [(file, [])] none
    FileTree.earlierReport.LinkFree ∧ attempt.failure = some (.unencodable ⟨23, [0x4FF]⟩) ∧
      FileTree.earlierReport.contentsAt report = .ok [120] ∧
      attempt.tree.contentsAt report = .ok [] := by
  intro report file attempt
  refine ⟨FileTree.linkFree_of_forall (by simp [FileTree.earlierReport]), ?_, ?_, ?_⟩
  · decide +kernel
  · decide +kernel
  · decide +kernel

end VclReview
