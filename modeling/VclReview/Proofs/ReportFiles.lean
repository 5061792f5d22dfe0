/-
  VclReview/Proofs/ReportFiles.lean
  =================================
  **What a report leaves behind.**  A file written into a directory is found there with
  its text (`writeText_child_cases`, `contentsAt_child`).  The files of a report are written
  one after the other, and none of them is in another's place; so after a report each of
  them holds its contents (`contentsAt_write`), unless a link at one of their names
  leads somewhere else.
-/
import VclReview.Proofs.Ways
import VclReview.Report.Folder

namespace VclReview

/-! ### A file in a directory -/

namespace FileTree

variable {tree : FileTree} {path : Path} {home : Place} {name text : Text}

/-- The path can be asked for: it holds no character zero and is not too long. -/
structure Addressable (path : Path) : Prop where
  nul : path.hasNul = false
  short : Text.byteCount path.toText < pathLimit

/-- No text can be written under the name: its path cannot be asked for, or it is the name of
    something that is no file. -/
def Blocked (tree : FileTree) (path : Path) (home : Place) (name : Text) : Prop :=
  ¬ Addressable (path.child name) ∨ tree.get? (home ++ [name]) = some .folder ∨
    tree.get? (home ++ [name]) = some .socket

/-- What is written below a directory takes a free name or the place of a file, unless the
    name is blocked; then nothing changes. -/
theorem writeFile_child_cases (hfolder : tree.folder? path = some home)
    (hstep : Step.ofName name = .into name) (hshort : Text.byteCount name ≤ maxNameBytes)
    (hlink : ∀ target, tree.get? (home ++ [name]) ≠ some (.link target)) (bytes : Bytes) :
    (Addressable (path.child name) ∧ tree.get? (home ++ [name]) ≠ some .folder ∧
        ∃ data : FileData, data.bytes = bytes ∧
          tree.writeFile (path.child name) bytes =
            ⟨tree.put (home ++ [name]) (.file data), none⟩) ∨
      tree.Blocked path home name ∧
        ∃ error, tree.writeFile (path.child name) bytes = ⟨tree, some error⟩ := by
  unfold writeFile putFile
  by_cases hnul : (path.child name).hasNul = true
  · rw [if_pos hnul]
    refine Or.inr ⟨Or.inl fun haddressable => ?_, _, rfl⟩
    cases hnul.symm.trans haddressable.nul
  rw [if_neg hnul, locate_child .create hfolder hstep hshort hlink]
  by_cases hlong : pathLimit ≤ Text.byteCount (path.child name).toText
  · rw [if_pos hlong]
    refine Or.inr ⟨Or.inl fun haddressable => ?_, _, rfl⟩
    exact absurd haddressable.short (Nat.not_lt.2 hlong)
  · have haddressable : Addressable (path.child name) := ⟨by simpa using hnul, Nat.not_le.1 hlong⟩
    rw [if_neg hlong]
    unfold standing
    cases hget : tree.get? (home ++ [name]) with
    | none => exact Or.inl ⟨haddressable, by simp, ⟨_, false, none⟩, rfl, rfl⟩
    | some entry =>
      cases entry with
      | folder => exact Or.inr ⟨Or.inr (Or.inl hget), _, rfl⟩
      | file data => exact Or.inl ⟨haddressable, by simp, FileData.overwrite data _, rfl, rfl⟩
      | link target => exact absurd hget (hlink target)
      | socket => exact Or.inr ⟨Or.inr (Or.inr hget), _, rfl⟩

theorem contentsAt_child (hfolder : tree.folder? path = some home)
    (hstep : Step.ofName name = .into name) (hshort : Text.byteCount name ≤ maxNameBytes)
    (haddressable : Addressable (path.child name)) {data : FileData}
    (hget : tree.get? (home ++ [name]) = some (.file data)) :
    tree.contentsAt (path.child name) = .ok data.bytes := by
  have hlink : ∀ target, tree.get? (home ++ [name]) ≠ some (.link target) := by simp [hget]
  have hlocate := locate_child .use hfolder hstep hshort hlink
  rw [if_neg (Nat.not_le.2 haddressable.short)] at hlocate
  simp only [contentsAt, haddressable.nul, Bool.false_eq_true, if_false, status, hlocate, standing,
    hget]

end FileTree

/-! ### The names of the files of a report -/

namespace Artifact

theorem fileName_injective {artifact other : Artifact} (h : artifact.fileName = other.fileName) :
    artifact = other := by
  revert h
  cases artifact <;> cases other <;> decide

theorem ofName_fileName (artifact : Artifact) :
    Step.ofName artifact.fileName = .into artifact.fileName := by
  cases artifact <;> decide

theorem byteCount_fileName (artifact : Artifact) :
    Text.byteCount artifact.fileName ≤ FileTree.maxNameBytes := by
  cases artifact <;> decide

theorem mem_all (artifact : Artifact) : artifact ∈ all := by
  cases artifact <;> decide

end Artifact

/-! ### The files of a report -/

namespace Report

open FileTree

variable {α : Type} [Letter α] {tree after : FileTree} {folder : Path} {home : Place}
  {contents : Artifact → List α} {artifacts : List Artifact}

/-- No name of an artifact is taken by a link in the directory at the place. -/
def UnlinkedAt (tree : FileTree) (home : Place) : Prop :=
  ∀ (artifact : Artifact) (target : Text),
    tree.get? (home ++ [artifact.fileName]) ≠ some (.link target)

/-- No name of an artifact is taken by a link in the directory of a report, which is
    where its path leads once the missing directories are there. -/
def Unlinked (tree : FileTree) (folder : Path) : Prop :=
  ∀ home, (tree.makeFolders folder).tree.folder? folder = some home → UnlinkedAt tree home

/-- The artifacts have been written into the directory, and nothing else has changed. -/
structure Wrote (tree after : FileTree) (folder : Path) (home : Place)
    (contents : Artifact → List α) (artifacts : List Artifact) : Prop where
  ways : tree.WaysIn after
  elsewhere : ∀ place, (∀ artifact ∈ artifacts, place ≠ home ++ [artifact.fileName]) →
    after.get? place = tree.get? place
  written : ∀ artifact ∈ artifacts, Addressable (folder.child artifact.fileName) ∧
    ∃ data : FileData, data.bytes = bytesOf (contents artifact) ∧
      after.get? (home ++ [artifact.fileName]) = some (.file data)

theorem place_ne {artifact other : Artifact} (h : artifact ≠ other) :
    home ++ [artifact.fileName] ≠ home ++ [other.fileName] := by
  intro heq
  have hname : artifact.fileName = other.fileName := by simpa using heq
  exact h (Artifact.fileName_injective hname)

/-- The name is blocked, or the file holds what there is of the text, which may have no UTF-8. -/
theorem writeText_wrote_or_blocked (contents : Artifact → List α) {artifact : Artifact}
    (hfolder : tree.folder? folder = some home) (hunlinked : UnlinkedAt tree home) :
    (∃ between, tree.writeText (folder.child artifact.fileName) (contents artifact) =
          ⟨between, encodingError? (contents artifact)⟩ ∧
        Wrote tree between folder home contents [artifact]) ∨
      tree.Blocked folder home artifact.fileName ∧
        ∃ error, tree.writeText (folder.child artifact.fileName) (contents artifact) =
          ⟨tree, some error⟩ := by
  unfold writeText
  rcases writeFile_child_cases hfolder artifact.ofName_fileName artifact.byteCount_fileName
      (hunlinked artifact) (bytesOf (contents artifact)) with
    ⟨haddressable, hget, data, hbytes, hwritten⟩ | ⟨hblocked, error, hrefused⟩
  · rw [hwritten]
    refine Or.inl ⟨_, rfl, waysIn_put hget (hunlinked artifact) _, ?_, ?_⟩
    · intro place hplace
      exact get?_put_of_ne tree _ (hplace artifact (List.mem_singleton.2 rfl))
    · intro other hother
      rw [List.mem_singleton.1 hother]
      exact ⟨haddressable, data, hbytes, get?_put_self tree _ (by simp)⟩
  · rw [hrefused]
    exact Or.inr ⟨hblocked, error, rfl⟩

/-- What has been written stays when other artifacts are written. -/
theorem Wrote.cons {between : FileTree} {artifact : Artifact} (hnew : artifact ∉ artifacts)
    (hfirst : Wrote tree between folder home contents [artifact])
    (hrest : Wrote between after folder home contents artifacts) :
    Wrote tree after folder home contents (artifact :: artifacts) where
  ways := hfirst.ways.trans hrest.ways
  elsewhere place hplace := by
    rw [hrest.elsewhere place fun other hother => hplace other (List.mem_cons_of_mem _ hother)]
    refine hfirst.elsewhere place fun other hother => hplace other ?_
    exact List.mem_cons.2 (Or.inl (List.mem_singleton.1 hother))
  written other hother := by
    rcases List.mem_cons.1 hother with rfl | hother
    · obtain ⟨haddressable, data, hbytes, hget⟩ := hfirst.written other (by simp)
      refine ⟨haddressable, data, hbytes, ?_⟩
      rw [hrest.elsewhere, hget]
      intro third hthird
      exact place_ne fun heq => hnew (heq ▸ hthird)
    · exact hrest.written other hother

theorem Wrote.unlinkedAt (h : Wrote tree after folder home contents artifacts)
    (hunlinked : UnlinkedAt tree home) : UnlinkedAt after home := by
  intro artifact target hget
  by_cases hmem : artifact ∈ artifacts
  · obtain ⟨-, data, -, hdata⟩ := h.written artifact hmem
    cases hdata.symm.trans hget
  · rw [h.elsewhere] at hget
    · exact hunlinked artifact target hget
    · intro other hother
      exact place_ne fun heq => hmem (heq ▸ hother)

/-- How the writing of artifacts has ended, with those that were left over: all are written,
    or the name of the next one is blocked, or the next one has been emptied for a text that has
    no UTF-8. -/
inductive Ending (after : FileTree) (folder : Path) (home : Place) (contents : Artifact → List α) :
    (failure : Option DiskError) → (emptied : Option Artifact) → (unwritten : List Artifact) → Prop
  | done : Ending after folder home contents none none []
  | blocked {error : DiskError} {next : Artifact} {rest : List Artifact}
      (h : after.Blocked folder home next.fileName) :
      Ending after folder home contents (some error) none (next :: rest)
  | emptied {next : Artifact} {rest : List Artifact}
      (h : ∀ text, contents next ≠ Letter.spell text) :
      Ending after folder home contents
        (some (.unencodable (Letter.firstSurrogates (contents next)))) (some next) rest

/-- **The artifacts are written one by one up to the first that is hindered**, and no others. -/
theorem writeArtifacts_cases (contents : Artifact → List α) (hnodup : artifacts.Nodup)
    (hfolder : tree.folder? folder = some home) (hunlinked : UnlinkedAt tree home) :
    ∃ written emptied unwritten, artifacts = written ++ (emptied.toList ++ unwritten) ∧
      (∀ artifact ∈ written, ∃ text, contents artifact = Letter.spell text) ∧
      Wrote tree (writeArtifacts folder contents tree artifacts).tree folder home contents
        (written ++ emptied.toList) ∧
      Ending (writeArtifacts folder contents tree artifacts).tree folder home contents
        (writeArtifacts folder contents tree artifacts).failure emptied unwritten := by
  induction artifacts generalizing tree with
  | nil =>
    exact ⟨[], none, [], rfl, by simp, ⟨WaysIn.refl tree, fun _ _ => rfl, by simp⟩, .done⟩
  | cons artifact rest ih =>
    obtain ⟨hnew, hrest⟩ := List.nodup_cons.1 hnodup
    rw [writeArtifacts]
    rcases writeText_wrote_or_blocked contents hfolder hunlinked with
      ⟨between, hwritten, hfirst⟩ | ⟨hblocked, error, hrefused⟩
    · rw [hwritten]
      by_cases hspelled : ∃ text, contents artifact = Letter.spell text
      · obtain ⟨text, htext⟩ := hspelled
        rw [(bytesOf_of_spelled htext).2]
        -- the directory is still where it was, so that the rest is written there too
        obtain ⟨written, emptied, unwritten, hsplit, hall, hwrote, hend⟩ := ih hrest
          (folder?_of_waysIn hfirst.ways hfolder) (hfirst.unlinkedAt hunlinked)
        have hfresh : artifact ∉ written ++ emptied.toList := by
          rw [hsplit, ← List.append_assoc] at hnew
          exact fun hmem => hnew (List.mem_append_left unwritten hmem)
        exact ⟨artifact :: written, emptied, unwritten, congrArg (artifact :: ·) hsplit,
          List.forall_mem_cons.2 ⟨⟨text, htext⟩, hall⟩, hfirst.cons hfresh hwrote, hend⟩
      · have hdamaged : ∀ text, contents artifact ≠ Letter.spell text :=
          fun text htext => hspelled ⟨text, htext⟩
        rw [(bytesOf_of_not_spelled hdamaged).2]
        exact ⟨[], some artifact, rest, rfl, by simp, hfirst, .emptied hdamaged⟩
    · rw [hrefused]
      exact ⟨[], none, artifact :: rest, rfl, by simp,
        ⟨WaysIn.refl tree, fun _ _ => rfl, by simp⟩, .blocked hblocked⟩

theorem writeArtifacts_wrote (hnodup : artifacts.Nodup) (hfolder : tree.folder? folder = some home)
    (hunlinked : UnlinkedAt tree home)
    (h : (writeArtifacts folder contents tree artifacts).failure = none) :
    (∀ artifact ∈ artifacts, ∃ text, contents artifact = Letter.spell text) ∧
      Wrote tree (writeArtifacts folder contents tree artifacts).tree folder home contents
        artifacts := by
  obtain ⟨written, emptied, unwritten, hsplit, hall, hwrote, hend⟩ :=
    writeArtifacts_cases contents hnodup hfolder hunlinked
  rw [h] at hend
  cases hend
  simp only [Option.toList_none, List.append_nil] at hsplit hwrote
  subst hsplit
  exact ⟨hall, hwrote⟩

/-- **After a report each of its files holds its contents**, if no link is in its
    place. -/
theorem contentsAt_write {results : Results} {audit : Option (List Text)}
    (hunlinked : Unlinked tree folder) (h : (write tree folder results audit).failure = none)
    (artifact : Artifact) :
    (write tree folder results audit).tree.contentsAt (folder.child artifact.fileName) =
      .ok (Utf8.encode (artifact.contents results audit)) := by
  have hmakes := tree.makeFolders_prepares folder
  unfold write at h ⊢
  rcases Attempt.andThen_cases _ _ with ⟨hfailure, heq⟩ | ⟨hfailure, heq⟩
  · exact absurd (heq ▸ h) hfailure
  · rw [heq] at h ⊢
    obtain ⟨home, hfolder⟩ := Option.isSome_iff_exists.1 (hmakes.isFolder hfailure)
    have hmade : UnlinkedAt (tree.makeFolders folder).tree home := by
      intro other target hget
      exact hunlinked home hfolder other target (hmakes.adds.link_iff.1 hget)
    obtain ⟨-, hwrote⟩ := writeArtifacts_wrote (by decide) hfolder hmade h
    obtain ⟨haddressable, data, hbytes, hget⟩ := hwrote.written artifact artifact.mem_all
    rw [← (bytesOf_of_spelled (Letter.spell_char _).symm).1, ← hbytes]
    exact contentsAt_child (folder?_of_waysIn hwrote.ways hfolder) artifact.ofName_fileName
      artifact.byteCount_fileName haddressable hget

end Report

end VclReview
