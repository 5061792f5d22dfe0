/-
  VclReview/Report/Folder.lean
  ============================
  **Writing a report** into a directory, which is made if it is missing.  The
  files are written one after the other; the first that cannot be written ends
  the attempt.
-/
import VclReview.Disk.Update
import VclReview.Report.Artifact

namespace VclReview.Report

variable {α : Type} [Letter α]

/-- Writes files of a report into an existing directory. -/
def writeArtifacts (folder : Path) (contents : Artifact → List α) (tree : FileTree) :
    List Artifact → Attempt
  | [] => ⟨tree, none⟩
  | artifact :: rest =>
    (tree.writeText (folder.child artifact.fileName) (contents artifact)).andThen fun changed =>
      writeArtifacts folder contents changed rest

/-- Writes a report. -/
def write [DecidableEq α] (tree : FileTree) (folder : Path) (results : Results α)
    (audit : Option (List (List α))) : Attempt :=
  (tree.makeFolders folder).andThen fun changed =>
    writeArtifacts folder (Artifact.contents results audit) changed Artifact.all

end VclReview.Report
