/-
  VclReview/Proofs/FileScan.lean
  ==============================
  **Scanning one file in the language.**  Every text can be annotated, and reading up to
  the usual limit goes wrong only if the detector names an encoding that cannot be
  looked up or that fails in its own way.  So the scan of a file comes to its annotations
  or to an error that lies with the file (`scanFile_of_text`, `scanFile_of_no_text`).
-/
import VclReview.Proofs.Language
import VclReview.Proofs.Reading
import VclReview.Scan.File

namespace VclReview

/-- Every encoding that the detector names can be looked up, and gives a text or none. -/
def TextReader.NamesEncodings (reader : TextReader) : Prop :=
  ∀ data name, reader.detect data = some name →
    '\x00' ∉ name ∧ ∀ message, reader.decode name data ≠ .error message

theorem inReach_usual {reader : TextReader} (hreader : reader.NamesEncodings) (data : Bytes) :
    Bytes.InReach reader Bytes.usualLimit data where
  fits := by decide
  countable hlimit := absurd hlimit (by decide)
  affordable _ _ := Bytes.affordable_of_le_usualLimit reader (by omega)
  speakable := by
    rintro _ _ _ ⟨_, name, hname, -, hfails⟩
    obtain ⟨hnul, hdecode⟩ := hreader _ name hname
    rcases hfails with hfails | ⟨message, hmessage⟩
    · exact hnul hfails
    · exact hdecode message hmessage

theorem readText_usual {reader : TextReader} (hreader : reader.NamesEncodings) (data : Bytes) :
    ∃ text?, Bytes.readText reader Bytes.usualLimit data = .ok text? := by
  have hanswers := Bytes.readText_of_inReach (inReach_usual hreader data)
  obtain ⟨text?, htext, -⟩ := hanswers.upTo (by decide)
  exact ⟨text?, htext⟩

/-- The text of the file, if it can be opened and decoded. -/
def FileTree.textAt? (tree : FileTree) (reader : TextReader) (file : Path) : Option Text :=
  match tree.contentsAt file with
  | .error _ => none
  | .ok bytes =>
    match Bytes.readText reader Bytes.usualLimit bytes with
    | .error _ => none
    | .ok text? => text?

variable {tree : FileTree} {reader : TextReader} {file : Path}

theorem scanFile_eq_of_text {text : Text} (h : tree.textAt? reader file = some text)
    (shapes : List Shape) :
    scanFile tree reader shapes file = (annotateText shapes file text).mapError .line := by
  unfold FileTree.textAt? at h
  unfold scanFile
  cases hcontents : tree.contentsAt file with
  | error error => simp [hcontents] at h
  | ok bytes =>
    cases hread : Bytes.readText reader Bytes.usualLimit bytes with
    | error error => simp [hcontents, hread] at h
    | ok text? =>
      simp only [hcontents, hread] at h
      simp only [hread, h]

/-- A file that is scanned has been read. -/
theorem exists_textAt?_of_scanFile {shapes : List Shape} {annotations : List Annotation}
    (h : scanFile tree reader shapes file = .ok annotations) :
    ∃ text, tree.textAt? reader file = some text := by
  unfold scanFile at h
  unfold FileTree.textAt?
  cases hcontents : tree.contentsAt file with
  | error error => simp [hcontents] at h
  | ok bytes =>
    cases hread : Bytes.readText reader Bytes.usualLimit bytes with
    | error error => simp [hcontents, hread] at h
    | ok text? =>
      cases text? with
      | none => simp [hcontents, hread] at h
      | some text => exact ⟨text, by simp only [hread]⟩

theorem scanFile_of_text {text : Text} (h : tree.textAt? reader file = some text) :
    scanFile tree reader Shape.builtin file =
      .ok (annotationsOf file.toText 1 (Text.lines text)) := by
  rw [scanFile_eq_of_text h, annotateText, annotateFrom_builtin]
  rfl

theorem scanFile_of_no_text (hreader : reader.NamesEncodings)
    (h : tree.textAt? reader file = none) (shapes : List Shape) :
    ∃ error, scanFile tree reader shapes file = .error error ∧ error.blamesFile = true := by
  unfold FileTree.textAt? at h
  unfold scanFile
  cases hcontents : tree.contentsAt file with
  | error error => exact ⟨_, rfl, rfl⟩
  | ok bytes =>
    obtain ⟨text?, hread⟩ := readText_usual hreader bytes
    simp only [hcontents, hread] at h
    simp only [hread, h]
    exact ⟨_, rfl, rfl⟩

end VclReview
