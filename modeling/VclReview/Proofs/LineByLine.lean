/-
  VclReview/Proofs/LineByLine.lean
  ================================
  **A file is annotated line by line.**  The lines of a text hold no newline and give the
  text back when they are joined by newlines (`Text.join_lines`), and a text that ends with
  a newline can be continued without changing its lines (`Text.lines_append`).  So a scan
  tells of every line once, in order and under its number, what is told of that line alone,
  and a longer text is scanned part by part (`scanFile_line_by_line`).
-/
import VclReview.Proofs.FileScan
import VclReview.Proofs.PathTexts
import VclReview.Report.Artifact

namespace VclReview

/-! ### The lines of a text -/

namespace Text

theorem lines_nil : lines [] = [] := rfl

theorem lines_eq (text : Text) : lines text =
    if (splitWhere (· == '\n') text).getLast? = some [] then
      (splitWhere (· == '\n') text).dropLast
    else splitWhere (· == '\n') text := rfl

/-- A newline ends a line, and the others are those of what follows it. -/
theorem lines_append_cons (front rest : Text) :
    lines (front ++ '\n' :: rest) = splitWhere (· == '\n') front ++ lines rest := by
  have hrest := splitWhere_ne_nil (· == '\n') rest
  rw [lines_eq, lines_eq, splitWhere_append_cons (by rfl), List.getLast?_append,
    List.getLast?_eq_some_getLast hrest, Option.some_or]
  split
  · rw [List.dropLast_append_of_ne_nil hrest]
  · rfl

theorem endsWith_newline_iff {text : Text} :
    endsWith ['\n'] text = true ↔ ∃ front, text = front ++ ['\n'] := by
  unfold endsWith
  rw [List.isSuffixOf_iff_suffix]
  constructor
  · rintro ⟨front, rfl⟩
    exact ⟨front, rfl⟩
  · rintro ⟨front, rfl⟩
    exact ⟨front, rfl⟩

/-- A text that ends with a newline may be continued without touching its lines. -/
theorem lines_append {upper : Text} (h : endsWith ['\n'] upper = true) (lower : Text) :
    lines (upper ++ lower) = lines upper ++ lines lower := by
  obtain ⟨front, rfl⟩ := endsWith_newline_iff.1 h
  rw [List.append_assoc, List.singleton_append, lines_append_cons, lines_append_cons, lines_nil,
    List.append_nil]

theorem newline_not_mem_of_mem_lines {text line : Text} (h : line ∈ lines text) : '\n' ∉ line := by
  have hpart : line ∈ splitWhere (· == '\n') text := by
    rw [lines_eq] at h
    split at h
    · exact List.dropLast_subset _ h
    · exact h
  intro hnewline
  have hother := mem_splitWhere hpart '\n' hnewline
  exact absurd hother (by decide)

/-- What ends a text whose last line is ended, or not. -/
def lineEnd (ended : Bool) : Text := if ended then ['\n'] else []

/-- **The lines of a text, joined by newlines, give the text back.** -/
theorem join_lines (text : Text) :
    Report.joinLines (lines text) ++ lineEnd (endsWith ['\n'] text) = text := by
  have hwhole := intercalate_splitWhere '\n' text
  rw [Report.joinLines, Letter.spell_char]
  cases hend : endsWith ['\n'] text with
  | true =>
    obtain ⟨front, rfl⟩ := endsWith_newline_iff.1 hend
    rw [lines_append_cons, lines_nil, List.append_nil, intercalate_splitWhere]
    rfl
  | false =>
    rw [lineEnd, if_neg Bool.false_ne_true, List.append_nil]
    rw [lines_eq]
    split
    case isFalse => exact hwhole
    case isTrue hlast =>
      -- the last part is empty, and so is the whole text or there is a newline before it
      obtain ⟨front, hparts⟩ := List.getLast?_eq_some_iff.1 hlast
      rw [hparts] at hwhole ⊢
      rw [List.dropLast_concat]
      by_cases hfront : front = []
      · rw [hfront] at hwhole ⊢
        exact hwhole
      · rw [intercalate_append hfront (by simp)] at hwhole
        have hended := endsWith_newline_iff.2 ⟨_, hwhole.symm⟩
        exact absurd (hend.symm.trans hended) Bool.false_ne_true

theorem lines_eq_nil_iff {text : Text} : lines text = [] ↔ text = [] := by
  constructor
  · intro hnone
    have hwhole := join_lines text
    cases hend : endsWith ['\n'] text with
    | true =>
      obtain ⟨front, rfl⟩ := endsWith_newline_iff.1 hend
      rw [lines_append_cons] at hnone
      exact absurd (List.append_eq_nil_iff.1 hnone).1 (splitWhere_ne_nil _ front)
    | false =>
      rw [hnone, hend] at hwhole
      exact hwhole.symm
  · rintro rfl
    exact lines_nil

end Text

/-! ### The annotations of a text -/

/-- The annotation of the line that stands so many lines further down. -/
def Annotation.movedDown (lines : Nat) (a : Annotation) : Annotation :=
  { a with lineNumber := a.lineNumber + lines }

/-- The annotations go through the text of a file line by line: numbered from one, each of a
    text without a newline, and saying of it what is said of it alone. -/
structure AnnotatesLines (file : Path) (text : Text) (annotations : List Annotation) : Prop where
  numbered : annotations.map (·.lineNumber) =
    (List.range annotations.length).map fun n : Nat => (n : Int) + 1
  located : ∀ a ∈ annotations, a.location = file.toText
  unbroken : ∀ a ∈ annotations, '\n' ∉ a.text
  alone : ∀ a ∈ annotations, ∃ b, annotate Shape.builtin a.text 0 [] = .ok b ∧
    a.directive = b.directive ∧ a.values = b.values ∧ a.messages = b.messages
  joined : Report.joinLines (annotations.map (·.text)) ++
    Text.lineEnd (Text.endsWith ['\n'] text) = text
  none_iff : annotations = [] ↔ text = []

/-- The annotations are those of the text, and whatever files there are, if the file reads as
    the text, they are what its scan comes to. -/
structure ScansTo (reader : TextReader) (file : Path) (text : Text)
    (annotations : List Annotation) : Prop where
  annotated : annotateText Shape.builtin file text = .ok annotations
  scanned : ∀ tree : FileTree, tree.textAt? reader file = some text →
    scanFile tree reader Shape.builtin file = .ok annotations

theorem annotationOf_alone (line : Text) (lineNumber : Int) (location : Text) :
    (annotationOf line lineNumber location).directive = (annotationOf line 0 []).directive ∧
      (annotationOf line lineNumber location).values = (annotationOf line 0 []).values ∧
      (annotationOf line lineNumber location).messages = (annotationOf line 0 []).messages := by
  unfold annotationOf
  cases taker? line with
  | none => exact ⟨rfl, rfl, rfl⟩
  | some shape => exact ⟨rfl, rfl, rfl⟩

theorem map_text_annotationsOf (location : Text) (start : Int) (lines : List Text) :
    (annotationsOf location start lines).map (·.text) = lines := by
  apply List.ext_getElem
  · simp
  · intro i h _
    simp [annotationsOf, text_annotationOf]

theorem mem_annotationsOf {location : Text} {start : Int} {lines : List Text} {a : Annotation}
    (h : a ∈ annotationsOf location start lines) :
    ∃ line ∈ lines, ∃ lineNumber, a = annotationOf line lineNumber location := by
  obtain ⟨⟨line, i⟩, hline, rfl⟩ := List.mem_map.1 h
  exact ⟨line, List.fst_mem_of_mem_zipIdx hline, _, rfl⟩

theorem annotationsOf_annotatesLines (file : Path) (text : Text) :
    AnnotatesLines file text (annotationsOf file.toText 1 (Text.lines text)) := by
  constructor
  case numbered => rw [map_lineNumber_annotationsOf, length_annotationsOf]
  case located =>
    intro a ha
    obtain ⟨line, -, lineNumber, rfl⟩ := mem_annotationsOf ha
    exact location_annotationOf line lineNumber _
  case unbroken =>
    intro a ha
    obtain ⟨line, hline, lineNumber, rfl⟩ := mem_annotationsOf ha
    rw [text_annotationOf]
    exact Text.newline_not_mem_of_mem_lines hline
  case alone =>
    intro a ha
    obtain ⟨line, -, lineNumber, rfl⟩ := mem_annotationsOf ha
    rw [text_annotationOf]
    exact ⟨_, annotate_builtin line 0 [], annotationOf_alone line lineNumber _⟩
  case joined =>
    rw [map_text_annotationsOf]
    exact Text.join_lines text
  case none_iff =>
    rw [← List.length_eq_zero_iff, length_annotationsOf, List.length_eq_zero_iff]
    exact Text.lines_eq_nil_iff

theorem annotationOf_add (line : Text) (lineNumber : Int) (lines : Nat) (location : Text) :
    annotationOf line (lineNumber + lines) location =
      (annotationOf line lineNumber location).movedDown lines := by
  unfold annotationOf
  cases taker? line with
  | none => rfl
  | some shape => rfl

theorem annotationsOf_append (location : Text) (start : Int) (upper lower : List Text) :
    annotationsOf location start (upper ++ lower) =
      annotationsOf location start upper ++
        (annotationsOf location start lower).map (·.movedDown upper.length) := by
  unfold annotationsOf
  rw [List.zipIdx_append, List.map_append, List.map_map]
  congr 1
  apply List.ext_getElem
  · simp
  · intro i h _
    simp only [List.getElem_map, List.getElem_zipIdx, Function.comp_apply]
    rw [← annotationOf_add]
    congr 1
    omega

theorem scansTo_annotationsOf (reader : TextReader) (file : Path) (text : Text) :
    ScansTo reader file text (annotationsOf file.toText 1 (Text.lines text)) :=
  ⟨annotateFrom_builtin _ _ _, fun _ => scanFile_of_text⟩

/-! ### The scan of a file -/

theorem FileTree.textAt?_of_contentsAt {tree : FileTree} {reader : TextReader} {file : Path}
    {bytes : Bytes} {text : Text} (hcontents : tree.contentsAt file = .ok bytes)
    (hread : Bytes.readText reader Bytes.usualLimit bytes = .ok (some text)) :
    tree.textAt? reader file = some text := by
  simp only [textAt?, hcontents, hread]

/-- **A file is annotated line by line**, and a text that is continued after a newline is
    annotated part by part. -/
theorem scanFile_line_by_line (tree : FileTree) (reader : TextReader) (file : Path) (bytes : Bytes)
    (text : Text) (hcontents : tree.contentsAt file = .ok bytes)
    (hread : Bytes.readText reader Bytes.usualLimit bytes = .ok (some text)) :
    ∃ annotations, scanFile tree reader Shape.builtin file = .ok annotations ∧
      AnnotatesLines file text annotations ∧
      ∀ upper lower, text = upper ++ lower → Text.endsWith ['\n'] upper = true →
        ∃ above below, ScansTo reader file upper above ∧ ScansTo reader file lower below ∧
          annotations = above ++ below.map (·.movedDown above.length) := by
  have hscan := scanFile_of_text (FileTree.textAt?_of_contentsAt hcontents hread)
  refine ⟨_, hscan, annotationsOf_annotatesLines file text, ?_⟩
  rintro upper lower rfl hended
  refine ⟨_, _, scansTo_annotationsOf reader file upper,
    scansTo_annotationsOf reader file lower, ?_⟩
  rw [Text.lines_append hended, annotationsOf_append, length_annotationsOf]

/-- A file `a.vcl` with the given contents. -/
def FileTree.singleFile (bytes : Bytes) : FileTree where
  entries := [(["a.vcl"], .file ⟨bytes, false, none⟩)]
  distinct := by
    simp only [List.map]
    decide
  workDir := []

/-- An empty line and an unended last one have their annotations. -/
theorem scanFile_line_by_line_of_unended_line :
    let file : Path := ⟨.relative, ["a.vcl"]⟩
    ∃ annotations,
      scanFile (.singleFile [97, 10, 10, 98]) (.guessing none) Shape.builtin file =
        .ok annotations ∧ AnnotatesLines file "a\n\nb" annotations ∧
      ∃ above below, ScansTo (.guessing none) file "a\n\n" above ∧
        ScansTo (.guessing none) file "b" below ∧
        annotations = above ++ below.map (·.movedDown above.length) := by
  intro file
  obtain ⟨annotations, hscan, hlines, hparts⟩ := scanFile_line_by_line
    (.singleFile [97, 10, 10, 98]) (.guessing none) file [97, 10, 10, 98] "a\n\nb"
    (by decide +kernel) (by decide +kernel)
  exact ⟨annotations, hscan, hlines, hparts "a\n\n" "b" rfl (by decide)⟩

end VclReview
