/-
  VclReview/Proofs/ReportReadback.lean
  ====================================
  **The report for reading can be read back.**  Texts that hold no line break are spliced into
  its lines as they stand, and still the lines say which of them are headings, annotations,
  values and messages: a line of each kind has an opening of its own, and what the texts hold
  only comes after that.

  So the lines of a report fall apart into files, and those of a file into annotations, in one
  way only (`fileLines_eq_iff`, `annotationLines_eq_iff`).  **Two reports for reading are the
  same exactly if the same can be read in them**: `annotationsMarkdown_eq_iff`.  Only the values
  have to be such as can be read back from what is written for them (`Values.Unpaired`).
-/
import VclReview.Proofs.Encoding
import VclReview.Proofs.Readback
import VclReview.Proofs.Surrogates
import VclReview.Proofs.Trimming
import VclReview.Report.Folder

namespace VclReview

open Letter

variable {α : Type} [Letter α]

/-! ### What can be read in a report -/

/-- What can be read of an annotation. -/
structure Reading (α : Type := Char) where
  lineNumber : Int
  directive : List α
  /-- The line, without blanks at its ends. -/
  text : List α
  values : Values α
  messages : List (List α)
  deriving DecidableEq

def Annotation.reading (a : Annotation α) : Reading α :=
  ⟨a.lineNumber, a.directive, Text.trimWhere isBlank a.text, a.values, a.messages⟩

theorem Annotation.reading_eq_iff {a b : Annotation α} : a.reading = b.reading ↔
    a.lineNumber = b.lineNumber ∧ a.directive = b.directive ∧
      Text.trimWhere isBlank a.text = Text.trimWhere isBlank b.text ∧
      a.values = b.values ∧ a.messages = b.messages := by
  unfold Annotation.reading
  rw [Reading.mk.injEq]

/-- What can be read of a file. -/
def fileReading (entry : Path α × (List <| Annotation α)) : List α × List (Reading α) :=
  (entry.1.toText, entry.2.map Annotation.reading)

/-- What can be read of all files. -/
def Results.reading (results : Results α) : List (List α × List (Reading α)) :=
  results.map fileReading

/-- No line break stands in the texts about the annotation that are written as they are. -/
def Annotation.OnLines (a : Annotation α) : Prop :=
  ofChar '\n' ∉ a.directive ∧ ofChar '\n' ∉ a.text ∧ ∀ message ∈ a.messages, ofChar '\n' ∉ message

def Results.OnLines (results : Results α) : Prop :=
  ∀ entry ∈ results, ofChar '\n' ∉ entry.1.toText ∧ ∀ a ∈ entry.2, a.OnLines

/-- In no name and no value a first half is directly followed by a second half. -/
def Values.Unpaired (values : Values α) : Prop :=
  ∀ entry ∈ values, Json.Unpaired entry.1 ∧ Json.Unpaired entry.2

/-- Texts that are written as they are stand on lines of their own, and values are such as can
    be told apart when they are written by their halves. -/
structure Results.Readable (results : Results α) : Prop where
  onLines : results.OnLines
  unpaired : ∀ entry ∈ results, ∀ a ∈ entry.2, a.values.Unpaired

section Decidable

variable [DecidableEq α]

instance (a : Annotation α) : Decidable a.OnLines := inferInstanceAs (Decidable (_ ∧ _ ∧ _))

instance (results : Results α) : Decidable results.OnLines := List.decidableBAll _ results

instance (values : Values α) : Decidable values.Unpaired := List.decidableBAll _ values

end Decidable

namespace Report

/-! ### Lines that differ -/

theorem joinLines_eq (lines : List (List α)) :
    joinLines lines = List.intercalate [ofChar '\n'] lines := by
  rw [joinLines, spell_cons, spell_nil]

theorem joinLines_inj {lines lines' : List (List α)} (hne : lines ≠ []) (hne' : lines' ≠ [])
    (h : ∀ line ∈ lines, ofChar '\n' ∉ line) (h' : ∀ line ∈ lines', ofChar '\n' ∉ line)
    (heq : joinLines lines = joinLines lines') : lines = lines' := by
  classical
  rw [joinLines_eq, joinLines_eq] at heq
  rw [← List.splitOn_intercalate _ h hne, heq, List.splitOn_intercalate _ h' hne']

theorem ofInt_inj {m n : Int} (h : Text.ofInt m = Text.ofInt n) : m = n :=
  (Json.spelledInteger_ofInt m).unique (h ▸ Json.spelledInteger_ofInt n)

/-! ### Values -/

/-- The fields of an object with the values. -/
def valueFields (values : Values α) : List (List α × Json α) :=
  values.map fun entry => (entry.1, .str entry.2)

/-- What is written for a value and its name. -/
def entryText (entry : List α × List α) : Text :=
  Json.string entry.1 ++ ':' :: ' ' :: Json.string entry.2

/-- What is written behind the first value of an object. -/
def valuesBehind (values : Values α) : Text :=
  values.flatMap fun entry => ',' :: ' ' :: entryText entry

theorem compact_valuesJson (values : Values α) :
    (valuesJson values).compact = '{' :: Json.compactFields (valueFields values) ++ ['}'] := rfl

theorem compactFields_cons (entry : List α × List α) (rest : Values α) :
    Json.compactFields (valueFields (entry :: rest)) = entryText entry ++ valuesBehind rest := by
  induction rest generalizing entry with
  | nil => simp [valueFields, valuesBehind, entryText, Json.compactFields, Json.compact]
  | cons next rest ih =>
    have hmore : Json.compactFields (valueFields (entry :: next :: rest)) =
        entryText entry ++ ',' :: ' ' :: Json.compactFields (valueFields (next :: rest)) := by
      simp [valueFields, entryText, Json.compactFields, Json.compact]
    rw [hmore, ih next, valuesBehind, valuesBehind, List.flatMap_cons, List.cons_append,
      List.cons_append]

theorem entryText_append_inj {entry entry' : List α × List α}
    (h : Json.Unpaired entry.1 ∧ Json.Unpaired entry.2)
    (h' : Json.Unpaired entry'.1 ∧ Json.Unpaired entry'.2) {rest rest' : Text}
    (heq : entryText entry ++ rest = entryText entry' ++ rest') :
    entry = entry' ∧ rest = rest' := by
  simp only [entryText, List.append_assoc, List.cons_append] at heq
  obtain ⟨hname, hbehind⟩ := Json.string_append_inj h.1 h'.1 heq
  simp only [List.cons.injEq, true_and] at hbehind
  obtain ⟨hvalue, hrest⟩ := Json.string_append_inj h.2 h'.2 hbehind
  exact ⟨Prod.ext hname hvalue, hrest⟩

theorem valuesBehind_inj {values values' : Values α} (h : values.Unpaired) (h' : values'.Unpaired)
    (heq : valuesBehind values ++ ['}'] = valuesBehind values' ++ ['}']) : values = values' := by
  induction values generalizing values' with
  | nil =>
    cases values' with
    | nil => rfl
    | cons entry' rest' => exact absurd (List.cons.inj heq).1 (by decide)
  | cons entry rest ih =>
    cases values' with
    | nil => exact absurd (List.cons.inj heq).1 (by decide)
    | cons entry' rest' =>
      obtain ⟨hentry, hrest⟩ := List.forall_mem_cons.1 h
      obtain ⟨hentry', hrest'⟩ := List.forall_mem_cons.1 h'
      simp only [valuesBehind, List.flatMap_cons, List.cons_append, List.append_assoc,
        List.cons.injEq, true_and] at heq
      obtain ⟨hsame, hmore⟩ := entryText_append_inj hentry hentry' heq
      rw [hsame, ih hrest hrest' hmore]

theorem compactFields_inj {values values' : Values α} (h : values.Unpaired) (h' : values'.Unpaired)
    (heq : Json.compactFields (valueFields values) ++ ['}'] =
      Json.compactFields (valueFields values') ++ ['}']) : values = values' := by
  cases values with
  | nil =>
    cases values' with
    | nil => rfl
    | cons entry' rest' =>
      rw [compactFields_cons] at heq
      exact absurd (List.cons.inj heq).1 (by decide)
  | cons entry rest =>
    cases values' with
    | nil =>
      rw [compactFields_cons] at heq
      exact absurd (List.cons.inj heq).1 (by decide)
    | cons entry' rest' =>
      obtain ⟨hentry, hrest⟩ := List.forall_mem_cons.1 h
      obtain ⟨hentry', hrest'⟩ := List.forall_mem_cons.1 h'
      rw [compactFields_cons, compactFields_cons, List.append_assoc, List.append_assoc] at heq
      obtain ⟨hsame, hmore⟩ := entryText_append_inj hentry hentry' heq
      rw [hsame, valuesBehind_inj hrest hrest' hmore]

theorem compact_valuesJson_inj {values values' : Values α} (h : values.Unpaired)
    (h' : values'.Unpaired) (heq : (valuesJson values).compact = (valuesJson values').compact) :
    values = values' := by
  rw [compact_valuesJson, compact_valuesJson] at heq
  exact compactFields_inj h h' (List.cons.inj heq).2

/-! ### The lines about an annotation -/

/-- The first three lines about an annotation. -/
def placeLines (a : Annotation α) : List (List α) :=
  [spell ("- **line**: " ++ Text.ofInt a.lineNumber ++ "  "),
   spell "  **directive**: " ++ a.directive ++ spell "  ",
   spell "  **text**: `" ++ Text.trimWhere isBlank a.text ++ spell "`  "]

/-- The line with the values, if there are any. -/
def valueLines (values : Values α) : List (List α) :=
  if values = [] then []
  else [spell ("  **values**: `" ++ (valuesJson values).compact ++ "`  ")]

def messageLines (messages : List (List α)) : List (List α) := messages.map (spell "  - " ++ ·)

theorem annotationLines_eq (a : Annotation α) : annotationLines a =
    placeLines a ++ (valueLines a.values ++ messageLines a.messages ++ [[]]) := by
  rw [← List.append_assoc, ← List.append_assoc]
  rfl

theorem placeLines_eq_iff {a b : Annotation α} : placeLines a = placeLines b ↔
    a.lineNumber = b.lineNumber ∧ a.directive = b.directive ∧
      Text.trimWhere isBlank a.text = Text.trimWhere isBlank b.text := by
  simp only [placeLines, List.cons.injEq, spell_inj, List.append_cancel_left_eq,
    List.append_cancel_right_eq, and_true]
  exact and_congr_left fun _ => ⟨ofInt_inj, congrArg Text.ofInt⟩

theorem valueLines_inj {values values' : Values α} (h : values.Unpaired) (h' : values'.Unpaired)
    (heq : valueLines values = valueLines values') : values = values' := by
  unfold valueLines at heq
  by_cases hvalues : values = []
  · by_cases hvalues' : values' = []
    · rw [hvalues, hvalues']
    · rw [if_pos hvalues, if_neg hvalues'] at heq
      cases heq
  · by_cases hvalues' : values' = []
    · rw [if_neg hvalues, if_pos hvalues'] at heq
      cases heq
    · rw [if_neg hvalues, if_neg hvalues'] at heq
      have hline := List.append_cancel_right (spell_inj.1 (List.cons.inj heq).1)
      exact compact_valuesJson_inj h h' (List.append_cancel_left hline)

theorem messageLines_inj {messages messages' : List (List α)}
    (h : messageLines messages = messageLines messages') : messages = messages' :=
  List.map_injective_iff.2 (fun _ _ => List.append_cancel_left) h

theorem head?_spell_append {c : Char} {words : Text} (h : words.head? = some c) (text : List α) :
    (spell words ++ text).head? = some (ofChar c) := by
  rw [spell_eq, List.head?_append, List.head?_map, h]
  rfl

/-- The lines about an annotation after the first one. -/
def detailLines (a : Annotation α) : List (List α) :=
  (placeLines a).tail ++ (valueLines a.values ++ messageLines a.messages ++ [[]])

theorem exists_annotationLines_eq_cons (a : Annotation α) :
    ∃ opening, annotationLines a = opening :: detailLines a ∧
      opening.head? = some (ofChar '-') := by
  refine ⟨_, annotationLines_eq a, ?_⟩
  rw [spell_eq]
  rfl

/-- A detail is indented, and what ends the lines about an annotation is an empty line. -/
theorem head?_of_mem_detailLines {a : Annotation α} :
    ∀ line ∈ detailLines a, line = [] ∨ line.head? = some (ofChar ' ') := by
  have hvalues : ∀ line ∈ valueLines a.values, line = [] ∨ line.head? = some (ofChar ' ') := by
    intro line hline
    unfold valueLines at hline
    split at hline
    · cases hline
    · rw [List.mem_singleton.1 hline, spell_eq]
      exact Or.inr rfl
  have hmessages : ∀ line ∈ messageLines a.messages,
      line = [] ∨ line.head? = some (ofChar ' ') := by
    intro line hline
    obtain ⟨message, -, rfl⟩ := List.mem_map.1 hline
    exact Or.inr (head?_spell_append rfl message)
  have hplace : ∀ line ∈ (placeLines a).tail, line = [] ∨ line.head? = some (ofChar ' ') := by
    refine List.forall_mem_cons.2 ⟨Or.inr ?_, List.forall_mem_singleton.2 (Or.inr ?_)⟩
    · rw [List.append_assoc]
      exact head?_spell_append rfl _
    · rw [List.append_assoc]
      exact head?_spell_append rfl _
  exact List.forall_mem_append.2 ⟨hplace, List.forall_mem_append.2
    ⟨List.forall_mem_append.2 ⟨hvalues, hmessages⟩, List.forall_mem_singleton.2 (Or.inl rfl)⟩⟩

/-! ### What the lines begin with -/

section Openings

variable [DecidableEq α]

/-- Whether the line stands out by a star behind its indentation, as that of the values does. -/
def isStarred (line : List α) : Bool := (line.drop 2).head? == some (ofChar '*')

theorem isStarred_of_mem_valueLines {values : Values α} : ∀ line ∈ valueLines values,
    isStarred line = true := by
  intro line hline
  unfold valueLines at hline
  split at hline
  · cases hline
  · rw [List.mem_singleton.1 hline, isStarred, beq_iff_eq, spell_eq]
    rfl

theorem isStarred_of_mem_messageLines {messages : List (List α)} :
    ∀ line ∈ messageLines messages, isStarred line = false := by
  intro line hline
  obtain ⟨message, -, rfl⟩ := List.mem_map.1 hline
  have hdash : ((spell "  - " ++ message).drop 2).head? = some (ofChar '-') := by
    rw [spell_eq]
    rfl
  rw [isStarred, hdash, beq_eq_false_iff_ne, ne_eq, Option.some_inj, ofChar_inj]
  decide

theorem annotationLines_eq_iff {a b : Annotation α} (ha : a.values.Unpaired)
    (hb : b.values.Unpaired) :
    annotationLines a = annotationLines b ↔ a.reading = b.reading := by
  rw [annotationLines_eq, annotationLines_eq, Annotation.reading_eq_iff]
  constructor
  · intro h
    obtain ⟨hplace, hrest⟩ := List.append_inj h rfl
    obtain ⟨hnumber, hdirective, htext⟩ := placeLines_eq_iff.1 hplace
    have hmessage (messages : List (List α)) :
        ∀ line, (messageLines messages).head? = some line → isStarred line = false := by
      intro line hline
      exact isStarred_of_mem_messageLines line (List.mem_of_head? hline)
    obtain ⟨hvalues, hmessages⟩ := append_inj_of_run isStarred_of_mem_valueLines
      isStarred_of_mem_valueLines (hmessage _) (hmessage _) (List.append_cancel_right hrest)
    exact ⟨hnumber, hdirective, htext, valueLines_inj ha hb hvalues, messageLines_inj hmessages⟩
  · rintro ⟨hnumber, hdirective, htext, hvalues, hmessages⟩
    rw [placeLines_eq_iff.2 ⟨hnumber, hdirective, htext⟩, hvalues, hmessages]

/-! ### The lines about a file -/

/-- Whether the line begins with the character. -/
def beginsWith (c : Char) (line : List α) : Bool := line.head? == some (ofChar c)

theorem beginsWith_of_head? {c : Char} {line : List α} (h : line.head? = some (ofChar c)) :
    beginsWith c line = true := beq_iff_eq.2 h

theorem not_beginsWith_of_head? {c d : Char} {line : List α} (hc : c ≠ d)
    (h : line.head? = some (ofChar d)) : beginsWith c line = false := by
  rw [beginsWith, h, beq_eq_false_iff_ne, ne_eq, Option.some_inj, ofChar_inj]
  exact hc.symm

theorem not_beginsWith_of_mem_detailLines {a : Annotation α} {c : Char} (hc : c ≠ ' ') :
    ∀ line ∈ detailLines a, beginsWith c line = false := by
  intro line hline
  rcases head?_of_mem_detailLines line hline with rfl | hhead
  · rfl
  · exact not_beginsWith_of_head? hc hhead

theorem openedBy_annotationLines (a : Annotation α) :
    OpenedBy (beginsWith '-') (annotationLines a) := by
  obtain ⟨opening, hlines, hhead⟩ := exists_annotationLines_eq_cons a
  exact ⟨_, _, hlines, beginsWith_of_head? hhead, not_beginsWith_of_mem_detailLines (by decide)⟩

theorem openedBy_fileLines (entry : Path α × (List <| Annotation α)) :
    OpenedBy (beginsWith '#') (fileLines entry.1 entry.2) := by
  refine ⟨_, _, rfl, beginsWith_of_head? (head?_spell_append rfl _),
    List.forall_mem_cons.2 ⟨rfl, ?_⟩⟩
  intro line hline
  obtain ⟨a, -, hline⟩ := List.mem_flatMap.1 hline
  obtain ⟨opening, hlines, hhead⟩ := exists_annotationLines_eq_cons a
  rw [hlines] at hline
  rcases List.mem_cons.1 hline with rfl | hdetail
  · exact not_beginsWith_of_head? (by decide) hhead
  · exact not_beginsWith_of_mem_detailLines (by decide) line hdetail

/-- Two functions that tell the same items apart also tell the same lists apart. -/
theorem map_eq_map_iff_of_eq_iff {ι β γ : Type} {f : ι → β} {g : ι → γ} {items items' : List ι}
    (h : ∀ a ∈ items, ∀ b ∈ items', f a = f b ↔ g a = g b) :
    items.map f = items'.map f ↔ items.map g = items'.map g := by
  induction items generalizing items' with
  | nil =>
    cases items' with
    | nil => exact iff_of_true rfl rfl
    | cons => simp
  | cons a items ih =>
    cases items' with
    | nil => simp
    | cons b items' =>
      have hrest : ∀ x ∈ items, ∀ y ∈ items', f x = f y ↔ g x = g y := fun x hx y hy =>
        h x (List.mem_cons_of_mem _ hx) y (List.mem_cons_of_mem _ hy)
      rw [List.map_cons, List.map_cons, List.map_cons, List.map_cons, List.cons.injEq,
        List.cons.injEq, h a List.mem_cons_self b List.mem_cons_self, ih hrest]

/-- **The lines about a file say what they are made of.** -/
theorem fileLines_eq_iff {entry entry' : Path α × (List <| Annotation α)}
    (h : ∀ a ∈ entry.2, a.values.Unpaired) (h' : ∀ a ∈ entry'.2, a.values.Unpaired) :
    fileLines entry.1 entry.2 = fileLines entry'.1 entry'.2 ↔
      fileReading entry = fileReading entry' := by
  have hannotations : entry.2.flatMap annotationLines = entry'.2.flatMap annotationLines ↔
      entry.2.map Annotation.reading = entry'.2.map Annotation.reading :=
    (flatMap_blocks_eq_iff openedBy_annotationLines).trans
      (map_eq_map_iff_of_eq_iff fun a ha b hb => annotationLines_eq_iff (h a ha) (h' b hb))
  simp only [fileLines, fileReading, List.cons.injEq, List.append_cancel_left_eq, true_and,
    hannotations, Prod.mk.injEq]

end Openings

/-! ### The whole report -/

theorem newline_not_mem_ofInt (n : Int) : '\n' ∉ Text.ofInt n := fun h =>
  absurd (Json.printed_ofInt n _ h) (by decide)

theorem newline_not_mem_of_mem_annotationLines {a : Annotation α} (h : a.OnLines) :
    ∀ line ∈ annotationLines a, ofChar '\n' ∉ line := by
  obtain ⟨hdirective, htext, hmessages⟩ := h
  have htrim : ofChar '\n' ∉ Text.trimWhere isBlank a.text :=
    fun hmem => htext (Text.mem_of_mem_trimWhere hmem)
  have hvalues : ∀ line ∈ valueLines a.values, ofChar '\n' ∉ line := by
    intro line hline
    unfold valueLines at hline
    split at hline
    · cases hline
    · have hcompact : '\n' ∉ (valuesJson a.values).compact := fun hmem =>
        absurd (Json.printed_compact _ _ hmem) (by decide)
      rw [List.mem_singleton.1 hline, ofChar_mem_spell]
      simp [hcompact]
  have hmessageLines : ∀ line ∈ messageLines a.messages, ofChar '\n' ∉ line := by
    intro line hline
    obtain ⟨message, hmessage, rfl⟩ := List.mem_map.1 hline
    rw [List.mem_append, ofChar_mem_spell]
    simp [hmessages message hmessage]
  have hplace : ∀ line ∈ placeLines a, ofChar '\n' ∉ line := by
    simp only [placeLines, List.forall_mem_cons, List.mem_append, ofChar_mem_spell]
    simp [newline_not_mem_ofInt, hdirective, htrim]
  rw [annotationLines_eq]
  exact List.forall_mem_append.2 ⟨hplace, List.forall_mem_append.2
    ⟨List.forall_mem_append.2 ⟨hvalues, hmessageLines⟩, by simp⟩⟩

/-- The lines of the whole report. -/
def reportLines (results : Results α) : List (List α) :=
  [spell "# VCL Annotations", []] ++ results.flatMap fun entry => fileLines entry.1 entry.2

theorem newline_not_mem_of_mem_reportLines {results : Results α} (h : results.OnLines) :
    ∀ line ∈ reportLines results, ofChar '\n' ∉ line := by
  have htitle : ∀ line ∈ [spell "# VCL Annotations", ([] : List α)], ofChar '\n' ∉ line := by
    simp only [List.forall_mem_cons, ofChar_mem_spell]
    exact ⟨by decide, List.not_mem_nil, List.forall_mem_nil _⟩
  refine List.forall_mem_append.2 ⟨htitle, ?_⟩
  intro line hline
  obtain ⟨entry, hentry, hline⟩ := List.mem_flatMap.1 hline
  obtain ⟨hfile, hannotations⟩ := h entry hentry
  rcases List.mem_cons.1 hline with rfl | hline
  · rw [List.mem_append, ofChar_mem_spell]
    simp [hfile]
  rcases List.mem_cons.1 hline with rfl | hline
  · simp
  obtain ⟨a, ha, hline⟩ := List.mem_flatMap.1 hline
  exact newline_not_mem_of_mem_annotationLines (hannotations a ha) line hline

theorem reportLines_eq_iff [DecidableEq α] {results results' : Results α}
    (h : ∀ entry ∈ results, ∀ a ∈ entry.2, a.values.Unpaired)
    (h' : ∀ entry ∈ results', ∀ a ∈ entry.2, a.values.Unpaired) :
    reportLines results = reportLines results' ↔ results.reading = results'.reading := by
  rw [reportLines, reportLines, List.append_cancel_left_eq]
  exact (flatMap_blocks_eq_iff openedBy_fileLines).trans
    (map_eq_map_iff_of_eq_iff fun entry hentry entry' hentry' =>
      fileLines_eq_iff (h entry hentry) (h' entry' hentry'))

theorem contents_eq_iff [DecidableEq α] {results results' : Results α} (h : results.Readable)
    (h' : results'.Readable) (audit audit' : Option (List (List α))) :
    Artifact.annotationsMarkdown.contents results audit =
        Artifact.annotationsMarkdown.contents results' audit' ↔
      results.reading = results'.reading := by
  change joinLines (reportLines results) = joinLines (reportLines results') ↔ _
  rw [← reportLines_eq_iff h.unpaired h'.unpaired]
  constructor
  · exact joinLines_inj (List.cons_ne_nil _ _) (List.cons_ne_nil _ _)
      (newline_not_mem_of_mem_reportLines h.onLines)
      (newline_not_mem_of_mem_reportLines h'.onLines)
  · exact congrArg joinLines

end Report

/-- Texts that have a UTF-8 are known by it. -/
theorem FileTree.bytesOf_eq_iff {text text' : List α} (h : encodingError? text = none)
    (h' : encodingError? text' = none) : bytesOf text = bytesOf text' ↔ text = text' := by
  have hspelled {text : List α} (hnone : encodingError? text = none) :
      ∃ chars, text = spell chars := by
    by_contra hnot
    rw [(bytesOf_of_not_spelled (not_exists.1 hnot)).2] at hnone
    cases hnone
  obtain ⟨chars, rfl⟩ := hspelled h
  obtain ⟨chars', rfl⟩ := hspelled h'
  rw [(bytesOf_of_spelled rfl).1, (bytesOf_of_spelled rfl).1, Utf8.encode_inj, spell_inj]

/-- **Two reports for reading are the same exactly if the same can be read in them**, where
    texts are on lines of their own and values can be told apart.  So are their files, if the
    reports can be encoded. -/
theorem annotationsMarkdown_eq_iff [DecidableEq α] {results results' : Results α}
    (h : results.Readable) (h' : results'.Readable) (audit audit' : Option (List (List α))) :
    let report := Artifact.annotationsMarkdown.contents results audit
    let report' := Artifact.annotationsMarkdown.contents results' audit'
    (report = report' ↔ results.reading = results'.reading) ∧
      (FileTree.encodingError? report = none → FileTree.encodingError? report' = none →
        (FileTree.bytesOf report = FileTree.bytesOf report' ↔
          results.reading = results'.reading)) := by
  intro report report'
  have hcontents := Report.contents_eq_iff h h' audit audit'
  exact ⟨hcontents, fun hreport hreport' =>
    (FileTree.bytesOf_eq_iff hreport hreport').trans hcontents⟩

theorem annotationsMarkdown_of_lookalikes :
    let report (text : Text) (messages : List Text) (others : Results) :=
      Artifact.annotationsMarkdown.contents
        ((⟨.relative, ["a"]⟩, [⟨1, text, "acl", messages, [], "a"⟩]) :: others) none
    report "x" ["y", "", "## b", ""] [] ≠ report "x" ["y"] [(⟨.relative, ["b"]⟩, [])] ∧
      report "x" ["y"] [] = report " x\t" ["y"] [] := by
  intro report
  constructor
  · exact mt (annotationsMarkdown_eq_iff ⟨by decide, by decide⟩ ⟨by decide, by decide⟩
      none none).1.1 (by decide)
  · exact (annotationsMarkdown_eq_iff ⟨by decide, by decide⟩ ⟨by decide, by decide⟩
      none none).1.2 (by decide)

/-- A value that consists of two halves is written like the character they belong to, and of
    a line with a surrogate nothing is written at all. -/
theorem annotationsMarkdown_of_surrogates :
    let folder : Path := ⟨.relative, ["o"]⟩
    let report (text host : List CodePoint) : Results CodePoint :=
      [(⟨.relative, [[.char 'a']]⟩, [⟨1, text, [], [], [([.char 'h'], host)], []⟩])]
    let attempt (results : Results CodePoint) := Report.write (.bare []) folder results none
    let file (results : Results CodePoint) :=
      (attempt results).tree.contentsAt (folder.child "annotations.md")
    let halves := report [] [.surrogate 0x3D, .surrogate 0x600]
    let whole := report [] [.char (Char.ofNat 0x1F600)]
    let first := report [.surrogate 0] []
    let second := report [.surrogate 1] []
    (∀ results ∈ [halves, whole, first, second], results.OnLines) ∧
      halves.reading ≠ whole.reading ∧ file halves = file whole ∧
      (attempt halves).failure = none ∧ (attempt whole).failure = none ∧
      first.reading ≠ second.reading ∧ file first = .ok [] ∧ file second = .ok [] := by
  intro folder report attempt file halves whole first second
  refine ⟨by decide, by decide, ?_, ?_, ?_, by decide, ?_, ?_⟩
  · decide +kernel
  · decide +kernel
  · decide +kernel
  · decide +kernel
  · decide +kernel

end VclReview
