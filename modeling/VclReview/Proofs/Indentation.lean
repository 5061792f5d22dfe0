/-
  VclReview/Proofs/Indentation.lean
  =================================
  **Indentation makes no difference.**  No mark that a shape asks for begins with a space or a
  tab, so none of them is completed by what is put in front of a line: the line goes to the same
  shape.  The readers of values look at columns, at the part after a quote, after `synth(` or
  after an assignment sign.  The sign alone begins with a space, and it is completed by
  indentation only if the line begins with the rest of it.

  `annotate_indented` says this of annotations.
-/
import VclReview.Proofs.Context
import VclReview.Proofs.Fields
import Mathlib.Data.List.Find

namespace VclReview

namespace Text

variable {indent line : Text}

/-! ### Reading behind indentation -/

/-- A mark that does not begin with a gap is not begun inside the indentation. -/
theorem cut?_indent_append (hindent : Gap indent) {mark more : Text} {c : Char}
    (hmark : mark = c :: more) (hc : isColumnGap c = false) (line : Text) :
    cut? mark (indent ++ line) = (cut? mark line).map fun parts => (indent ++ parts.1, parts.2) := by
  apply cut?_append_of_not_mem hmark
  intro hmem
  cases hc.symm.trans (hindent c hmem)

/-- The assignment sign is begun inside the indentation only by a line that goes on with the
    rest of it. -/
theorem cut?_sign_indent_append (hindent : Gap indent) (hline : ¬ "= ".toList <+: line) :
    cut? " = " (indent ++ line) =
      (cut? " = " line).map fun parts => (indent ++ parts.1, parts.2) := by
  have hsign : (" = " : Text) = ' ' :: '=' :: [' '] := rfl
  apply cut?_append_of_clear
  rintro front back rfl hne hbegins
  obtain ⟨b, back, rfl⟩ := List.exists_cons_of_ne_nil hne
  rw [hsign, List.cons_append, List.cons_prefix_cons] at hbegins
  cases back with
  | nil => exact hline hbegins.2
  | cons c back =>
    rw [List.cons_append, List.cons_prefix_cons] at hbegins
    have hgap : isColumnGap c = true := hindent c (by simp)
    rw [← hbegins.2.1] at hgap
    cases hgap

/-- Where the cut is the same, so is the part that follows it. -/
theorem nth_two_splitOn_append {sep before text : Text} (hsep : sep ≠ [])
    (h : cut? sep (before ++ text) = (cut? sep text).map fun parts => (before ++ parts.1, parts.2)) :
    nth (splitOn sep (before ++ text)) 2 = nth (splitOn sep text) 2 := by
  cases hcut : cut? sep text with
  | none =>
    rw [hcut] at h
    rw [splitOn_of_cut?_eq_none h, splitOn_of_cut?_eq_none hcut]
    rfl
  | some parts =>
    rw [hcut] at h
    rw [splitOn_of_cut?_eq_some hsep h, splitOn_of_cut?_eq_some hsep hcut]
    rfl

theorem column_indent_append (hindent : Gap indent) (line : Text) (number : Int) :
    column (indent ++ line) number = column line number := by
  rw [column, columns_gap_append hindent, column]

theorem leadingColumn_indent_append (hindent : Gap indent) (line lead : Text) :
    leadingColumn (indent ++ line) lead = leadingColumn line lead := by
  rw [leadingColumn, columns_gap_append hindent, leadingColumn]

theorem quotedValue_indent_append (hindent : Gap indent) (line : Text) :
    quotedValue (indent ++ line) = quotedValue line :=
  nth_two_splitOn_append (by simp) (cut?_indent_append hindent rfl rfl line)

theorem assignedValue_indent_append (hindent : Gap indent) (hline : ¬ "= ".toList <+: line) :
    assignedValue (indent ++ line) = assignedValue line := by
  rw [assignedValue, nth_two_splitOn_append (by simp) (cut?_sign_indent_append hindent hline),
    assignedValue]

theorem synthCode_indent_append (hindent : Gap indent) (line : Text) :
    synthCode (indent ++ line) = synthCode line := by
  have hcut : cut? "synth(" (indent ++ line) =
      (cut? "synth(" line).map fun parts => (indent ++ parts.1, parts.2) := by
    have hmark : ("synth(" : Text) = 's' :: "ynth(" := rfl
    rw [hmark]
    exact cut?_indent_append hindent rfl rfl line
  unfold synthCode
  rw [hcut]
  cases cut? "synth(" line with
  | none => rfl
  | some parts => rfl

end Text

/-! ### The shape that takes an indented line -/

variable {indent line : Text}

/-- What the condition asks the line to have. -/
def Condition.mark : Condition → Text
  | has mark => mark
  | hasBefore mark _ => mark

theorem Row.head_mark : ∀ row ∈ Row.table, ∃ c more, row.condition.mark = c :: more ∧
    Text.isColumnGap c = false := by
  intro row hrow
  have hheads : ∀ row ∈ Row.table,
      row.condition.mark.head?.any (fun c => !Text.isColumnGap c) = true := by decide
  have hhead := hheads row hrow
  cases hmark : row.condition.mark with
  | nil => simp [hmark] at hhead
  | cons c more => exact ⟨c, more, rfl, by simpa [hmark] using hhead⟩

/-- What begins with something else than a gap begins behind the indentation. -/
theorem exists_eq_append_of_indent (hindent : Text.Gap indent) {before rest : Text} {c : Char}
    (hc : Text.isColumnGap c = false) (h : indent ++ line = before ++ c :: rest) :
    ∃ front, line = front ++ c :: rest := by
  rcases List.append_eq_append_iff.1 h with ⟨front, -, hline⟩ | ⟨back, hback, hrest⟩
  · exact ⟨front, hline⟩
  · cases back with
    | nil => exact ⟨[], hrest.symm⟩
    | cons d back =>
      have hd : c = d := (List.cons.inj hrest).1
      have hgap : Text.isColumnGap c = true := hindent c (by simp [hback, hd])
      cases hc.symm.trans hgap

theorem Condition.holds_indent_iff {condition : Condition} {more : Text} {c : Char}
    (hmark : condition.mark = c :: more) (hc : Text.isColumnGap c = false)
    (hindent : Text.Gap indent) :
    condition.Holds (indent ++ line) ↔ condition.Holds line := by
  constructor
  · intro h
    cases condition with
    | has mark =>
      obtain rfl : mark = c :: more := hmark
      obtain ⟨a, b, hline⟩ := h
      rw [List.append_assoc] at hline
      obtain ⟨front, rfl⟩ := exists_eq_append_of_indent hindent hc hline
      exact ⟨front, b, by simp⟩
    | hasBefore mark tail =>
      obtain rfl : mark = c :: more := hmark
      obtain ⟨a, b, hline⟩ := h
      rw [List.append_assoc, List.append_assoc] at hline
      obtain ⟨front, rfl⟩ := exists_eq_append_of_indent hindent hc hline
      exact ⟨front, b, by simp⟩
  · intro h
    exact h.behind indent

theorem taker?_indent_append (hindent : Text.Gap indent) (line : Text) :
    taker? (indent ++ line) = taker? line := by
  unfold taker?
  apply List.find?_congr
  intro shape hshape
  obtain ⟨row, hrow, hfollows⟩ := Shape.exists_follows hshape
  obtain ⟨c, more, hmark, hc⟩ := Row.head_mark row hrow
  rw [Bool.eq_iff_iff, hfollows.2, hfollows.2]
  exact Condition.holds_indent_iff hmark hc hindent

/-- **Every shape of the language reads the same values from an indented line.** -/
theorem Shape.extract_indent_append (hindent : Text.Gap indent) (hline : ¬ "= ".toList <+: line) :
    ∀ shape ∈ Shape.builtin, shape.extract (indent ++ line) = shape.extract line := by
  have hcolumn := Text.column_indent_append hindent line
  have hleading := Text.leadingColumn_indent_append hindent line
  have hquoted := Text.quotedValue_indent_append hindent line
  have hassigned := Text.assignedValue_indent_append hindent hline
  have hsynth := Text.synthCode_indent_append hindent line
  have hone (key : Text) {value other : Text} (h : value = other) :
      [(key, value)] = [(key, other)] := by rw [h]
  simp only [Shape.builtin, List.forall_mem_cons]
  refine ⟨?version, ?backend, ?host, ?port, ?acl, ?inclusion, ?subroutine, ?synth,
    ?requestHeader, ?ttl, ?grace, by simp⟩
  case version => rfl
  case backend | acl | subroutine => exact hone "name" (hcolumn 2)
  case host => exact hone "host" hquoted
  case port =>
    exact hone "port" (congrArg (fun port => Text.dropQuotes (Text.dropSemicolons port)) (hcolumn 3))
  case inclusion => exact hone "filename" hquoted
  case synth => exact hone "code" hsynth
  case requestHeader =>
    exact congrArg₂ List.cons (congrArg (Prod.mk _) (hleading _)) (hone "value" hassigned)
  case ttl => exact hone "ttl" hassigned
  case grace => exact hone "grace" hassigned

/-! ### Annotations -/

/-- **An indented line has the directive and the values of the line**, and if it is recognized
    also its messages, unless the line begins with the rest of an assignment sign. -/
theorem annotate_indented (hindent : Text.Gap indent) (hline : ¬ "= ".toList <+: line)
    (lineNumber : Int) (location : Text) :
    ∃ a b, annotate Shape.builtin line lineNumber location = .ok a ∧
      annotate Shape.builtin (indent ++ line) lineNumber location = .ok b ∧
      b.directive = a.directive ∧ b.values = a.values ∧
      (a.recognized = true → b.messages = a.messages) := by
  refine ⟨_, _, annotate_builtin line lineNumber location,
    annotate_builtin (indent ++ line) lineNumber location, ?_⟩
  cases htaker : taker? line with
  | none =>
    simp only [annotationOf, taker?_indent_append hindent, htaker]
    refine ⟨trivial, trivial, ?_⟩
    intro hrecognized
    unfold Annotation.recognized at hrecognized
    simp at hrecognized
  | some shape =>
    have hextract := Shape.extract_indent_append hindent hline shape (mem_builtin_of_taker? htaker)
    simp only [annotationOf, taker?_indent_append hindent, htaker, Shape.said, hextract]
    simp

/-- A statement within a block. -/
theorem annotate_indented_in_block :
    let indent : Text := ['\t', ' ', ' ']
    let line : Text := "set beresp.ttl = 5m;"
    Text.Gap indent ∧ ¬ "= ".toList <+: line ∧
      ∃ a b, annotate Shape.builtin line 12 "main.vcl" = .ok a ∧
        annotate Shape.builtin (indent ++ line) 12 "main.vcl" = .ok b ∧
        b.directive = "ttl" ∧ b.values = a.values ∧ b.messages = a.messages := by
  intro indent line
  have hindent : Text.Gap indent := by decide
  have hline : ¬ "= ".toList <+: line := by decide
  obtain ⟨a, b, ha, hb, hdirective, hvalues, hmessages⟩ :=
    annotate_indented hindent hline 12 "main.vcl"
  have htaker : a.directive = "ttl" := by
    obtain rfl := Except.ok.inj ((annotate_builtin line 12 "main.vcl").symm.trans ha)
    decide
  have hrecognized : a.recognized = true := by
    unfold Annotation.recognized
    rw [htaker]
    decide
  exact ⟨hindent, hline, a, b, ha, hb, hdirective.trans htaker, hvalues, hmessages hrecognized⟩

/-- The rest of an assignment sign is completed by a space in front of it. -/
example : Text.assignedValue "= set beresp.ttl = 5m;" = "5m".toList ∧
    Text.assignedValue " = set beresp.ttl = 5m;" = "set beresp.ttl".toList := by
  decide +kernel

end VclReview
