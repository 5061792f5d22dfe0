/-
  VclReview/Proofs/Columns.lean
  =============================
  **The columns of a line.**  A line consists of columns with gaps between them and possibly
  around them (`LaidOut`), and of no others than those it is split into: `columns_laidOut`.
  All that readers ask a line for follows from that:

    * a column by its number                      — `column_succ`, `column_of_missing`;
    * what follows a beginning of a column        — `leadingColumn_of_led`,
      `leadingColumn_of_not_led`;
    * the columns of a line that has been put together again from them
                                                  — `columns_intercalate`;
    * everything but spaces and tabs              — `flatten_columns`.
-/
import VclReview.Proofs.Misreadings

namespace VclReview.Text

/-! ### Lines laid out as columns -/

/-- A gap at the beginning, and columns with a gap behind each of them. -/
structure Layout where
  indent : Text
  blocks : List (Text × Text)

namespace Layout

def line (layout : Layout) : Text :=
  layout.indent ++ layout.blocks.flatMap fun (column, gap) => column ++ gap

def columns (layout : Layout) : List Text := layout.blocks.map (·.1)

/-- Gaps hold spaces and tabs only and columns none of them.  Every column has a character,
    and so has every gap between two columns. -/
structure Proper (layout : Layout) : Prop where
  indent : Gap layout.indent
  column : ∀ block ∈ layout.blocks, block.1 ≠ [] ∧ GapFree block.1
  gap : ∀ block ∈ layout.blocks, Gap block.2
  apart : ∀ block ∈ layout.blocks.dropLast, block.2 ≠ []

end Layout

/-- The line has exactly these columns in one of its layouts. -/
def LaidOut (line : Text) (fields : List Text) : Prop :=
  ∃ layout : Layout, layout.Proper ∧ layout.line = line ∧ layout.columns = fields

theorem Layout.Proper.parted {indent : Text} {blocks : List (Text × Text)}
    (h : Layout.Proper ⟨indent, blocks⟩) :
    Parted isColumnGap (Layout.line ⟨indent, blocks⟩) (Layout.columns ⟨indent, blocks⟩) := by
  induction blocks generalizing indent with
  | nil =>
    have hline : Layout.line ⟨indent, []⟩ = indent := List.append_nil indent
    rw [hline]
    exact .nil h.indent
  | cons block others ih =>
    obtain ⟨column, gap⟩ := block
    obtain ⟨hcolumn, hcolumns⟩ := List.forall_mem_cons.1 h.column
    obtain ⟨hgap, hgaps⟩ := List.forall_mem_cons.1 h.gap
    have hapart : ∀ block ∈ others.dropLast, block.2 ≠ [] := by
      intro block hblock
      cases others with
      | nil => cases hblock
      | cons other others => exact h.apart block (List.mem_cons_of_mem _ hblock)
    -- the gap behind the column is what the layout of the other columns begins with
    have hrest := ih ⟨hgap, hcolumns, hgaps, hapart⟩
    have hline : Layout.line ⟨indent, (column, gap) :: others⟩ =
        indent ++ column ++ Layout.line ⟨gap, others⟩ := by
      simp only [line, List.flatMap_cons, List.append_assoc]
    rw [hline]
    refine .cons h.indent hcolumn.1 hcolumn.2 ?_ hrest
    intro c hc
    cases gap with
    | cons d gap =>
      cases hc
      exact hgap c List.mem_cons_self
    | nil =>
      cases others with
      | nil => cases hc
      | cons other others => exact absurd rfl (h.apart (column, []) List.mem_cons_self)

theorem Parted.laidOut {line : Text} {fields : List Text} (h : Parted isColumnGap line fields) :
    LaidOut line fields := by
  induction h with
  | @nil gap hgap => exact ⟨⟨gap, []⟩, ⟨hgap, by simp, by simp, by simp⟩, List.append_nil gap, rfl⟩
  | @cons gap part rest parts hgap hne hpart hhead _ ih =>
    obtain ⟨⟨indent, blocks⟩, hproper, hline, hcolumns⟩ := ih
    have hapart : ∀ block ∈ List.dropLast ((part, indent) :: blocks), block.2 ≠ [] := by
      cases blocks with
      | nil => simp
      | cons other others =>
        refine List.forall_mem_cons.2 ⟨?_, hproper.apart⟩
        -- were there no gap, the rest of the line would begin with a column
        rintro rfl
        obtain ⟨⟨hothers, hfree⟩, -⟩ := List.forall_mem_cons.1 hproper.column
        obtain ⟨c, column, hcolumn⟩ := List.exists_cons_of_ne_nil hothers
        have hc : isColumnGap c = true := hhead c (by simp [← hline, Layout.line, hcolumn])
        have hc' : isColumnGap c = false := hfree c (by simp [hcolumn])
        rw [hc] at hc'
        cases hc'
    refine ⟨⟨gap, (part, indent) :: blocks⟩, ⟨hgap, ?_, ?_, hapart⟩, ?_, ?_⟩
    · exact List.forall_mem_cons.2 ⟨⟨hne, hpart⟩, hproper.column⟩
    · exact List.forall_mem_cons.2 ⟨hproper.indent, hproper.gap⟩
    · rw [← hline]
      simp only [Layout.line, List.flatMap_cons, List.append_assoc]
    · rw [← hcolumns]
      rfl

theorem laidOut_iff {line : Text} {fields : List Text} :
    LaidOut line fields ↔ columns line = fields := by
  constructor
  · rintro ⟨⟨indent, blocks⟩, hproper, rfl, rfl⟩
    exact hproper.parted.pieces_eq
  · intro h
    exact (pieces_eq_iff.1 h).laidOut

/-! ### What is read from columns -/

theorem column_succ {line field : Text} {i : Nat} (h : (columns line)[i]? = some field) :
    column line (i + 1) = field :=
  nth_succ h

theorem column_of_missing {line : Text} {number : Int}
    (h : number < 1 ∨ (columns line).length < number) : column line number = [] :=
  nth_of_missing h

theorem leadingColumn_of_led {line lead rest : Text} (h : FirstLed lead line rest) :
    leadingColumn line lead = rest := by
  rw [leadingColumn, firstLed_iff.1 h]
  rfl

theorem leadingColumn_of_not_led {line lead : Text} (h : ∀ field ∈ columns line, ¬ lead <+: field) :
    leadingColumn line lead = [] := by
  have hnone : (columns line).findSome? (dropLead? lead) = none := by
    rw [List.findSome?_eq_none_iff]
    intro field hfield
    exact dropLead?_eq_none_iff.2 (h field hfield)
  rw [leadingColumn, hnone]
  rfl

/-- Columns that have been joined by a gap come apart again. -/
theorem columns_intercalate {gap : Text} (hne : gap ≠ []) (hgap : Gap gap) {fields : List Text}
    (h : ∀ field ∈ fields, field ≠ [] ∧ GapFree field) :
    columns (List.intercalate gap fields) = fields := by
  induction fields with
  | nil => rfl
  | cons field rest ih =>
    obtain ⟨hfield, hrest⟩ := List.forall_mem_cons.1 h
    cases rest with
    | nil =>
      rw [List.intercalate_singleton]
      exact columns_of_gapFree hfield.1 hfield.2
    | cons next rest =>
      rw [List.intercalate_cons_cons, columns_word_append hfield.1 hfield.2 hne hgap, ih hrest]

theorem proper_of_mem_columns {line field : Text} (h : field ∈ columns line) :
    field ≠ [] ∧ GapFree field := by
  have hne := (List.mem_filter.1 h).2
  exact ⟨by simpa using hne, not_gap_of_mem_columns h⟩

/-- **Nothing but spaces and tabs is lost**: all other characters stand in the columns, in the
    order in which the line has them. -/
theorem flatten_columns (line : Text) :
    (columns line).flatten = line.filter fun c => c ≠ ' ' ∧ c ≠ '\t' := by
  have hkept : (fun c => decide (c ≠ ' ' ∧ c ≠ '\t')) = fun c => !isColumnGap c := by
    funext c
    rw [Bool.eq_iff_iff]
    simp [isColumnGap]
  have hparted : Parted isColumnGap line (columns line) := pieces_eq_iff.1 rfl
  rw [hkept]
  generalize columns line = fields at hparted
  induction hparted with
  | nil hgap =>
    symm
    rw [List.flatten_nil, List.filter_eq_nil_iff]
    intro c hc
    simp [hgap c hc]
  | @cons gap part rest parts hgap _ hpart _ _ ih =>
    have hgone : gap.filter (!isColumnGap ·) = [] := by
      rw [List.filter_eq_nil_iff]
      intro c hc
      simp [hgap c hc]
    have hstays : part.filter (!isColumnGap ·) = part := by
      rw [List.filter_eq_self]
      intro c hc
      simp [hpart c hc]
    rw [List.flatten_cons, List.filter_append, List.filter_append, hgone, hstays, ih]
    rfl

/-- What readers get from the line if these are its columns. -/
structure ReadsColumns (line : Text) (fields : List Text) : Prop where
  numbered : ∀ (i : Nat) (field : Text), fields[i]? = some field → column line (i + 1) = field
  missing : ∀ number : Int, number < 1 ∨ fields.length < number → column line number = []
  led : ∀ lead earlier rest later, fields = earlier ++ (lead ++ rest) :: later →
    (∀ field ∈ earlier, ¬ lead <+: field) → leadingColumn line lead = rest
  unled : ∀ lead, (∀ field ∈ fields, ¬ lead <+: field) → leadingColumn line lead = []
  rejoined : ∀ gap, gap ≠ [] → Gap gap → columns (List.intercalate gap fields) = fields
  inside : fields.flatten = line.filter fun c => c ≠ ' ' ∧ c ≠ '\t'

/-- **A line has one list of columns**, however the gaps around them are cut, and everything
    that is read from the line is found in that list. -/
theorem columns_laidOut (line : Text) :
    (∀ fields, LaidOut line fields ↔ fields = columns line) ∧
      ReadsColumns line (columns line) := by
  refine ⟨fun fields => laidOut_iff.trans eq_comm, ?_⟩
  constructor
  case numbered =>
    intro i field hfield
    exact column_succ hfield
  case missing =>
    intro number hnumber
    exact column_of_missing hnumber
  case led =>
    intro lead earlier rest later hfields hearlier
    exact leadingColumn_of_led ⟨earlier, later, hfields, hearlier⟩
  case unled =>
    intro lead hunled
    exact leadingColumn_of_not_led hunled
  case rejoined =>
    intro gap hne hgap
    exact columns_intercalate hne hgap fun field => proper_of_mem_columns
  case inside => exact flatten_columns line

/-- A no-break space and a carriage return belong to columns. -/
example : columns "\tset  a\u00A0b \r" = ["set".toList, "a\u00A0b".toList, ['\r']] := by decide

end VclReview.Text
