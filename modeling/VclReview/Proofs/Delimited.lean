/-
  VclReview/Proofs/Delimited.lean
  ===============================
  **The fields of a line between separators.**  A separator of several characters may overlap
  itself: in ` = = ` the assignment sign can be found twice, and only the first of the two
  separates anything.  So it does not tell fields apart that no separator stands inside them.
  What does is that with the separator behind it a field shows the separator at its end and
  nowhere before (`Closed`).

    * A line has fields of this kind in one way, and that is how it is split
                                                  — `delimited_iff`;
    * the fields are read by their numbers        — `readsFields_splitOn`;
    * an assigned value stands between the first two assignment signs that do not overlap
                                                  — `assigns_iff`.
-/
import VclReview.Proofs.Fields
import Mathlib.Data.List.Basic

namespace VclReview.Text

variable {sep line field rest : Text} {fields : List Text}

/-! ### Fields -/

/-- With the separator behind it, the field shows the separator at the end only. -/
def Closed (sep field : Text) : Prop :=
  ∀ front back, field ++ sep = front ++ sep ++ back → back = []

/-- The line consists of these fields, with the separator between any two of them.  Every field
    but the last is closed by the separator behind it, and the last one does not have it. -/
structure Delimited (sep line : Text) (fields : List Text) : Prop where
  ne_nil : fields ≠ []
  joined : line = List.intercalate sep fields
  closed : ∀ field ∈ fields.dropLast, Closed sep field
  last : ∀ field, fields.getLast? = some field → ¬ sep <:+: field

/-- Whether the first separator of a line is the one behind a field does not depend on what
    follows it. -/
theorem cutAt_iff_closed : CutAt sep (field ++ sep ++ rest) field rest ↔ Closed sep field := by
  constructor
  · rintro ⟨-, hleftmost⟩ front back heq
    have hfront : field.length ≤ front.length :=
      hleftmost front (back ++ rest) (by rw [heq, List.append_assoc])
    have hlength := congrArg List.length heq
    simp only [List.length_append] at hlength
    exact List.eq_nil_of_length_eq_zero (by omega)
  · intro hclosed
    refine ⟨rfl, ?_⟩
    intro front back heq
    by_contra hbefore
    -- a separator that is found earlier stands within the field and the separator behind it
    have hearlier : front ++ sep <+: field ++ sep :=
      List.prefix_of_prefix_length_le ⟨back, heq.symm⟩ ⟨rest, rfl⟩
        (by simp only [List.length_append]; omega)
    obtain ⟨back, hback⟩ := hearlier
    obtain rfl := hclosed front back hback.symm
    have hlength := congrArg List.length hback
    simp only [List.length_append, List.length_nil] at hlength
    omega

theorem delimited_singleton_iff : Delimited sep line [field] ↔ line = field ∧ ¬ sep <:+: line := by
  constructor
  · intro h
    have hline : line = field := by simpa using h.joined
    rw [hline]
    exact ⟨rfl, h.last field rfl⟩
  · rintro ⟨rfl, hlast⟩
    refine ⟨by simp, by simp, by simp, ?_⟩
    rintro field hfield
    cases hfield
    exact hlast

/-- A line of more than one field is cut behind the first, and goes on with the others. -/
theorem delimited_cons_iff (hne : fields ≠ []) : Delimited sep line (field :: fields) ↔
    ∃ rest, CutAt sep line field rest ∧ Delimited sep rest fields := by
  obtain ⟨next, others, rfl⟩ := List.exists_cons_of_ne_nil hne
  constructor
  · intro h
    obtain ⟨hfield, hothers⟩ := List.forall_mem_cons.1 h.closed
    refine ⟨List.intercalate sep (next :: others), ?_, hne, rfl, hothers, h.last⟩
    rw [h.joined, List.intercalate_cons_cons]
    exact cutAt_iff_closed.2 hfield
  · rintro ⟨rest, hcut, h⟩
    obtain rfl := hcut.1
    refine ⟨by simp, ?_, ?_, h.last⟩
    · rw [List.intercalate_cons_cons, ← h.joined]
    · exact List.forall_mem_cons.2 ⟨cutAt_iff_closed.1 hcut, h.closed⟩

/-- **A line has its fields in one way, and that is how it is split.** -/
theorem delimited_iff (hsep : sep ≠ []) : Delimited sep line fields ↔ fields = splitOn sep line := by
  constructor
  · intro h
    induction fields generalizing line with
    | nil => exact absurd rfl h.ne_nil
    | cons field others ih =>
      by_cases hothers : others = []
      · subst hothers
        obtain ⟨rfl, hlast⟩ := delimited_singleton_iff.1 h
        rw [splitOn_of_cut?_eq_none (cut?_eq_none_iff_not_isInfix.2 hlast)]
      · obtain ⟨rest, hcut, hrest⟩ := (delimited_cons_iff hothers).1 h
        rw [splitOn_of_cut?_eq_some hsep (cut?_eq_some_iff.2 hcut), ← ih hrest]
  · rintro rfl
    induction hlength : line.length using Nat.strongRecOn generalizing line with
    | _ length ih =>
      cases hcut : cut? sep line with
      | none =>
        rw [splitOn_of_cut?_eq_none hcut, delimited_singleton_iff]
        exact ⟨rfl, cut?_eq_none_iff_not_isInfix.1 hcut⟩
      | some parts =>
        obtain ⟨field, rest⟩ := parts
        have hshorter : rest.length < length := hlength ▸ length_lt_of_cut? hsep hcut
        have hrest : Delimited sep rest (splitOn sep rest) := ih _ hshorter rfl
        rw [splitOn_of_cut?_eq_some hsep hcut, delimited_cons_iff hrest.ne_nil]
        exact ⟨rest, cut?_eq_some_iff.1 hcut, hrest⟩

/-! ### Reading a field -/

/-- What is read from the line if these are its fields. -/
structure ReadsFields (sep line : Text) (fields : List Text) : Prop where
  numbered : ∀ (i : Nat) (field : Text), fields[i]? = some field →
    delimited? line sep (i + 1) = .ok field
  missing : ∀ number : Int, number < 1 ∨ fields.length < number →
    delimited? line sep number = .ok []

theorem delimited?_eq_ok (hsep : sep ≠ []) (number : Int) :
    delimited? line sep number = .ok (nth (splitOn sep line) number) := by
  rw [delimited?, if_neg hsep]

theorem readsFields_splitOn (hsep : sep ≠ []) : ReadsFields sep line (splitOn sep line) := by
  constructor
  case numbered =>
    intro i field hfield
    rw [delimited?_eq_ok hsep, nth_succ hfield]
  case missing =>
    intro number hnumber
    rw [delimited?_eq_ok hsep, nth_of_missing hnumber]

/-! ### Assigned values -/

/-- The line assigns what stands behind its first assignment sign, up to the next one that does
    not overlap it or up to the end, less the semicolons. -/
inductive Assigns : (line value : Text) → Prop where
  | nothing {line : Text} : ¬ " = ".toList <:+: line → Assigns line []
  | rest {line before after : Text} : CutAt " = " line before after →
      ¬ " = ".toList <:+: after → Assigns line (after.filter (· ≠ ';'))
  | upToSign {line before after value rest : Text} : CutAt " = " line before after →
      CutAt " = " after value rest → Assigns line (value.filter (· ≠ ';'))

theorem exists_assigns (line : Text) : ∃ value, Assigns line value := by
  by_cases hsign : " = ".toList <:+: line
  case neg => exact ⟨[], .nothing hsign⟩
  obtain ⟨⟨before, after⟩, hcut⟩ := exists_cut?_of_isInfix hsign
  rw [cut?_eq_some_iff] at hcut
  by_cases hnext : " = ".toList <:+: after
  case neg => exact ⟨_, .rest hcut hnext⟩
  obtain ⟨⟨value, rest⟩, hcut'⟩ := exists_cut?_of_isInfix hnext
  exact ⟨_, .upToSign hcut (cut?_eq_some_iff.1 hcut')⟩

theorem Assigns.eq {line value : Text} (h : Assigns line value) : value = assignedValue line := by
  have hsep : " = ".toList ≠ [] := by decide
  have hkept (text : Text) : text.filter (· ≠ ';') = dropSemicolons text := by
    apply List.filter_congr
    intro c _
    rw [Bool.eq_iff_iff]
    simp
  cases h with
  | nothing hsign =>
    rw [assignedValue, splitOn_of_cut?_eq_none (cut?_eq_none_iff_not_isInfix.2 hsign)]
    rfl
  | rest hcut hnext =>
    rw [assignedValue, splitOn_of_cut?_eq_some hsep (cut?_eq_some_iff.2 hcut),
      splitOn_of_cut?_eq_none (cut?_eq_none_iff_not_isInfix.2 hnext), hkept]
    rfl
  | upToSign hcut hcut' =>
    rw [assignedValue, splitOn_of_cut?_eq_some hsep (cut?_eq_some_iff.2 hcut),
      splitOn_of_cut?_eq_some hsep (cut?_eq_some_iff.2 hcut'), hkept]
    rfl

theorem assigns_iff {line value : Text} : Assigns line value ↔ value = assignedValue line := by
  constructor
  · exact Assigns.eq
  · rintro rfl
    obtain ⟨value, hvalue⟩ := exists_assigns line
    rwa [← hvalue.eq]

/-- **Every separator takes a line apart in one way**, however it may overlap itself, and the
    fields are read by their numbers.  An empty separator is refused.  What a line assigns is
    found between two assignment signs. -/
theorem fields_delimited (line : Text) :
    (∀ sep, sep ≠ [] → ∃ fields, (∀ other, Delimited sep line other ↔ other = fields) ∧
      ReadsFields sep line fields) ∧
    (∀ number, ∃ error, delimited? line [] number = .error error ∧
      error.message = "empty separator") ∧
    ∀ value, Assigns line value ↔ value = assignedValue line := by
  refine ⟨?_, ?_, fun _ => assigns_iff⟩
  · intro sep hsep
    exact ⟨splitOn sep line, fun _ => delimited_iff hsep, readsFields_splitOn hsep⟩
  · intro number
    exact ⟨.emptySeparator, by rw [delimited?, if_pos rfl], rfl⟩

/-- Of two signs that overlap, the first separates and the second is cut in two. -/
theorem fields_delimited_by_overlapping_signs :
    let line : Text := "a = = b = c"
    (∀ fields, Delimited " = " line fields ↔ fields = ["a".toList, "= b".toList, ['c']]) ∧
      delimited? line " = " 2 = .ok "= b" ∧ Assigns line "= b" := by
  intro line
  have hsep : (" = " : Text) ≠ [] := by decide
  obtain ⟨fields, hfields, hreads⟩ := (fields_delimited line).1 " = " hsep
  have hsplit : Delimited " = " line ["a".toList, "= b".toList, ['c']] :=
    (delimited_iff hsep).2 (by decide +kernel)
  obtain rfl := (hfields _).1 hsplit
  exact ⟨hfields, hreads.numbered 1 _ rfl, ((fields_delimited line).2.2 _).2 (by decide +kernel)⟩

end VclReview.Text
