/-
  VclReview/Proofs/Fields.lean
  ============================
  **What a field is made of.**  A part of a text that has been split at separators
  has none of them inside (`mem_splitWhere`), so a column has no space and no tab,
  and neither has what follows a given beginning of a column
  (`not_gap_of_mem_leadingColumn`).  The parts of a longer text are found from one
  equation (`pieces_append_cons`), and `pieces_eq_iff` says that there is no other way
  to take a text apart.

  Parts between occurrences of a mark are found from the leftmost one: that is where
  a text is cut (`cut?_eq_some_iff`), and the lemmas after it cut texts of which the
  beginning is known.
-/
import VclReview.Proofs.Spans
import VclReview.Text.Fields

namespace VclReview.Text

theorem splitWhere_eq_splitOnP (sep : Char → Bool) (text : Text) :
    splitWhere sep text = text.splitOnP sep := by
  induction text with
  | nil => rw [splitWhere_nil, List.splitOnP_nil]
  | cons c rest ih => rw [splitWhere_cons, List.splitOnP_cons_eq_if_modifyHead, ih]

theorem splitWhere_append_cons {sep : Char → Bool} {c : Char} (hc : sep c = true)
    (text rest : Text) :
    splitWhere sep (text ++ c :: rest) = splitWhere sep text ++ splitWhere sep rest := by
  simp only [splitWhere_eq_splitOnP]
  exact List.splitOnP_append_cons text rest hc

theorem splitWhere_of_forall {sep : Char → Bool} {text : Text} (h : ∀ c ∈ text, sep c = false) :
    splitWhere sep text = [text] := by
  rw [splitWhere_eq_splitOnP]
  exact List.splitOnP_eq_singleton h

/-- A text without a character is not separated at it. -/
theorem beq_eq_false_of_not_mem {d : Char} {text : Text} (h : d ∉ text) :
    ∀ c ∈ text, (c == d) = false := by
  intro c hc
  rw [beq_eq_false_iff_ne]
  rintro rfl
  exact h hc

theorem mem_splitWhere {sep : Char → Bool} {text part : Text} (h : part ∈ splitWhere sep text) :
    ∀ c ∈ part, sep c = false := by
  induction text generalizing part with
  | nil =>
    rw [splitWhere_nil, List.mem_singleton] at h
    subst h
    simp
  | cons d rest ih =>
    rw [splitWhere_cons] at h
    by_cases hd : sep d = true
    · rw [if_pos hd] at h
      rcases List.mem_cons.1 h with rfl | h
      · simp
      · exact ih h
    · rw [if_neg hd] at h
      cases hparts : splitWhere sep rest with
      | nil => exact absurd hparts (splitWhere_ne_nil sep rest)
      | cons first others =>
        rw [hparts, List.modifyHead_cons, List.mem_cons] at h
        rcases h with rfl | h
        · have hfirst : ∀ c ∈ first, sep c = false := ih (by simp [hparts])
          exact List.forall_mem_cons.2 ⟨by simpa using hd, hfirst⟩
        · exact ih (by simp [hparts, h])

/-! ### Numbered fields -/

theorem nth_succ {fields : List Text} {field : Text} {i : Nat} (h : fields[i]? = some field) :
    nth fields (i + 1) = field := by
  have hnumber : ((i : Int) + 1).toNat - 1 = i := by omega
  rw [nth, if_pos (by omega), hnumber, List.getD_eq_getElem?_getD, h]
  rfl

theorem nth_of_missing {fields : List Text} {number : Int}
    (h : number < 1 ∨ fields.length < number) : nth fields number = [] := by
  rw [nth]
  split
  · rw [List.getD_eq_getElem?_getD, List.getElem?_eq_none (by omega)]
    rfl
  · rfl

/-! ### Parts between separators -/

section Parts

variable {sep : Char → Bool}

/-- **Parts end at a separator.**  All that is said about the parts of a longer text follows
    from this. -/
theorem pieces_append_cons {c : Char} (hc : sep c = true) (front back : Text) :
    pieces sep (front ++ c :: back) = pieces sep front ++ pieces sep back := by
  rw [pieces, splitWhere_append_cons hc, List.filter_append]
  rfl

theorem pieces_separators_append {gap : Text} (hgap : ∀ c ∈ gap, sep c = true) (text : Text) :
    pieces sep (gap ++ text) = pieces sep text := by
  induction gap with
  | nil => rfl
  | cons c gap ih =>
    obtain ⟨hc, hrest⟩ := List.forall_mem_cons.1 hgap
    exact (pieces_append_cons hc [] (gap ++ text)).trans (ih hrest)

theorem pieces_of_forall {part : Text} (hne : part ≠ []) (hpart : ∀ c ∈ part, sep c = false) :
    pieces sep part = [part] := by
  rw [pieces, splitWhere_of_forall hpart]
  simp [hne]

/-- The text consists of these parts, with separators between any two of them and possibly
    around them.  No part is empty or has a separator inside. -/
inductive Parted (sep : Char → Bool) : Text → List Text → Prop where
  | nil {gap : Text} : (∀ c ∈ gap, sep c = true) → Parted sep gap []
  | cons {gap part rest : Text} {parts : List Text} :
      (∀ c ∈ gap, sep c = true) → part ≠ [] → (∀ c ∈ part, sep c = false) →
      (∀ c, rest.head? = some c → sep c = true) → Parted sep rest parts →
      Parted sep (gap ++ part ++ rest) (part :: parts)

theorem Parted.pieces_eq {text : Text} {parts : List Text} (h : Parted sep text parts) :
    pieces sep text = parts := by
  induction h with
  | @nil gap hgap =>
    rw [← List.append_nil gap, pieces_separators_append hgap]
    rfl
  | @cons gap part rest parts hgap hne hpart hrest _ ih =>
    rw [List.append_assoc, pieces_separators_append hgap]
    cases rest with
    | nil =>
      rw [List.append_nil, pieces_of_forall hne hpart, ← ih]
      rfl
    | cons c rest =>
      have hc : sep c = true := hrest c rfl
      have hskip : pieces sep (c :: rest) = pieces sep rest := pieces_append_cons hc [] rest
      rw [pieces_append_cons hc, pieces_of_forall hne hpart, ← hskip, ih]
      rfl

/-- Every text consists of parts and separators. -/
theorem exists_parted (sep : Char → Bool) (text : Text) : ∃ parts, Parted sep text parts := by
  induction hlength : text.length using Nat.strongRecOn generalizing text with
  | _ length ih =>
    have hgap : ∀ c ∈ text.takeWhile sep, sep c = true := fun c => List.mem_takeWhile_imp
    have htext : text.takeWhile sep ++ text.dropWhile sep = text := List.takeWhile_append_dropWhile
    cases hbody : text.dropWhile sep with
    | nil =>
      rw [hbody, List.append_nil] at htext
      exact ⟨[], .nil (htext ▸ hgap)⟩
    | cons d body =>
      have hd : sep d = false := not_of_head?_dropWhile (congrArg List.head? hbody)
      -- what follows the separators begins with a part, and what follows that is shorter
      have hpart : ∀ c ∈ d :: body.takeWhile (!sep ·), sep c = false := by
        refine List.forall_mem_cons.2 ⟨hd, fun c hc => ?_⟩
        simpa using List.mem_takeWhile_imp hc
      have hsplit : body.takeWhile (!sep ·) ++ body.dropWhile (!sep ·) = body :=
        List.takeWhile_append_dropWhile
      have hrest : ∀ c, (body.dropWhile (!sep ·)).head? = some c → sep c = true := by
        intro c hc
        simpa using not_of_head?_dropWhile hc
      have hshorter : (body.dropWhile (!sep ·)).length < length := by
        have hwhole := congrArg List.length htext
        have hbodyLength := congrArg List.length hsplit
        rw [hbody, List.length_append, List.length_cons] at hwhole
        rw [List.length_append] at hbodyLength
        omega
      obtain ⟨parts, hparts⟩ := ih _ hshorter _ rfl
      refine ⟨(d :: body.takeWhile (!sep ·)) :: parts, ?_⟩
      have hparted := Parted.cons hgap (List.cons_ne_nil d _) hpart hrest hparts
      rwa [List.append_assoc, List.cons_append, hsplit, ← hbody, htext] at hparted

/-- **There is one way to take a text apart, and that is how it is split.** -/
theorem pieces_eq_iff {text : Text} {parts : List Text} :
    pieces sep text = parts ↔ Parted sep text parts := by
  constructor
  · rintro rfl
    obtain ⟨parts, hparts⟩ := exists_parted sep text
    rwa [hparts.pieces_eq]
  · exact Parted.pieces_eq

end Parts

/-! ### Columns between gaps -/

/-- A run of spaces and tabs. -/
def Gap (text : Text) : Prop := ∀ c ∈ text, isColumnGap c = true

/-- A text without spaces and tabs. -/
def GapFree (text : Text) : Prop := ∀ c ∈ text, isColumnGap c = false

instance (text : Text) : Decidable (Gap text) := List.decidableBAll _ text

instance (text : Text) : Decidable (GapFree text) := List.decidableBAll _ text

theorem GapFree.append {text more : Text} (h : GapFree text) (hmore : GapFree more) :
    GapFree (text ++ more) := List.forall_mem_append.2 ⟨h, hmore⟩

theorem columns_append_cons {c : Char} (hc : isColumnGap c = true) (front back : Text) :
    columns (front ++ c :: back) = columns front ++ columns back :=
  pieces_append_cons hc front back

theorem columns_gap_append {gap : Text} (hgap : Gap gap) (text : Text) :
    columns (gap ++ text) = columns text :=
  pieces_separators_append hgap text

theorem columns_of_gapFree {word : Text} (hne : word ≠ []) (hword : GapFree word) :
    columns word = [word] :=
  pieces_of_forall hne hword

theorem columns_word_append {word gap : Text} (hne : word ≠ []) (hword : GapFree word)
    (hgapne : gap ≠ []) (hgap : Gap gap) (text : Text) :
    columns (word ++ gap ++ text) = word :: columns text := by
  obtain ⟨c, gap, rfl⟩ := List.exists_cons_of_ne_nil hgapne
  obtain ⟨hc, hrest⟩ := List.forall_mem_cons.1 hgap
  rw [List.append_assoc, List.cons_append, columns_append_cons hc, columns_of_gapFree hne hword,
    columns_gap_append hrest]
  rfl

/-- What stands before the first gap of a text, or the whole text. -/
def upToGap (text : Text) : Text := text.takeWhile (!isColumnGap ·)

theorem gapFree_upToGap (text : Text) : GapFree (upToGap text) := by
  intro c hc
  simpa using List.mem_takeWhile_imp hc

/-- A text that does not begin with a gap begins with its first column. -/
theorem exists_columns_eq_cons {text : Text} (h : upToGap text ≠ []) :
    ∃ others, columns text = upToGap text :: others := by
  have hfree := gapFree_upToGap text
  have hsplit : upToGap text ++ text.dropWhile (!isColumnGap ·) = text :=
    List.takeWhile_append_dropWhile
  cases hrest : text.dropWhile (!isColumnGap ·) with
  | nil =>
    rw [hrest, List.append_nil] at hsplit
    rw [hsplit] at h hfree ⊢
    exact ⟨[], columns_of_gapFree h hfree⟩
  | cons c rest =>
    have hc : isColumnGap c = true := by
      simpa using not_of_head?_dropWhile (congrArg List.head? hrest)
    refine ⟨columns rest, ?_⟩
    have hcolumns := columns_append_cons hc (upToGap text) rest
    rwa [← hrest, hsplit, columns_of_gapFree h hfree] at hcolumns

theorem not_gap_of_mem_columns {line column : Text} (h : column ∈ columns line) :
    ∀ c ∈ column, isColumnGap c = false :=
  mem_splitWhere (List.mem_filter.1 h).1

/-- What follows a beginning of a column is still part of the column. -/
theorem not_gap_of_mem_leadingColumn {line lead : Text} :
    ∀ c ∈ leadingColumn line lead, isColumnGap c = false := by
  intro c hc
  rw [leadingColumn] at hc
  cases hfound : (columns line).findSome? (dropLead? lead) with
  | none =>
    rw [hfound] at hc
    cases hc
  | some rest =>
    rw [hfound, Option.getD_some] at hc
    obtain ⟨column, hcolumn, hlead⟩ := List.exists_of_findSome?_eq_some hfound
    rw [dropLead?_eq_some_iff] at hlead
    exact not_gap_of_mem_columns hcolumn c (by simp [hlead, hc])

/-! ### The leftmost cut -/

/-- The mark stands in the text between the two parts, and nowhere further to the left. -/
def CutAt (mark text before after : Text) : Prop :=
  text = before ++ mark ++ after ∧
    ∀ front back, text = front ++ mark ++ back → before.length ≤ front.length

/-- The mark does not occur before the place of the cut. -/
theorem length_le_of_cut? {mark text before after front back : Text}
    (h : cut? mark text = some (before, after)) (hother : text = front ++ mark ++ back) :
    before.length ≤ front.length := by
  induction text generalizing before front with
  | nil =>
    obtain ⟨rest, -, heq⟩ := Option.map_eq_some_iff.1 h
    cases heq
    exact Nat.zero_le _
  | cons c cs ih =>
    cases hlead : dropLead? mark (c :: cs) with
    | some rest =>
      simp only [cut?, hlead, Option.some.injEq, Prod.mk.injEq] at h
      obtain ⟨rfl, rfl⟩ := h
      exact Nat.zero_le _
    | none =>
      simp only [cut?, hlead] at h
      obtain ⟨parts, hcut, heq⟩ := Option.map_eq_some_iff.1 h
      cases heq
      cases front with
      | nil =>
        rw [List.nil_append, ← dropLead?_eq_some_iff, hlead] at hother
        cases hother
      | cons d front => exact Nat.succ_le_succ (ih hcut (List.cons.inj hother).2)

/-- **A cut is made at the leftmost occurrence of the mark.** -/
theorem cut?_eq_some_iff {mark text before after : Text} :
    cut? mark text = some (before, after) ↔ CutAt mark text before after := by
  constructor
  · intro h
    exact ⟨cut?_eq_some h, fun front back => length_le_of_cut? h⟩
  · rintro ⟨htext, hleftmost⟩
    cases hcut : cut? mark text with
    | none => exact absurd htext (cut?_eq_none_iff.1 hcut before after)
    | some parts =>
      obtain ⟨front, back⟩ := parts
      have hother := cut?_eq_some hcut
      have hlength : front.length = before.length :=
        Nat.le_antisymm (length_le_of_cut? hcut htext) (hleftmost front back hother)
      rw [htext, List.append_assoc, List.append_assoc] at hother
      obtain ⟨rfl, hrest⟩ := List.append_inj hother hlength.symm
      rw [List.append_cancel_left hrest]

/-- There is no cut exactly when the mark does not stand in the text. -/
theorem cut?_eq_none_iff_not_isInfix {mark text : Text} :
    cut? mark text = none ↔ ¬ mark <:+: text := by
  rw [cut?_eq_none_iff]
  constructor
  · rintro h ⟨before, after, heq⟩
    exact h before after heq.symm
  · intro h before after heq
    exact h ⟨before, after, heq.symm⟩

theorem exists_cut?_of_isInfix {mark text : Text} (h : mark <:+: text) :
    ∃ parts, cut? mark text = some parts := by
  rw [← Option.ne_none_iff_exists']
  exact fun hnone => cut?_eq_none_iff_not_isInfix.1 hnone h

theorem dropLead?_eq_none_iff {lead text : Text} :
    dropLead? lead text = none ↔ ¬ lead <+: text := by
  rw [Option.eq_none_iff_forall_ne_some]
  constructor
  · rintro h ⟨rest, rfl⟩
    exact h rest (dropLead?_append lead rest)
  · rintro h rest hrest
    exact h ⟨rest, (dropLead?_eq_some_iff.1 hrest).symm⟩

theorem cut?_cons_of_dropLead?_eq_none {mark text : Text} {c : Char}
    (h : dropLead? mark (c :: text) = none) :
    cut? mark (c :: text) = (cut? mark text).map fun parts => (c :: parts.1, parts.2) := by
  simp only [cut?, h]

/-- A text that starts with the mark is cut there. -/
theorem cut?_append (mark after : Text) : cut? mark (mark ++ after) = some ([], after) := by
  cases htext : mark ++ after with
  | nil =>
    obtain ⟨rfl, rfl⟩ := List.append_eq_nil_iff.1 htext
    rfl
  | cons c rest => simp only [cut?, ← htext, dropLead?_append]

/-- **The cut may be looked for behind a text inside which no mark begins.** -/
theorem cut?_append_of_clear {mark before text : Text}
    (h : ∀ front back, before = front ++ back → back ≠ [] → ¬ mark <+: back ++ text) :
    cut? mark (before ++ text) =
      (cut? mark text).map fun parts => (before ++ parts.1, parts.2) := by
  induction before with
  | nil => simp
  | cons d before ih =>
    have hlead : dropLead? mark (d :: (before ++ text)) = none :=
      dropLead?_eq_none_iff.2 (h [] (d :: before) rfl (by simp))
    have hrest (front back : Text) (hsplit : before = front ++ back) :
        back ≠ [] → ¬ mark <+: back ++ text := h (d :: front) back (by rw [hsplit]; rfl)
    rw [List.cons_append, cut?_cons_of_dropLead?_eq_none hlead, ih hrest, Option.map_map]
    rfl

/-- The same for a text without the first character of the mark. -/
theorem cut?_append_of_not_mem {c : Char} {mark more before : Text} (hmark : mark = c :: more)
    (h : c ∉ before) (text : Text) : cut? mark (before ++ text) =
      (cut? mark text).map fun parts => (before ++ parts.1, parts.2) := by
  apply cut?_append_of_clear
  rintro front back rfl hne hbegins
  obtain ⟨d, back, rfl⟩ := List.exists_cons_of_ne_nil hne
  rw [hmark, List.cons_append, List.cons_prefix_cons] at hbegins
  exact h (by simp [hbegins.1])

/-- The same for the second character, if it does not come right after the text either. -/
theorem cut?_append_of_second_not_mem {c d : Char} {mark more before text : Text}
    (hmark : mark = c :: d :: more) (h : d ∉ before) (hhead : text.head? ≠ some d) :
    cut? mark (before ++ text) =
      (cut? mark text).map fun parts => (before ++ parts.1, parts.2) := by
  apply cut?_append_of_clear
  rintro front back rfl hne hbegins
  obtain ⟨b, back, rfl⟩ := List.exists_cons_of_ne_nil hne
  rw [hmark, List.cons_append, List.cons_prefix_cons] at hbegins
  cases back with
  | nil =>
    rw [List.nil_append] at hbegins
    obtain ⟨rest, rfl⟩ := hbegins.2
    exact hhead rfl
  | cons e back =>
    rw [List.cons_append, List.cons_prefix_cons] at hbegins
    exact h (by simp [hbegins.2.1])

/-- The same for a text that a character follows which the mark does not have, if the mark does
    not stand in it. -/
theorem cut?_append_cons_of_not_mem {c : Char} {mark before rest : Text} (hmark : c ∉ mark)
    (h : ¬ mark <:+: before) : cut? mark (before ++ c :: rest) =
      (cut? mark (c :: rest)).map fun parts => (before ++ parts.1, parts.2) := by
  apply cut?_append_of_clear
  rintro front back rfl - hbegins
  have hwithin : mark <+: back := by
    rcases List.prefix_or_prefix_of_prefix hbegins (List.prefix_append back (c :: rest)) with
      hwithin | ⟨more, rfl⟩
    · exact hwithin
    -- otherwise the mark goes on with the character behind the text
    · rw [List.prefix_append_right_inj] at hbegins
      cases more with
      | nil => simp
      | cons d more =>
        rw [List.cons_prefix_cons] at hbegins
        exact absurd (by simp [hbegins.1]) hmark
  exact h (hwithin.isInfix.trans (List.suffix_append front back).isInfix)

/-! ### The part after the leftmost cut -/

theorem splitOn_of_cut?_eq_some {sep line field rest : Text} (hsep : sep ≠ [])
    (h : cut? sep line = some (field, rest)) :
    splitOn sep line = field :: splitOn sep rest := by
  rw [splitOn, dif_neg hsep]
  split
  · simp_all
  · simp_all

theorem splitOn_of_cut?_eq_none {sep line : Text} (h : cut? sep line = none) :
    splitOn sep line = [line] := by
  rw [splitOn]
  split
  · rfl
  · split
    · simp_all
    · rfl

/-- What stands between two double quotes of which the first is the first of the line. -/
theorem quotedValue_append {before value : Text} (hbefore : '"' ∉ before) (hvalue : '"' ∉ value)
    (after : Text) : quotedValue (before ++ ['"'] ++ value ++ ['"'] ++ after) = value := by
  have hfirst : cut? ['"'] (before ++ (['"'] ++ (value ++ (['"'] ++ after)))) =
      some (before, value ++ (['"'] ++ after)) := by
    rw [cut?_append_of_not_mem rfl hbefore, cut?_append]
    simp
  have hsecond : cut? ['"'] (value ++ (['"'] ++ after)) = some (value, after) := by
    rw [cut?_append_of_not_mem rfl hvalue, cut?_append]
    simp
  simp only [quotedValue, List.append_assoc]
  rw [splitOn_of_cut?_eq_some (by simp) hfirst, splitOn_of_cut?_eq_some (by simp) hsecond]
  rfl

end VclReview.Text
