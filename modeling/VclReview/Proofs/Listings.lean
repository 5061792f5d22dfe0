/-
  VclReview/Proofs/Listings.lean
  ==============================
  **A listing is read row by row.**  A newline among the bytes of a listing ends every
  character that has been begun, so the bytes before it and those after it are decoded
  apart (`decodeLossy_append_cons`), however damaged they are.  Every line break is a place
  at which the headers of a listing can be divided (`listedHeaders_append_cons`); from this
  one equation it follows that writing the breaks in another way changes nothing, and that
  a break of two characters counts as one (`Rowed.listedHeaders_eq`).

  What a row shows is stated without the reader (`ShowsHeader`), and
  `listedHeaders_readsRows` puts all of it together.
-/
import VclReview.Audit.Probe
import VclReview.Proofs.Encoding
import VclReview.Proofs.Fields

namespace VclReview

/-! ### Bytes that stand alone -/

namespace Utf8

/-- No character that has been begun goes on with a byte below 128. -/
theorem low_of_start {b : Nat} {p : Pending} (h : start b = .begun p) : 0x80 ≤ p.low := by
  have hrange : b < 0x80 ∨ 0xC2 ≤ b ∧ b < 0xE0 ∨ 0xE0 ≤ b ∧ b < 0xF0 ∨ 0xF0 ≤ b ∧ b < 0xF5 ∨
      (0x80 ≤ b ∧ b < 0xC2 ∨ 0xF5 ≤ b) := by omega
  rcases hrange with hone | ⟨hlow, hhigh⟩ | ⟨hlow, hhigh⟩ | ⟨hlow, hhigh⟩ | hdamaged
  · simp only [start_single hone, reduceCtorEq] at h
  · simp only [start_two hlow hhigh, Start.begun.injEq] at h
    simp [← h]
  · simp only [start_three hlow hhigh, Start.begun.injEq] at h
    rw [← h]
    dsimp only
    split <;> omega
  · simp only [start_four hlow hhigh, Start.begun.injEq] at h
    rw [← h]
    dsimp only
    split <;> omega
  · simp only [start_damaged hdamaged, reduceCtorEq] at h

/-- What has been begun, if anything, cannot go on with a byte below 128. -/
def Reader.EndsBySingle (reader : Reader) : Prop := ∀ p, reader.pending = some p → 0x80 ≤ p.low

theorem endsBySingle_begin (items : List (Option Char)) (b : UInt8) :
    (Reader.begin items b).EndsBySingle := by
  intro p hp
  unfold Reader.begin at hp
  cases hstart : start b.toNat with
  | single => simp [hstart] at hp
  | begun pending =>
    simp only [hstart, Option.some.injEq] at hp
    exact low_of_start (hp ▸ hstart)
  | damaged => simp [hstart] at hp

theorem endsBySingle_push (reader : Reader) (b : UInt8) : (reader.push b).EndsBySingle := by
  unfold Reader.push
  cases reader.pending with
  | none => exact endsBySingle_begin _ b
  | some pending =>
    dsimp only
    split
    · split
      · exact fun p hp => absurd hp (by simp)
      · intro p hp
        obtain rfl := Option.some.inj hp
        exact Nat.le_refl 0x80
    · exact endsBySingle_begin _ b

theorem endsBySingle_foldl (data : Bytes) {reader : Reader} (h : reader.EndsBySingle) :
    (data.foldl Reader.push reader).EndsBySingle := by
  induction data generalizing reader with
  | nil => exact h
  | cons b data ih => exact ih (endsBySingle_push reader b)

/-- A byte below 128 finishes what was there before and is a character of its own. -/
theorem push_single {reader : Reader} (h : reader.EndsBySingle) {b : UInt8}
    (hb : b.toNat < 0x80) :
    reader.push b = ⟨some (Char.ofNat b.toNat) :: reader.finish.reverse, none⟩ := by
  have hbegin (items : List (Option Char)) :
      Reader.begin items b = ⟨some (Char.ofNat b.toNat) :: items, none⟩ := by
    simp only [Reader.begin, start_single hb]
  unfold Reader.push Reader.finish
  cases hpending : reader.pending with
  | none =>
    simp only [hbegin, Option.isSome_none, Bool.false_eq_true, if_false, List.reverse_reverse]
  | some p =>
    have hlow := h p hpending
    have hrange : ¬ (p.low ≤ b.toNat ∧ b.toNat ≤ p.high) := by omega
    simp only [hrange, hbegin, if_false, Option.isSome_some, if_true, List.reverse_reverse]

/-- The reader with other items read before. -/
def Reader.behind (reader : Reader) (older : List (Option Char)) : Reader :=
  ⟨reader.items ++ older, reader.pending⟩

theorem begin_behind (items older : List (Option Char)) (b : UInt8) :
    Reader.begin (items ++ older) b = (Reader.begin items b).behind older := by
  unfold Reader.begin
  cases start b.toNat with
  | single | begun | damaged => rfl

theorem push_behind (reader : Reader) (older : List (Option Char)) (b : UInt8) :
    (reader.behind older).push b = (reader.push b).behind older := by
  cases hpending : reader.pending with
  | none => simp only [Reader.push, Reader.behind, hpending, begin_behind]
  | some p =>
    simp only [Reader.push, Reader.behind, hpending]
    split
    · split
      · rfl
      · rfl
    · exact begin_behind (none :: reader.items) older b

theorem foldl_push_behind (data : Bytes) (reader : Reader) (older : List (Option Char)) :
    data.foldl Reader.push (reader.behind older) = (data.foldl Reader.push reader).behind older := by
  induction data generalizing reader with
  | nil => rfl
  | cons b data ih => rw [List.foldl_cons, push_behind, ih, List.foldl_cons]

theorem finish_behind (reader : Reader) (older : List (Option Char)) :
    (reader.behind older).finish = older.reverse ++ reader.finish := by
  unfold Reader.finish Reader.behind
  cases reader.pending with
  | none => simp
  | some p => simp

/-- **Data is read apart before and after a byte below 128.** -/
theorem items_append_cons {b : UInt8} (hb : b.toNat < 0x80) (front back : Bytes) :
    items (front ++ b :: back) = items front ++ some (Char.ofNat b.toNat) :: items back := by
  have hends : (front.foldl Reader.push .init).EndsBySingle :=
    endsBySingle_foldl front fun p hp => absurd hp (by simp [Reader.init])
  have hstart (older : List (Option Char)) : (⟨older, none⟩ : Reader) = Reader.init.behind older :=
    rfl
  simp only [items, List.foldl_append, List.foldl_cons]
  rw [push_single hends hb, hstart, foldl_push_behind, finish_behind]
  simp only [List.reverse_cons, List.reverse_reverse, List.append_assoc, List.cons_append,
    List.nil_append]

theorem decodeLossy_append_cons {b : UInt8} (hb : b.toNat < 0x80) (front back : Bytes) :
    decodeLossy (front ++ b :: back) =
      decodeLossy front ++ Char.ofNat b.toNat :: decodeLossy back := by
  simp only [decodeLossy, items_append_cons hb, List.map_append, List.map_cons, Option.getD_some]

end Utf8

/-! ### Rows -/

namespace Text

/-- A text without line breaks. -/
def Unbroken (text : Text) : Prop := ∀ c ∈ text, rowBreaks.has c = false

/-- The ending is one line break, whatever follows it: a carriage return and a newline stand
    for one break together. -/
inductive EndsRow : (ending rest : Text) → Prop where
  | together {rest : Text} : EndsRow ['\r', '\n'] rest
  | alone {c : Char} {rest : Text} :
      rowBreaks.has c = true → (c = '\r' → rest.head? ≠ some '\n') → EndsRow [c] rest

/-- The rows of a text: each is ended by a line break, the last one possibly by the end of
    the text. -/
inductive Rowed : Text → List Text → Prop where
  | nil : Rowed [] []
  | last {row : Text} : row ≠ [] → Unbroken row → Rowed row [row]
  | cons {row ending rest : Text} {rows : List Text} :
      Unbroken row → EndsRow ending rest → Rowed rest rows →
      Rowed (row ++ ending ++ rest) (row :: rows)

theorem EndsRow.exists_cons {ending rest : Text} (h : EndsRow ending rest) :
    ∃ c more, ending = c :: more ∧ rowBreaks.has c = true := by
  cases h with
  | together => exact ⟨'\r', ['\n'], rfl, by decide⟩
  | alone hc _ => exact ⟨_, [], rfl, hc⟩

theorem EndsRow.unique {ending ending' rest rest' : Text} (h : EndsRow ending rest)
    (h' : EndsRow ending' rest') (heq : ending ++ rest = ending' ++ rest') : rest = rest' := by
  cases h with
  | together =>
    cases h' with
    | together => simpa using heq
    | alone _ hrest =>
      simp only [List.cons_append, List.nil_append, List.cons.injEq] at heq
      exact absurd (by rw [← heq.2]; rfl) (hrest heq.1.symm)
  | alone _ hrest =>
    cases h' with
    | together =>
      simp only [List.cons_append, List.nil_append, List.cons.injEq] at heq
      exact absurd (by rw [heq.2]; rfl) (hrest heq.1)
    | alone _ _ =>
      simp only [List.cons_append, List.nil_append, List.cons.injEq] at heq
      exact heq.2

/-- What stands before the first line break is determined. -/
theorem Unbroken.append_inj {row row' ending ending' : Text} (h : Unbroken row)
    (h' : Unbroken row') (hending : ∃ c more, ending = c :: more ∧ rowBreaks.has c = true)
    (hending' : ∃ c more, ending' = c :: more ∧ rowBreaks.has c = true)
    (heq : row ++ ending = row' ++ ending') : row = row' ∧ ending = ending' := by
  have hrun {row : Text} (h : Unbroken row) : ∀ c ∈ row, (!rowBreaks.has c) = true := by
    intro c hc
    rw [h c hc]
    rfl
  have hstop {ending : Text} (h : ∃ c more, ending = c :: more ∧ rowBreaks.has c = true) :
      ∀ c, ending.head? = some c → (!rowBreaks.has c) = false := by
    obtain ⟨c, more, rfl, hc⟩ := h
    rintro d hd
    cases hd
    rw [hc]
    rfl
  exact append_inj_of_run (hrun h) (hrun h') (hstop hending) (hstop hending') heq

theorem not_unbroken_append {row ending rest : Text} (h : EndsRow ending rest) :
    ¬ Unbroken (row ++ ending ++ rest) := by
  obtain ⟨c, more, rfl, hc⟩ := h.exists_cons
  intro hunbroken
  have hfalse := hunbroken c (by simp)
  rw [hc] at hfalse
  cases hfalse

/-- A text has its rows in one way only. -/
theorem Rowed.unique {text : Text} {rows rows' : List Text} (h : Rowed text rows)
    (h' : Rowed text rows') : rows = rows' := by
  induction h generalizing rows' with
  | nil =>
    generalize htext : ([] : Text) = text at h'
    cases h' with
    | nil => rfl
    | last hne _ => exact absurd htext.symm hne
    | cons _ hending _ =>
      obtain ⟨c, more, rfl, -⟩ := hending.exists_cons
      simp at htext
  | @last row hne hrow =>
    generalize htext : row = text at h'
    cases h' with
    | nil => exact absurd htext hne
    | last _ _ => rfl
    | cons _ hending _ => exact absurd (htext ▸ hrow) (not_unbroken_append hending)
  | @cons row ending rest rows hrow hending _ ih =>
    generalize htext : row ++ ending ++ rest = text at h'
    cases h' with
    | nil =>
      obtain ⟨c, more, rfl, -⟩ := hending.exists_cons
      simp at htext
    | last _ hunbroken => exact absurd (htext ▸ hunbroken) (not_unbroken_append hending)
    | @cons row' ending' rest' rows' hrow' hending' hrest' =>
      rw [List.append_assoc, List.append_assoc] at htext
      have hbreak {ending rest : Text} (h : EndsRow ending rest) :
          ∃ c more, ending ++ rest = c :: more ∧ rowBreaks.has c = true := by
        obtain ⟨c, more, rfl, hc⟩ := h.exists_cons
        exact ⟨c, more ++ rest, rfl, hc⟩
      obtain ⟨rfl, htail⟩ := hrow.append_inj hrow' (hbreak hending) (hbreak hending') htext
      obtain rfl := hending.unique hending' htail
      rw [ih hrest']

/-- Every text has rows. -/
theorem exists_rowed (text : Text) : ∃ rows, Rowed text rows := by
  induction hlength : text.length using Nat.strongRecOn generalizing text with
  | _ length ih =>
    have hrow : Unbroken (text.takeWhile (!rowBreaks.has ·)) := by
      intro c hc
      simpa using List.mem_takeWhile_imp hc
    have htext : text.takeWhile (!rowBreaks.has ·) ++ text.dropWhile (!rowBreaks.has ·) = text :=
      List.takeWhile_append_dropWhile
    cases hbreak : text.dropWhile (!rowBreaks.has ·) with
    | nil =>
      rw [hbreak, List.append_nil] at htext
      rw [htext] at hrow
      by_cases hne : text = []
      · exact ⟨[], hne ▸ .nil⟩
      · exact ⟨[text], .last hne hrow⟩
    | cons c rest =>
      have hc : rowBreaks.has c = true := by
        simpa using not_of_head?_dropWhile (congrArg List.head? hbreak)
      -- a newline right behind a carriage return belongs to the same break
      obtain ⟨ending, after, hsplit, hending⟩ :
          ∃ ending after, c :: rest = ending ++ after ∧ EndsRow ending after := by
        by_cases hpair : c = '\r' ∧ rest.head? = some '\n'
        · obtain ⟨rfl, hhead⟩ := hpair
          obtain ⟨after, rfl⟩ := List.head?_eq_some_iff.1 hhead
          exact ⟨['\r', '\n'], after, rfl, .together⟩
        · exact ⟨[c], rest, rfl, .alone hc fun hreturn hhead => hpair ⟨hreturn, hhead⟩⟩
      rw [hbreak, hsplit, ← List.append_assoc] at htext
      have hshorter : after.length < length := by
        obtain ⟨d, more, rfl, -⟩ := hending.exists_cons
        rw [← hlength, ← htext]
        simp
        omega
      obtain ⟨rows, hrows⟩ := ih _ hshorter after rfl
      have hrowed := Rowed.cons hrow hending hrows
      rw [htext] at hrowed
      exact ⟨_, hrowed⟩

/-- Every line break is a blank. -/
theorem isBlank_of_rowBreak {c : Char} (h : rowBreaks.has c = true) : isBlank c = true := by
  simp only [isBlank, blanks, rowBreaks, Ranges.has, List.any_cons, List.any_nil, Bool.or_eq_true,
    Bool.and_eq_true, decide_eq_true_eq, Bool.false_eq_true, or_false] at h ⊢
  omega

end Text

/-! ### What a row shows -/

/-- The row speaks of the active configuration, and the header is the fourth of its words. -/
def ShowsHeader (row header : Text) : Prop :=
  (∃ before after : Text, row = before ++ "active" ++ after) ∧
    ∃ first second third later,
      Text.Parted Text.isBlank row (first :: second :: third :: header :: later)

theorem rowHeader?_eq_some_iff {row header : Text} :
    rowHeader? row = some header ↔ ShowsHeader row header := by
  have hfourth {words : List Text} : words[3]? = some header ↔
      ∃ first second third later, words = first :: second :: third :: header :: later := by
    constructor
    · intro h
      match words, h with
      | first :: second :: third :: fourth :: later, h =>
        obtain rfl := Option.some.inj h
        exact ⟨first, second, third, later, rfl⟩
    · rintro ⟨first, second, third, later, rfl⟩
      rfl
  unfold rowHeader? ShowsHeader
  simp only [← Text.pieces_eq_iff, ← Text.contains_iff]
  split
  case isTrue hactive => rw [hfourth, Text.words, and_iff_right hactive]
  case isFalse hactive => exact iff_of_false (by simp) fun h => hactive h.1

theorem listedHeaders_of_unbroken {row : Text} (h : Text.Unbroken row) :
    listedHeaders row = (rowHeader? row).toList := by
  rw [listedHeaders, Text.rows, Text.splitWhere_of_forall h]
  cases hrow : rowHeader? row with
  | none => simp [hrow]
  | some header => simp [hrow]

/-- **The headers of a listing can be divided at every line break.** -/
theorem listedHeaders_append_cons {c : Char} (hc : Text.rowBreaks.has c = true)
    (front back : Text) :
    listedHeaders (front ++ c :: back) = listedHeaders front ++ listedHeaders back := by
  rw [listedHeaders, Text.rows, Text.splitWhere_append_cons hc, List.filterMap_append]
  rfl

theorem listedHeaders_nil : listedHeaders [] = [] := by decide

/-- A line break that no row precedes shows nothing. -/
theorem listedHeaders_cons {c : Char} (hc : Text.rowBreaks.has c = true) (back : Text) :
    listedHeaders (c :: back) = listedHeaders back := by
  have h := listedHeaders_append_cons hc [] back
  rwa [listedHeaders_nil] at h

theorem listedHeaders_append_unifyBreaks (front text : Text) :
    listedHeaders (front ++ Text.unifyBreaks text) = listedHeaders (front ++ text) := by
  have hnewline : Text.rowBreaks.has '\n' = true := by decide
  have hreturn : Text.rowBreaks.has '\r' = true := by decide
  induction text using Text.unifyBreaks.induct generalizing front with
  | case1 rest ih =>
    have hrest := ih []
    simp only [List.nil_append] at hrest
    rw [Text.unifyBreaks, listedHeaders_append_cons hnewline, hrest,
      listedHeaders_append_cons hreturn, listedHeaders_cons hnewline]
  | case2 rest hne ih =>
    have hrest := ih []
    simp only [List.nil_append] at hrest
    rw [Text.unifyBreaks, listedHeaders_append_cons hnewline, hrest,
      listedHeaders_append_cons hreturn]
    exact hne
  | case3 c rest hpair hne ih =>
    rw [Text.unifyBreaks, List.append_cons, ih, List.append_cons front c rest]
    · exact hpair
    · exact hne
  | case4 => rw [Text.unifyBreaks]

theorem listedHeaders_unifyBreaks (text : Text) :
    listedHeaders (Text.unifyBreaks text) = listedHeaders text :=
  listedHeaders_append_unifyBreaks [] text

theorem Text.Rowed.listedHeaders_eq {text : Text} {rows : List Text} (h : Text.Rowed text rows) :
    listedHeaders text = rows.filterMap rowHeader? := by
  have hcons (row : Text) (rows : List Text) :
      (row :: rows).filterMap rowHeader? = (rowHeader? row).toList ++ rows.filterMap rowHeader? := by
    cases hrow : rowHeader? row with
    | none => simp [hrow]
    | some header => simp [hrow]
  induction h with
  | nil => exact listedHeaders_nil
  | last _ hrow =>
    rw [listedHeaders_of_unbroken hrow, hcons, List.filterMap_nil, List.append_nil]
  | cons hrow hending _ ih =>
    rw [hcons, ← ih, ← listedHeaders_of_unbroken hrow]
    cases hending with
    | together =>
      rw [List.append_assoc, List.cons_append, List.cons_append, List.nil_append,
        listedHeaders_append_cons (by decide), listedHeaders_cons (by decide)]
    | alone hc _ =>
      rw [List.append_assoc, List.cons_append, List.nil_append, listedHeaders_append_cons hc]

theorem clean_of_mem_listedHeaders {text header : Text} (h : header ∈ listedHeaders text) :
    header ≠ [] ∧ ∀ c ∈ header, Text.isBlank c = false ∧ Text.rowBreaks.has c = false := by
  obtain ⟨row, -, hrow⟩ := List.mem_filterMap.1 h
  have hword : header ∈ Text.words row := by
    unfold rowHeader? at hrow
    split at hrow
    · exact List.mem_of_getElem? hrow
    · cases hrow
  obtain ⟨hpart, hne⟩ := List.mem_filter.1 hword
  refine ⟨by simpa using hne, fun c hc => ?_⟩
  have hblank : Text.isBlank c = false := Text.mem_splitWhere hpart c hc
  refine ⟨hblank, ?_⟩
  rw [← Bool.not_eq_true]
  intro hbreak
  cases hblank.symm.trans (Text.isBlank_of_rowBreak hbreak)

/-! ### The whole listing -/

/-- The headers of listings are read row by row. -/
structure ReadsRows (headers : Text → List Text) : Prop where
  /-- What a program writes before a newline and after it is read apart, damaged or not. -/
  divided : ∀ front back : Bytes, headers (writtenText (front ++ 0x0A :: back)) =
    headers (writtenText front) ++ headers (writtenText back)
  /-- It makes no difference how line breaks are written. -/
  unified : ∀ text, headers (Text.unifyBreaks text) = headers text
  /-- There is one way to take a listing apart into rows. -/
  rowed : ∀ text, ∃! rows, Text.Rowed text rows
  /-- A row shows the header that is its fourth word if it speaks of the active
      configuration, and nothing otherwise. -/
  shown : ∃ header? : Text → Option Text,
    (∀ row header, header? row = some header ↔ ShowsHeader row header) ∧
      ∀ text rows, Text.Rowed text rows → headers text = rows.filterMap header?
  clean : ∀ text, ∀ header ∈ headers text,
    header ≠ [] ∧ ∀ c ∈ header, Text.isBlank c = false ∧ Text.rowBreaks.has c = false

/-- **A listing is read row by row.** -/
theorem listedHeaders_readsRows : ReadsRows listedHeaders where
  divided front back := by
    have hnewline : (0x0A : UInt8).toNat < 0x80 := by decide
    have hbreak : Text.rowBreaks.has (Char.ofNat (0x0A : UInt8).toNat) = true := by decide
    unfold writtenText
    simp only [listedHeaders_unifyBreaks]
    rw [Utf8.decodeLossy_append_cons hnewline, listedHeaders_append_cons hbreak]
  unified := listedHeaders_unifyBreaks
  rowed text := by
    obtain ⟨rows, hrows⟩ := Text.exists_rowed text
    exact ⟨rows, hrows, fun other hother => hother.unique hrows⟩
  shown := ⟨rowHeader?, fun _ _ => rowHeader?_eq_some_iff, fun _ _ => Text.Rowed.listedHeaders_eq⟩
  clean _ _ := clean_of_mem_listedHeaders

end VclReview
