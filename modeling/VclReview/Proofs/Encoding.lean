/-
  VclReview/Proofs/Encoding.lean
  ==============================
  **UTF-8 reads back what it writes, and nothing else.**  The bytes of a character are
  described once, beside the reader (`Spells`, `Completes`): the first byte begins the
  character, the later ones supply the bits that are still owed.  The reader yields a
  character for every such stretch of bytes (`Spells.foldl_push`), and data in which it
  finds no damage falls apart into such stretches (`exists_completes`).  What the writer
  makes of a character is a stretch of this kind (`spells_encodeChar`), and there is no
  other one (`Spells.eq_encodeChar`).

    * `decode?_eq_some_iff`     the data decodes to a text exactly if it is the text encoded;
    * `encode_prefix_iff`       an encoded text begins with another one exactly if the
      texts do;
    * `take_encode_eq_iff`      the first bytes of an encoded text are a text exactly if
      they end with a character.
-/
import Mathlib.Data.List.Basic
import Mathlib.Data.Option.Basic
import VclReview.Bytes.Utf8

namespace VclReview.Utf8

/-! ### What a first byte means -/

theorem start_single {b : Nat} (h : b < 0x80) : start b = .single := by
  simp only [start, if_pos h]

theorem start_two {b : Nat} (hlow : 0xC2 ≤ b) (hhigh : b < 0xE0) :
    start b = .begun ⟨1, 0x80, 0xBF, b - 0xC0⟩ := by
  simp only [start]
  rw [if_neg (by omega), if_neg (by omega), if_pos hhigh]

/-- After `E0` an overlong form and after `ED` a surrogate could follow. -/
theorem start_three {b : Nat} (hlow : 0xE0 ≤ b) (hhigh : b < 0xF0) :
    start b = .begun ⟨2, if b = 0xE0 then 0xA0 else 0x80, if b = 0xED then 0x9F else 0xBF,
      b - 0xE0⟩ := by
  simp only [start]
  rw [if_neg (by omega), if_neg (by omega), if_neg (by omega)]
  by_cases hleast : b = 0xE0
  · subst hleast
    rfl
  · by_cases hsurrogate : b = 0xED
    · subst hsurrogate
      rfl
    · simp only [if_neg hleast, if_neg hsurrogate, if_pos hhigh]

/-- After `F0` an overlong form and after `F4` a code above the last one could follow. -/
theorem start_four {b : Nat} (hlow : 0xF0 ≤ b) (hhigh : b < 0xF5) :
    start b = .begun ⟨3, if b = 0xF0 then 0x90 else 0x80, if b = 0xF4 then 0x8F else 0xBF,
      b - 0xF0⟩ := by
  simp only [start]
  rw [if_neg (by omega), if_neg (by omega), if_neg (by omega), if_neg (by omega),
    if_neg (by omega), if_neg (by omega)]
  by_cases hleast : b = 0xF0
  · subst hleast
    rfl
  · by_cases hlast : b = 0xF4
    · subst hlast
      rfl
    · simp only [if_neg hleast, if_neg hlast]
      rw [if_pos (by omega)]

theorem start_damaged {b : Nat} (h : 0x80 ≤ b ∧ b < 0xC2 ∨ 0xF5 ≤ b) :
    start b = .damaged := by
  simp only [start]
  rw [if_neg (by omega)]
  by_cases hlow : b < 0xC2
  · rw [if_pos hlow]
  · rw [if_neg hlow, if_neg (by omega), if_neg (by omega), if_neg (by omega),
      if_neg (by omega), if_neg (by omega), if_neg (by omega), if_neg (by omega)]

/-! ### The bytes of one character -/

/-- The later bytes of a character that has been begun, with the code they lead to. -/
inductive Completes : Pending → Bytes → Nat → Prop where
  | last {p : Pending} {b : UInt8} :
      p.owed ≤ 1 → p.low ≤ b.toNat → b.toNat ≤ p.high →
      Completes p [b] (p.code * 64 + (b.toNat - 0x80))
  | more {p : Pending} {b : UInt8} {bytes : Bytes} {code : Nat} :
      1 < p.owed → p.low ≤ b.toNat → b.toNat ≤ p.high →
      Completes ⟨p.owed - 1, 0x80, 0xBF, p.code * 64 + (b.toNat - 0x80)⟩ bytes code →
      Completes p (b :: bytes) code

/-- The bytes of a character, with its code. -/
inductive Spells : Bytes → Nat → Prop where
  | single {b : UInt8} : start b.toNat = .single → Spells [b] b.toNat
  | begun {b : UInt8} {p : Pending} {bytes : Bytes} {code : Nat} :
      start b.toNat = .begun p → Completes p bytes code → Spells (b :: bytes) code

theorem Completes.foldl_push {p : Pending} {bytes : Bytes} {code : Nat}
    (h : Completes p bytes code) (items : List (Option Char)) :
    bytes.foldl Reader.push ⟨items, some p⟩ = ⟨some (Char.ofNat code) :: items, none⟩ := by
  induction h with
  | last howed hlow hhigh =>
    simp only [List.foldl_cons, List.foldl_nil, Reader.push, and_self, hlow, hhigh, howed,
      if_true]
  | more howed hlow hhigh _ ih =>
    simp only [List.foldl_cons, Reader.push, and_self, hlow, hhigh, Nat.not_le.2 howed, if_true,
      if_false]
    exact ih

/-- The reader yields the character whose bytes it is given. -/
theorem Spells.foldl_push {bytes : Bytes} {code : Nat} (h : Spells bytes code)
    (items : List (Option Char)) :
    bytes.foldl Reader.push ⟨items, none⟩ = ⟨some (Char.ofNat code) :: items, none⟩ := by
  cases h with
  | single hstart =>
    simp only [List.foldl_cons, List.foldl_nil, Reader.push, Reader.begin, hstart]
  | begun hstart hcompletes =>
    simp only [List.foldl_cons, Reader.push, Reader.begin, hstart]
    exact hcompletes.foldl_push items

/-! ### Data without damage -/

theorem suffix_items_begin (items : List (Option Char)) (b : UInt8) :
    items <:+ (Reader.begin items b).items := by
  unfold Reader.begin
  cases start b.toNat with
  | single => exact List.suffix_cons _ _
  | begun pending => exact List.suffix_rfl
  | damaged => exact List.suffix_cons _ _

theorem suffix_items_push (reader : Reader) (b : UInt8) :
    reader.items <:+ (reader.push b).items := by
  unfold Reader.push
  cases reader.pending with
  | none => exact suffix_items_begin _ _
  | some p =>
    simp only
    split
    · split
      · exact List.suffix_cons _ _
      · exact List.suffix_rfl
    · exact (List.suffix_cons _ _).trans (suffix_items_begin _ _)

/-- What has been read stays read. -/
theorem suffix_items_foldl (data : Bytes) (reader : Reader) :
    reader.items <:+ (data.foldl Reader.push reader).items := by
  induction data generalizing reader with
  | nil => exact List.suffix_rfl
  | cons b data ih => exact (suffix_items_push reader b).trans (ih _)

theorem mem_finish_of_mem_items {reader : Reader} {item : Option Char}
    (h : item ∈ reader.items) : item ∈ reader.finish := by
  unfold Reader.finish
  rw [List.mem_reverse]
  split
  · exact List.mem_cons_of_mem _ h
  · exact h

/-- Damage that has been read is there in the end. -/
theorem none_mem_finish_of_damaged {reader : Reader} (h : none ∈ reader.items)
    (data : Bytes) : none ∈ (data.foldl Reader.push reader).finish :=
  mem_finish_of_mem_items ((suffix_items_foldl data reader).subset h)

/-- A begun character without damage behind it is completed. -/
theorem exists_completes {p : Pending} {items : List (Option Char)} {data : Bytes}
    (h : none ∉ (data.foldl Reader.push ⟨items, some p⟩).finish) :
    ∃ bytes rest code, data = bytes ++ rest ∧ Completes p bytes code := by
  induction data generalizing p with
  | nil => simp [Reader.finish] at h
  | cons b data ih =>
    rw [List.foldl_cons] at h
    by_cases hrange : p.low ≤ b.toNat ∧ b.toNat ≤ p.high
    · by_cases howed : p.owed ≤ 1
      · exact ⟨[b], data, _, rfl, .last howed hrange.1 hrange.2⟩
      · simp only [Reader.push, hrange, and_self, howed, if_true, if_false] at h
        obtain ⟨bytes, rest, code, rfl, hcompletes⟩ := ih h
        exact ⟨b :: bytes, rest, code, rfl,
          .more (Nat.not_le.1 howed) hrange.1 hrange.2 hcompletes⟩
    · simp only [Reader.push, hrange, if_false] at h
      -- the byte ends the begun character as damaged, whatever it begins itself
      refine absurd (none_mem_finish_of_damaged ?_ data) h
      exact (suffix_items_begin _ b).subset List.mem_cons_self

/-- Data without damage begins with the bytes of a character. -/
theorem exists_spells {items : List (Option Char)} {b : UInt8} {data : Bytes}
    (h : none ∉ ((b :: data).foldl Reader.push ⟨items, none⟩).finish) :
    ∃ bytes rest code, b :: data = bytes ++ rest ∧ Spells bytes code := by
  rw [List.foldl_cons] at h
  simp only [Reader.push, Reader.begin] at h
  cases hstart : start b.toNat with
  | single => exact ⟨[b], data, _, rfl, .single hstart⟩
  | begun p =>
    simp only [hstart] at h
    obtain ⟨bytes, rest, code, rfl, hcompletes⟩ := exists_completes h
    exact ⟨b :: bytes, rest, code, rfl, .begun hstart hcompletes⟩
  | damaged =>
    simp only [hstart] at h
    exact absurd (none_mem_finish_of_damaged List.mem_cons_self data) h

/-! ### The bytes that are written for a character -/

theorem completes_one_iff {low high bits code : Nat} {bytes : Bytes} :
    Completes ⟨1, low, high, bits⟩ bytes code ↔
      ∃ b : UInt8, bytes = [b] ∧ (low ≤ b.toNat ∧ b.toNat ≤ high) ∧
        code = bits * 64 + (b.toNat - 0x80) := by
  constructor
  · intro h
    cases h with
    | last _ hlow hhigh => exact ⟨_, rfl, ⟨hlow, hhigh⟩, rfl⟩
    | more howed _ _ _ => exact absurd howed (by simp)
  · rintro ⟨b, rfl, hrange, hcode⟩
    rw [hcode]
    exact .last (Nat.le_refl 1) hrange.1 hrange.2

theorem completes_succ_iff {owed low high bits code : Nat} {bytes : Bytes} :
    Completes ⟨owed + 2, low, high, bits⟩ bytes code ↔
      ∃ (b : UInt8) (rest : Bytes), bytes = b :: rest ∧ (low ≤ b.toNat ∧ b.toNat ≤ high) ∧
        Completes ⟨owed + 1, 0x80, 0xBF, bits * 64 + (b.toNat - 0x80)⟩ rest code := by
  constructor
  · intro h
    cases h with
    | last howed _ _ => exact absurd howed (Nat.not_le.2 (Nat.lt_add_left owed Nat.one_lt_two))
    | more _ hlow hhigh hrest => exact ⟨_, _, rfl, ⟨hlow, hhigh⟩, hrest⟩
  · rintro ⟨b, rest, rfl, hrange, hrest⟩
    exact .more (Nat.lt_add_left owed Nat.one_lt_two) hrange.1 hrange.2 hrest

theorem encodeChar_one {c : Char} (h : c.toNat < 0x80) :
    encodeChar c = [UInt8.ofNat c.toNat] := by
  have h1 : c.val.toNat ≤ 127 := Nat.le_of_lt_succ h
  simp only [encodeChar, String.utf8EncodeChar, if_pos h1]
  rfl

theorem encodeChar_two {c : Char} (hlow : 0x80 ≤ c.toNat) (hhigh : c.toNat < 0x800) :
    encodeChar c =
      [UInt8.ofNat (c.toNat / 64 % 32 + 192), UInt8.ofNat (c.toNat % 64 + 128)] := by
  have h1 : ¬ c.val.toNat ≤ 127 := Nat.not_le.2 hlow
  have h2 : c.val.toNat ≤ 2047 := Nat.le_of_lt_succ hhigh
  simp only [encodeChar, String.utf8EncodeChar, if_neg h1, if_pos h2]
  rfl

theorem encodeChar_three {c : Char} (hlow : 0x800 ≤ c.toNat) (hhigh : c.toNat < 0x10000) :
    encodeChar c =
      [UInt8.ofNat (c.toNat / 4096 % 16 + 224), UInt8.ofNat (c.toNat / 64 % 64 + 128),
        UInt8.ofNat (c.toNat % 64 + 128)] := by
  have h1 : ¬ c.val.toNat ≤ 127 := Nat.not_le.2 (Nat.le_trans (by decide) hlow)
  have h2 : ¬ c.val.toNat ≤ 2047 := Nat.not_le.2 hlow
  have h3 : c.val.toNat ≤ 65535 := Nat.le_of_lt_succ hhigh
  simp only [encodeChar, String.utf8EncodeChar, if_neg h1, if_neg h2, if_pos h3]
  rfl

theorem encodeChar_four {c : Char} (h : 0x10000 ≤ c.toNat) :
    encodeChar c =
      [UInt8.ofNat (c.toNat / 262144 % 8 + 240), UInt8.ofNat (c.toNat / 4096 % 64 + 128),
        UInt8.ofNat (c.toNat / 64 % 64 + 128), UInt8.ofNat (c.toNat % 64 + 128)] := by
  have h1 : ¬ c.val.toNat ≤ 127 := Nat.not_le.2 (Nat.le_trans (by decide) h)
  have h2 : ¬ c.val.toNat ≤ 2047 := Nat.not_le.2 (Nat.le_trans (by decide) h)
  have h3 : ¬ c.val.toNat ≤ 65535 := Nat.not_le.2 h
  simp only [encodeChar, String.utf8EncodeChar, if_neg h1, if_neg h2, if_neg h3]
  rfl

/-- A code point that is no surrogate. -/
theorem toNat_valid (c : Char) : c.toNat < 0xD800 ∨ 0xDFFF < c.toNat ∧ c.toNat < 0x110000 :=
  c.valid

theorem toNat_byte {n : Nat} (h : n < 256) : (UInt8.ofNat n).toNat = n := by
  rw [UInt8.toNat_ofNat']
  exact Nat.mod_eq_of_lt h

/-- **The bytes written for a character are bytes of that character.** -/
theorem spells_encodeChar (c : Char) : Spells (encodeChar c) c.toNat := by
  have hvalid := toNat_valid c
  generalize hn : c.toNat = n at hvalid
  by_cases h1 : n < 0x80
  · rw [encodeChar_one (by omega), hn]
    have hb : (UInt8.ofNat n).toNat = n := toNat_byte (by omega)
    have h := Spells.single (b := UInt8.ofNat n) (by rw [hb]; exact start_single h1)
    rwa [hb] at h
  by_cases h2 : n < 0x800
  · rw [encodeChar_two (by omega) (by omega), hn]
    have ha : (UInt8.ofNat (n / 64 % 32 + 192)).toNat = n / 64 + 192 := by
      rw [toNat_byte (by omega)]
      omega
    have hb : (UInt8.ofNat (n % 64 + 128)).toNat = n % 64 + 128 := toNat_byte (by omega)
    refine .begun (start_two ?_ ?_) (completes_one_iff.2 ⟨_, rfl, ⟨?_, ?_⟩, ?_⟩)
    all_goals simp only [ha, hb]; omega
  by_cases h3 : n < 0x10000
  · rw [encodeChar_three (by omega) (by omega), hn]
    have ha : (UInt8.ofNat (n / 4096 % 16 + 224)).toNat = n / 4096 + 224 := by
      rw [toNat_byte (by omega)]
      omega
    have hb : (UInt8.ofNat (n / 64 % 64 + 128)).toNat = n / 64 % 64 + 128 :=
      toNat_byte (by omega)
    have hc : (UInt8.ofNat (n % 64 + 128)).toNat = n % 64 + 128 := toNat_byte (by omega)
    refine .begun (start_three ?_ ?_) (completes_succ_iff.2 ⟨_, _, rfl, ⟨?_, ?_⟩,
      completes_one_iff.2 ⟨_, rfl, ⟨?_, ?_⟩, ?_⟩⟩)
    all_goals simp only [ha, hb, hc]
    -- the second byte has its own range after the first bytes E0 and ED
    case refine_3 => split <;> omega
    case refine_4 => split <;> omega
    all_goals omega
  · rw [encodeChar_four (by omega), hn]
    have ha : (UInt8.ofNat (n / 262144 % 8 + 240)).toNat = n / 262144 + 240 := by
      rw [toNat_byte (by omega)]
      omega
    have hb : (UInt8.ofNat (n / 4096 % 64 + 128)).toNat = n / 4096 % 64 + 128 :=
      toNat_byte (by omega)
    have hc : (UInt8.ofNat (n / 64 % 64 + 128)).toNat = n / 64 % 64 + 128 :=
      toNat_byte (by omega)
    have hd : (UInt8.ofNat (n % 64 + 128)).toNat = n % 64 + 128 := toNat_byte (by omega)
    refine .begun (start_four ?_ ?_) (completes_succ_iff.2 ⟨_, _, rfl, ⟨?_, ?_⟩,
      completes_succ_iff.2 ⟨_, _, rfl, ⟨?_, ?_⟩,
        completes_one_iff.2 ⟨_, rfl, ⟨?_, ?_⟩, ?_⟩⟩⟩)
    all_goals simp only [ha, hb, hc, hd]
    -- the second byte has its own range after the first bytes F0 and F4
    case refine_3 => split <;> omega
    case refine_4 => split <;> omega
    all_goals omega

theorem spells_cons_iff {b : UInt8} {rest : Bytes} {code : Nat} :
    Spells (b :: rest) code ↔
      start b.toNat = .single ∧ rest = [] ∧ code = b.toNat ∨
      ∃ p, start b.toNat = .begun p ∧ Completes p rest code := by
  constructor
  · intro h
    cases h with
    | single hstart => exact .inl ⟨hstart, rfl, rfl⟩
    | begun hstart hrest => exact .inr ⟨_, hstart, hrest⟩
  · rintro (⟨hstart, rfl, rfl⟩ | ⟨p, hstart, hrest⟩)
    · exact .single hstart
    · exact .begun hstart hrest

theorem toNat_ofNat_valid {n : Nat} (h : n < 0xD800 ∨ 0xDFFF < n ∧ n < 0x110000) :
    (Char.ofNat n).toNat = n := by
  unfold Char.ofNat
  rw [dif_pos h]
  rfl

theorem ofNat_byte {n : Nat} {b : UInt8} (h : n = b.toNat) : UInt8.ofNat n = b := by
  subst h
  exact UInt8.ofNat_toNat

/-- **No other bytes spell a character.** -/
theorem Spells.eq_encodeChar {bytes : Bytes} {code : Nat} (h : Spells bytes code) :
    bytes = encodeChar (Char.ofNat code) := by
  cases bytes with
  | nil => cases h
  | cons a rest =>
    have ha := a.toNat_lt
    rw [spells_cons_iff] at h
    have hrange : a.toNat < 0x80 ∨ 0xC2 ≤ a.toNat ∧ a.toNat < 0xE0 ∨
        0xE0 ≤ a.toNat ∧ a.toNat < 0xF0 ∨ 0xF0 ≤ a.toNat ∧ a.toNat < 0xF5 ∨
        (0x80 ≤ a.toNat ∧ a.toNat < 0xC2 ∨ 0xF5 ≤ a.toNat) := by omega
    rcases hrange with hone | ⟨hlow, hhigh⟩ | ⟨hlow, hhigh⟩ | ⟨hlow, hhigh⟩ | hdamaged
    · simp only [start_single hone, reduceCtorEq, false_and, exists_false, or_false,
        true_and] at h
      obtain ⟨rfl, rfl⟩ := h
      have htoNat := toNat_ofNat_valid (n := a.toNat) (by omega)
      rw [encodeChar_one (by omega), htoNat, ofNat_byte rfl]
    · simp only [start_two hlow hhigh, reduceCtorEq, false_and, false_or, Start.begun.injEq,
        exists_eq_left', completes_one_iff] at h
      obtain ⟨b, rfl, hb, hcode⟩ := h
      have htoNat := toNat_ofNat_valid (n := code) (by omega)
      rw [encodeChar_two (by omega) (by omega), htoNat, ofNat_byte (b := a) (by omega),
        ofNat_byte (b := b) (by omega)]
    · simp only [start_three hlow hhigh, reduceCtorEq, false_and, false_or, Start.begun.injEq,
        exists_eq_left', completes_succ_iff, Nat.zero_add, completes_one_iff] at h
      obtain ⟨b, _, rfl, ⟨hblow, hbhigh⟩, c, rfl, hc, hcode⟩ := h
      have hb : 0x80 ≤ b.toNat ∧ b.toNat ≤ 0xBF ∧ (a.toNat = 0xE0 → 0xA0 ≤ b.toNat) ∧
          (a.toNat = 0xED → b.toNat ≤ 0x9F) := by
        split at hblow <;> split at hbhigh <;> omega
      clear hblow hbhigh
      have htoNat := toNat_ofNat_valid (n := code) (by omega)
      rw [encodeChar_three (by omega) (by omega), htoNat, ofNat_byte (b := a) (by omega),
        ofNat_byte (b := b) (by omega), ofNat_byte (b := c) (by omega)]
    · simp only [start_four hlow hhigh, reduceCtorEq, false_and, false_or, Start.begun.injEq,
        exists_eq_left', completes_succ_iff, Nat.zero_add, completes_one_iff] at h
      obtain ⟨b, _, rfl, ⟨hblow, hbhigh⟩, c, _, rfl, hc, d, rfl, hd, hcode⟩ := h
      have hb : 0x80 ≤ b.toNat ∧ b.toNat ≤ 0xBF ∧ (a.toNat = 0xF0 → 0x90 ≤ b.toNat) ∧
          (a.toNat = 0xF4 → b.toNat ≤ 0x8F) := by
        split at hblow <;> split at hbhigh <;> omega
      clear hblow hbhigh
      have htoNat := toNat_ofNat_valid (n := code) (by omega)
      rw [encodeChar_four (by omega), htoNat, ofNat_byte (b := a) (by omega),
        ofNat_byte (b := b) (by omega), ofNat_byte (b := c) (by omega),
        ofNat_byte (b := d) (by omega)]
    · simp only [start_damaged hdamaged, reduceCtorEq, false_and, exists_false, or_false] at h

/-! ### Texts -/

theorem foldl_push_encode (text : Text) (items : List (Option Char)) :
    (encode text).foldl Reader.push ⟨items, none⟩ = ⟨(text.map some).reverse ++ items, none⟩ := by
  induction text generalizing items with
  | nil => rfl
  | cons c text ih =>
    have hchar := (spells_encodeChar c).foldl_push items
    rw [Char.ofNat_toNat] at hchar
    simp only [encode, List.flatMap_cons, List.foldl_append, hchar] at ih ⊢
    simp only [ih, List.map_cons, List.reverse_cons, List.append_assoc, List.cons_append,
      List.nil_append]

theorem items_encode (text : Text) : items (encode text) = text.map some := by
  simp only [items, Reader.init, foldl_push_encode, Reader.finish, List.append_nil,
    Option.isSome_none, Bool.false_eq_true, if_false, List.reverse_reverse]

/-- Data without damage is an encoded text. -/
theorem exists_eq_encode {items : List (Option Char)} (data : Bytes)
    (h : none ∉ (data.foldl Reader.push ⟨items, none⟩).finish) : ∃ text, data = encode text := by
  induction hlength : data.length using Nat.strongRecOn generalizing data items with
  | _ length ih =>
    cases data with
    | nil => exact ⟨[], rfl⟩
    | cons b data =>
      obtain ⟨bytes, rest, code, hsplit, hspells⟩ := exists_spells h
      rw [hsplit, List.foldl_append, hspells.foldl_push] at h
      have hpos : 0 < bytes.length := by
        cases hspells with
        | single _ => exact Nat.one_pos
        | begun _ _ => exact Nat.succ_pos _
      have hshorter : rest.length < length := by
        rw [← hlength, hsplit, List.length_append]
        exact Nat.lt_add_of_pos_left hpos
      obtain ⟨text, rfl⟩ := ih _ hshorter rest h rfl
      exact ⟨Char.ofNat code :: text, by rw [hsplit, hspells.eq_encodeChar]; rfl⟩

theorem mapM_id_eq_some_iff {items : List (Option Char)} {text : Text} :
    items.mapM id = some text ↔ items = text.map some := by
  induction items generalizing text with
  | nil => cases text <;> simp
  | cons item items ih =>
    cases item with
    | none => cases text <;> simp
    | some c =>
      simp only [List.mapM_cons, id_eq, Option.bind_eq_bind, Option.bind_some, Option.pure_def,
        Option.bind_eq_some_iff, ih, Option.some.injEq]
      cases text with
      | nil => simp
      | cons d text => simp [and_comm]

/-- **Data decodes to a text exactly if it is that text encoded.** -/
theorem decode?_eq_some_iff {data : Bytes} {text : Text} :
    decode? data = some text ↔ data = encode text := by
  unfold decode?
  rw [mapM_id_eq_some_iff]
  constructor
  · intro h
    have hundamaged : none ∉ items data := by simp [h]
    obtain ⟨other, rfl⟩ := exists_eq_encode data hundamaged
    rw [items_encode] at h
    rw [List.map_injective_iff.2 (Option.some_injective _) h]
  · rintro rfl
    exact items_encode text

theorem decode?_eq_none_iff {data : Bytes} :
    decode? data = none ↔ ∀ text, data ≠ encode text := by
  rw [Option.eq_none_iff_forall_ne_some]
  exact forall_congr' fun text => not_congr decode?_eq_some_iff

theorem decode?_encode (text : Text) : decode? (encode text) = some text :=
  decode?_eq_some_iff.2 rfl

theorem encode_inj {text other : Text} : encode text = encode other ↔ text = other := by
  constructor
  · intro h
    have hdecode := decode?_encode text
    rw [h, decode?_encode] at hdecode
    exact (Option.some.inj hdecode).symm
  · rintro rfl
    rfl

theorem encode_append (text other : Text) :
    encode (text ++ other) = encode text ++ encode other := List.flatMap_append

/-- **An encoded text begins with another one exactly if the texts do.** -/
theorem encode_prefix_iff {text other : Text} : encode text <+: encode other ↔ text <+: other := by
  constructor
  · rintro ⟨rest, hrest⟩
    have hread := foldl_push_encode other []
    rw [← hrest, List.foldl_append, foldl_push_encode] at hread
    have hsuffix := suffix_items_foldl rest ⟨(text.map some).reverse ++ [], none⟩
    rw [hread] at hsuffix
    simp only [List.append_nil, List.reverse_suffix] at hsuffix
    obtain ⟨front, hfront, hmap⟩ := List.prefix_map_iff.1 hsuffix
    rwa [List.map_injective_iff.2 (Option.some_injective _) hmap]
  · rintro ⟨rest, rfl⟩
    exact ⟨encode rest, (encode_append text rest).symm⟩

theorem length_encode (text : Text) : (encode text).length = text.byteCount := by
  induction text with
  | nil => rfl
  | cons c text ih =>
    simp only [encode, List.flatMap_cons, List.length_append] at ih ⊢
    rw [ih, encodeChar, String.length_utf8EncodeChar]
    rfl

/-- **The first bytes of an encoded text are a text exactly if the cut falls between two of
    its characters.** -/
theorem take_encode_eq_iff {text front : Text} {count : Nat} :
    (encode text).take count = encode front ↔
      front <+: text ∧ front.byteCount = min count text.byteCount := by
  rw [← encode_prefix_iff, ← length_encode, ← length_encode]
  constructor
  · intro h
    rw [← h]
    exact ⟨List.take_prefix count _, List.length_take⟩
  · rintro ⟨hfront, hlength⟩
    rw [List.prefix_iff_eq_take.1 hfront, hlength, ← List.take_eq_take_min]

end VclReview.Utf8
