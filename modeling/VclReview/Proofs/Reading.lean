/-
  VclReview/Proofs/Reading.lean
  =============================
  **What reading a file as text comes to.**  Up to a limit of zero or more the two reads
  add up to the first bytes of the file, and everything else is asked of these bytes alone
  (`readText_of_nonneg`): whether they look binary, whether they are UTF-8, and which text
  the detected encoding gives.  Below zero the second length falls below minus one as soon
  as the first read yields something.

  `AnswersLimit` is the contract of the reading, and `readText_answersLimit_iff` says
  when it is kept: the limit has to be a length that can be asked for and the detected
  name one that can be looked up (`InReach`).  A text that the limit does not cut comes back
  whatever the detector says (`readText_encode_iff`), and one that it cuts is read exactly
  if the cut falls between two characters (`readText_cut_iff`).  All this holds for every
  detector, every collection of encodings and every memory, and of texts with surrogates
  as well, which only a detected encoding can give.
-/
import VclReview.Bytes.Charset
import VclReview.Proofs.Encoding

namespace VclReview.Bytes

variable {α : Type} {reader : TextReader α} {limit : Int} {data start : Bytes}

/-! ### Lengths that can be asked for -/

theorem length_bounds :
    maxDataLength = 9223372036854775774 ∧ maxLength = 9223372036854775807 ∧
      usualLimit = 20000000 := ⟨rfl, rfl, rfl⟩

/-- Data can have so many bytes, and there is memory for them. -/
def Affordable (reader : TextReader α) (count : Int) : Prop :=
  count ≤ maxDataLength ∧ reader.affords count = true

instance (reader : TextReader α) (count : Int) : Decidable (Affordable reader count) :=
  inferInstanceAs (Decidable (_ ∧ _))

theorem affordable_of_le_usualLimit (reader : TextReader α) {count : Int}
    (h : count ≤ usualLimit) : Affordable reader count := by
  obtain ⟨hdata, -, husual⟩ := length_bounds
  exact ⟨by omega, reader.affords_usual count h⟩

theorem lengthError?_eq_none_iff {count : Int} :
    lengthError? reader count = none ↔ -1 ≤ count ∧ Affordable reader count := by
  obtain ⟨hdata, hmax, -⟩ := length_bounds
  unfold lengthError? Affordable
  constructor
  · intro h
    split at h
    · cases h
    split at h
    · cases h
    split at h
    · cases h
    split at h
    · cases h
    next hmemory => exact ⟨by omega, by omega, by simpa using hmemory⟩
  · rintro ⟨hlow, hhigh, hmemory⟩
    rw [if_neg (by omega), if_neg (by omega), if_neg (by omega), hmemory]
    rfl

theorem lengthError?_of_lt {count : Int} (h : count < -1) :
    lengthError? reader count =
      some (if -maxLength - 1 ≤ count then .negativeLength else .unfitLength) := by
  obtain ⟨-, hmax, -⟩ := length_bounds
  unfold lengthError?
  by_cases hfits : -maxLength - 1 ≤ count
  · rw [if_neg (by omega), if_pos h, if_pos hfits]
  · rw [if_pos (by omega), if_neg hfits]

theorem lengthError?_ne_negativeLength {count : Int} (h : 0 ≤ count) :
    lengthError? reader count ≠ some .negativeLength := by
  unfold lengthError?
  split
  · simp
  rw [if_neg (by omega)]
  split
  · simp
  split
  · simp
  · simp

theorem read_of_nonneg {count : Int} (h : 0 ≤ count) (data : Bytes) :
    read reader count data =
      match lengthError? reader count with
      | some error => .error error
      | none => .ok (data.splitAt count.toNat) := by
  have hall : count ≠ -1 := by omega
  unfold read
  cases lengthError? reader count with
  | some error => rfl
  | none => exact if_neg hall

theorem read_of_lt {count : Int} (h : count < -1) (data : Bytes) :
    read reader count data =
      .error (if -maxLength - 1 ≤ count then .negativeLength else .unfitLength) := by
  unfold read
  rw [lengthError?_of_lt h]

theorem read_all (data : Bytes) : read reader (-1) data = .ok (data, []) := by
  have hfree : lengthError? reader (-1) = none :=
    lengthError?_eq_none_iff.2 ⟨by decide, affordable_of_le_usualLimit reader (by decide)⟩
  unfold read
  rw [hfree]
  rfl

/-! ### The detected encoding -/

/-- A detected name that calls for a second attempt: it says more than that the data may be
    plain UTF-8. -/
structure SaysMore (name : Text) : Prop where
  given : name ≠ []
  utf8 : name.map Char.toLower ≠ "utf-8".toList
  ascii : name.map Char.toLower ≠ "ascii".toList

theorem isCovered_eq_false_iff {name : Text} : isCovered name = false ↔ SaysMore name := by
  simp only [isCovered, Bool.or_eq_false_iff, decide_eq_false_iff_not]
  exact ⟨fun ⟨⟨hgiven, hutf8⟩, hascii⟩ => ⟨hgiven, hutf8, hascii⟩,
    fun h => ⟨⟨h.given, h.utf8⟩, h.ascii⟩⟩

/-- The second attempt comes to nothing but an error: the detected name cannot be looked up,
    or its encoding fails in its own way. -/
structure FailsOn (reader : TextReader α) (data : Bytes) (name : Text) : Prop where
  detected : reader.detect data = some name
  more : SaysMore name
  fails : '\x00' ∈ name ∨ ∃ message, reader.decode name data = .error message

/-- The second attempt gives the text of the detected encoding, unless it fails. -/
theorem decodeDetected_eq_ok (h : ∀ name, ¬ FailsOn reader data name) :
    ∃ text?, decodeDetected reader data = .ok text? ∧
      ∀ text, text? = some text ↔
        ∃ name, reader.detect data = some name ∧ SaysMore name ∧
          reader.decode name data = .ok (some text) := by
  unfold decodeDetected
  cases hdetected : reader.detect data with
  | none => exact ⟨none, rfl, by simp⟩
  | some name =>
    cases hcovered : isCovered name with
    | true =>
      have hmore : ¬ SaysMore name := by
        rw [← isCovered_eq_false_iff, hcovered]
        simp
      refine ⟨none, by simp [hcovered], fun text => iff_of_false (by simp) ?_⟩
      rintro ⟨other, hother, hsays, -⟩
      cases hother
      exact hmore hsays
    | false =>
      have hmore := isCovered_eq_false_iff.1 hcovered
      have hnul : '\x00' ∉ name := fun hnul => h name ⟨hdetected, hmore, Or.inl hnul⟩
      cases hdecoded : reader.decode name data with
      | error message => exact absurd ⟨hdetected, hmore, Or.inr ⟨message, hdecoded⟩⟩ (h name)
      | ok text? =>
        refine ⟨text?, by simp [hcovered, hnul, hdecoded, Except.mapError], fun text => ?_⟩
        constructor
        · rintro rfl
          exact ⟨name, rfl, hmore, hdecoded⟩
        · rintro ⟨other, hother, -, htext⟩
          cases hother
          exact Except.ok.inj (hdecoded.symm.trans htext)

/-! ### The bytes up to the limit -/

variable [Letter α]

/-- What is made of the first bytes of a file, up to a limit of zero or more.  The limit
    itself only decides whether the rest behind the head can be asked for. -/
def readStart (reader : TextReader α) (limit : Int) (start : Bytes) :
    Except ReadError (Option (List α)) :=
  if looksBinary (start.take 4096) then .ok none
  else
    match lengthError? reader (limit - (start.take 4096).length) with
    | some error => .error error
    | none => if looksBinary start then .ok none else decodeText reader start

/-- Two reads add up, also where the data ends within the first one. -/
theorem take_append_take_drop {first whole : Nat} (h : first ≤ whole) (data : Bytes) :
    data.take first ++ (data.drop first).take (whole - (data.take first).length) =
      data.take whole := by
  by_cases hend : data.length ≤ first
  · rw [List.take_of_length_le hend, List.drop_of_length_le hend, List.take_nil,
      List.append_nil, List.take_of_length_le (Nat.le_trans hend h)]
  · rw [List.length_take_of_le (Nat.le_of_not_le hend), ← List.take_add,
      Nat.add_sub_cancel' h]

/-- **Reading up to a limit depends on the bytes up to there alone.** -/
theorem readText_of_nonneg (h : 0 ≤ limit) (reader : TextReader α) (data : Bytes) :
    readText reader limit data = readStart reader limit (data.take limit.toNat) := by
  have hheadLength : headLength = 4096 := rfl
  have hhead : read reader (min headLength limit) data =
      .ok (data.splitAt (min 4096 limit.toNat)) := by
    have hfree : lengthError? reader (min headLength limit) = none := by
      obtain ⟨-, -, husual⟩ := length_bounds
      exact lengthError?_eq_none_iff.2
        ⟨by omega, affordable_of_le_usualLimit reader (by omega)⟩
    have htoNat : (min headLength limit).toNat = min 4096 limit.toNat := by omega
    rw [read_of_nonneg (by omega), hfree, htoNat]
  have htake : (data.take limit.toNat).take 4096 = data.take (min 4096 limit.toNat) := by
    rw [List.take_take]
  have hwhole := take_append_take_drop (Nat.min_le_right 4096 limit.toNat) data
  unfold readText readStart
  rw [hhead, List.splitAt_eq, htake]
  generalize hsize : data.take (min 4096 limit.toNat) = head at hwhole
  have hshort : (head.length : Int) ≤ limit := by
    have hle := List.length_take_le (min 4096 limit.toNat) data
    rw [hsize] at hle
    omega
  have hcount : (limit - head.length).toNat = limit.toNat - head.length := by omega
  simp only [bind, Except.bind, pure, Except.pure]
  split
  · rfl
  rw [read_of_nonneg (by omega), hcount]
  cases lengthError? reader (limit - head.length) with
  | some error => rfl
  | none => simp only [List.splitAt_eq, hwhole]

/-! ### Decoding -/

/-- The text of data that is not binary: the text whose UTF-8 it is, or else the one that
    the detected encoding gives, if that says more. -/
structure IsDecoding (reader : TextReader α) (data : Bytes) (text? : Option (List α)) :
    Prop where
  utf8 : ∀ text, data = Utf8.encode text → text? = some (Letter.spell text)
  other : (∀ text, data ≠ Utf8.encode text) →
    ∀ text, text? = some text ↔
      ∃ name, reader.detect data = some name ∧ SaysMore name ∧
        reader.decode name data = .ok (some text)

/-- The detected encoding and the data determine the text. -/
theorem IsDecoding.unique {a b : Option (List α)}
    (ha : IsDecoding reader data a) (hb : IsDecoding reader data b) : a = b := by
  by_cases hutf8 : ∃ text, data = Utf8.encode text
  · obtain ⟨text, htext⟩ := hutf8
    rw [ha.utf8 text htext, hb.utf8 text htext]
  · have hdamaged : ∀ text, data ≠ Utf8.encode text := fun text htext => hutf8 ⟨text, htext⟩
    exact Option.ext fun text => (ha.other hdamaged text).trans (hb.other hdamaged text).symm

/-- The data is not UTF-8, and the second attempt fails. -/
def Unspeakable (reader : TextReader α) (data : Bytes) : Prop :=
  (∀ text, data ≠ Utf8.encode text) ∧ ∃ name, FailsOn reader data name

theorem decodeText_of_unspeakable (h : Unspeakable reader data) :
    ∃ error, decodeText reader data = .error error ∧ error ≠ .negativeLength := by
  obtain ⟨hdamaged, name, hname, hmore, hfails⟩ := h
  have hcovered := isCovered_eq_false_iff.2 hmore
  unfold decodeText decodeDetected
  rw [Utf8.decode?_eq_none_iff.2 hdamaged, hname]
  simp only [hcovered, Bool.false_eq_true, if_false]
  split
  · exact ⟨.nulInCharset, rfl, by simp⟩
  next hnul =>
    obtain ⟨message, hmessage⟩ := hfails.resolve_left (by simpa using hnul)
    exact ⟨.encoding message, by rw [hmessage]; rfl, by simp⟩

theorem decodeText_of_undamaged {text : Text} (h : data = Utf8.encode text) :
    decodeText reader data = .ok (some (Letter.spell text)) := by
  unfold decodeText
  rw [Utf8.decode?_eq_some_iff.2 h]

/-- Damaged data has no text if the detector keeps silent. -/
theorem decodeText_of_silent (hdamaged : ∀ text, data ≠ Utf8.encode text)
    (hdetect : reader.detect data = none) : decodeText reader data = .ok none := by
  unfold decodeText decodeDetected
  rw [Utf8.decode?_eq_none_iff.2 hdamaged, hdetect]

theorem decodeText_isDecoding (h : ¬ Unspeakable reader data) :
    ∃ text?, decodeText reader data = .ok text? ∧ IsDecoding reader data text? := by
  by_cases hutf8 : ∃ text, data = Utf8.encode text
  · obtain ⟨text, htext⟩ := hutf8
    refine ⟨some (Letter.spell text), decodeText_of_undamaged htext, ?_, ?_⟩
    · intro other hother
      rw [Utf8.encode_inj.1 (htext.symm.trans hother)]
    · intro hdamaged
      exact absurd htext (hdamaged text)
  · have hdamaged : ∀ text, data ≠ Utf8.encode text := fun text htext => hutf8 ⟨text, htext⟩
    obtain ⟨text?, hdetected, hiff⟩ :=
      decodeDetected_eq_ok fun name hname => h ⟨hdamaged, name, hname⟩
    refine ⟨text?, ?_, ?_, fun _ => hiff⟩
    · unfold decodeText
      rw [Utf8.decode?_eq_none_iff.2 hdamaged]
      exact hdetected
    · intro text htext
      exact absurd htext (hdamaged text)

/-! ### Lengths below zero -/

theorem readText_all_of_binary (h : looksBinary data = true) :
    readText reader (-1) data = .ok none := by
  have hall : min headLength (-1) = -1 := rfl
  unfold readText
  rw [hall, read_all]
  simp only [bind, Except.bind, pure, Except.pure, h, if_true]

theorem readText_all_nil : readText reader (-1) [] = .ok (some []) := by
  have hall : min headLength (-1) = -1 := rfl
  have hrest : -1 - (([] : Bytes).length : Int) = -1 := rfl
  have hplain : looksBinary [] = false := rfl
  have htext : decodeText reader [] = .ok (some []) := by
    have hspelled : decodeText reader [] = .ok (some (Letter.spell [])) :=
      decodeText_of_undamaged rfl
    rwa [Letter.spell_nil] at hspelled
  unfold readText
  rw [hall, read_all]
  simp only [bind, Except.bind, pure, Except.pure, hplain, Bool.false_eq_true, if_false,
    hrest, read_all, List.append_nil, htext]

theorem readText_all (hdata : data ≠ []) (h : looksBinary data = false) :
    readText reader (-1) data =
      .error (if data.length ≤ maxLength then .negativeLength else .unfitLength) := by
  have hall : min headLength (-1) = -1 := rfl
  have hpos := List.length_pos_iff.2 hdata
  have hiff : -maxLength - 1 ≤ -1 - (data.length : Int) ↔ (data.length : Int) ≤ maxLength := by
    omega
  unfold readText
  rw [hall, read_all]
  simp only [bind, Except.bind, pure, Except.pure, h, Bool.false_eq_true, if_false]
  rw [read_of_lt (by omega)]
  simp only [hiff]

theorem readText_of_lt (h : limit < -1) :
    readText reader limit data =
      .error (if -maxLength - 1 ≤ limit then .negativeLength else .unfitLength) := by
  have hhead : min headLength limit = limit := by
    have hheadLength : headLength = 4096 := rfl
    omega
  unfold readText
  rw [hhead, read_of_lt h]
  rfl

/-! ### The contract -/

/-- The text of data: nothing if it looks binary, in its head or as a whole, and its
    decoding otherwise. -/
structure IsTextOf (reader : TextReader α) (data : Bytes) (text? : Option (List α)) : Prop where
  binary : looksBinary (data.take 4096) = true ∨ looksBinary data = true → text? = none
  decoded : looksBinary (data.take 4096) = false → looksBinary data = false →
    IsDecoding reader data text?

theorem IsTextOf.unique {a b : Option (List α)}
    (ha : IsTextOf reader data a) (hb : IsTextOf reader data b) : a = b := by
  cases hhead : looksBinary (data.take 4096) with
  | true => rw [ha.binary (.inl hhead), hb.binary (.inl hhead)]
  | false =>
    cases hwhole : looksBinary data with
    | true => rw [ha.binary (.inr hwhole), hb.binary (.inr hwhole)]
    | false => exact (ha.decoded hhead hwhole).unique (hb.decoded hhead hwhole)

/-- **The contract of reading with a limit.**  A limit of zero or more gives the text of
    the bytes up to there.  Without a limit only empty and binary data pass, as the second
    read is then asked for a negative length, and so is the first one below minus one. -/
structure AnswersLimit (reader : TextReader α) (limit : Int) (data : Bytes)
    (outcome : Except ReadError (Option (List α))) : Prop where
  upTo : 0 ≤ limit → ∃ text?, outcome = .ok text? ∧
    IsTextOf reader (data.take limit.toNat) text?
  empty : limit = -1 → data = [] → outcome = .ok (some [])
  binary : limit = -1 → looksBinary data = true → outcome = .ok none
  unlimited : limit = -1 → data ≠ [] → looksBinary data = false →
    outcome = .error .negativeLength
  negative : limit < -1 → outcome = .error .negativeLength

/-- The contract leaves no choice. -/
theorem AnswersLimit.unique {a b : Except ReadError (Option (List α))}
    (ha : AnswersLimit reader limit data a) (hb : AnswersLimit reader limit data b) : a = b := by
  by_cases hlimit : 0 ≤ limit
  · obtain ⟨texta, rfl, htexta⟩ := ha.upTo hlimit
    obtain ⟨textb, rfl, htextb⟩ := hb.upTo hlimit
    rw [htexta.unique htextb]
  by_cases hlt : limit < -1
  · rw [ha.negative hlt, hb.negative hlt]
  have hall : limit = -1 := by omega
  by_cases hdata : data = []
  · rw [ha.empty hall hdata, hb.empty hall hdata]
  cases hbinary : looksBinary data with
  | true => rw [ha.binary hall hbinary, hb.binary hall hbinary]
  | false => rw [ha.unlimited hall hdata hbinary, hb.unlimited hall hdata hbinary]

/-- The lengths that the reading asks for can be asked for, and the second attempt, where it
    is made, does not fail. -/
structure InReach (reader : TextReader α) (limit : Int) (data : Bytes) : Prop where
  fits : -maxLength - 1 ≤ limit
  countable : limit = -1 → looksBinary data = false → data.length ≤ maxLength
  affordable : 0 ≤ limit → looksBinary ((data.take limit.toNat).take 4096) = false →
    Affordable reader (limit - ((data.take limit.toNat).take 4096).length)
  speakable : 0 ≤ limit → looksBinary ((data.take limit.toNat).take 4096) = false →
    looksBinary (data.take limit.toNat) = false →
    ¬ Unspeakable reader (data.take limit.toNat)

theorem readStart_of_binary_head (h : looksBinary (start.take 4096) = true) :
    readStart reader limit start = .ok none := by
  unfold readStart
  rw [if_pos h]

theorem readStart_of_unaffordable (hlow : ((start.take 4096).length : Int) ≤ limit)
    (hhead : looksBinary (start.take 4096) = false)
    (h : ¬ Affordable reader (limit - (start.take 4096).length)) :
    ∃ error, readStart reader limit start = .error error ∧ error ≠ .negativeLength := by
  unfold readStart
  simp only [hhead, Bool.false_eq_true, if_false]
  cases herror : lengthError? reader (limit - (start.take 4096).length) with
  | none => exact absurd (lengthError?_eq_none_iff.1 herror).2 h
  | some error =>
    refine ⟨error, rfl, ?_⟩
    rintro rfl
    exact lengthError?_ne_negativeLength (by omega) herror

/-- The head of the first bytes is no longer than the limit. -/
theorem length_head_le (h : 0 ≤ limit) (data : Bytes) :
    (((data.take limit.toNat).take 4096).length : Int) ≤ limit := by
  have h1 := List.length_take_le 4096 (data.take limit.toNat)
  have h2 := List.length_take_le' 4096 (data.take limit.toNat)
  have h3 := List.length_take_le limit.toNat data
  omega

theorem readStart_of_affordable (hhead : looksBinary (start.take 4096) = false)
    (hlow : ((start.take 4096).length : Int) ≤ limit)
    (h : Affordable reader (limit - (start.take 4096).length)) :
    readStart reader limit start =
      if looksBinary start then .ok none else decodeText reader start := by
  unfold readStart
  rw [lengthError?_eq_none_iff.2 ⟨by omega, h⟩]
  simp only [hhead, Bool.false_eq_true, if_false]

/-- Nothing but the length of the rest and the detected encoding stands against an answer. -/
theorem readStart_isTextOf (hlow : ((start.take 4096).length : Int) ≤ limit)
    (haffordable : looksBinary (start.take 4096) = false →
      Affordable reader (limit - (start.take 4096).length))
    (hspeakable : looksBinary (start.take 4096) = false → looksBinary start = false →
      ¬ Unspeakable reader start) :
    ∃ text?, readStart reader limit start = .ok text? ∧ IsTextOf reader start text? := by
  cases hhead : looksBinary (start.take 4096) with
  | true =>
    refine ⟨none, readStart_of_binary_head hhead, fun _ => rfl, fun hplain => ?_⟩
    simp [hhead] at hplain
  | false =>
    rw [readStart_of_affordable hhead hlow (haffordable hhead)]
    cases hwhole : looksBinary start with
    | true =>
      refine ⟨none, rfl, fun _ => rfl, fun _ hplain => ?_⟩
      simp [hwhole] at hplain
    | false =>
      obtain ⟨text?, htext, hdecoding⟩ := decodeText_isDecoding (hspeakable hhead hwhole)
      refine ⟨text?, by simpa using htext, fun hbinary => ?_, fun _ _ => hdecoding⟩
      simp [hhead, hwhole] at hbinary

theorem readText_of_inReach (h : InReach reader limit data) :
    AnswersLimit reader limit data (readText reader limit data) where
  upTo hlimit := by
    rw [readText_of_nonneg hlimit]
    exact readStart_isTextOf (length_head_le hlimit data) (h.affordable hlimit)
      (h.speakable hlimit)
  empty hlimit hdata := by
    subst hlimit hdata
    exact readText_all_nil
  binary hlimit hbinary := by
    subst hlimit
    exact readText_all_of_binary hbinary
  unlimited hlimit hdata hplain := by
    subst hlimit
    rw [readText_all hdata hplain, if_pos (h.countable rfl hplain)]
  negative hlimit := by
    rw [readText_of_lt hlimit, if_pos h.fits]

/-- A head that does not look binary, with a rest that cannot be asked for or a second attempt
    that fails. -/
theorem readStart_of_hindered (hlow : ((start.take 4096).length : Int) ≤ limit)
    (hhead : looksBinary (start.take 4096) = false)
    (h : Affordable reader (limit - (start.take 4096).length) →
      looksBinary start = false ∧ Unspeakable reader start) :
    ∃ error, readStart reader limit start = .error error ∧ error ≠ .negativeLength := by
  by_cases haffordable : Affordable reader (limit - (start.take 4096).length)
  · obtain ⟨hwhole, hunspeakable⟩ := h haffordable
    rw [readStart_of_affordable hhead hlow haffordable, hwhole]
    exact decodeText_of_unspeakable hunspeakable
  · exact readStart_of_unaffordable hlow hhead haffordable

theorem readText_of_not_inReach (h : ¬ InReach reader limit data) :
    ∃ error, readText reader limit data = .error error ∧ error ≠ .negativeLength := by
  by_cases hfits : -maxLength - 1 ≤ limit
  case neg =>
    obtain ⟨-, hmax, -⟩ := length_bounds
    refine ⟨.unfitLength, ?_, by decide⟩
    rw [readText_of_lt (by omega), if_neg hfits]
  by_cases hlimit : 0 ≤ limit
  · rw [readText_of_nonneg hlimit]
    have hhead : looksBinary ((data.take limit.toNat).take 4096) = false := by
      rw [← Bool.not_eq_true]
      intro hbinary
      exact h ⟨hfits, by omega, by simp [hbinary], by simp [hbinary]⟩
    apply readStart_of_hindered (length_head_le hlimit data) hhead
    intro haffordable
    by_contra hspeakable
    exact h ⟨hfits, by omega, fun _ _ => haffordable,
      fun _ _ hwhole hunspeakable => hspeakable ⟨hwhole, hunspeakable⟩⟩
  · -- below zero only the number of bytes of the data can be out of reach
    have hlong : ¬ (limit = -1 → looksBinary data = false → data.length ≤ maxLength) :=
      fun hcountable => h ⟨hfits, hcountable, fun h0 => absurd h0 hlimit,
        fun h0 => absurd h0 hlimit⟩
    simp only [Classical.not_imp] at hlong
    obtain ⟨rfl, hplain, hlong⟩ := hlong
    have hdata : data ≠ [] := by
      rintro rfl
      exact hlong (by decide)
    refine ⟨.unfitLength, ?_, by decide⟩
    rw [readText_all hdata hplain, if_neg hlong]

theorem AnswersLimit.error_eq {outcome : Except ReadError (Option (List α))} {error : ReadError}
    (h : AnswersLimit reader limit data outcome) (herror : outcome = .error error) :
    error = .negativeLength := by
  by_cases hlimit : 0 ≤ limit
  · obtain ⟨text?, htext, -⟩ := h.upTo hlimit
    simp [htext] at herror
  by_cases hlt : limit < -1
  · simpa [h.negative hlt, eq_comm] using herror
  have hall : limit = -1 := by omega
  by_cases hdata : data = []
  · simp [h.empty hall hdata] at herror
  cases hbinary : looksBinary data with
  | true => simp [h.binary hall hbinary] at herror
  | false => simpa [h.unlimited hall hdata hbinary, eq_comm] using herror

/-- **The contract is kept exactly within reach.**  Otherwise reading goes wrong in another
    way than by a negative length.  In either case only the bytes up to the limit matter. -/
theorem readText_answersLimit_iff (reader : TextReader α) (limit : Int) (data : Bytes) :
    (AnswersLimit reader limit data (readText reader limit data) ↔
      InReach reader limit data) ∧
    (¬ InReach reader limit data →
      ∃ error, readText reader limit data = .error error ∧ error ≠ .negativeLength) ∧
    (0 ≤ limit → ∀ other : Bytes, other.take limit.toNat = data.take limit.toNat →
      readText reader limit other = readText reader limit data) ∧
    ReadError.negativeLength.message = "read length must be non-negative or -1" := by
  refine ⟨⟨fun h => ?_, readText_of_inReach⟩, readText_of_not_inReach, ?_, rfl⟩
  · by_contra hreach
    obtain ⟨error, herror, hne⟩ := readText_of_not_inReach hreach
    exact hne (h.error_eq herror)
  · intro hlimit other hstart
    rw [readText_of_nonneg hlimit, readText_of_nonneg hlimit, hstart]

/-- The greatest limit there is cannot be asked for, not even of a file of three bytes. -/
theorem readText_refuses_greatest_limit :
    ¬ AnswersLimit (.guessing none) maxLength (Utf8.encode "vcl")
      (readText (.guessing none) maxLength (Utf8.encode "vcl")) := by
  intro h
  have herror : readText (.guessing none) maxLength (Utf8.encode "vcl") =
      .error .excessiveLength := by
    have hstart : (Utf8.encode "vcl").take maxLength.toNat = Utf8.encode "vcl" :=
      List.take_of_length_le (by decide)
    have hhead : looksBinary ((Utf8.encode "vcl").take 4096) = false := by decide
    have hcount : lengthError? (.guessing none)
        (maxLength - ((Utf8.encode "vcl").take 4096).length) = some .excessiveLength := by decide
    rw [readText_of_nonneg (by decide), hstart]
    unfold readStart
    rw [hhead, hcount]
    rfl
  exact absurd (h.error_eq herror) (by decide)

/-! ### A text within the limit -/

/-- A text that the limit does not cut comes back, unless the rest behind its head cannot be
    asked for. -/
theorem readText_encode {text : Text} (hsize : (Utf8.encode text).length ≤ limit)
    (hhead : looksBinary ((Utf8.encode text).take 4096) = false)
    (hwhole : looksBinary (Utf8.encode text) = false) (reader : TextReader α) :
    readText reader limit (Utf8.encode text) =
      match lengthError? reader (limit - ((Utf8.encode text).take 4096).length) with
      | some error => .error error
      | none => .ok (some (Letter.spell text)) := by
  have hlimit : 0 ≤ limit := by omega
  have hall : (Utf8.encode text).take limit.toNat = Utf8.encode text :=
    List.take_of_length_le (by omega)
  have htext : decodeText reader (Utf8.encode text) = .ok (some (Letter.spell text)) :=
    decodeText_of_undamaged rfl
  rw [readText_of_nonneg hlimit, hall]
  unfold readStart
  simp only [hhead, hwhole, htext, Bool.false_eq_true, if_false]

/-- **A text within the limit is read back, and no detector can interfere**, nor any encoding
    that it names.  Only a rest that cannot be asked for keeps the text away, and then there is
    no answer at all. -/
theorem readText_encode_iff {text : Text} (hsize : (Utf8.encode text).length ≤ limit)
    (hhead : looksBinary ((Utf8.encode text).take 4096) = false)
    (hwhole : looksBinary (Utf8.encode text) = false) (reader : TextReader α) :
    (readText reader limit (Utf8.encode text) = .ok (some (Letter.spell text)) ↔
      Affordable reader (limit - ((Utf8.encode text).take 4096).length)) ∧
    (∀ text?, readText reader limit (Utf8.encode text) = .ok text? →
      text? = some (Letter.spell text)) ∧
    ∀ detect decode, readText { reader with detect, decode } limit (Utf8.encode text) =
      readText reader limit (Utf8.encode text) := by
  have hread (reader : TextReader α) := readText_encode hsize hhead hwhole reader
  have hshort : ((Utf8.encode text).take 4096).length ≤ (Utf8.encode text).length :=
    List.length_take_le' 4096 _
  have hasked : lengthError? reader (limit - ((Utf8.encode text).take 4096).length) = none ↔
      Affordable reader (limit - ((Utf8.encode text).take 4096).length) := by
    rw [lengthError?_eq_none_iff]
    exact and_iff_right (by omega)
  refine ⟨?_, ?_, fun detect decode => (hread _).trans (hread reader).symm⟩
  · rw [hread, ← hasked]
    cases lengthError? reader (limit - ((Utf8.encode text).take 4096).length) with
    | none => simp
    | some error => simp
  · intro text? htext
    rw [hread] at htext
    split at htext
    · cases htext
    · exact (Except.ok.inj htext).symm

/-- A text whose head ends within a character, with a detector that takes it for UTF-16. -/
theorem readText_encode_across_head :
    let text : Text := List.replicate 4095 'a' ++ ['é']
    (Utf8.encode text).length = 4097 ∧
      readText (.guessing (some "UTF-16")) usualLimit (Utf8.encode text) = .ok (some text) := by
  intro text
  have hsize : (Utf8.encode text).length = 4097 := by decide +kernel
  have hlimit : ((Utf8.encode text).length : Int) ≤ usualLimit := by
    rw [hsize]
    decide
  have hhead : looksBinary ((Utf8.encode text).take 4096) = false := by decide +kernel
  have hwhole : looksBinary (Utf8.encode text) = false := by decide +kernel
  obtain ⟨hread, -⟩ := readText_encode_iff hlimit hhead hwhole (.guessing (some "UTF-16"))
  refine ⟨hsize, hread.2 ?_⟩
  rw [List.length_take, hsize]
  decide

/-- A text behind a byte order mark is within the greatest limit there is and yet not read. -/
theorem readText_refuses_marked_text :
    let text : Text := "\uFEFFvcl é".toList
    (Utf8.encode text).length ≤ maxLength ∧
      looksBinary ((Utf8.encode text).take 4096) = false ∧ looksBinary (Utf8.encode text) = false ∧
      readText (.guessing (some "UTF-16")) maxLength (Utf8.encode text) =
        .error .excessiveLength := by
  intro text
  have hsize : (Utf8.encode text).length ≤ maxLength := by decide
  have hhead : looksBinary ((Utf8.encode text).take 4096) = false := by decide
  have hwhole : looksBinary (Utf8.encode text) = false := by decide
  have hcount : lengthError? (.guessing (some "UTF-16"))
      (maxLength - ((Utf8.encode text).take 4096).length) = some .excessiveLength := by decide
  refine ⟨hsize, hhead, hwhole, ?_⟩
  rw [readText_encode hsize hhead hwhole, hcount]

/-! ### A text that is cut by the limit -/

/-- **A cut text is read exactly if the cut falls between two of its characters**, provided
    that the limit can be asked for at all.  A cut within a character leaves no text. -/
theorem readText_cut_iff {text : Text} (hlimit : 0 ≤ limit)
    (hstart : (Utf8.encode text).take limit.toNat = start)
    (hhead : looksBinary (start.take 4096) = false) (hwhole : looksBinary start = false)
    (hdetect : reader.detect start = none) :
    ((∃ front, front <+: text ∧
        readText reader limit (Utf8.encode text) = .ok (some (Letter.spell front))) ↔
      Affordable reader (limit - (start.take 4096).length) ∧
      ∃ front, front <+: text ∧ Text.byteCount front = min limit.toNat text.byteCount) ∧
    (Affordable reader (limit - (start.take 4096).length) →
      (¬ ∃ front, front <+: text ∧ Text.byteCount front = min limit.toNat text.byteCount) →
      readText reader limit (Utf8.encode text) = .ok none) := by
  have hlow : ((start.take 4096).length : Int) ≤ limit := by
    rw [← hstart]
    exact length_head_le hlimit _
  simp only [← Utf8.take_encode_eq_iff]
  rw [readText_of_nonneg hlimit, hstart]
  by_cases haffordable : Affordable reader (limit - (start.take 4096).length)
  case neg =>
    obtain ⟨error, herror, -⟩ := readStart_of_unaffordable hlow hhead haffordable
    simp only [herror, haffordable, reduceCtorEq, and_false, exists_false, false_and,
      false_implies, and_true]
  rw [readStart_of_affordable hhead hlow haffordable]
  simp only [hwhole, Bool.false_eq_true, if_false, haffordable, true_and, true_implies]
  by_cases hcut : ∃ front, start = Utf8.encode front
  · obtain ⟨front, hfront⟩ := hcut
    have hbegins : front <+: text := (Utf8.take_encode_eq_iff.1 (hstart.trans hfront)).1
    refine ⟨⟨fun _ => ⟨front, hfront⟩, fun _ => ⟨front, hbegins, ?_⟩⟩, fun h => ?_⟩
    · exact decodeText_of_undamaged hfront
    · exact absurd ⟨front, hfront⟩ h
  · have hnone : decodeText reader start = .ok none :=
      decodeText_of_silent (fun front hfront => hcut ⟨front, hfront⟩) hdetect
    refine ⟨⟨?_, fun h => absurd h hcut⟩, fun _ => hnone⟩
    rintro ⟨front, -, hfront⟩
    rw [hnone] at hfront
    cases hfront

/-- A text of two characters, cut between them. -/
theorem readText_cut_between_characters :
    ∃ front, front <+: "né".toList ∧
      readText (.guessing none) 1 (Utf8.encode "né") = .ok (some front) :=
  (readText_cut_iff (by decide) rfl (by decide) (by decide) rfl).1.2
    ⟨by decide, "n".toList, by decide, by decide⟩

/-- A cut within the first character leaves no text, though nothing looks binary. -/
theorem readText_cut_within_character :
    looksBinary (((Utf8.encode "é").take 1).take 4096) = false ∧
    looksBinary ((Utf8.encode "é").take 1) = false ∧
    ¬ ∃ front, front <+: "é".toList ∧
      readText (.guessing none) 1 (Utf8.encode "é") = .ok (some front) := by
  refine ⟨by decide, by decide, ?_⟩
  have hnone : readText (.guessing none) 1 (Utf8.encode "é") = .ok none := by
    rw [readText_of_nonneg (by decide)]
    rfl
  rintro ⟨front, -, hfront⟩
  rw [hnone] at hfront
  cases hfront

end VclReview.Bytes
