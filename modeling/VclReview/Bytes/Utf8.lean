/-
  VclReview/Bytes/Utf8.lean
  =========================
  **UTF-8**, read one byte at a time.  The reader remembers the character that
  has been begun: how many bytes it still needs, which values the next of them
  may have, and the code bits so far.  A byte that cannot go on with a begun
  character ends it as damaged and starts anew, so every damaged stretch is as
  long as a valid character could still have been.

    * `decode?`       the text, if no stretch is damaged;
    * `decodeLossy`   the text with one replacement character per damaged stretch.
-/
import VclReview.Text.Basic
import VclReview.Bytes.Sniff

namespace VclReview.Utf8

/-- A character that has been begun. -/
structure Pending where
  /-- How many bytes are still needed. -/
  owed : Nat
  /-- The least value the next byte may have. -/
  low : Nat
  /-- The greatest value the next byte may have. -/
  high : Nat
  /-- The code bits read so far. -/
  code : Nat
  deriving DecidableEq

/-- What a byte between characters is. -/
inductive Start where
  | single
  | begun (pending : Pending)
  | damaged
  deriving DecidableEq

/-- The meaning of a byte between characters.  The ranges of the second byte
    rule out overlong forms, surrogates and codes above the last one. -/
def start (b : Nat) : Start :=
  if b < 0x80 then .single
  else if b < 0xC2 then .damaged
  else if b < 0xE0 then .begun ⟨1, 0x80, 0xBF, b - 0xC0⟩
  else if b = 0xE0 then .begun ⟨2, 0xA0, 0xBF, 0⟩
  else if b = 0xED then .begun ⟨2, 0x80, 0x9F, 0xD⟩
  else if b < 0xF0 then .begun ⟨2, 0x80, 0xBF, b - 0xE0⟩
  else if b = 0xF0 then .begun ⟨3, 0x90, 0xBF, 0⟩
  else if b < 0xF4 then .begun ⟨3, 0x80, 0xBF, b - 0xF0⟩
  else if b = 0xF4 then .begun ⟨3, 0x80, 0x8F, 4⟩
  else .damaged

/-- The state of reading: what has been read, last item first, and the character
    that has been begun.  An item is a character, or nothing for a damaged
    stretch. -/
structure Reader where
  items : List (Option Char)
  pending : Option Pending
  deriving DecidableEq

/-- The state before the first byte. -/
def Reader.init : Reader := ⟨[], none⟩

/-- Reads a byte between characters. -/
def Reader.begin (items : List (Option Char)) (b : UInt8) : Reader :=
  match start b.toNat with
  | .single => ⟨some (Char.ofNat b.toNat) :: items, none⟩
  | .begun pending => ⟨items, some pending⟩
  | .damaged => ⟨none :: items, none⟩

/-- Reads one byte. -/
def Reader.push (reader : Reader) (b : UInt8) : Reader :=
  match reader.pending with
  | none => begin reader.items b
  | some p =>
    if p.low ≤ b.toNat ∧ b.toNat ≤ p.high then
      let code := p.code * 64 + (b.toNat - 0x80)
      if p.owed ≤ 1 then ⟨some (Char.ofNat code) :: reader.items, none⟩
      else ⟨reader.items, some ⟨p.owed - 1, 0x80, 0xBF, code⟩⟩
    else begin (none :: reader.items) b

/-- The items read, a begun character at the end being damaged. -/
def Reader.finish (reader : Reader) : List (Option Char) :=
  (if reader.pending.isSome then none :: reader.items else reader.items).reverse

/-- The characters and the damaged stretches of the data, in order. -/
def items (data : Bytes) : List (Option Char) :=
  (data.foldl Reader.push Reader.init).finish

/-- The text that the data encodes, if none of it is damaged. -/
def decode? (data : Bytes) : Option Text := (items data).mapM id

/-- The character that stands for a damaged stretch. -/
def replacement : Char := Char.ofNat 0xFFFD

/-- The text that the data encodes, with a replacement character for every
    damaged stretch. -/
def decodeLossy (data : Bytes) : Text := (items data).map (·.getD replacement)

def encodeChar (c : Char) : Bytes := String.utf8EncodeChar c

def encode (text : Text) : Bytes := text.flatMap encodeChar

end VclReview.Utf8
