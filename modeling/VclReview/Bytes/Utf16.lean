/-
  VclReview/Bytes/Utf16.lean
  ==========================
  **UTF-16**, in either byte order.  Data of odd length and surrogates without
  their partner have no reading.
-/
import VclReview.Text.Basic
import VclReview.Bytes.Sniff

namespace VclReview.Utf16

/-- Which byte of a unit comes first. -/
inductive ByteOrder where
  | little
  | big
  deriving DecidableEq

/-- The unit that two bytes form. -/
def ByteOrder.unit (order : ByteOrder) (first second : UInt8) : Nat :=
  match order with
  | .little => first.toNat + 256 * second.toNat
  | .big => 256 * first.toNat + second.toNat

/-- The units of the data. -/
def units? (order : ByteOrder) : Bytes → Option (List Nat)
  | [] => some []
  | [_] => none
  | a :: b :: rest => (units? order rest).map (order.unit a b :: ·)

/-- The text that units encode. -/
def characters? : List Nat → Option Text
  | [] => some []
  | [u] => if u < 0xD800 ∨ 0xE000 ≤ u then some [Char.ofNat u] else none
  | u :: v :: rest =>
    if u < 0xD800 ∨ 0xE000 ≤ u then (characters? (v :: rest)).map (Char.ofNat u :: ·)
    else if u < 0xDC00 ∧ 0xDC00 ≤ v ∧ v < 0xE000 then
      (characters? rest).map (Char.ofNat (0x10000 + (u - 0xD800) * 0x400 + (v - 0xDC00)) :: ·)
    else none

/-- The text that the data encodes in the given byte order; a mark at the start
    is kept as a character. -/
def decode? (order : ByteOrder) (data : Bytes) : Option Text :=
  (units? order data).bind characters?

/-- The text that the data encodes in the byte order of the mark at its start,
    which is dropped; without a mark the low byte comes first. -/
def decodeMarked? : Bytes → Option Text
  | 0xFF :: 0xFE :: rest => decode? .little rest
  | 0xFE :: 0xFF :: rest => decode? .big rest
  | data => decode? .little data

end VclReview.Utf16
