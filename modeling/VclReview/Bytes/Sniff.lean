/-
  VclReview/Bytes/Sniff.lean
  ==========================
  **Telling binary data from text** by its control bytes.  Data with a zero byte
  is binary; otherwise it is binary when the share of its control bytes, tab,
  newline and carriage return not counted, is above a threshold.  Bytes from 128
  on say nothing, so text of any script passes.
-/

namespace VclReview

/-- The contents of a file, byte by byte. -/
abbrev Bytes := List UInt8

namespace Bytes

/-- Whether the byte is a control that text does not use. -/
def isControl (b : UInt8) : Bool :=
  (b < 32 || b == 127) && !(b == 9 || b == 10 || b == 13)

/-- The share of control bytes up to which data counts as text. -/
def controlShare : Float := 0.30

/-- Whether the data is binary, given the share of control bytes that text may
    have. -/
def isBinary (share : Float) (data : Bytes) : Bool :=
  if data = [] then false
  else data.elem 0 || Float.ofNat (data.countP isControl) / Float.ofNat data.length > share

/-- Whether the data is binary at the usual share of control bytes. -/
def looksBinary (data : Bytes) : Bool := isBinary controlShare data

end Bytes

end VclReview
