/-
  VclReview/Bytes/CodePage.lean
  =============================
  **Encodings of one byte per character**: US-ASCII, Latin-1, and the Windows
  code pages 1251 and 1252.  A byte that a code page leaves undefined makes the
  data unreadable in it.
-/
import VclReview.Text.Basic
import VclReview.Bytes.Sniff

namespace VclReview.CodePage

/-- The code points of the bytes from 128 on in Windows code page 1251, as far as
    the table goes; the rest of the page are the letters from U+0410 on.  The
    number zero marks an undefined byte. -/
def windows1251Table : List Nat :=
  [0x0402, 0x0403, 0x201A, 0x0453, 0x201E, 0x2026, 0x2020, 0x2021,
   0x20AC, 0x2030, 0x0409, 0x2039, 0x040A, 0x040C, 0x040B, 0x040F,
   0x0452, 0x2018, 0x2019, 0x201C, 0x201D, 0x2022, 0x2013, 0x2014,
   0, 0x2122, 0x0459, 0x203A, 0x045A, 0x045C, 0x045B, 0x045F,
   0x00A0, 0x040E, 0x045E, 0x0408, 0x00A4, 0x0490, 0x00A6, 0x00A7,
   0x0401, 0x00A9, 0x0404, 0x00AB, 0x00AC, 0x00AD, 0x00AE, 0x0407,
   0x00B0, 0x00B1, 0x0406, 0x0456, 0x0491, 0x00B5, 0x00B6, 0x00B7,
   0x0451, 0x2116, 0x0454, 0x00BB, 0x0458, 0x0405, 0x0455, 0x0457]

/-- The code points of the bytes 128 to 159 in Windows code page 1252, which is
    Latin-1 from there on.  The number zero marks an undefined byte. -/
def windows1252Table : List Nat :=
  [0x20AC, 0, 0x201A, 0x0192, 0x201E, 0x2026, 0x2020, 0x2021,
   0x02C6, 0x2030, 0x0160, 0x2039, 0x0152, 0, 0x017D, 0,
   0, 0x2018, 0x2019, 0x201C, 0x201D, 0x2022, 0x2013, 0x2014,
   0x02DC, 0x2122, 0x0161, 0x203A, 0x0153, 0, 0x017E, 0x0178]

/-- The code point of a byte in a page whose bytes from 128 on start with the
    table and go on with `beyond`. -/
def code (table : List Nat) (beyond : Nat → Nat) (b : Nat) : Nat :=
  if b < 0x80 then b else table.getD (b - 0x80) (beyond b)

/-- The character of a code point other than zero; the byte zero itself is the
    one exception. -/
def char? (b : UInt8) (code : Nat) : Option Char :=
  if code = 0 ∧ b ≠ 0 then none else some (Char.ofNat code)

/-- US-ASCII. -/
def ascii? (b : UInt8) : Option Char :=
  if b < 0x80 then some (Char.ofNat b.toNat) else none

/-- Latin-1. -/
def latin1? (b : UInt8) : Option Char := some (Char.ofNat b.toNat)

/-- Windows code page 1251. -/
def windows1251? (b : UInt8) : Option Char :=
  char? b (code windows1251Table (fun n => 0x0410 + (n - 0xC0)) b.toNat)

/-- Windows code page 1252. -/
def windows1252? (b : UInt8) : Option Char :=
  char? b (code windows1252Table id b.toNat)

end VclReview.CodePage
