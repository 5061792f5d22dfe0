/-
  VclReview/Numeral/Real.lean
  ===========================
  **Real numbers as they are written on a command line**, read to the nearest
  double.  A numeral is `inf`, `infinity` or `nan` in any case, or digits with at
  most one point and an optional exponent; it may stand between blanks and carry
  a sign, and its runs of digits may be grouped by single underscores.
-/
import VclReview.Numeral.Whole

namespace VclReview.Numeral

open Text

/-- A run of digits that may be empty. -/
def run? (text : Text) : Option (List Nat) :=
  if text = [] then some [] else digits? text

/-- The parts of a text before and after its first character satisfying `p`. -/
def breakAt (p : Char → Bool) (text : Text) : Text × Option Text :=
  (text.takeWhile (!p ·), (text.dropWhile (!p ·)).tail?)

/-- The exponent of a numeral; a numeral without one has exponent zero. -/
def exponent? : Option Text → Option Int
  | none => some 0
  | some text =>
    let (negative, rest) := splitSign text
    (digits? rest).map fun digits => if negative then -(number digits : Int) else number digits

/-- The double nearest to `mantissa * 10 ^ power`.  Powers out of reach are cut
    off first, so that no huge power of ten is ever built. -/
def nearest (mantissa : Nat) (power : Int) : Float :=
  let magnitude := (ofNat mantissa).length + power
  if mantissa = 0 ∨ magnitude < -330 then 0
  else if 310 < magnitude then 1.0 / 0.0
  else Float.ofScientific mantissa (power < 0) power.natAbs

/-- The value of a numeral that consists of digits. -/
def decimal? (text : Text) : Option Float :=
  let (mantissa, power) := breakAt (fun c => c == 'e' || c == 'E') text
  let (whole, fraction) := breakAt (· == '.') mantissa
  match run? whole, run? (fraction.getD []), exponent? power with
  | some ds, some fs, some e =>
    if ds = [] ∧ fs = [] then none else some (nearest (number (ds ++ fs)) (e - fs.length))
  | _, _, _ => none

/-- The value of a numeral without sign. -/
def magnitude? (text : Text) : Option Float :=
  let word := text.map Char.toLower
  if word = "inf" ∨ word = "infinity" then some (1.0 / 0.0)
  else if word = "nan" then some (0.0 / 0.0)
  else decimal? text

/-- The real number that a text denotes. -/
def real? (text : Text) : Option Float :=
  let (negative, rest) := splitSign (trimWhere isMargin text)
  (magnitude? rest).map fun x => if negative then -x else x

end VclReview.Numeral
