/-
  VclReview/Numeral/Significant.lean
  ==================================
  **A double by its six leading digits.**  The exact value of the double is
  rounded to six significant digits, a tie to the even neighbour, and zeros at
  the end are dropped.  Numbers below 0.0001 and from a million on are written
  with an exponent of at least two digits.
-/
import VclReview.Text.Basic

namespace VclReview.Numeral

open Text

/-- A power of two. -/
def twoTo (n : Nat) : Nat := Nat.pow 2 n

/-- A power of ten. -/
def tenTo (n : Nat) : Nat := Nat.pow 10 n

/-- How many digits are kept. -/
def kept : Nat := 6

/-- The exact value of a positive finite double, as a fraction. -/
def fraction (x : Float) : Nat × Nat :=
  let bits := x.toBits.toNat
  let field : Nat := bits / twoTo 52 % twoTo 11
  let significand := if field = 0 then bits % twoTo 52 else twoTo 52 + bits % twoTo 52
  let power : Int := (max field 1 : Nat) - 1075
  (significand * twoTo power.toNat, twoTo (-power).toNat)

/-- The quotient rounded to the nearest whole number, a tie to the even one. -/
def roundQuotient (num den : Nat) : Nat :=
  let q := num / den
  let twice := 2 * (num % den)
  if twice < den ∨ (twice = den ∧ q % 2 = 0) then q else q + 1

/-- The power of ten of the leading digit of a positive fraction. -/
def leadingPower (num den : Nat) : Int :=
  let guess : Int := (ofNat num).length - (ofNat den).length
  if num * tenTo (-guess).toNat < den * tenTo guess.toNat then guess - 1 else guess

/-- The kept digits of a positive fraction, as a whole number, and the power of
    ten of the first of them. -/
def leadingDigits (num den : Nat) : Nat × Int :=
  let power := leadingPower num den
  let shift : Int := (kept : Int) - 1 - power
  let n := roundQuotient (num * tenTo shift.toNat) (den * tenTo (-shift).toNat)
  if n = tenTo kept then (tenTo (kept - 1), power + 1) else (n, power)

/-- A text of digits without the zeros at its end. -/
def dropFinalZeros (digits : Text) : Text := (digits.reverse.dropWhile (· == '0')).reverse

/-- Digits after a point, or nothing if there are none. -/
def pointed (digits : Text) : Text := if digits = [] then [] else '.' :: digits

/-- The exponent of a number, with its sign and at least two digits. -/
def exponentText (power : Int) : Text :=
  let digits := ofNat power.natAbs
  (if power < 0 then '-' else '+') :: List.replicate (2 - digits.length) '0' ++ digits

/-- A positive finite double by its leading digits. -/
def positiveText (x : Float) : Text :=
  let (num, den) := fraction x
  let (n, power) := leadingDigits num den
  let digits := dropFinalZeros (ofNat n)
  if power < -4 ∨ (kept : Int) ≤ power then
    digits.take 1 ++ pointed (digits.drop 1) ++ 'e' :: exponentText power
  else if power < 0 then
    '0' :: '.' :: List.replicate (-power - 1).toNat '0' ++ digits
  else
    let places := power.toNat + 1
    digits.take places ++ List.replicate (places - digits.length) '0' ++
      pointed (digits.drop places)

/-- A double by its leading digits; the sign of a zero is kept. -/
def significant (x : Float) : Text :=
  if x.isNaN then "nan"
  else
    let negative := x.toBits.toNat / twoTo 63 = 1
    let magnitude := x.abs
    let body : Text :=
      if magnitude.isInf then "inf" else if magnitude == 0 then "0" else positiveText magnitude
    if negative then '-' :: body else body

end VclReview.Numeral
