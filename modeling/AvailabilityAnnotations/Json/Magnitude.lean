/-
# Magnitudes

The size of a JSON number is held as a significand below 2^64 and a power of ten.
Digits for which the significand has no room are not kept: before the point they count
as powers of ten, and after it they do not count at all.

A magnitude is in range if the product of the two, each of them rounded to a double
first, rounds to a finite double.
-/

import AvailabilityAnnotations.Text

namespace AvailabilityAnnotations

namespace Json

/-- The number nearest to `value` that has at most `bits` significant bits. Halfway
between two of them, it is the one whose last bit is zero. -/
def roundToBits (bits value : Nat) : Nat :=
  let unit := Nat.pow 2 (value.log2 + 1 - bits)
  let below := value / unit
  let rest := value % unit
  let isUp := unit < 2 * rest || (unit == 2 * rest && below % 2 == 1)
  (if isUp then below + 1 else below) * unit

/-- The size of a number, `significand * 10 ^ exponent`. -/
structure Magnitude where
  significand : Nat
  exponent : Int
  deriving DecidableEq, Repr

namespace Magnitude

/-- Whether a significand has room for one more digit. -/
def hasRoom (significand : Nat) (digit : Char) : Bool :=
  Text.appendDigit significand digit < Nat.pow 2 64

/-- Take the digits before the point. Behind the first without room no digit is kept. -/
def ofWhole (significand : Nat) : Text → Magnitude
  | [] => ⟨significand, 0⟩
  | digit :: digits =>
      if hasRoom significand digit then
        ofWhole (Text.appendDigit significand digit) digits
      else ⟨significand, digits.length + 1⟩

/-- Take the digits after the point, up to the first without room. -/
def appendFraction (magnitude : Magnitude) : Text → Magnitude
  | [] => magnitude
  | digit :: digits =>
      if hasRoom magnitude.significand digit then
        appendFraction
          ⟨Text.appendDigit magnitude.significand digit, magnitude.exponent - 1⟩ digits
      else magnitude

/-- The magnitude of the digits before and after the point, times a power of ten. -/
def ofDigits (whole fraction : Text) (exponent : Int) : Magnitude :=
  let magnitude := (ofWhole 0 whole).appendFraction fraction
  { magnitude with exponent := magnitude.exponent + exponent }

/-- The least product that is too large for a double: half a unit of the last place
above the largest one. -/
def bound : Nat := Nat.pow 2 1024 - Nat.pow 2 970

/-- Whether the magnitude is small enough for a double. The largest power of ten that
is a double itself is the 308th. -/
def isInRange (magnitude : Magnitude) : Bool :=
  if magnitude.significand = 0 ∨ magnitude.exponent < 0 then true
  else if 308 < magnitude.exponent then false
  else
    roundToBits 53 magnitude.significand *
      roundToBits 53 (Nat.pow 10 magnitude.exponent.toNat) < bound

end Magnitude

end Json

end AvailabilityAnnotations
