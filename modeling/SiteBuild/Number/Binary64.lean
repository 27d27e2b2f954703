import SiteBuild.Number.Rounding

/-!
# Binary64 numbers

A number with a fraction or an exponent is a binary64 number. It is kept as its bits, so that
equality is equality of values (and of the sign of zero). A finite number is a sign and
`significand * 2 ^ exponent`; a decimal is read as the nearest number, a tie going to the even
significand. The arithmetic that timing needs is that of the machine.
-/
namespace SiteBuild

/-- A binary64 number, given by its bits. -/
structure Binary64 where
  /-- Sign, eleven exponent bits, fifty-two fraction bits. -/
  bits : UInt64
  deriving DecidableEq, Repr, Inhabited

namespace Binary64

/-- Whether the sign bit is set. -/
def negative (number : Binary64) : Bool := Nat.pow 2 63 ≤ number.bits.toNat

/-- The bits without the sign. -/
def magnitudeBits (number : Binary64) : Nat := number.bits.toNat % Nat.pow 2 63

/-- The eleven exponent bits. -/
def exponentBits (number : Binary64) : Nat := number.magnitudeBits / Nat.pow 2 52

/-- The fifty-two fraction bits. -/
def fractionBits (number : Binary64) : Nat := number.magnitudeBits % Nat.pow 2 52

/-- Whether the number is neither infinite nor a NaN. -/
def isFinite (number : Binary64) : Bool := number.exponentBits != 2047

/-- Whether the number is not a number. -/
def isNaN (number : Binary64) : Bool := number.exponentBits == 2047 && number.fractionBits != 0

/-- Whether the number is zero, of either sign. -/
def isZero (number : Binary64) : Bool := number.magnitudeBits == 0

/-- The significand of a finite number. -/
def significand (number : Binary64) : Nat :=
  if number.exponentBits == 0 then number.fractionBits else number.fractionBits + Nat.pow 2 52

/-- The exponent of a finite number: its magnitude is `significand * 2 ^ exponent`. -/
def exponent (number : Binary64) : Int :=
  if number.exponentBits == 0 then -1074 else number.exponentBits - 1075

/-- The number with a sign and the bits of a magnitude. -/
def ofMagnitude (negative : Bool) (magnitude : Nat) : Binary64 :=
  ⟨UInt64.ofNat (magnitude + if negative then Nat.pow 2 63 else 0)⟩

/-- The infinity of a sign. -/
def infinity (negative : Bool) : Binary64 := ofMagnitude negative (2047 * Nat.pow 2 52)

/-- The NaN that reading produces. -/
def nan : Binary64 := ofMagnitude false (2047 * Nat.pow 2 52 + Nat.pow 2 51)

/-- A fraction of natural numbers: `mantissa * base ^ exponent`. -/
def scaled (mantissa base : Nat) (exponent : Int) : Nat × Nat :=
  if 0 ≤ exponent then (mantissa * Nat.pow base exponent.toNat, 1)
  else (mantissa, Nat.pow base (-exponent).toNat)

/-- The magnitude bits of the number nearest to a positive fraction. -/
def nearestMagnitude (numerator denominator : Nat) : Nat :=
  let coarse := max ((numerator.log2 : Int) - denominator.log2 - 52) (-1074)
  let atExponent (power : Int) : Nat × Nat :=
    if 0 ≤ power then (numerator, denominator * Nat.pow 2 power.toNat)
    else (numerator * Nat.pow 2 (-power).toNat, denominator)
  let first := atExponent coarse
  let power := if first.1 / first.2 < Nat.pow 2 52 ∧ -1074 < coarse then coarse - 1 else coarse
  let fraction := atExponent power
  let rounded := Number.roundDiv fraction.1 fraction.2
  let steps := (power + 1074).toNat
  min (rounded + steps * Nat.pow 2 52) (2047 * Nat.pow 2 52)

/-- The number nearest to `± mantissa * 10 ^ exponent`. A decimal out of all bounds is decided by
its magnitude alone. -/
def ofDecimal (negative : Bool) (mantissa : Nat) (exponent : Int) : Binary64 :=
  let top : Int := Number.digitCount mantissa + exponent
  if mantissa == 0 ∨ top < -330 then ofMagnitude negative 0
  else if 320 < top then infinity negative
  else
    let fraction := scaled mantissa 10 exponent
    ofMagnitude negative (nearestMagnitude fraction.1 fraction.2)

/-- The number nearest to an integer, unless the integer is beyond all finite numbers. -/
def ofInt? (integer : Int) : Option Binary64 :=
  let number := ofDecimal (integer < 0) integer.natAbs 0
  if number.isFinite then some number else none

/-- The integer that a number is, if it is one. -/
def toInt? (number : Binary64) : Option Int :=
  if !number.isFinite then none
  else
    let fraction := scaled number.significand 2 number.exponent
    if fraction.1 % fraction.2 = 0 then
      let magnitude : Int := (fraction.1 / fraction.2 : Nat)
      some (if number.negative then -magnitude else magnitude)
    else none

/-- The number in the machine's own form. -/
def toFloat (number : Binary64) : Float := Float.ofBits number.bits

/-- The number of the machine's own form. -/
def ofFloat (float : Float) : Binary64 := ⟨float.toBits⟩

/-- Whether a number is less than another. -/
def precedes (first second : Binary64) : Bool := first.toFloat < second.toFloat

instance : Add Binary64 := ⟨fun first second => ofFloat (first.toFloat + second.toFloat)⟩
instance : Sub Binary64 := ⟨fun first second => ofFloat (first.toFloat - second.toFloat)⟩
instance : Mul Binary64 := ⟨fun first second => ofFloat (first.toFloat * second.toFloat)⟩
instance : Div Binary64 := ⟨fun first second => ofFloat (first.toFloat / second.toFloat)⟩

end Binary64
end SiteBuild
