import SiteBuild.Number.Binary64

/-!
# Shortest decimals

The decimal with the fewest digits that reads back as a given number, and of those the nearest.
The reals that read back as `significand * 2 ^ exponent` form an interval around it, whose ends
belong to it when the significand is even. A decimal grid meets the interval only if one of the
two grid points next to the number does, so these two are tried on finer and finer grids;
seventeen digits always suffice.
-/
namespace SiteBuild

/-- The digits and the exponent of a decimal `digits * 10 ^ exponent`. -/
structure Decimal where
  /-- The digits, as one natural number. -/
  digits : Nat
  /-- The power of ten. -/
  exponent : Int
  deriving DecidableEq, Repr

namespace Decimal

/-- The power of ten of the first digit. -/
def leadingPower (decimal : Decimal) : Int :=
  decimal.exponent + (Number.digitCount decimal.digits - 1 : Nat)

/-- The decimal without zeros at its end; the fuel bounds the number of zeros taken. -/
def stripZeros : Nat → Decimal → Decimal
  | 0, decimal => decimal
  | fuel + 1, decimal =>
    if decimal.digits != 0 && decimal.digits % 10 == 0 then
      stripZeros fuel ⟨decimal.digits / 10, decimal.exponent + 1⟩
    else decimal

end Decimal

namespace Binary64

/-- The reals that read as one number, as numerators over a common denominator. -/
structure ReadingInterval where
  /-- The lower end. -/
  lower : Nat
  /-- The number itself. -/
  centre : Nat
  /-- The upper end. -/
  upper : Nat
  /-- The common denominator. -/
  denominator : Nat
  /-- Whether the ends belong to the interval. -/
  closed : Bool

/-- The interval of a finite number other than zero. Below a power of two the gap is half as
wide. -/
def readingInterval (number : Binary64) : ReadingInterval :=
  let significand := number.significand
  let unit := scaled 1 2 (number.exponent - 2)
  let below := if number.fractionBits == 0 && 1 < number.exponentBits then 1 else 2
  { lower := (4 * significand - below) * unit.1
    centre := 4 * significand * unit.1
    upper := (4 * significand + 2) * unit.1
    denominator := unit.2
    closed := significand % 2 == 0 }

/-- Whether `digits * 10 ^ exponent` lies in the interval. -/
def ReadingInterval.holds (interval : ReadingInterval) (decimal : Decimal) : Bool :=
  let point := scaled decimal.digits 10 decimal.exponent
  let value := point.1 * interval.denominator
  let lower := interval.lower * point.2
  let upper := interval.upper * point.2
  if interval.closed then lower ≤ value && value ≤ upper else lower < value && value < upper

/-- The power of ten of the first digit of a positive fraction. -/
def leadingPower (numerator denominator : Nat) : Int :=
  if denominator ≤ numerator then (Number.digitCount (numerator / denominator) - 1 : Nat)
  else
    let places := Number.digitCount (denominator / numerator)
    if denominator ≤ numerator * Nat.pow 10 (places - 1) then -(places - 1 : Nat)
    else -(places : Nat)

/-- The point of the grid of a number of digits that reads back as the number: the nearer of two,
a tie going to the even digit. -/
def onGrid? (interval : ReadingInterval) (leading : Int) (count : Nat) : Option Decimal :=
  let exponent := leading - count + 1
  let unit := scaled 1 10 exponent
  let numerator := interval.centre * unit.2
  let denominator := interval.denominator * unit.1
  let floor := numerator / denominator
  let twice := 2 * (numerator % denominator)
  let below : Decimal := ⟨floor, exponent⟩
  let above : Decimal := ⟨floor + 1, exponent⟩
  match interval.holds below, interval.holds above with
  | true, true =>
    some (if twice < denominator ∨ (twice = denominator ∧ floor % 2 = 0) then below else above)
  | true, false => some below
  | false, true => some above
  | false, false => none

/-- The shortest decimal of a finite number's magnitude. -/
def shortest (number : Binary64) : Decimal :=
  if number.isZero then ⟨0, 0⟩
  else
    let interval := number.readingInterval
    let leading := leadingPower interval.centre interval.denominator
    match (List.range 17).findSome? fun count => onGrid? interval leading (count + 1) with
    | some decimal => decimal.stripZeros 20
    | none => ⟨0, 0⟩

end Binary64
end SiteBuild
