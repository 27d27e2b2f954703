import SiteBuild.Number.Shortest

/-!
# Written numbers

How numbers are written: a binary64 number in its shortest digits, positional or with an
exponent, or with a fixed number of places. The choices of a notation are one record.
-/
namespace SiteBuild.Number

/-- How shortest digits are laid out. -/
structure Layout where
  /-- The least power of ten of a first digit written positionally. -/
  leastPositional : Int
  /-- The greatest power of ten of a first digit written positionally. -/
  greatestPositional : Int
  /-- The least number of digits of an exponent. -/
  exponentDigits : Nat
  /-- What stands for a NaN. -/
  nan : String
  /-- What stands for positive infinity. -/
  infinity : String

/-- Numbers in JSON text: positional from a ten-thousandth up to sixteen digits, exponents of
two digits, and the words of the JavaScript globals. -/
def jsonLayout : Layout := ⟨-4, 15, 2, "NaN", "Infinity"⟩

/-- Numbers in messages: as in JSON, with the short words for what is not finite. -/
def messageLayout : Layout := ⟨-4, 15, 2, "nan", "inf"⟩

/-- A natural number in decimal, filled with zeros on the left to a width. -/
def padded (width number : Nat) : String :=
  let digits := Nat.toDigits 10 number
  String.ofList (List.replicate (width - digits.length) '0' ++ digits)

/-- A minus sign or nothing. -/
def sign (negative : Bool) : String := if negative then "-" else ""

/-- The digits of a decimal with a point after the power of ten zero, and one place at least. -/
def positional (decimal : Decimal) : String :=
  let digits := Nat.toDigits 10 decimal.digits
  if 0 ≤ decimal.exponent then
    String.ofList (digits ++ List.replicate decimal.exponent.toNat '0') ++ ".0"
  else
    let places := (-decimal.exponent).toNat
    let filled := List.replicate (places + 1 - digits.length) '0' ++ digits
    String.ofList (filled.take (filled.length - places)) ++ "." ++
      String.ofList (filled.drop (filled.length - places))

/-- The digits of a decimal with a point after the first, and the exponent. -/
def scientific (layout : Layout) (decimal : Decimal) : String :=
  let power := decimal.leadingPower
  let mark := if power < 0 then "e-" else "e+"
  let exponent := mark ++ padded layout.exponentDigits power.natAbs
  match Nat.toDigits 10 decimal.digits with
  | [] => exponent
  | [digit] => String.ofList [digit] ++ exponent
  | digit :: rest => String.ofList (digit :: '.' :: rest) ++ exponent

/-- A number in its shortest digits. -/
def shortestText (layout : Layout) (number : Binary64) : String :=
  if number.isNaN then layout.nan
  else if !number.isFinite then sign number.negative ++ layout.infinity
  else
    let decimal := number.shortest
    let power := decimal.leadingPower
    let body :=
      if layout.leastPositional ≤ power ∧ power ≤ layout.greatestPositional then
        positional decimal
      else scientific layout decimal
    sign number.negative ++ body

/-- A fraction with a fixed number of places, a half going to the even neighbour. -/
def fixedFraction (places numerator denominator : Nat) : String :=
  let rounded := roundDiv (numerator * Nat.pow 10 places) denominator
  toString (rounded / Nat.pow 10 places) ++ "." ++ padded places (rounded % Nat.pow 10 places)

/-- A number with a fixed number of places; its exact value is rounded. -/
def fixedText (places : Nat) (number : Binary64) : String :=
  if number.isNaN then messageLayout.nan
  else if !number.isFinite then sign number.negative ++ messageLayout.infinity
  else
    let fraction := Binary64.scaled number.significand 2 number.exponent
    sign number.negative ++ fixedFraction places fraction.1 fraction.2

end SiteBuild.Number
