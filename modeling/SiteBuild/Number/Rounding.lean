/-!
# Rounding quotients

The integer nearest to a quotient of natural numbers.
-/
namespace SiteBuild.Number

/-- The integer nearest to `numerator / denominator`; a tie goes to the even neighbour. -/
def roundDiv (numerator denominator : Nat) : Nat :=
  let quotient := numerator / denominator
  let twice := 2 * (numerator % denominator)
  if twice < denominator then quotient
  else if denominator < twice then quotient + 1
  else quotient + quotient % 2

/-- The number of decimal digits of a natural number, one for zero. -/
def digitCount (number : Nat) : Nat := (Nat.toDigits 10 number).length

end SiteBuild.Number
