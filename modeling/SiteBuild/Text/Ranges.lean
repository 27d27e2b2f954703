import SiteBuild.Text.CodePoint

/-!
# Character ranges

A character class is given by the ranges of code numbers it holds, in ascending order. No class
holds a lone surrogate.
-/
namespace SiteBuild.Text

/-- Closed ranges of character numbers. -/
abbrev Ranges := List (Nat × Nat)

/-- Whether a number lies in one of the ranges. -/
def Ranges.contains (ranges : Ranges) (number : Nat) : Bool :=
  ranges.any fun range => range.1 ≤ number && number ≤ range.2

/-- Whether a code point is a character of one of the ranges. -/
def Ranges.hold (ranges : Ranges) (point : CodePoint) : Bool :=
  point.satisfies fun char => ranges.contains char.toNat

end SiteBuild.Text
