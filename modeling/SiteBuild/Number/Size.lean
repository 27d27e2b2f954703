import SiteBuild.Number.Notation

/-!
# Sizes in bytes

A size is shown in the greatest unit of which it holds one at least, with one place; beyond the
last unit the number just grows.
-/
namespace SiteBuild.Number

/-- The units above the byte, each 1024 times the one before. -/
def greaterUnits : List String := ["KB", "MB", "GB"]

/-- A number of a unit, or of a greater one, with its unit. -/
def inUnits (size : Binary64) (unit : String) : List String → Binary64 × String
  | [] => (size, unit)
  | next :: rest =>
    let kilo := Binary64.ofDecimal false 1024 0
    if kilo.toFloat ≤ size.toFloat then inUnits (size / kilo) next rest else (size, unit)

/-- A size in bytes for readers. -/
def sizeText (size : Binary64) : String :=
  if size.isZero then "0 B"
  else
    let (amount, unit) := inUnits size "B" greaterUnits
    fixedText 1 amount ++ " " ++ unit

/-- A whole number of bytes for readers, unless it is beyond all finite numbers. -/
def wholeSizeText? (size : Int) : Option String := (Binary64.ofInt? size).map sizeText

end SiteBuild.Number
