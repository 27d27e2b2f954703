import SiteBuild.Json.Textual

/-!
# Code frames

The lines around a place of a source, numbered, the line itself marked and the column pointed at.
-/
namespace SiteBuild

/-- The items between two bounds; a bound below zero counts from the end. -/
def sliceBetween {α : Type} (items : List α) (start stop : Int) : List α :=
  let bound (index : Int) : Nat :=
    if index < 0 then (index + items.length).toNat else index.toNat
  (items.take (bound stop)).drop (bound start)

/-- A text filled with blanks on the left to a width. -/
def alignedRight (width : Nat) (text : Text) : Text :=
  Text.blanks (width - text.length) ++ text

/-- The row of a line. -/
def frameRow (marked : Bool) (number : Nat) (content : Text) : Text :=
  (if marked then "> " else "  ") ++ alignedRight 3 (Text.ofNat number) ++ " | " ++ content

/-- The width that no row reaches, and the width that no text reaches. The length of a text is a
signed word of 64 bits, so no text is as wide as the second. The first is an assumption about the
machine: a row of 2 ^ 36 characters takes 64 GiB, at one byte for each, and no such memory is taken
to be at hand. -/
def widthLimits : Int × Int := (Nat.pow 2 36, Nat.pow 2 63)

/-- The row that points at a column of the line with a number. -/
def pointerRow (number : Nat) (column : Int) : Except Misuse Text :=
  let indent : Int := 2 + (alignedRight 3 (Text.ofNat number)).length + 3 + column
  if widthLimits.2 ≤ indent then .error (.tooWide true)
  else if widthLimits.1 ≤ indent then .error (.tooWide false)
  else .ok (Text.blanks indent.toNat ++ "^")

/-- The rows of one line: the line, and below the marked one the pointer, if there is a column. -/
def frameRows (line : Int) (column : Option Int) (number : Nat) (content : Text) :
    Except Misuse (List Text) :=
  if (number : Int) ≠ line then .ok [frameRow false number content]
  else
    match column with
    | none => .ok [frameRow true number content]
    | some column =>
      (pointerRow number column).map fun pointer => [frameRow true number content, pointer]

/-- The rows of the lines between two bounds, one of them marked. -/
def frameBetween (lines : List Text) (start stop line : Int) (column : Option Int) :
    Except Misuse Text :=
  let numbered := (sliceBetween lines start stop).zipIdx (start.toNat + 1)
  let rows := numbered.mapM fun row => frameRows line column row.2 row.1
  rows.map fun rows => Text.unlines rows.flatten

/-- The frame around a line, which counts from one, and a column, which counts from zero. -/
def codeFrame (source : Text) (line : Int) (column : Option Int) : Except Misuse Text :=
  let lines := Text.lines source
  frameBetween lines (max 0 (line - 3)) (min (lines.length : Int) (line + 2)) line column

/-- Whether a number of lines lies within the frame around a line that may have a fraction. -/
def isWithinFrame (count : Nat) (line : Binary64) : Bool :=
  let whole (number : Nat) : Binary64 := .ofDecimal false number 0
  !(whole 0).precedes (line - whole 3) && !(line + whole 2).precedes (whole count)

/-- The frame around a place as a tool tells it. A line that may have a fraction gives no bounds, so
that its frame has to hold the whole source. -/
def codeFrameAt (source : Textual) (line column : Json) : Except Misuse Text := do
  let text ← source.asText "split"
  match line with
  | .real number =>
    let lines := Text.lines text
    if isWithinFrame lines.length number then
      frameBetween lines 0 lines.length (number.toInt?.getD 0) column.int?
    else throw .badBound
  | other =>
    match other.int? with
    | some number => codeFrame text number column.int?
    | none => throw (.noNumber other.typeName)

end SiteBuild
