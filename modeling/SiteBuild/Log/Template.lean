import SiteBuild.Log.Mark
import SiteBuild.Text.Decimal
import SiteBuild.Text.Word

/-!
# Line templates

The template of a line is text with fields such as `%(levelname)-8s`: a name in brackets and a
mark. A mark without a name writes the record as a whole, but only if no value is written before
it. A doubled percent sign is a percent sign. A template that holds nothing like a field is
refused, and a line with a piece that cannot be written is not written at all.
-/
namespace SiteBuild.Log

/-- A piece of a template. -/
inductive Piece where
  /-- A character as it is. -/
  | char (point : CodePoint)
  /-- A field. -/
  | field (name : Text) (mark : Mark)
  /-- The record as a whole. -/
  | record (mark : Mark)
  /-- A percent sign that opens no field. -/
  | stray
  deriving DecidableEq, Repr

/-- The width that no line reaches and the precision that no mark has. -/
def markLimits : Nat × Nat := (Nat.pow 2 36, Nat.pow 2 31)

/-- Whether a code point is a flag of a mark. -/
def isFlag (point : CodePoint) : Bool :=
  point.satisfies fun char => "-+ #0".toList.contains char

/-- The number behind a point, if there is a point, and the rest. -/
def readPrecision : Text → Option Nat × Text
  | .scalar '.' :: rest =>
    (some (Text.digitsValue (rest.takeWhile CodePoint.isDigit)), rest.dropWhile CodePoint.isDigit)
  | text => (none, text)

/-- The text behind a letter that tells a size, which does not matter. -/
def skipSize : Text → Text
  | .scalar 'h' :: rest | .scalar 'l' :: rest | .scalar 'L' :: rest => rest
  | text => text

/-- The mark at the start of a text, and the rest. -/
def readMark? (text : Text) : Option (Mark × Text) :=
  let flags := text.takeWhile isFlag
  let behindFlags := text.dropWhile isFlag
  let width := Text.digitsValue (behindFlags.takeWhile CodePoint.isDigit)
  let (precision, behindPrecision) := readPrecision (behindFlags.dropWhile CodePoint.isDigit)
  match skipSize behindPrecision with
  | [] => none
  | letter :: rest => do
    let conversion ← Conversion.ofPoint? letter
    if markLimits.1 ≤ width || markLimits.2 ≤ precision.getD 0 then none
    else
      return ({
        leftAligned := flags.contains (.scalar '-')
        plus := flags.contains (.scalar '+')
        blank := flags.contains (.scalar ' ')
        alternate := flags.contains (.scalar '#')
        zeros := flags.contains (.scalar '0')
        width, precision, conversion }, rest)

/-- The number of code points before the bracket that closes an open one. `depth` counts the
brackets that were opened inside. -/
def bracketed? (depth : Nat) : Text → Option Nat
  | [] => none
  | .scalar '(' :: rest => (bracketed? (depth + 1) rest).map (· + 1)
  | .scalar ')' :: rest =>
    match depth with
    | 0 => some 0
    | depth + 1 => (bracketed? depth rest).map (· + 1)
  | _ :: rest => (bracketed? depth rest).map (· + 1)

/-- The field at the start of a text, from behind its first bracket, and the rest. -/
def readField? (text : Text) : Option (Piece × Text) := do
  let length ← bracketed? 0 text
  let (mark, rest) ← readMark? (text.drop (length + 1))
  return (.field (text.take length) mark, rest)

/-- The piece that a percent sign opens, from behind it, and the rest. -/
def readPiece : Text → Piece × Text
  | .scalar '%' :: rest => (.char '%', rest)
  | .scalar '(' :: rest => (readField? rest).getD (.stray, rest)
  | text => ((readMark? text).map fun read => (.record read.1, read.2)).getD (.stray, text)

/-- The pieces of a template. `skip` counts the code points that still belong to the last one. -/
def readPieces : Nat → Text → List Piece
  | _, [] => []
  | skip + 1, _ :: rest => readPieces skip rest
  | 0, .scalar '%' :: rest =>
    let (piece, behind) := readPiece rest
    piece :: readPieces (rest.length - behind.length) rest
  | 0, point :: rest => .char point :: readPieces 0 rest

/-- The letters of marks in either case, those included that differ in case alone. -/
def markLetters : List Char := "diouxefgcrsa%DIOUXEFGCRSA\u0130\u0131\u017f".toList

/-- The text behind a number or a star, if one of them opens it. -/
def behindNumber? : Text → Option Text
  | .scalar '*' :: rest => some rest
  | text => if text.head?.any Text.isDecimal then some (text.dropWhile Text.isDecimal) else none

/-- Whether a text starts with the form of a mark, which need not be one that is written: its
numbers may be in the digits of any script, while a mark that is written has those of ASCII. -/
def looksLikeMark (text : Text) : Bool :=
  let behindFlags := text.dropWhile isFlag
  let behindWidth := (behindNumber? behindFlags).getD behindFlags
  let behindPrecision :=
    match behindWidth with
    | .scalar '.' :: rest => (behindNumber? rest).getD behindWidth
    | other => other
  behindPrecision.head?.any fun point => point.satisfies markLetters.contains

/-- Whether a text starts with the form of a field. -/
def looksLikeField : Text → Bool
  | .scalar '%' :: .scalar '(' :: rest =>
    let name := rest.takeWhile Text.isWordChar
    match rest.drop name.length with
    | .scalar ')' :: behind => !name.isEmpty && looksLikeMark behind
    | _ => false
  | _ => false

/-- Whether the form of a field stands somewhere in a text. -/
def holdsField : Text → Bool
  | [] => false
  | point :: rest => looksLikeField (point :: rest) || holdsField rest

/-- The pieces of a template, unless it is refused. -/
def piecesOf? (template : Text) : Option (List Piece) :=
  if holdsField template then some (readPieces 0 template) else none

/-- The values that a line can show. -/
structure Values where
  /-- The record as a whole. -/
  record : Value
  /-- The value of a field. -/
  field? : Text → Option Value

/-- The text of a piece. -/
def Piece.text? (values : Values) : Piece → Option Text
  | .char point => some [point]
  | .field name mark => (values.field? name).bind mark.text?
  | .record mark => mark.text? values.record
  | .stray => none

/-- Whether a piece writes a value. -/
def Piece.hasValue : Piece → Bool
  | .field _ _ | .record _ => true
  | _ => false

/-- Whether a piece writes the record as a whole. -/
def Piece.isRecord : Piece → Bool
  | .record _ => true
  | _ => false

/-- Whether no value is written before the record as a whole. -/
def areOrdered (pieces : List Piece) : Bool :=
  !((pieces.filter Piece.hasValue).drop 1).any Piece.isRecord

/-- The line of pieces, if all of them have a text. -/
def lineOf? (values : Values) (pieces : List Piece) : Option Text :=
  if areOrdered pieces then (pieces.mapM (Piece.text? values)).map List.flatten else none

end SiteBuild.Log
