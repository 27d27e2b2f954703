import SiteBuild.Number.Binary64
import SiteBuild.Number.Notation
import SiteBuild.Text.Quoted
import SiteBuild.Text.Search

/-!
# Marks

A mark in the template of a line says how a field is written: as text, quoted or not, or as a
number in one of several notations, filled up to a width on the left or on the right. A value that
the mark cannot write has no text. Main statement: what is written is never narrower than the mark
asks (`Mark.width_le_length_filled`).
-/
namespace SiteBuild.Log

/-- How the value of a field is written. -/
inductive Conversion where
  /-- As it is shown. -/
  | shown
  /-- As it is quoted; only ASCII characters may stand as they are. -/
  | quoted (ascii : Bool)
  /-- As one character, of which a number is the code point. -/
  | character
  /-- As an integer in a base, its letters in upper case or not. -/
  | integer (base : Nat) (upper : Bool)
  /-- As a number with a fixed number of places. -/
  | fixed
  /-- As a number with one digit before the point and an exponent. -/
  | exponential (upper : Bool)
  /-- As a number with a fixed number of digits, with an exponent only if it is short of them. -/
  | general (upper : Bool)
  deriving DecidableEq, Repr

/-- The conversions by their letters. -/
def conversions : List (Char × Conversion) :=
  [('s', .shown), ('r', .quoted false), ('a', .quoted true), ('c', .character),
    ('d', .integer 10 false), ('i', .integer 10 false), ('u', .integer 10 false),
    ('o', .integer 8 false), ('x', .integer 16 false), ('X', .integer 16 true),
    ('f', .fixed), ('F', .fixed), ('e', .exponential false), ('E', .exponential true),
    ('g', .general false), ('G', .general true)]

/-- The conversion of a letter. -/
def Conversion.ofPoint? (point : CodePoint) : Option Conversion :=
  (conversions.find? fun entry => point == entry.1).map Prod.snd

/-- The value of a field. -/
inductive Value where
  /-- A text. -/
  | text (value : Text)
  /-- An integer. -/
  | number (value : Int)
  /-- A value that is shown the same in and out of quotes. -/
  | other (shown : Text)
  deriving DecidableEq, Repr

/-- A mark. -/
structure Mark where
  /-- Whether the field stands on the left of its width. -/
  leftAligned : Bool := false
  /-- Whether a number that is not negative has a plus sign. -/
  plus : Bool := false
  /-- Whether a number that is not negative has a blank in place of a sign. -/
  blank : Bool := false
  /-- Whether a number tells its base and keeps its point. -/
  alternate : Bool := false
  /-- Whether a number is filled up with zeros. -/
  zeros : Bool := false
  /-- The least width. -/
  width : Nat := 0
  /-- The greatest number of characters, the least number of digits or the number of places. -/
  precision : Option Nat := none
  /-- How the value is written. -/
  conversion : Conversion
  deriving DecidableEq, Repr

/-- A written value before it is filled up. -/
structure Written where
  /-- The sign. -/
  sign : Text := []
  /-- What tells the base. -/
  base : Text := []
  /-- The characters. -/
  body : Text
  /-- Whether it is a number. -/
  isNumber : Bool := true
  deriving DecidableEq, Repr

/-- A number of zeros. -/
def zeroText (count : Nat) : Text := List.replicate count (.scalar '0')

/-- The first digits of a natural number, rounded to a count, a half to the even neighbour, and the
power of ten of the first one. -/
def leadingDigits (count number : Nat) : Text × Nat :=
  let length := Number.digitCount number
  if length ≤ count then (Text.ofNat number ++ zeroText (count - length), length - 1)
  else
    let rounded := Text.ofNat (Number.roundDiv number (Nat.pow 10 (length - count)))
    (rounded.take count, length - 1 + (rounded.length - count))

namespace Mark

/-- Digits with a point before the places behind it; a mark that is alternate keeps the point. -/
def pointed (mark : Mark) (whole places : Text) : Text :=
  if places.isEmpty && !mark.alternate then whole else whole ++ "." ++ places

/-- The exponent of a number. -/
def exponentText (upper : Bool) (power : Nat) : Text :=
  (if upper then "E+" else "e+") ++ Number.padded 2 power

/-- The digits of a natural number with a fixed number of digits, none of them an idle zero behind
the point unless the mark is alternate. -/
def generalText (mark : Mark) (upper : Bool) (number : Nat) : Text :=
  let count := max 1 (mark.precision.getD 6)
  let (digits, power) := leadingDigits count number
  let kept (places : Text) : Text := if mark.alternate then places else Text.withoutEnd '0' places
  if power < count then mark.pointed (digits.take (power + 1)) (kept (digits.drop (power + 1)))
  else mark.pointed (digits.take 1) (kept (digits.drop 1)) ++ exponentText upper power

/-- The digits of a natural number that is the magnitude of a binary64 number. -/
def realText (mark : Mark) (number : Nat) : Text :=
  let places := mark.precision.getD 6
  match mark.conversion with
  | .exponential upper =>
    let (digits, power) := leadingDigits (places + 1) number
    mark.pointed (digits.take 1) (digits.drop 1) ++ exponentText upper power
  | .general upper => mark.generalText upper number
  | _ => mark.pointed (Text.ofNat number) (zeroText places)

/-- The digits of a natural number in a base, at least as many as the mark asks for. -/
def integerText (mark : Mark) (base : Nat) (upper : Bool) (number : Nat) : Text :=
  let digits := (Nat.toDigits base number).map fun digit => if upper then digit.toUpper else digit
  zeroText (mark.precision.getD 0 - digits.length) ++ Text.ofChars digits

/-- What tells the base of an integer. -/
def baseText (mark : Mark) (base : Nat) (upper : Bool) : Text :=
  if !mark.alternate then []
  else if base = 8 then "0o"
  else if base = 16 then if upper then "0X" else "0x"
  else []

/-- The sign of a number. -/
def signText (mark : Mark) (negative : Bool) : Text :=
  if negative then "-" else if mark.plus then "+" else if mark.blank then " " else []

/-- A text cut to the precision. -/
def cut (mark : Mark) (text : Text) : Written :=
  { body := (mark.precision.map text.take).getD text, isNumber := false }

/-- A value as it is shown. -/
def shownText : Value → Text
  | .text value => value
  | .number value => Text.ofInt value
  | .other shown => shown

/-- The character that a value stands for. -/
def character? : Value → Option Text
  | .text [point] => some [point]
  | .number value =>
    if value < 0 then none else (CodePoint.ofValue? value.toNat).map fun point => [point]
  | _ => none

/-- An integer in a notation for numbers. -/
def number? (mark : Mark) (value : Int) : Option Written :=
  match mark.conversion with
  | .integer base upper => some {
      sign := mark.signText (value < 0)
      base := mark.baseText base upper
      body := mark.integerText base upper value.natAbs }
  | _ => do
    let real ← Binary64.ofInt? value
    let whole ← real.toInt?
    return { sign := mark.signText (value < 0), body := mark.realText whole.natAbs }

/-- A text with escapes in place of all characters beyond ASCII. -/
def asciiText (text : Text) : Text :=
  text.flatMap fun point =>
    if point.value < 0x80 then [point] else Text.numberedEscape point.value

/-- A value in quotes. -/
def quotedText (ascii : Bool) : Value → Text
  | .text value => if ascii then Text.quotedAscii value else Text.quoted value
  | value => if ascii then asciiText (shownText value) else shownText value

/-- A value as the mark writes it. -/
def written? (mark : Mark) (value : Value) : Option Written :=
  match mark.conversion, value with
  | .shown, value => some (mark.cut (shownText value))
  | .quoted ascii, value => some (mark.cut (quotedText ascii value))
  | .character, value => (character? value).map fun body => { body, isNumber := false }
  | _, .number value => mark.number? value
  | _, _ => none

/-- A written value filled up to the width. -/
def filled (mark : Mark) (written : Written) : Text :=
  let content := written.sign ++ written.base ++ written.body
  let missing := mark.width - content.length
  if mark.leftAligned then content ++ Text.blanks missing
  else if mark.zeros && written.isNumber then
    written.sign ++ written.base ++ zeroText missing ++ written.body
  else Text.blanks missing ++ content

/-- The text of a value. -/
def text? (mark : Mark) (value : Value) : Option Text := (mark.written? value).map mark.filled

/-- What is written is at least as wide as the mark asks. -/
theorem width_le_length_filled (mark : Mark) (written : Written) :
    mark.width ≤ (mark.filled written).length := by
  unfold filled
  split
  · simp only [List.length_append, Text.blanks, List.length_replicate]
    omega
  · split
    · simp only [List.length_append, zeroText, List.length_replicate]
      omega
    · simp only [List.length_append, Text.blanks, List.length_replicate]
      omega

end Mark
end SiteBuild.Log
