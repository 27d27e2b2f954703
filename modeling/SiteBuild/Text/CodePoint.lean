/-!
# Texts

Text that went through JSON may hold a surrogate without its partner, and such a text is built
into pages like any other. A text is therefore a list of code points, each a Unicode character or
one lone surrogate; strings and characters stand for the texts and code points they spell. Main
statement: a string survives the way into code points and back (`Text.toString_ofString`).
-/
namespace SiteBuild

/-- A Unicode character, or a surrogate that stands alone. -/
inductive CodePoint where
  /-- A Unicode scalar value. -/
  | scalar (char : Char)
  /-- The lone surrogate U+D800 plus the index. -/
  | surrogate (index : Fin 2048)
  deriving DecidableEq, Repr, Inhabited

namespace CodePoint

/-- The number of the code point. -/
def value : CodePoint → Nat
  | .scalar char => char.toNat
  | .surrogate index => 0xD800 + index.val

/-- The code point of a number, such as one UTF-16 unit taken by itself. -/
def ofUnit (unit : Nat) : CodePoint :=
  if range : 0xD800 ≤ unit ∧ unit < 0xE000 then .surrogate ⟨unit - 0xD800, by omega⟩
  else .scalar (Char.ofNat unit)

/-- The character of a code point; a lone surrogate shows as the replacement character. -/
def toChar : CodePoint → Char
  | .scalar char => char
  | .surrogate _ => '\ufffd'

/-- Whether the code point is a character with a property. -/
def satisfies (property : Char → Bool) : CodePoint → Bool
  | .scalar char => property char
  | .surrogate _ => false

/-- Whether the code point is a decimal digit. -/
def isDigit (point : CodePoint) : Bool := point.satisfies Char.isDigit

/-- The value of a decimal digit. -/
def digitValue (point : CodePoint) : Nat := point.value - 48

/-- The number of bytes of the code point in UTF-8. -/
def size (point : CodePoint) : Nat := point.toChar.utf8Size

instance : Coe Char CodePoint := ⟨.scalar⟩

/-- The code point of a number; a number beyond all code points has none. -/
def ofValue? (value : Nat) : Option CodePoint :=
  if value < 0x110000 then some (ofUnit value) else none

/-- Whether the unit opens a surrogate pair. -/
def isHigh (unit : Nat) : Bool := 0xD800 ≤ unit && unit < 0xDC00

/-- Whether the unit closes a surrogate pair. -/
def isLow (unit : Nat) : Bool := 0xDC00 ≤ unit && unit < 0xE000

/-- The character that a surrogate pair stands for. -/
def ofPair (high low : Nat) : CodePoint :=
  .scalar (Char.ofNat (0x10000 + (high - 0xD800) * 0x400 + (low - 0xDC00)))

end CodePoint

/-- A sequence of code points. -/
abbrev Text := List CodePoint

namespace Text

/-- The code points of a list of characters. -/
def ofChars (chars : List Char) : Text := chars.map .scalar

/-- The code points of a string. -/
def ofString (string : String) : Text := ofChars string.toList

instance : Coe String Text := ⟨ofString⟩

/-- A character by itself. -/
def singleton (char : Char) : Text := [.scalar char]

/-- A number of blanks. -/
def blanks (count : Nat) : Text := List.replicate count (.scalar ' ')

/-- The decimal digits of an integer, behind a minus sign if it is negative. Integers are those that
the reader of JSON makes, of at most `Json.integerDigits` digits: longer ones may not be shown at
all. -/
def ofInt (value : Int) : Text := ofString value.repr

/-- The decimal digits of a natural number. -/
def ofNat (value : Nat) : Text := ofString value.repr

/-- The texts put together, a separator between them. -/
def join (separator : Text) (parts : List Text) : Text := List.intercalate separator parts

/-- The number that decimal digits write. -/
def digitsValue (digits : Text) : Nat :=
  digits.foldl (fun value digit => value * 10 + digit.digitValue) 0

/-- The order of texts by their code points. -/
def precedes (first second : Text) : Bool :=
  decide (first.map CodePoint.value < second.map CodePoint.value)

/-- The string of a text; lone surrogates show as replacement characters. -/
def toString (text : Text) : String := String.ofList (text.map CodePoint.toChar)

/-- A string survives the way into code points and back. -/
theorem toString_ofString (string : String) : toString (ofString string) = string := by
  have chars : (ofString string).map CodePoint.toChar = string.toList := by
    simp [ofString, ofChars, Function.comp_def, CodePoint.toChar]
  rw [toString, chars, String.ofList_toList]

end Text
end SiteBuild
