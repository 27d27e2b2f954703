import SiteBuild.Text.CodePoint
import SiteBuild.Text.Printable

/-!
# Quoted strings

A string as messages quote it: in single quotes, or in double quotes if it holds a single quote
and no double one. The quote and the backslash are escaped, and so is what is not printable.
-/
namespace SiteBuild.Text

/-- A number in hexadecimal digits of a fixed count. -/
def fixedHex (count number : Nat) : Text :=
  let digits := Nat.toDigits 16 number
  ofChars (List.replicate (count - digits.length) '0' ++ digits)

/-- The numbered escape of a code point: two, four or eight digits. -/
def numberedEscape (value : Nat) : Text :=
  if value < 0x100 then "\\x" ++ fixedHex 2 value
  else if value < 0x10000 then "\\u" ++ fixedHex 4 value
  else "\\U" ++ fixedHex 8 value

/-- A code point inside quotes; what is not shown as it is has an escape. -/
def quotedPoint (quote : Char) (shownAsIs : CodePoint → Bool) (point : CodePoint) : Text :=
  if point == quote || point == '\\' then ['\\', point]
  else if point == '\n' then "\\n"
  else if point == '\r' then "\\r"
  else if point == '\t' then "\\t"
  else if shownAsIs point then [point]
  else numberedEscape point.value

/-- A text in quotes. -/
def quotedBy (shownAsIs : CodePoint → Bool) (text : Text) : Text :=
  let single := text.contains (.scalar '\x27')
  let double := text.contains (.scalar '\x22')
  let quote := if single && !double then '\x22' else '\x27'
  singleton quote ++ text.flatMap (quotedPoint quote shownAsIs) ++ singleton quote

/-- A text in quotes, printable characters standing as they are. -/
def quoted (text : Text) : Text := quotedBy isPrintable text

/-- A text in quotes, only ASCII characters standing as they are. -/
def quotedAscii (text : Text) : Text :=
  quotedBy (fun point => isPrintable point && point.value < 0x80) text

end SiteBuild.Text
