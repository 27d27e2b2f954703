import SiteBuild.Json.Basic
import SiteBuild.Number.Notation

/-!
# Writing JSON text

How a JSON value is written. A style says what stands between items and behind keys, whether
what is not printable ASCII is escaped, and whether the text is laid out over lines. Quotes,
backslashes and control characters are escaped in every style, so no written text holds a
character below the blank.

The values to be written are those that the reader makes (`Json.read`), alone or within a record
or two: their integers have at most `Json.integerDigits` digits and they are nested at most
`Json.nestingLimit` deep. A writer may refuse what lies beyond; here it is written all the same,
and nothing is said about it.
-/
namespace SiteBuild.Json

/-- The choices in writing a value. -/
structure Style where
  /-- What stands between two items. -/
  itemSeparator : Text
  /-- What stands behind a key. -/
  keySeparator : Text
  /-- Whether all but printable ASCII is escaped. -/
  ascii : Bool
  /-- The indentation of each level, if items stand on lines of their own. -/
  indent : Option Nat
  deriving Repr

/-- Values inside scripts: on one line, characters as they are. -/
def Style.script : Style := ⟨", ", ": ", false, none⟩

/-- Values inside text that must be ASCII: on one line, the rest escaped. -/
def Style.plain : Style := ⟨", ", ": ", true, none⟩

/-- Values in answers: nothing between items but the marks, characters as they are. -/
def Style.compact : Style := ⟨",", ":", false, none⟩

/-- Values for readers of a page: two blanks for each level, the rest escaped. -/
def Style.indented : Style := ⟨",", ": ", true, some 2⟩

/-- A digit of a base up to sixteen, in lower case. -/
def lowerHexDigit (digit : Nat) : Char := Nat.digitChar digit

/-- The escape of a sixteen-bit unit. -/
def unitEscape (unit : Nat) : List Char :=
  ['\\', 'u', lowerHexDigit (unit / 4096 % 16), lowerHexDigit (unit / 256 % 16),
    lowerHexDigit (unit / 16 % 16), lowerHexDigit (unit % 16)]

/-- The escape of a code point: one unit, or two beyond the first sixteen bits. -/
def pointEscape (value : Nat) : List Char :=
  if value < 0x10000 then unitEscape value
  else
    let beyond := value - 0x10000
    unitEscape (0xD800 + beyond / 0x400) ++ unitEscape (0xDC00 + beyond % 0x400)

/-- The short escape of a character, if it has one. -/
def shortEscape? : Char → Option Char
  | '\x22' => some '\x22'
  | '\\' => some '\\'
  | '\x08' => some 'b'
  | '\x0c' => some 'f'
  | '\n' => some 'n'
  | '\r' => some 'r'
  | '\t' => some 't'
  | _ => none

/-- A code point inside a string. -/
def writePoint (ascii : Bool) (point : CodePoint) : Text :=
  let escape := Text.ofChars (pointEscape point.value)
  match point with
  | .surrogate _ => if ascii then escape else [point]
  | .scalar char =>
    match shortEscape? char with
    | some letter => Text.ofChars ['\\', letter]
    | none =>
      if point.value < 0x20 ∨ (ascii ∧ 0x7E < point.value) then escape else [point]

/-- A string between its quotes. -/
def writeString (ascii : Bool) (text : Text) : Text :=
  "\x22" ++ text.flatMap (writePoint ascii) ++ "\x22"

/-- A line break and the indentation of a level, in a style of several lines. -/
def lineBreak (style : Style) (level : Nat) : Text :=
  match style.indent with
  | none => []
  | some width => Text.ofChars ('\n' :: List.replicate (level * width) ' ')

mutual

/-- A value at a level of nesting, of integers and nestings within the limits of the reader. -/
def writeAt (style : Style) (level : Nat) : Json → Text
  | .null => "null"
  | .bool value => if value then "true" else "false"
  | .int value => Text.ofInt value
  | .real value => Number.shortestText Number.jsonLayout value
  | .str value => writeString style.ascii value
  | .arr [] => "[]"
  | .arr (first :: rest) =>
    "[" ++ lineBreak style (level + 1) ++ writeAt style (level + 1) first ++
      writeItems style (level + 1) rest ++ lineBreak style level ++ "]"
  | .obj [] => "\x7b\x7d"
  | .obj ((key, value) :: rest) =>
    "\x7b" ++ lineBreak style (level + 1) ++ writeString style.ascii key ++
      style.keySeparator ++ writeAt style (level + 1) value ++
      writeMembers style (level + 1) rest ++ lineBreak style level ++ "\x7d"

/-- The items behind the first one. -/
def writeItems (style : Style) (level : Nat) : List Json → Text
  | [] => []
  | item :: rest =>
    style.itemSeparator ++ lineBreak style level ++ writeAt style level item ++
      writeItems style level rest

/-- The members behind the first one. -/
def writeMembers (style : Style) (level : Nat) : List (Text × Json) → Text
  | [] => []
  | (key, value) :: rest =>
    style.itemSeparator ++ lineBreak style level ++ writeString style.ascii key ++
      style.keySeparator ++ writeAt style level value ++
      writeMembers style level rest

end

/-- The text of a value within the limits of the reader. -/
def write (style : Style) (value : Json) : Text := writeAt style 0 value

end SiteBuild.Json
