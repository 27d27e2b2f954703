import SiteBuild.Text.Utf8

/-!
# Percent escapes

A text inside a URL: characters that are safe there stand as they are, every other one as the
bytes of its UTF-8 form, each a percent sign and two digits. A text with a lone surrogate has no
such form.
-/
namespace SiteBuild.Url

/-- A hexadecimal digit in upper case. -/
def upperHexDigit (digit : Nat) : Char :=
  if digit < 10 then Char.ofNat (48 + digit) else Char.ofNat (55 + digit)

/-- The escape of a byte. -/
def escapedByte (byte : UInt8) : List Char :=
  ['%', upperHexDigit (byte.toNat / 16), upperHexDigit (byte.toNat % 16)]

/-- The characters that no escape ever replaces. -/
def isUnreserved (char : Char) : Bool :=
  char.isAlphanum || char == '_' || char == '.' || char == '-' || char == '~'

/-- A byte in a URL. -/
def quotedByte (safe : List Char) (byte : UInt8) : List Char :=
  let char := Char.ofNat byte.toNat
  if byte < 128 && (isUnreserved char || safe.contains char) then [char] else escapedByte byte

/-- A text in a URL, the given ASCII characters standing as they are. -/
def escaped (safe : String) (text : Text) : Except Text.Unencodable Text :=
  (Text.encode text).map fun bytes =>
    Text.ofChars (bytes.flatMap (quotedByte safe.toList))

/-- The value of a hexadecimal digit. -/
def hexValue? (byte : UInt8) : Option Nat :=
  let number := byte.toNat
  if 48 ≤ number ∧ number ≤ 57 then some (number - 48)
  else if 65 ≤ number ∧ number ≤ 70 then some (number - 55)
  else if 97 ≤ number ∧ number ≤ 102 then some (number - 87)
  else none

/-- Bytes with the escapes among them replaced by what they stand for. -/
def unescapedBytes : List UInt8 → List UInt8
  | 0x25 :: high :: low :: rest =>
    match hexValue? high, hexValue? low with
    | some upper, some lower => UInt8.ofNat (upper * 16 + lower) :: unescapedBytes rest
    | _, _ => 0x25 :: unescapedBytes (high :: low :: rest)
  | byte :: rest => byte :: unescapedBytes rest
  | [] => []

/-- A text with its escapes replaced by what they stand for. -/
def unescaped (text : Text) : Text :=
  Text.decodeLossy (unescapedBytes (Text.toString text).toUTF8.toList)

end SiteBuild.Url
