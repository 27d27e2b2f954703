import SiteBuild.Text.Utf8

/-!
# Encodings of bytes

Bytes that hold a JSON text need not say how they are encoded: a byte order mark tells it, or
else the place of the zeros among the first bytes, since such a text starts with an ASCII
character. In units of two or four bytes a lone surrogate is read as it stands.
-/
namespace SiteBuild.Text

/-- How a text is put into bytes. -/
inductive Encoding where
  /-- One to four bytes for each character. -/
  | utf8
  /-- Units of two bytes, the greater byte first or last. -/
  | utf16 (bigEndian : Bool)
  /-- Units of four bytes, the greatest byte first or last. -/
  | utf32 (bigEndian : Bool)
  deriving DecidableEq, Repr

/-- The byte order marks, those of four bytes before those of two. -/
def byteOrderMarks : List (List UInt8 × Encoding) :=
  [([0x00, 0x00, 0xFE, 0xFF], .utf32 true), ([0xFF, 0xFE, 0x00, 0x00], .utf32 false),
    ([0xFE, 0xFF], .utf16 true), ([0xFF, 0xFE], .utf16 false), ([0xEF, 0xBB, 0xBF], .utf8)]

/-- The encoding that the zeros among the first bytes show. -/
def Encoding.ofZeros : List UInt8 → Encoding
  | 0 :: 0 :: _ :: _ :: _ => .utf32 true
  | 0 :: _ :: _ :: _ :: _ => .utf16 true
  | _ :: 0 :: 0 :: 0 :: _ => .utf32 false
  | _ :: 0 :: _ :: _ :: _ => .utf16 false
  | [0, _] => .utf16 true
  | [_, 0] => .utf16 false
  | _ => .utf8

/-- The encoding of bytes, and the bytes behind a byte order mark. -/
def Encoding.detect (bytes : List UInt8) : Encoding × List UInt8 :=
  match byteOrderMarks.find? fun mark => mark.1.isPrefixOf bytes with
  | some (mark, encoding) => (encoding, bytes.drop mark.length)
  | none => (.ofZeros bytes, bytes)

/-- The number that bytes write, the greatest byte first. -/
def bytesValue (bytes : List UInt8) : Nat :=
  bytes.foldl (fun value byte => value * 256 + byte.toNat) 0

/-- The units of two bytes. -/
def pairUnits? (bigEndian : Bool) : List UInt8 → Option (List Nat)
  | [] => some []
  | first :: second :: rest =>
    let unit := if bigEndian then [first, second] else [second, first]
    (pairUnits? bigEndian rest).map (bytesValue unit :: ·)
  | _ => none

/-- The units of four bytes. -/
def quadUnits? (bigEndian : Bool) : List UInt8 → Option (List Nat)
  | [] => some []
  | first :: second :: third :: fourth :: rest =>
    let unit :=
      if bigEndian then [first, second, third, fourth] else [fourth, third, second, first]
    (quadUnits? bigEndian rest).map (bytesValue unit :: ·)
  | _ => none

/-- The text of units of two bytes: a high surrogate joins the low one behind it. -/
def ofUnits : List Nat → Text
  | [] => []
  | [unit] => [.ofUnit unit]
  | high :: low :: rest =>
    if CodePoint.isHigh high && CodePoint.isLow low then .ofPair high low :: ofUnits rest
    else .ofUnit high :: ofUnits (low :: rest)

/-- The text of bytes, if they are formed as the encoding asks. -/
def decodeAs? (encoding : Encoding) (bytes : List UInt8) : Option Text :=
  match encoding with
  | .utf8 => decode? bytes
  | .utf16 bigEndian => (pairUnits? bigEndian bytes).map ofUnits
  | .utf32 bigEndian =>
    (quadUnits? bigEndian bytes).bind fun units => units.mapM CodePoint.ofValue?

/-- The text of bytes whose encoding is to be found out. -/
def decodeDetected? (bytes : List UInt8) : Option Text :=
  let (encoding, rest) := Encoding.detect bytes
  decodeAs? encoding rest

end SiteBuild.Text
