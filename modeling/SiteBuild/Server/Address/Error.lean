import SiteBuild.Domain.Label
import SiteBuild.Text.Quoted

/-!
# Refused addresses

Why an address cannot be asked for, and what is said about it.
-/
namespace SiteBuild.Server

/-- A part of an address. -/
inductive AddressPart where
  /-- The path. -/
  | path
  /-- What is behind the question mark. -/
  | query
  /-- What is behind the number sign. -/
  | fragment
  deriving DecidableEq, Repr

/-- The name of a part. -/
def AddressPart.name : AddressPart → Text
  | .path => "path"
  | .query => "query"
  | .fragment => "fragment"

/-- Why an address is refused. -/
inductive AddressError where
  /-- It is too long. -/
  | tooLong
  /-- It holds a control character at a place. -/
  | control (point : CodePoint) (place : Nat)
  /-- A part of it is too long. -/
  | longPart (part : AddressPart)
  /-- A part of it holds a control character at a place. -/
  | controlInPart (part : AddressPart) (point : CodePoint) (place : Nat)
  /-- Its host looks like an IPv4 address and is none. -/
  | badIPv4 (host : Text)
  /-- Its host stands in brackets and is no IPv6 address. -/
  | badIPv6 (host : Text)
  /-- Its host is no domain name. -/
  | badName (host : Text)
  /-- Its port is no number. -/
  | badPort (port : Text)
  /-- It has only a path, and the path opens with two slashes. -/
  | opensWithSlashes
  /-- It has only a path, and the path opens with a colon. -/
  | opensWithColon
  /-- It holds what cannot be sent. -/
  | unencodable
  /-- A label of its encoded host is refused. -/
  | badLabel (fault : Domain.LabelFault)
  /-- It leads to an address that is refused. -/
  | badLocation (error : AddressError)
  deriving DecidableEq, Repr

namespace AddressError

/-- The name of an error. -/
def label : AddressError → String
  | .unencodable => "UnicodeEncodeError"
  | .badLabel fault => fault.label
  | .badLocation _ => "RemoteProtocolError"
  | _ => "InvalidURL"

/-- The message about an address that is refused. None is told about texts that cannot be sent. -/
def message : AddressError → Text
  | .tooLong => "URL too long"
  | .control point place =>
    "Invalid non-printable ASCII character in URL, " ++ Text.quoted [point] ++ " at position " ++
      Text.ofNat place ++ "."
  | .longPart part => "URL component '" ++ part.name ++ "' too long"
  | .controlInPart part point place =>
    "Invalid non-printable ASCII character in URL " ++ part.name ++ " component, " ++
      Text.quoted [point] ++ " at position " ++ Text.ofNat place ++ "."
  | .badIPv4 host => "Invalid IPv4 address: " ++ Text.quoted host
  | .badIPv6 host => "Invalid IPv6 address: " ++ Text.quoted host
  | .badName host => "Invalid IDNA hostname: " ++ Text.quoted host
  | .badPort port => "Invalid port: " ++ Text.quoted port
  | .opensWithSlashes => "Relative URLs cannot have a path starting with '//'"
  | .opensWithColon => "Relative URLs cannot have a path starting with ':'"
  | .unencodable | .badLabel _ => []
  | .badLocation error => "Invalid URL in location header: " ++ error.message ++ "."

end AddressError

/-- The greatest length of an address, and of each of its parts. -/
def greatestLength : Nat := 65536

/-- Whether a code point is a control character of ASCII. -/
def isControl (point : CodePoint) : Bool := point.value < 0x20 || point.value == 0x7F

/-- The first control character of a text, and its place. -/
def control? (text : Text) : Option (CodePoint × Nat) :=
  text.zipIdx.find? fun entry => isControl entry.1

/-- Refuse an address that is too long or holds a control character. -/
def checkPoints (address : Text) : Except AddressError Unit :=
  if greatestLength < address.length then .error .tooLong
  else
    match control? address with
    | some (point, place) => .error (.control point place)
    | none => .ok ()

/-- Refuse a part that is too long. -/
def checkLength (part : AddressPart) (text : Text) : Except AddressError Unit :=
  if greatestLength < text.length then .error (.longPart part) else .ok ()

end SiteBuild.Server
