import SiteBuild.Domain.Name
import SiteBuild.Server.Address.Error
import SiteBuild.Text.Decimal
import SiteBuild.Url.Host
import SiteBuild.Url.Percent

/-!
# Hosts and ports of addresses

Where an address leads. A host is an IPv4 address, an IPv6 address in brackets, a name of ASCII, or
a domain name to be encoded; what looks like an address has to be one. A port is an integer, and
the usual port of a scheme is left out.
-/
namespace SiteBuild.Server

/-- The runs of digits of a host, one character between two of them. -/
def digitRuns (host : Text) : List Text :=
  Text.splitAt (.scalar '.') (host.map fun point => if point.isDigit then point else .scalar '.')

/-- Whether a host looks like an IPv4 address: four runs of digits with one character between two
of them. That may be a digit as well, so that a run gives one more for every two digits behind its
first one. -/
def looksLikeIPv4 (host : Text) : Bool :=
  let runs := digitRuns host
  let spare := (runs.map fun run => (run.length - 1) / 2).foldl (· + ·) 0
  runs.all (!·.isEmpty) && runs.length ≤ 4 && 4 ≤ runs.length + spare

/-- Whether a host stands in brackets. -/
def isBracketed (host : Text) : Bool :=
  Text.startsWith "[" host && Text.endsWith "]" host && 2 ≤ host.length

/-- The marks that stand in a host of ASCII as they are. -/
def hostMarks : String := "!$&'()*+,;=\x22\x60\x7b\x7d%|\\"

/-- A text with escapes, the given marks standing as they are. -/
def escapedPart (marks : String) (part : Text) : Except AddressError Text :=
  (Url.escaped marks part).mapError fun _ => .unencodable

/-- A host as it is sent, brackets apart. -/
def readHost (host : Text) : Except AddressError Text :=
  if looksLikeIPv4 host then
    if Url.isIPv4 host then .ok host else .error (.badIPv4 host)
  else if isBracketed host then
    let inside := (host.drop 1).dropLast
    if Url.isIPv6 inside then .ok inside else .error (.badIPv6 host)
  else if host.all Domain.isAscii then escapedPart hostMarks (Text.lower host)
  else (Domain.encodeName (Text.lower host)).mapError fun _ => .badName host

/-- The usual ports of schemes. -/
def usualPorts : List (Text × Int) :=
  [("ftp", 21), ("http", 80), ("https", 443), ("ws", 80), ("wss", 443)]

/-- A port that is not the usual one of its scheme. -/
def readPort (scheme port : Text) : Except AddressError (Option Int) :=
  if port.isEmpty then .ok none
  else
    match Text.readInteger? port with
    | none => .error (.badPort port)
    | some number => .ok (if usualPorts.contains (scheme, number) then none else some number)

end SiteBuild.Server
