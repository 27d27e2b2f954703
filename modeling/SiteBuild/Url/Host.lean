import SiteBuild.Text.Quoted
import SiteBuild.Text.Search

/-!
# Hosts of URLs

Which hosts may stand in brackets, and which characters of an authority would turn into a mark
of the URL's grammar under compatibility normalization.
-/
namespace SiteBuild.Url

/-- What is wrong with a URL. -/
inductive UrlError where
  /-- The brackets around an address are not two, or do not enclose the whole host. -/
  | misplacedBrackets
  /-- An address that claims a later version and is not formed like one. -/
  | badFutureAddress
  /-- An address of version four in brackets. -/
  | bracketedIPv4
  /-- The host in brackets is no address. -/
  | noAddress (host : Text)
  /-- A character of the authority turns into a mark of the grammar. -/
  | disguisedMark (authority : Text)
  deriving DecidableEq, Repr

/-- The message of an error. -/
def UrlError.message : UrlError → Text
  | .misplacedBrackets => "Invalid IPv6 URL"
  | .badFutureAddress => "IPvFuture address is invalid"
  | .bracketedIPv4 => "An IPv4 address cannot be in brackets"
  | .noAddress host =>
    Text.quoted host ++ " does not appear to be an IPv4 or IPv6 address"
  | .disguisedMark authority =>
    "netloc '" ++ authority ++ "' contains invalid characters under NFKC normalization"

/-- Whether a text is one of the four numbers of an IPv4 address: no zeros in front, at most
255. -/
def isOctet (part : Text) : Bool :=
  !part.isEmpty && part.all CodePoint.isDigit && part.length ≤ 3 &&
    (part == "0" || part.head? != some (.scalar '0')) && Text.digitsValue part ≤ 255

/-- Whether a text is an IPv4 address. -/
def isIPv4 (host : Text) : Bool :=
  let parts := Text.splitAt (.scalar '.') host
  parts.length == 4 && parts.all isOctet

/-- Whether a code point is a hexadecimal digit. -/
def isHexDigit (point : CodePoint) : Bool :=
  point.satisfies fun char =>
    char.isDigit || ('a' ≤ char && char ≤ 'f') || ('A' ≤ char && char ≤ 'F')

/-- Whether a text is a group of an IPv6 address. -/
def isHextet (part : Text) : Bool :=
  !part.isEmpty && part.length ≤ 4 && part.all isHexDigit

/-- The groups of an IPv6 address, an IPv4 address at the end counting as two groups. -/
def ipv6Groups? (address : Text) : Option (List Text) :=
  let parts := Text.splitAt (.scalar ':') address
  if parts.length < 3 then none
  else
    let last := parts.getLastD []
    if last.contains (.scalar '.') then
      if isIPv4 last then some (parts.dropLast ++ (["0", "0"] : List Text)) else none
    else some parts

/-- Whether groups that hold an empty one inside make up an address: that one stands for at
least one group of zeros, and no other is empty but the one next to it at an end. -/
def isShortened (before after : List Text) : Bool :=
  let ends (side : List Text) (outer : Option (Text)) : Option (List Text) :=
    if outer == some [] then if side.length == 1 then some [] else none else some side
  match ends before before.head?, ends after after.getLast? with
  | some high, some low => high.length + low.length < 8 && (high ++ low).all isHextet
  | _, _ => false

/-- Whether groups make up an IPv6 address. -/
def areIPv6Groups (groups : List Text) : Bool :=
  let inner := (groups.drop 1).dropLast
  if 9 < groups.length then false
  else
    match inner.findIdx? List.isEmpty with
    | some index =>
      inner.countP List.isEmpty == 1 &&
        isShortened (groups.take (index + 1)) (groups.drop (index + 2))
    | none => groups.length == 8 && groups.all isHextet

/-- Whether a text is an IPv6 address, a zone behind a percent sign included. -/
def isIPv6 (host : Text) : Bool :=
  let address := Text.before '%' host
  let zoned := Text.startingAt '%' host
  let goodZone := zoned.isEmpty || (1 < zoned.length && !(zoned.drop 1).contains (.scalar '%'))
  goodZone && !host.contains (.scalar '/') && (ipv6Groups? address).any areIPv6Groups

/-- Whether a text is an address of a later version: `v`, hexadecimal digits, a point and
something behind it. -/
def isFutureAddress (host : Text) : Bool :=
  match host with
  | .scalar 'v' :: rest =>
    !(rest.takeWhile isHexDigit).isEmpty &&
      match rest.dropWhile isHexDigit with
      | .scalar '.' :: behind => !behind.isEmpty
      | _ => false
  | _ => false

/-- Check the host that stands in brackets. -/
def checkBracketed (host : Text) : Except UrlError Unit :=
  if Text.startsWith "v" host then
    if isFutureAddress host then .ok () else .error .badFutureAddress
  else if isIPv4 host then .error .bracketedIPv4
  else if isIPv6 host then .ok ()
  else .error (.noAddress host)

/-- The characters that compatibility normalization turns into a text with one of the marks that
divide a URL. -/
def disguisedMarks : List Nat :=
  [0x2047, 0x2048, 0x2049, 0x2100, 0x2101, 0x2105, 0x2106, 0x2A74, 0xFE13, 0xFE16, 0xFE55, 0xFE56,
    0xFE5F, 0xFE6B, 0xFF03, 0xFF0F, 0xFF1A, 0xFF1F, 0xFF20]

/-- The host and the port of an authority: what stands behind the last sign of a user. -/
def hostAndPort (authority : Text) : Text := Text.behindLast '@' authority

/-- The host of an authority with brackets: all that they enclose, or without an opening one all
before the port. -/
def bracketedHost (authority : Text) : Except UrlError Text :=
  let whole := hostAndPort authority
  if !whole.contains (.scalar '[') then .ok (Text.before ':' whole)
  else
    let inside := Text.behind '[' whole
    let port := Text.behind ']' inside
    if !Text.startsWith "[" whole then .error .misplacedBrackets
    else if !port.isEmpty && !Text.startsWith ":" port then .error .misplacedBrackets
    else .ok (Text.before ']' inside)

/-- Check the brackets of an authority. -/
def checkBrackets (authority : Text) : Except UrlError Unit :=
  match authority.contains (.scalar '['), authority.contains (.scalar ']') with
  | true, true => do checkBracketed (← bracketedHost authority)
  | false, false => .ok ()
  | _, _ => .error .misplacedBrackets

/-- Check the characters of an authority. -/
def checkMarks (authority : Text) : Except UrlError Unit :=
  if authority.any fun point => disguisedMarks.contains point.value then
    .error (.disguisedMark authority)
  else .ok ()

end SiteBuild.Url
