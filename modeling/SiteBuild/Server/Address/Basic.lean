import SiteBuild.Server.Address.Host
import SiteBuild.Url.Basic

/-!
# Addresses

The address of a request is a whole URL or a reference below the root of the server. It is split
into its parts, each of which is put into the form that is sent: the scheme and the host in lower
case, the path without dot segments, and escapes for all that may not stand as it is.
-/
namespace SiteBuild.Server

/-- The parts of an address as they are spelled. -/
structure AddressParts where
  /-- The scheme, which may be empty. -/
  scheme : Text
  /-- The user before the host. -/
  user : Text
  /-- The host, brackets included. -/
  host : Text
  /-- The port behind the host. -/
  port : Text
  /-- The path. -/
  path : Text
  /-- What is behind the question mark, if there is one. -/
  query : Option Text
  /-- What is behind the number sign, if there is one. -/
  fragment : Option Text
  deriving DecidableEq, Repr

/-- The scheme of an address, and the text behind its colon. A colon that opens an address stands
behind an empty scheme. -/
def cutScheme : Text → Text × Text
  | .scalar ':' :: rest => ([], rest)
  | address =>
    match Url.splitScheme address with
    | (some scheme, rest) => (address.take scheme.length, rest)
    | (none, rest) => ([], rest)

/-- The host, and the text behind it. A host in brackets may hold colons. -/
def cutHost (place : Text) : Text × Text :=
  let bracketed := (place.reverse.dropWhile (· != .scalar ']')).reverse
  let host := if Text.startsWith "[" bracketed then bracketed else Text.before ':' place
  (host, place.drop host.length)

/-- The text behind a mark, if the mark is there. -/
def behindMark? (mark : CodePoint) (text : Text) : Option Text :=
  if text.contains mark then some (Text.behind mark text) else none

/-- Split an address. -/
def AddressParts.ofText (address : Text) : AddressParts :=
  let (scheme, rest) := cutScheme address
  let (authority, behindAuthority) := Url.splitAuthority rest
  let place := Text.behindLast '@' authority
  let (host, behindHost) := cutHost place
  let beforeFragment := Text.before '#' behindAuthority
  { scheme, host
    user := authority.take (authority.length - place.length - 1)
    port := if Text.startsWith ":" behindHost then behindHost.drop 1 else behindHost
    path := Text.before '?' beforeFragment
    query := behindMark? '?' beforeFragment
    fragment := behindMark? '#' behindAuthority }

/-- Refuse a path that an address has alone and that cannot be one. -/
def checkOnlyPath (path : Text) : Except AddressError Unit :=
  if Text.startsWith "//" path then .error .opensWithSlashes
  else if Text.startsWith ":" path then .error .opensWithColon
  else .ok ()

/-- The segments without dot segments. Two dots take back one segment, but never an empty one that
opens the path. `kept` holds the segments kept so far, in reverse. -/
def keepSegments (kept : List Text) : List Text → List Text
  | [] => kept.reverse
  | [.scalar '.'] :: rest => keepSegments kept rest
  | [.scalar '.', .scalar '.'] :: rest =>
    keepSegments (if kept == [[]] then kept else kept.drop 1) rest
  | segment :: rest => keepSegments (segment :: kept) rest

/-- A path without dot segments. -/
def withoutDots (path : Text) : Text :=
  Text.join "/" (keepSegments [] (Text.splitAt (.scalar '/') path))

/-- The marks that stand in a path as they are. -/
def pathMarks : String := "!$%&'()*+,/:;=@[\\]^|"

/-- The marks that stand in a query as they are. -/
def queryMarks : String := "!$%&'()*+,/:;=?@[\\]^\x60\x7b|\x7d"

/-- The marks that stand in a fragment as they are. -/
def fragmentMarks : String := "!#$%&'()*+,/:;=?@[\\]^\x7b|\x7d"

/-- An address in the form that is sent. -/
structure Address where
  /-- The scheme, in lower case. -/
  scheme : Text
  /-- The host, without brackets. -/
  host : Text
  /-- The port, unless it is the usual one. -/
  port : Option Int
  /-- The path, with escapes. -/
  path : Text
  /-- The query, with escapes. -/
  query : Option Text
  /-- The fragment, with escapes. -/
  fragment : Option Text
  deriving DecidableEq, Repr

/-- The address of a text. -/
def Address.ofText (text : Text) : Except AddressError Address := do
  checkPoints text
  let parts := AddressParts.ofText text
  let user ← escapedPart "" parts.user
  let host ← readHost parts.host
  let port ← readPort parts.scheme parts.port
  let hasOnlyPath := parts.scheme.isEmpty && user.isEmpty && host.isEmpty && port.isNone
  if hasOnlyPath then checkOnlyPath parts.path
  let path ← escapedPart pathMarks (if hasOnlyPath then parts.path else withoutDots parts.path)
  let query ← parts.query.mapM (escapedPart queryMarks)
  let fragment ← parts.fragment.mapM (escapedPart fragmentMarks)
  return { scheme := Text.lower parts.scheme, host, port, path, query, fragment }

/-- The host and the port of an address. -/
def Address.place (address : Address) : Text :=
  let host :=
    if address.host.contains (.scalar ':') then "[" ++ address.host ++ "]" else address.host
  let port := (address.port.map fun port => .scalar ':' :: Text.ofInt port).getD []
  host ++ port

/-- Whether an address tells itself where to go. -/
def Address.isWhole (address : Address) : Bool :=
  !address.scheme.isEmpty && !address.host.isEmpty

end SiteBuild.Server
