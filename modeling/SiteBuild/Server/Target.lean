import SiteBuild.Server.Address.Basic

/-!
# Targets of requests

What the server is asked for: an address that says where to go is taken as it is, and a reference
belongs below the root of the server, where its fragment does not matter. The server reads the
escapes of the path once. What it leads to next must be an address as well.
-/
namespace SiteBuild.Server

/-- What is asked for. -/
structure Target where
  /-- The scheme. -/
  scheme : Text
  /-- The host and the port. -/
  place : Text
  /-- The path, with escapes. -/
  path : Text
  /-- The query, with escapes. -/
  query : Text
  /-- The fragment, with escapes. -/
  fragment : Text
  deriving DecidableEq, Repr

namespace Target

/-- The scheme of references. -/
def usualScheme : Text := "http"

/-- The host of references. -/
def usualPlace : Text := "testserver"

/-- The target of a reference. -/
def ofReference (address : Address) : Except AddressError Target := do
  let path := "/" ++ address.path.dropWhile (· == .scalar '/')
  let query := address.query.getD []
  checkLength .path path
  checkLength .query query
  return {
    scheme := usualScheme
    place := usualPlace
    path := withoutDots path
    query := query
    fragment := [] }

/-- The target of an address that tells itself where to go. -/
def ofWhole (address : Address) : Except AddressError Target := do
  if !address.place.all Domain.isAscii then throw .unencodable
  if Text.startsWith Domain.encodedMark address.host then
    (Domain.checkEncodedName address.host).mapError .badLabel
  return {
    scheme := address.scheme
    place := address.place
    path := address.path
    query := address.query.getD []
    fragment := address.fragment.getD [] }

/-- The target of an address. -/
def ofAddress (address : Address) : Except AddressError Target :=
  if address.isWhole then ofWhole address else ofReference address

/-- The target of the text of an address. -/
def ofText (text : Text) : Except AddressError Target := do
  ofAddress (← Address.ofText text)

/-- The path that the server sees. -/
def seenPath (target : Target) : Text :=
  if target.path.isEmpty then "/" else Url.unescaped target.path

/-- The URL of the target with another path. -/
def url (target : Target) (path : Text) : Text :=
  target.scheme ++ "://" ++ target.place ++ path ++ Url.marked '?' target.query

/-- Whether the server can split the URL that it sees. -/
def isClear (target : Target) : Bool := (Url.split [] (target.url target.seenPath)).isOk

/-- The marks that stand in a location as they are. -/
def locationMarks : String := ":/%#?=@[]!$&'()*+,;"

/-- Refuse a location that is no address, or to which the fragment of the target cannot be
attached. -/
def checkLocation (target : Target) (path : Text) : Except AddressError Unit := do
  let location ← escapedPart locationMarks (target.url path)
  let _ ← (Address.ofText location).mapError .badLocation
  match control? (Url.unescaped target.fragment) with
  | some (point, place) => throw (.controlInPart .fragment point place)
  | none => return ()

end Target
end SiteBuild.Server
