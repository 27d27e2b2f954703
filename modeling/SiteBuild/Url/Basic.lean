import SiteBuild.Url.Host

/-!
# URLs

A URL is split into scheme, authority, path, parameters, query and fragment, and put together
again; an empty part and an absent one are the same. A relative reference is joined to a base
by merging the paths and removing the dot segments. Only schemes whose URLs have a hierarchy of
paths take part in joining.
-/
namespace SiteBuild

/-- The parts of a URL. -/
structure Url where
  /-- The part before the first colon. -/
  scheme : Text
  /-- The part behind two slashes. -/
  authority : Text
  /-- The path without its parameters. -/
  path : Text
  /-- The part behind a semicolon of the last segment. -/
  parameters : Text
  /-- The part behind a question mark. -/
  query : Text
  /-- The part behind a number sign. -/
  fragment : Text
  deriving DecidableEq, Repr

namespace Url

/-- The schemes in which references are relative to a base. -/
def relativeSchemes : List Text :=
  ["", "ftp", "http", "gopher", "nntp", "imap", "wais", "file", "https", "shttp", "mms",
    "prospero", "rtsp", "rtspu", "sftp", "svn", "svn+ssh", "ws", "wss"]

/-- The schemes that have an authority. -/
def authoritySchemes : List Text :=
  ["", "ftp", "http", "gopher", "nntp", "telnet", "imap", "wais", "file", "mms", "https", "shttp",
    "snews", "prospero", "rtsp", "rtspu", "rsync", "svn", "svn+ssh", "sftp", "nfs", "git",
    "git+ssh", "ws", "wss"]

/-- The schemes whose paths have parameters. -/
def parameterSchemes : List Text :=
  ["", "ftp", "hdl", "prospero", "http", "imap", "https", "shttp", "rtsp", "rtspu", "sip", "sips",
    "mms", "sftp", "tel"]

/-- Whether a code point may stand in a scheme. -/
def isSchemePoint (point : CodePoint) : Bool :=
  point.satisfies fun char => char.isAlphanum || char == '+' || char == '-' || char == '.'

/-- A code point of a scheme in lower case. -/
def lowerSchemePoint (point : CodePoint) : CodePoint := point.toChar.toLower

/-- The text without control characters and blanks at its start and without tabs and line breaks
anywhere. -/
def cleaned (text : Text) : Text :=
  Text.without ['\t', '\n', '\r'] (text.dropWhile fun point => point.value ≤ 0x20)

/-- The scheme in lower case, if there is one, and the text behind its colon. -/
def splitScheme (text : Text) : Option (Text) × Text :=
  let scheme := Text.before ':' text
  let opensWithLetter := scheme.head?.any fun point => point.satisfies Char.isAlpha
  if text.contains (.scalar ':') && opensWithLetter && scheme.all isSchemePoint then
    (some (scheme.map lowerSchemePoint), text.drop (scheme.length + 1))
  else (none, text)

/-- Whether a code point ends an authority. -/
def endsAuthority (point : CodePoint) : Bool := point == '/' || point == '?' || point == '#'

/-- The authority behind two slashes, and the rest. -/
def splitAuthority : Text → Text × Text
  | .scalar '/' :: .scalar '/' :: rest =>
    (rest.takeWhile (!endsAuthority ·), rest.dropWhile (!endsAuthority ·))
  | text => ([], text)

/-- The path without the parameters of its last segment, and these. -/
def splitParameters (path : Text) : Text × Text :=
  let segment := Text.behindLast '/' path
  let directory := path.take (path.length - segment.length)
  (directory ++ Text.before ';' segment, Text.behind ';' segment)

/-- Split a URL; a URL without a scheme gets the given one. -/
def split (scheme : Text) (text : Text) : Except UrlError Url := do
  let (own, behindScheme) := splitScheme (cleaned text)
  let (authority, behindAuthority) := splitAuthority behindScheme
  checkBrackets authority
  let beforeFragment := Text.before '#' behindAuthority
  let wholePath := Text.before '?' beforeFragment
  checkMarks authority
  let scheme := own.getD scheme
  let (path, parameters) :=
    if parameterSchemes.contains scheme then splitParameters wholePath else (wholePath, [])
  return {
    scheme, authority, path, parameters
    query := Text.behind '?' beforeFragment
    fragment := Text.behind '#' behindAuthority }

/-- A mark and a part, or nothing for an empty part. -/
def marked (mark : CodePoint) (part : Text) : Text :=
  if part.isEmpty then [] else mark :: part

/-- Put the parts of a URL together. A scheme with authorities has a mark also before an empty one,
unless the path already looks like it. -/
def text (url : Url) : Text :=
  let path := url.path ++ marked ';' url.parameters
  let hasAuthority :=
    !url.authority.isEmpty ||
      (!url.scheme.isEmpty && authoritySchemes.contains url.scheme &&
        !Text.startsWith "//" path)
  let rooted := if path.isEmpty || Text.startsWith "/" path then path else "/" ++ path
  let body := if hasAuthority then "//" ++ url.authority ++ rooted else path
  let withScheme := if url.scheme.isEmpty then body else url.scheme ++ ":" ++ body
  withScheme ++ marked '?' url.query ++ marked '#' url.fragment

/-- The segments of a relative path merged with those of its base: the last segment of the base
gives way, and empty segments inside are dropped. -/
def mergeSegments (base path : Text) : List Text :=
  if Text.startsWith "/" path then Text.splitAt (.scalar '/') path
  else
    let baseSegments := Text.splitAt (.scalar '/') base
    let directory :=
      if baseSegments.getLastD [] == [] then baseSegments else baseSegments.dropLast
    let segments := directory ++ Text.splitAt (.scalar '/') path
    segments.take 1 ++ ((segments.drop 1).dropLast.filter fun segment => !segment.isEmpty) ++
      (segments.drop 1).getLast?.toList

/-- Take back one segment for each pair of dots and drop the single dots. `kept` holds the
segments kept so far, in reverse. -/
def resolveDots (kept : List Text) : List Text → List Text
  | [] => kept.reverse
  | [.scalar '.', .scalar '.'] :: rest => resolveDots (kept.drop 1) rest
  | [.scalar '.'] :: rest => resolveDots kept rest
  | segment :: rest => resolveDots (segment :: kept) rest

/-- A path without dot segments; one that ends in a dot segment is a directory. -/
def resolvePath (base path : Text) : Text :=
  let segments := mergeSegments base path
  let last := segments.getLastD []
  let kept := resolveDots [] segments
  let closed := if last == "." || last == ".." then kept ++ [[]] else kept
  let joined := Text.join "/" closed
  if joined.isEmpty then "/" else joined

/-- Join the parts of a reference to those of its base. -/
def joinParts (base reference : Url) : Url :=
  let authority :=
    if authoritySchemes.contains reference.scheme then base.authority else reference.authority
  if reference.path.isEmpty && reference.parameters.isEmpty then
    { reference with
      authority := authority
      path := base.path
      parameters := base.parameters
      query := if reference.query.isEmpty then base.query else reference.query }
  else
    { reference with authority := authority, path := resolvePath base.path reference.path }

/-- Resolve a reference against a base URL. -/
def join (base reference : Text) : Except UrlError Text := do
  if base.isEmpty then return reference
  if reference.isEmpty then return base
  let baseUrl ← split [] base
  let url ← split baseUrl.scheme reference
  if url.scheme != baseUrl.scheme || !relativeSchemes.contains url.scheme then return reference
  if authoritySchemes.contains url.scheme && !url.authority.isEmpty then return url.text
  return (joinParts baseUrl url).text

/-- The scheme and the authority of a URL. -/
def origin (url : Text) : Except UrlError Text :=
  (split [] url).map fun parts => parts.scheme ++ "://" ++ parts.authority

/-- Whether a module id is an absolute URL that can be fetched. -/
def isRemote (id : Text) : Bool :=
  Text.startsWith "http://" id || Text.startsWith "https://" id

end Url
end SiteBuild
