import SiteBuild.Text.Utf8

/-!
# Responses

What the server answers: a status, a body with its type, and what the headers tell of the server
and the time. A header is sent in one byte for each character, so it holds no character beyond
U+00FF; whoever reads it takes the bytes for UTF-8 if they are so formed.
-/
namespace SiteBuild.Server

/-- A response. -/
structure Response where
  /-- Its status. -/
  status : Nat
  /-- The type of its body. -/
  contentType : Option Text := none
  /-- The name of the server, if the response tells it. -/
  server : Option Text := none
  /-- The time it took, if the response tells it. -/
  time : Option Text := none
  /-- Its body. -/
  body : Text := []
  deriving DecidableEq, Repr

namespace Response

/-- The type of plain text. -/
def plainText : Text := "text/plain; charset=utf-8"

/-- A response of plain text. -/
def plain (status : Nat) (body : Text) : Response :=
  { status := status, contentType := some plainText, body := body }

/-- The response to a request that fails unexpectedly. -/
def unexpected : Response := plain 500 "Internal Server Error"

/-- The response to a path that leads nowhere. -/
def notFound : Response := plain 404 "Not Found"

/-- The response to a method that the endpoint does not answer. -/
def notAllowed : Response := plain 405 "Method Not Allowed"

/-- The response that leads to another path. -/
def redirect : Response := { status := 307 }

/-- The response, unless its body cannot be sent. -/
def sendable? (response : Response) : Option Response :=
  if (Text.unencodable? response.body).isSome then none else some response

end Response

/-- The bytes of a header. -/
def headerBytes? (header : Text) : Option (List UInt8) :=
  header.mapM fun point =>
    if point.value < 256 then some (UInt8.ofNat point.value) else none

/-- The text that is read from the bytes of a header. -/
def readHeader (bytes : List UInt8) : Text :=
  (Text.decode? bytes).getD (bytes.map fun byte => .ofUnit byte.toNat)

/-- A header as it is read after it was sent. -/
def sentHeader? (header : Text) : Option Text := (headerBytes? header).map readHeader

end SiteBuild.Server
