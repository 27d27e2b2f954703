import SiteBuild.Failure

/-!
# Fetched modules

The texts of remote modules, by address, for as long as the builder runs. A response that is no
success and a request without a response are failures and leave no entry. Callers who ask for
the same missing address at the same time each send a request.
-/
namespace SiteBuild.Module

/-- A response of another server. -/
structure Response where
  /-- Its status. -/
  status : Int
  /-- Its text. -/
  text : Text
  deriving Repr

/-- Why a request has no response. -/
inductive NoResponse where
  /-- The way to the server failed. -/
  | transport (text : Text)
  /-- The request failed otherwise. -/
  | otherwise (failure : Failure)
  deriving Repr

/-- The phrases of the statuses that have one. -/
def reasonPhrases : List (Int × String) :=
  [(100, "Continue"), (101, "Switching Protocols"), (102, "Processing"), (103, "Early Hints"),
    (200, "OK"), (201, "Created"), (202, "Accepted"), (203, "Non-Authoritative Information"),
    (204, "No Content"), (205, "Reset Content"), (206, "Partial Content"), (207, "Multi-Status"),
    (208, "Already Reported"), (226, "IM Used"), (300, "Multiple Choices"),
    (301, "Moved Permanently"), (302, "Found"), (303, "See Other"), (304, "Not Modified"),
    (305, "Use Proxy"), (307, "Temporary Redirect"), (308, "Permanent Redirect"),
    (400, "Bad Request"), (401, "Unauthorized"), (402, "Payment Required"), (403, "Forbidden"),
    (404, "Not Found"), (405, "Method Not Allowed"), (406, "Not Acceptable"),
    (407, "Proxy Authentication Required"), (408, "Request Timeout"), (409, "Conflict"),
    (410, "Gone"), (411, "Length Required"), (412, "Precondition Failed"),
    (413, "Request Entity Too Large"), (414, "Request-URI Too Long"),
    (415, "Unsupported Media Type"), (416, "Requested Range Not Satisfiable"),
    (417, "Expectation Failed"), (418, "I'm a teapot"), (421, "Misdirected Request"),
    (422, "Unprocessable Entity"), (423, "Locked"), (424, "Failed Dependency"),
    (425, "Too Early"), (426, "Upgrade Required"), (428, "Precondition Required"),
    (429, "Too Many Requests"), (431, "Request Header Fields Too Large"),
    (451, "Unavailable For Legal Reasons"), (500, "Internal Server Error"),
    (501, "Not Implemented"), (502, "Bad Gateway"), (503, "Service Unavailable"),
    (504, "Gateway Timeout"), (505, "HTTP Version Not Supported"),
    (506, "Variant Also Negotiates"), (507, "Insufficient Storage"), (508, "Loop Detected"),
    (510, "Not Extended"), (511, "Network Authentication Required")]

/-- The phrase of a status; most numbers have none. -/
def reasonPhrase (status : Int) : Text := (reasonPhrases.lookup status).getD ""

/-- Whether a status tells success. -/
def isSuccess (status : Int) : Bool := 200 ≤ status && status ≤ 299

/-- The fetched texts. -/
structure Cache where
  /-- The texts, by address. -/
  entries : List (Text × Text) := []
  /-- The number of texts that were at hand. -/
  hits : Nat := 0
  /-- The number of requests. -/
  misses : Nat := 0
  /-- The number of requests that failed. -/
  fetchErrors : Nat := 0
  deriving Repr

/-- The error about a remote module that is not fetched. -/
def fetchError (url cause : Text) (status : Json) : BuildError :=
  { kind := .fetch
    message := .str ("Failed to fetch " ++ url ++ ": " ++ cause)
    moduleId := .str url
    statusCode := status }

namespace Cache

/-- The text of an address. -/
def find? (cache : Cache) (url : Text) : Option Text :=
  (cache.entries.find? fun entry => entry.1 == url).map Prod.snd

/-- Set the text of an address; a known address keeps its place. -/
def store (cache : Cache) (url text : Text) : Cache :=
  if (cache.find? url).isSome then
    { cache with
      entries := cache.entries.map fun entry => if entry.1 == url then (url, text) else entry }
  else { cache with entries := cache.entries ++ [(url, text)] }

/-- Look for the text of an address. -/
def lookUp (cache : Cache) (url : Text) : Option Text × Cache :=
  match cache.find? url with
  | some text => (some text, { cache with hits := cache.hits + 1 })
  | none => (none, { cache with misses := cache.misses + 1 })

/-- Take in what came of a request. -/
def receive (cache : Cache) (url : Text) (reply : Except NoResponse Response) :
    Except Failure Text × Cache :=
  let failed := { cache with fetchErrors := cache.fetchErrors + 1 }
  match reply with
  | .error (.transport text) => (.error (.build (fetchError url text .null)), failed)
  | .error (.otherwise failure) => (.error failure, cache)
  | .ok response =>
    if isSuccess response.status then (.ok response.text, cache.store url response.text)
    else
      let cause := Text.ofInt response.status ++ " " ++ reasonPhrase response.status
      (.error (.build (fetchError url cause (.int response.status))), failed)

/-- Forget all texts. -/
def clear (cache : Cache) : Cache := { cache with entries := [] }

/-- The number of bytes of all texts, if each of them has bytes. -/
def totalSize (cache : Cache) : Except Failure Nat :=
  let sizes := cache.entries.mapM fun entry => Text.encodedSize entry.2
  (sizes.map fun numbers => numbers.foldl (· + ·) 0).mapError .unencodable

variable {m : Type → Type} [Monad m]

/-- The text of an address, from the entries or by a request. -/
def fetch (request : Text → m (Except NoResponse Response)) (cache : Cache) (url : Text) :
    m (Except Failure Text × Cache) :=
  match cache.lookUp url with
  | (some text, next) => pure (.ok text, next)
  | (none, next) => do return next.receive url (← request url)

/-- Send the requests for addresses that are not at hand, one after the other. -/
def sendAll (request : Text → m (Except NoResponse Response)) (cache : Cache) :
    List Text → m (List (Text × (Text ⊕ Except NoResponse Response)) × Cache)
  | [] => pure ([], cache)
  | url :: rest => do
    let (found, next) := cache.lookUp url
    let first ←
      match found with
      | some text => pure (Sum.inl text)
      | none => do pure (Sum.inr (← request url))
    let (others, last) ← sendAll request next rest
    return ((url, first) :: others, last)

/-- Take in what came of requests, one after the other. -/
def receiveAll (cache : Cache) :
    List (Text × (Text ⊕ Except NoResponse Response)) → List (Except Failure Text) × Cache
  | [] => ([], cache)
  | (_, .inl text) :: rest =>
    let (others, last) := receiveAll cache rest
    (.ok text :: others, last)
  | (url, .inr reply) :: rest =>
    let (first, next) := cache.receive url reply
    let (others, last) := receiveAll next rest
    (first :: others, last)

/-- The texts of addresses that are asked for at the same time: all requests are sent before the
first response comes, and the responses come in the same order. -/
def gather (request : Text → m (Except NoResponse Response)) (cache : Cache)
    (urls : List Text) : m (List (Except Failure Text) × Cache) := do
  let (sent, next) ← sendAll request cache urls
  return receiveAll next sent

end Cache
end SiteBuild.Module
