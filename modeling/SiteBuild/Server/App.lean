import SiteBuild.Publish
import SiteBuild.Server.Route
import SiteBuild.Server.Timing
import SiteBuild.Text.Encoding
import SiteBuild.Worker

/-!
# The build server

Builds and pages over HTTP. A build goes through the worker and comes back with its message, if
it has one; a page comes back as a document. A request that is not understood is refused with the
reason.
-/
namespace SiteBuild.Server

/-- The worker of a server. -/
abbrev BuildWorker := Worker Build.Request (Except Failure Build.Result)

/-- The server: its builds, its worker and what its builds left. -/
structure State where
  /-- The worker. -/
  worker : BuildWorker
  /-- What builds left. -/
  session : Build.Session := {}

/-- A server at work. -/
def State.start (hands : Int) (session : Build.Session) : State :=
  { worker := (Worker.withHands hands).start, session := session }

/-- What a request is about. -/
inductive Endpoint where
  /-- A build. -/
  | build
  /-- A page. -/
  | publish
  /-- How the server is doing. -/
  | health
  deriving DecidableEq, Repr

/-- The endpoints by their paths. -/
def endpoints : List (Text × Endpoint) :=
  [("/build", .build), ("/publish", .publish), ("/health", .health)]

/-- The methods that an endpoint answers. -/
def Endpoint.methods : Endpoint → List Text
  | .build => ["POST"]
  | .publish => ["POST"]
  | .health => ["GET", "HEAD"]

/-- The letters beyond ASCII whose capitals are letters of ASCII. -/
def ligatureCapitals : List (Nat × Text) :=
  [(0xDF, "SS"), (0x131, "I"), (0x17F, "S"), (0xFB00, "FF"), (0xFB01, "FI"), (0xFB02, "FL"),
    (0xFB03, "FFI"), (0xFB04, "FFL"), (0xFB05, "ST"), (0xFB06, "ST")]

/-- The capitals of a code point, as far as a method is told by them. -/
def capitals (point : CodePoint) : Text :=
  (ligatureCapitals.lookup point.value).getD [point.toChar.toUpper]

/-- A request. -/
structure Request where
  /-- The method, in upper case. -/
  method : Text
  /-- Where its address leads. -/
  route : Route Endpoint
  /-- The body. -/
  body : List UInt8
  deriving Repr

/-- The request with a method and a body to an address. -/
def Request.ofAddress (method address : Text) (body : List UInt8) :
    Except AddressError Request :=
  (Route.ofAddress endpoints address).map fun route =>
    { method := method.flatMap capitals, route := route, body := body }

/-- A response of JSON. -/
def jsonResponse (status : Nat) (value : Json) : Response :=
  { status := status
    contentType := some "application/json"
    body := value.write .compact }

/-- A response that tells an error. -/
def errorResponse (status : Nat) (message : Json) : Response :=
  jsonResponse status (.obj [("error", message)])

/-- A response of markup. -/
def htmlResponse (document : Text) : Response :=
  { status := 200, contentType := some "text/html; charset=utf-8", body := document }

/-- The response to a body that is no JSON object. -/
def noObjectResponse : Response :=
  errorResponse 400 (.str "Request body must be a JSON object")

/-- The response to a request for a build that is not understood, unless it fails unexpectedly. -/
def refusal? (failure : Failure) : Option Response :=
  match failure with
  | .misuse (.noMember _ _) => none
  | .misuse _ | .badOption _ => some (errorResponse 400 (.str failure.text))
  | _ => none

/-- The response of a page, unless it fails unexpectedly. -/
def pageResponse? (result : Except Failure Text) : Option Response :=
  match result with
  | .ok document => some (htmlResponse document)
  | .error (.build error) => some (errorResponse 422 error.message)
  | .error _ => none

/-- The counts of the fetched modules. -/
def cacheJson (cache : Module.Cache) : Except Failure Json :=
  cache.totalSize.map fun size => .obj [
    ("total_entries", .int cache.entries.length),
    ("total_size_bytes", .int size),
    ("hits", .int cache.hits),
    ("misses", .int cache.misses),
    ("fetch_errors", .int cache.fetchErrors)]

/-- The counts of the flattened style sheets. -/
def stylesJson (memory : Style.Memory) : Json :=
  .obj [
    ("entries", .int memory.entries.length),
    ("hits", .int memory.hits),
    ("misses", .int memory.misses),
    ("waits", .int memory.waits)]

/-- How the server is doing, unless it cannot be told. -/
def healthResponse? (state : State) : Option Response :=
  match cacheJson state.session.cache with
  | .error _ => none
  | .ok cache => some <| jsonResponse 200 <| .obj [
      ("status", .str "healthy"),
      ("app", .str "pagesmith build server"),
      ("workers", .int state.worker.hands),
      ("module_cache", cache),
      ("style_cache", stylesJson state.session.styles)]

/-- The object of a body, or the response to a body that holds none. A body that is nested too
deeply fails unexpectedly. -/
def payloadOf (body : List UInt8) : Except (Option Response) Record :=
  match (Text.decodeDetected? body).map Json.read with
  | some (.ok (.obj payload)) => .ok payload
  | some (.error { problem := .tooDeep _, .. }) => .error none
  | _ => .error (some noObjectResponse)

variable {m : Type → Type} [Monad m]

/-- A server that answers requests over the given services. -/
structure App (m : Type → Type) where
  /-- What builds and pages rely on. -/
  services : Publish.Services (StateT Build.Session m)

/-- Build a request that is understood: it is posted and waited for. -/
def runBuild (app : App m) (request : Build.Request) (state : State) :
    m (Option Response × State) := do
  let number := state.worker.tickets.length
  let posted := state.worker.start.post request
  let perform := Build.build app.services.toServices
  let (worker, session) ← (Worker.waitFor perform posted number).run state.session
  let response? :=
    match worker.ticket? number with
    | some (.answered (.ok result)) => some (jsonResponse 200 (result.toJson))
    | _ => none
  return (response?, { state with worker := worker, session := session })

/-- Answer a request for a build. -/
def answerBuild (app : App m) (payload : Record) (state : State) :
    m (Option Response × State) :=
  match Build.Request.ofJson (.obj payload) with
  | .error failure => pure (refusal? failure, state)
  | .ok request => runBuild app request state

/-- Answer a request for a page. -/
def answerPublish (app : App m) (payload : Record) (state : State) :
    m (Option Response × State) := do
  match (Record.get payload "source").string? with
  | none => return (some (errorResponse 400 (.str "source must be a string")), state)
  | some source =>
    let page := Publish.publishFor app.services source (Record.get payload "site")
    let (result, session) ← page.run state.session
    return (pageResponse? result, { state with session := session })

/-- Answer a request at an endpoint; nothing stands for an unexpected failure. -/
def answer (app : App m) (endpoint : Endpoint) (body : List UInt8) (state : State) :
    m (Option Response × State) :=
  match endpoint, payloadOf body with
  | .health, _ => pure (healthResponse? state, state)
  | _, .error response? => pure (response?, state)
  | .build, .ok payload => answerBuild app payload state
  | .publish, .ok payload => answerPublish app payload state

/-- The response with the name of the server. A response that cannot be sent is an unexpected
failure, and an unexpected failure tells no name. -/
def named (response? : Option Response) : Response :=
  match response?.bind Response.sendable? with
  | some response => { response with server := some serverName }
  | none => .unexpected

/-- The response without its body, if only its head is asked for. -/
def withoutBody (method : Text) (response : Response) : Response :=
  if method == "HEAD" then { response with body := [] } else response

/-- Answer a request. -/
def respond (app : App m) (request : Request) (state : State) : m (Response × State) := do
  let (response?, next) ←
    match request.route with
    | .unclear => pure (none, state)
    | .nowhere => pure (some Response.notFound, state)
    | .redirects => pure (some Response.redirect, state)
    | .leads endpoint =>
      if endpoint.methods.contains request.method then answer app endpoint request.body state
      else pure (some Response.notAllowed, state)
  return (withoutBody request.method (named response?), next)

end SiteBuild.Server
