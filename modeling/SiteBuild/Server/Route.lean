import SiteBuild.Server.Target

/-!
# Routes

Where an address leads on a server. A path leads to the endpoint of its name; slashes too many at
its end lead there in a second step. The server fails on a URL that it cannot split.
-/
namespace SiteBuild.Server

/-- Where an address leads. -/
inductive Route (Endpoint : Type) where
  /-- To an endpoint. -/
  | leads (endpoint : Endpoint)
  /-- To an endpoint, in a second step. -/
  | redirects
  /-- To no endpoint. -/
  | nowhere
  /-- To a failure: the server cannot split the URL. -/
  | unclear
  deriving DecidableEq, Repr

variable {Endpoint : Type}

/-- The endpoint that a path names, a line feed at its end aside. -/
def endpointAt? (names : List (Text × Endpoint)) (path : Text) : Option Endpoint :=
  (names.find? fun entry => entry.1 == path || entry.1 ++ "\n" == path).map Prod.snd

namespace Route

/-- Where a path leads. -/
def ofPath (names : List (Text × Endpoint)) (path : Text) : Route Endpoint :=
  match endpointAt? names path with
  | some endpoint => .leads endpoint
  | none =>
    if (endpointAt? names (Text.withoutEnd '/' path)).isSome then .redirects else .nowhere

/-- Where a target leads. -/
def ofTarget (names : List (Text × Endpoint)) (target : Target) : Route Endpoint :=
  if target.isClear then ofPath names target.seenPath else .unclear

/-- Where an address leads. The address of a second step must be one. -/
def ofAddress (names : List (Text × Endpoint)) (address : Text) :
    Except AddressError (Route Endpoint) := do
  let target ← Target.ofText address
  let route := ofTarget names target
  if let .redirects := route then
    target.checkLocation (Text.withoutEnd '/' target.seenPath)
  return route

end Route
end SiteBuild.Server
