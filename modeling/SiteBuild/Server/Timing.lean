import SiteBuild.Number.Notation
import SiteBuild.Server.Response

/-!
# Timed responses

Every response tells how long it took, and the times are summed up. A request that ends in a
failure is counted apart and has no time. Times are kept as exact as the clock: whole readings give
whole times, and only the sum is a binary64 number.
-/
namespace SiteBuild.Server

/-- The name that responses tell. -/
def serverName : Text := "pagesmith"

/-- A reading of a clock, or a time between two. -/
inductive Duration where
  /-- A whole number of units. -/
  | whole (count : Int)
  /-- A number with a fraction. -/
  | real (count : Binary64)
  deriving DecidableEq, Repr

namespace Duration

/-- The number of units, unless it is beyond all finite numbers. -/
def toReal? : Duration → Option Binary64
  | .whole count => Binary64.ofInt? count
  | .real count => some count

/-- The milliseconds between two readings in seconds. -/
def elapsed? (start stop : Duration) : Option Duration :=
  match start, stop with
  | .whole start, .whole stop => some (.whole ((stop - start) * 1000))
  | _, _ => do
    let start ← start.toReal?
    let stop ← stop.toReal?
    return .real ((stop - start) * Binary64.ofDecimal false 1000 0)

end Duration

/-- How a request ends. -/
inductive Outcome where
  /-- With a response. -/
  | responds (response : Response)
  /-- With a failure of what answers it. -/
  | fails
  /-- With a failure before anything can answer it. -/
  | unclear
  deriving DecidableEq, Repr

/-- What was counted of responses. -/
structure Timing where
  /-- The number of responses. -/
  processed : Nat := 0
  /-- The time they took, in milliseconds. -/
  total : Binary64 := .ofMagnitude false 0
  /-- The number of failures. -/
  errors : Nat := 0
  deriving Repr

namespace Timing

/-- The average time of the responses. -/
def average (timing : Timing) : Binary64 :=
  if timing.processed = 0 then .ofMagnitude false 0
  else timing.total / Binary64.ofDecimal false timing.processed 0

/-- Send a response that took a time. A time beyond all finite numbers and a name that is no header
end in an unexpected failure, but the response is counted. -/
def send (timing : Timing) (name : Text) (time : Duration) (response : Response) :
    Response × Timing :=
  let counted := { timing with processed := timing.processed + 1 }
  match time.toReal? with
  | none => (.unexpected, counted)
  | some milliseconds =>
    let summed := { counted with total := counted.total + milliseconds }
    match sentHeader? name with
    | none => (.unexpected, summed)
    | some server =>
      let shown : Text := Number.fixedText 2 milliseconds ++ "ms"
      ({ response with server := some server, time := some shown }, summed)

/-- Send a response between two readings of the clock. -/
def finish (timing : Timing) (name : Text) (start stop : Duration) (response : Response) :
    Response × Timing :=
  match Duration.elapsed? start stop with
  | some time => timing.send name time response
  | none => (.unexpected, timing)

/-- Count a failure. -/
def fail (timing : Timing) : Response × Timing :=
  (.unexpected, { timing with errors := timing.errors + 1 })

/-- Handle a request, with the readings of the clock still to come. A clock without a reading fails
the request, and so does an address that is not clear; neither is counted. -/
def handle (timing : Timing) (name : Text) (clock : List Duration) (outcome : Outcome) :
    Response × Timing × List Duration :=
  match clock, outcome with
  | [], _ => (.unexpected, timing, [])
  | _ :: rest, .unclear => (.unexpected, timing, rest)
  | _ :: rest, .fails =>
    let (failed, counted) := timing.fail
    (failed, counted, rest)
  | [_], .responds _ => (.unexpected, timing, [])
  | start :: stop :: rest, .responds response =>
    let (sent, counted) := timing.finish name start stop response
    (sent, counted, rest)

end Timing
end SiteBuild.Server
