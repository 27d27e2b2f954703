import SiteBuild.Json.Reader
import SiteBuild.Json.Shown
import SiteBuild.Json.Writer
import SiteBuild.Text.Blank
import SiteBuild.Text.Search
import SiteBuild.Text.Utf8

/-!
# The bridge to Node.js

The tools are scripts of their own process: each takes a value as JSON on its input and prints
one on its output. Whether the runtime works is found out once, by asking for its version.
-/
namespace SiteBuild.Bridge

/-- A process that ran. -/
structure Child where
  /-- What it printed. -/
  stdout : List UInt8 := []
  /-- What it printed about errors. -/
  stderr : List UInt8 := []
  /-- Its exit code. -/
  code : Int := 0
  /-- Whether it does not end in time. -/
  hangs : Bool := false
  deriving Repr

/-- Why a process does not start. -/
structure SpawnError where
  /-- Whether the operating system refused it. -/
  bySystem : Bool
  /-- The name of the kind of the error. -/
  label : String
  /-- The text of the error. -/
  text : Text
  deriving Repr

/-- The operating system, as far as processes go. -/
structure Host (m : Type → Type) where
  /-- Start a process with its arguments, with or without an input. -/
  spawn : List Text → Bool → m (Except SpawnError Child)
  /-- Send a text to the input of the process. -/
  send : Text → m Unit
  /-- Kill the process. -/
  kill : m Unit
  /-- Wait for the end of the process. -/
  wait : m Unit

/-- Why a script gives no value. -/
inductive BridgeError where
  /-- The runtime does not work. -/
  | unavailable
  /-- The process does not start. -/
  | notStarted (cause : SpawnError)
  /-- The script did not end in time. -/
  | timedOut (script : Text) (timeout : Json)
  /-- The script ended with an error. -/
  | failed (script : Text) (code : Int) (stderr : Text)
  /-- The output is no text. -/
  | noText
  /-- The output is no JSON. -/
  | noJson (script : Text) (error : Json.ReadError)
  deriving Repr

/-- What to do if the runtime does not work. -/
def installationInstructions : Text :=
  Text.ofString <| String.intercalate "\n" [
    "Node.js is not installed or not available in PATH.",
    "",
    "The build pipeline needs Node.js 18+ with these packages resolvable from",
    "the working directory (or NODE_PATH):",
    "    npm install svelte rollup @rollup/browser postcss postcss-nested",
    "",
    "Alternative: Set PAGESMITH_NODE_CMD environment variable to point to your node binary:",
    "    export PAGESMITH_NODE_CMD=/path/to/node"
  ]

namespace BridgeError

/-- The name of the kind of an error. -/
def label : BridgeError → String
  | .unavailable => "NodeNotAvailable"
  | .notStarted cause => cause.label
  | .timedOut _ _ => "NodeScriptError"
  | .failed _ _ _ => "NodeScriptError"
  | .noText => "UnicodeDecodeError"
  | .noJson _ error =>
    match error.label with
    | "JSONDecodeError" => "NodeScriptError"
    | label => label

/-- The text of an error. -/
def text : BridgeError → Text
  | .unavailable => "Node.js is required but not available.\n\n" ++ installationInstructions
  | .notStarted cause => cause.text
  | .timedOut script timeout => script ++ " timed out after " ++ timeout.shown ++ " seconds"
  | .failed script code stderr =>
    let told : Text := if stderr.isEmpty then "No stderr" else stderr
    script ++ " failed (code " ++ Text.ofInt code ++ ")\nStderr: " ++ told
  | .noText => "invalid UTF-8"
  | .noJson script error =>
    match error.problem with
    | .longInteger _ | .tooDeep _ => error.message
    | _ => script ++ " returned invalid JSON: " ++ error.message

end BridgeError

/-- The runtime: its command, the time that scripts have, and what is known of it. -/
structure Runtime where
  /-- The command, once it is known. -/
  command : Option Text := none
  /-- The seconds that a script has. -/
  timeout : Json := .int 30
  /-- Whether the runtime works, once it is known. -/
  available : Option Bool := none
  /-- The version, if the runtime works. -/
  version : Option Text := none
  deriving Repr

/-- Where the command is looked for. -/
structure Surroundings where
  /-- The command that the environment names. -/
  environment : Option Text := none
  /-- The command that is found on the path. -/
  found : Option Text := none
  deriving Repr

namespace Runtime

/-- The first of the commands that is named: of the runtime, of the environment, on the path. -/
def commandIn (runtime : Runtime) (surroundings : Surroundings) : Text :=
  runtime.command.getD <|
    match surroundings.environment.filter fun command => !command.isEmpty with
    | some command => command
    | none => (surroundings.found.filter fun command => !command.isEmpty).getD "node"

/-- The runtime with its command settled. -/
def settled (runtime : Runtime) (surroundings : Surroundings) : Runtime :=
  { runtime with command := some (runtime.commandIn surroundings) }

/-- Whether scripts have no time at all. -/
def hasNoTime (runtime : Runtime) : Bool :=
  match runtime.timeout with
  | .real seconds => seconds.isZero || seconds.negative
  | timeout => timeout.int?.any fun seconds => seconds ≤ 0

variable {m : Type → Type} [Monad m]

/-- Kill a process that does not end. -/
def abandon (host : Host m) : m Unit := do
  host.kill
  host.wait

/-- The version that the runtime tells, if it works. Only an error that is not the system's is
handed on. -/
def askVersion (host : Host m) (command : Text) : m (Except SpawnError (Option Text)) := do
  match ← host.spawn [command, "--version"] false with
  | .error cause => return if cause.bySystem then .ok none else .error cause
  | .ok process =>
    if process.hangs then
      abandon host
      return .ok none
    if process.code != 0 then return .ok none
    return .ok (some (Text.trim (Text.decodeLossy process.stdout)))

/-- Find out whether the runtime works, unless it is known. -/
def ensureAvailable (host : Host m) (surroundings : Surroundings) (runtime : Runtime) :
    m (Except SpawnError Bool × Runtime) := do
  match runtime.available with
  | some known => return (.ok known, runtime)
  | none =>
    let settled := runtime.settled surroundings
    match ← askVersion host (runtime.commandIn surroundings) with
    | .error cause => return (.error cause, settled)
    | .ok version =>
      let known := version.isSome
      return (.ok known, { settled with available := some known, version := version })

/-- The value that a script printed. -/
def answerOf (script : Text) (process : Child) : Except BridgeError Json :=
  if process.code != 0 then
    .error (.failed script process.code (Text.decodeLossy process.stderr))
  else
    match Text.decode? process.stdout with
    | none => .error .noText
    | some output => (Json.read output).mapError (.noJson script)

/-- Let a started script answer. A script that has no time gets no input. -/
def converse (host : Host m) (runtime : Runtime) (script : Text) (payload : Json)
    (process : Child) : m (Except BridgeError Json) := do
  if !runtime.hasNoTime then host.send (payload.write .plain)
  if runtime.hasNoTime || process.hangs then
    abandon host
    return .error (.timedOut script runtime.timeout)
  return answerOf script process

/-- Run a script with a value. -/
def runScript (host : Host m) (surroundings : Surroundings) (script : Text) (payload : Json)
    (runtime : Runtime) : m (Except BridgeError Json × Runtime) := do
  match ← runtime.ensureAvailable host surroundings with
  | (.error cause, next) => return (.error (.notStarted cause), next)
  | (.ok false, next) => return (.error .unavailable, next)
  | (.ok true, next) =>
    let settled := next.settled surroundings
    match ← host.spawn [settled.commandIn surroundings, script] true with
    | .error cause => return (.error (.notStarted cause), settled)
    | .ok process => return (← converse host settled script payload process, settled)

end Runtime
end SiteBuild.Bridge
