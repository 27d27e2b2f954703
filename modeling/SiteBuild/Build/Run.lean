import SiteBuild.Build.Request
import SiteBuild.Build.Services
import SiteBuild.Module.Loader

/-!
# Builds

A build flattens the styles of all sections and then makes the planned bundles, one after the
other. The first failure ends it: what was made before is dropped, and the result holds nothing
but the message for the author.
-/
namespace SiteBuild.Build

/-- What came of a build: bundles, or a message. -/
structure Result where
  /-- The bundle for the server. -/
  ssr : Text := []
  /-- The bundle for the browser. -/
  dom : Text := []
  /-- The message for the author. -/
  error : Text := []
  deriving DecidableEq, Repr, Inhabited

/-- Whether a build came to its end. -/
def Result.isOk (result : Result) : Bool := result.error.isEmpty

/-- A result as a value. -/
def Result.toJson (result : Result) : Json :=
  .obj [("ssr", .str result.ssr), ("dom", .str result.dom), ("error", .str result.error)]

/-- The result with the bundle of a target. -/
def Result.withBundle (result : Result) (target : Target) (code : Text) : Result :=
  match target with
  | .server => { result with ssr := code }
  | _ => { result with dom := code }

/-- A style error with the lines of the sheet around its place. Its columns count from one. -/
def framedStyleError (css : Key) (error : BuildError) : Except Misuse BuildError :=
  match error.frame, error.line.int? with
  | .null, some line => do
    let source ← css.toTextual.asText "split"
    let frame ← codeFrame source line (error.column.int?.map (· - 1))
    return { error with frame := .str frame }
  | _, _ => .ok error

/-- The message for the author of a style error. -/
def styleMessage (error : BuildError) : Text :=
  if error.frame.isEmpty then error.text else error.text ++ "\n\n" ++ error.frame.shown

variable {m : Type → Type} [Monad m]

/-- A step whose failure ends the build. -/
def step {α : Type} (action : m (Except Failure α)) : ExceptT Failure m α := action

/-- The flat form of a style sheet, which is a text or at least can be a key. -/
def flattenSheet (services : Services m) (css : Textual) : ExceptT Failure m Textual :=
  step do
    match css.toJson.asKey with
    | .error cause => return .error (.misuse cause)
    | .ok sheet =>
      match ← services.flatten sheet with
      | .ok flat => return .ok flat
      | .error error =>
        match framedStyleError sheet error with
        | .ok framed => return .error (.build framed)
        | .error cause => return .error (.misuse cause)

/-- A source with its styles flattened. -/
def flattenSource (services : Services m) (source : Page.Source) :
    ExceptT Failure m Page.Source :=
  match source with
  | .text value => pure (.text value)
  | .parts content =>
    if content.css.isEmpty then pure (.parts content)
    else do return .parts { content with css := ← flattenSheet services content.css }

/-- Sources with their styles flattened, one after the other. -/
def flattenAll (services : Services m) : List Page.Source → ExceptT Failure m (List Page.Source)
  | [] => pure []
  | source :: rest => do
    let first ← flattenSource services source
    let others ← flattenAll services rest
    return first :: others

/-- The components of a page with their styles flattened. -/
def flattenStyles (services : Services m) : Page.Sources → ExceptT Failure m Page.Sources
  | .single source => do return .single (← flattenSource services source)
  | .list sources => do return .list (← flattenAll services sources)

/-- Whether a module is a component. -/
def isComponent (id : Text) : Bool := Text.endsWith ".svelte" id

/-- The hooks of a bundle: how its modules are resolved, loaded and compiled. -/
def hooks (services : Services m) (request : Request) (files : Page.Files) (target : Target) :
    Module.Hooks m :=
  let server := target == .server
  let resolver : Module.Resolver := { hasFile := fun name => (files.find? name).isSome, server }
  let loader : Module.Loader :=
    { files, bindings := request.bindings, server, dev := !request.options.devMode.isEmpty }
  let options := request.options.compileOptions target
  { resolve := fun requested importer =>
      (resolver.resolve requested importer).mapError .badUrl
    load := loader.load fun url => step (services.fetch url)
    transform := fun code id =>
      if isComponent id then do
        let compiled ← step (services.compile code options (some id))
        return some { code := compiled.code, map := compiled.map }
      else pure none }

/-- A linked bundle, which has to be a text that has bytes. -/
def checkedBundle (code : Textual) : Except Failure Text := do
  let text ← (code.asText "encode").mapError .misuse
  let _ ← (Text.encodedSize text).mapError .unencodable
  return text

/-- The bundle of a target. -/
def bundleOf (services : Services m) (request : Request) (files : Page.Files)
    (target : Target) : ExceptT Failure m Text := do
  let options : Module.BundleOptions :=
    { format := .str Options.bundleFormat, sourcemap := .bool request.options.sourcemap }
  let code ← Module.bundle services.limit (hooks services request files target)
    (fun payload => step (services.link payload)) Page.entryFile options
  Module.Graph.decided (checkedBundle code)

/-- The module that a failure belongs to, if the author wrote it or could see it. -/
def sourceOf (files : Page.Files) (moduleId : Json) : Option Textual :=
  match moduleId.string? with
  | none => none
  | some id => if id == Builtin.iconId then some (.text Builtin.iconSource) else files.find? id

/-- Whether no module can be looked up under an id: a tool may report a list or an object. -/
def isNoKey : Json → Bool
  | .arr items => !items.isEmpty
  | .obj fields => !fields.isEmpty
  | _ => false

/-- The result of a bundle that failed: nothing but the message for the author. -/
def failedResult (files : Page.Files) (failure : Failure) : Except Failure Result :=
  let id := failure.moduleId
  if isNoKey id then .error (.misuse (.badKey id.typeName))
  else
    match formatFailure failure id (sourceOf files id) with
    | .ok message => .ok { error := message }
    | .error cause => .error (.misuse cause)

/-- Make bundles one after the other; the first failure leaves its message and nothing else. -/
def bundleAll (services : Services m) (request : Request) (files : Page.Files)
    (result : Result) : List Target → m (Except Failure Result)
  | [] => pure (.ok result)
  | target :: rest => do
    match ← (bundleOf services request files target).run with
    | .ok code => bundleAll services request files (result.withBundle target code) rest
    | .error failure => return failedResult files failure

/-- Build what is requested. Only a field that should be text and is not, of the request or of the
report of a tool, can fail otherwise than in the result. -/
def build (services : Services m) (request : Request) : m (Except Failure Result) := do
  match ← (flattenStyles services request.sources).run with
  | .error (.build error) => return .ok { error := styleMessage error }
  | .error failure => return .error failure
  | .ok sources =>
    match Page.localFiles sources request.head request.options.runtimeExports with
    | .error cause => return .error (.misuse cause)
    | .ok files => bundleAll services request files {} request.options.plan

end SiteBuild.Build
