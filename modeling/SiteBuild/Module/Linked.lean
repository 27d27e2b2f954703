import SiteBuild.Diagnostic.Basic
import SiteBuild.Json.Fields
import SiteBuild.Module.Graph

/-!
# Linking

A graph is linked into one bundle by a tool. What the tool reports in place of a bundle becomes a
link error that keeps the name, the position and the reporting part.
-/
namespace SiteBuild.Module

/-- How a bundle is written; the tool takes these values as they are given. -/
structure BundleOptions where
  /-- The format of the bundle. -/
  format : Json := .str "esm"
  /-- Whether it has a source map. -/
  sourcemap : Json := .bool false
  deriving Repr

/-- The link error of a diagnostic. -/
def linkError (diagnostic : Diagnostic) : BuildError :=
  { kind := .link
    message := diagnostic.message
    name := diagnostic.name
    line := diagnostic.line
    column := diagnostic.column
    frame := Json.ofString? diagnostic.frame
    plugin := diagnostic.plugin
    moduleId := diagnostic.moduleId }

/-- The bundle of a result without an error. -/
def bundleOfResult (fields : Record) : Except Failure Textual :=
  match (Record.get fields "warnings").asItems with
  | .error cause => .error (.misuse cause)
  | .ok _ => .ok (.ofJson (Record.get fields "code"))

/-- The bundle of what the tool answers. -/
def bundleOfAnswer (answer : Json) : Except Failure Textual :=
  match answer with
  | .obj fields =>
    let error := Record.get fields "error"
    if error.isEmpty then bundleOfResult fields
    else .error (.build (linkError (Diagnostic.ofAnswer error .null)))
  | other => .error (.misuse (.noMember other.typeName "get"))

/-- A graph and the options of its bundle, as the tool takes them. -/
def linkPayload (graph : Graph) (options : BundleOptions) : Json :=
  let settings : Record := [("format", options.format), ("sourcemap", options.sourcemap)]
  .obj (graph.payload ++ settings)

/-- Link a graph; `run` hands the payload to the tool. -/
def link {m : Type → Type} [Monad m] (run : Json → ExceptT Failure m Json) (graph : Graph)
    (options : BundleOptions) : ExceptT Failure m Textual := do
  match bundleOfAnswer (← run (linkPayload graph options)) with
  | .ok code => return code
  | .error failure => throw failure

/-- The bundle of an entry: its graph, of at most the given number of modules, linked. -/
def bundle {m : Type → Type} [Monad m] (limit : Nat) (hooks : Hooks m)
    (run : Json → ExceptT Failure m Json) (entry : Text) (options : BundleOptions) :
    ExceptT Failure m Textual := do
  let graph ← Graph.collect limit hooks entry
  link run graph options

end SiteBuild.Module
