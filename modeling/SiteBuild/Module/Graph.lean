import SiteBuild.Diagnostic.Basic
import SiteBuild.Module.Target
import SiteBuild.Script.Imports

/-!
# Module graphs

Every module that an entry depends on, with the targets of all its imports. The graph is walked
depth first in the order of imports, so that the same modules always make the same graph; a
module is loaded once, and what it depends on is read off its transformed code.
-/
namespace SiteBuild.Module

/-- What becomes of the code of a module before it is linked. -/
structure Transformed where
  /-- The new code. -/
  code : Textual
  /-- The source map. -/
  map : Json := .null
  deriving Repr

/-- What walking a graph needs: the targets of requests, and the text and the transformed code
of modules. -/
structure Hooks (m : Type → Type) where
  /-- The target of a request of a module, or of the entry. -/
  resolve : Text → Option Text → Except Failure Target
  /-- The text of a module. -/
  load : Text → ExceptT Failure m (Option Textual)
  /-- The transformed code of a module with the given text and id, if it is transformed. -/
  transform : Textual → Text → ExceptT Failure m (Option Transformed)

/-- A loaded and transformed module. -/
structure GraphModule where
  /-- Its id. -/
  id : Text
  /-- Its code. -/
  code : Text
  /-- Its source map. -/
  map : Json := .null
  /-- The specifiers it imports, in order. -/
  imports : List Text := []
  deriving Repr

/-- The target of an import. -/
structure Resolution where
  /-- The id of the importing module. -/
  importer : Text
  /-- The specifier as it is written. -/
  specifier : Text
  /-- What it refers to. -/
  target : Target
  deriving DecidableEq, Repr

/-- The modules reachable from an entry, and the targets of their imports. -/
structure Graph where
  /-- The id of the entry. -/
  entry : Text
  /-- The modules, in the order they were reached. -/
  modules : List GraphModule := []
  /-- The targets of all imports, in order. -/
  resolutions : List Resolution := []
  deriving Repr

namespace Graph

/-- The ids of the modules, in order. -/
def order (graph : Graph) : List Text := graph.modules.map GraphModule.id

/-- Whether a module is in the graph. -/
def contains (graph : Graph) (id : Text) : Bool := graph.modules.any fun node => node.id == id

/-- The names left to the browser, each once. -/
def externals (graph : Graph) : List Text :=
  (graph.resolutions.filterMap fun resolution =>
    if resolution.target.isExternal then some resolution.target.value else none).eraseDups

/-- The modules that a module imports, in the order of imports. -/
def dependencies (graph : Graph) (id : Text) : List Text :=
  graph.resolutions.filterMap fun resolution =>
    if resolution.importer == id && !resolution.target.isExternal then
      some resolution.target.moduleId
    else none

/-- The module of an id. -/
def find? (graph : Graph) (id : Text) : Option GraphModule :=
  graph.modules.find? fun node => node.id == id

/-- The target of an import of a module. -/
def target? (graph : Graph) (id specifier : Text) : Option Target :=
  (graph.resolutions.find? fun resolution =>
    resolution.importer == id && resolution.specifier == specifier).map Resolution.target

/-- The modules that a module imports, looked up import by import: the module has to be in the
graph, and each of its imports has to have a target. -/
def dependencies? (graph : Graph) (id : Text) : Option (List Text) := do
  let node ← graph.find? id
  let targets ← node.imports.mapM (graph.target? id)
  return (targets.filter (!·.isExternal)).map Target.moduleId

/-- The error about a module that nothing backs. -/
def unresolvedError (id : Text) (importer : Option Text) : BuildError :=
  let suffix : Text :=
    match importer with
    | some name => if name.isEmpty then [] else " (imported by " ++ name ++ ")"
    | none => []
  { kind := .unresolved
    message := .str ("Could not load " ++ id ++ suffix)
    moduleId := .str id }

/-- The error about a module whose code ends inside a literal or a comment. -/
def unreadableError (id : Text) (error : Script.ScanError) : BuildError :=
  { kind := .link
    message := .str ("Could not parse " ++ id ++ ": " ++ error.message)
    name := .str "ParseError"
    moduleId := .str id }

variable {m : Type → Type} [Monad m]

/-- A step that needs nothing of the surroundings. -/
def decided {α : Type} (result : Except Failure α) : ExceptT Failure m α :=
  ExceptT.mk (pure result)

/-- Load and transform a module and read its imports. -/
def visit (hooks : Hooks m) (id : Text) (importer : Option Text) :
    ExceptT Failure m GraphModule := do
  let some loaded ← hooks.load id | throw (.build (unresolvedError id importer))
  let output := (← hooks.transform loaded id).getD { code := loaded }
  let code ← decided ((output.code.asText "startswith").mapError .misuse)
  match Script.imports code with
  | .error error => throw (.build (unreadableError id error))
  | .ok imports => return { id, code, map := output.map, imports }

/-- The targets of the imports of a module. -/
def resolveImports (hooks : Hooks m) (node : GraphModule) : Except Failure (List Resolution) :=
  node.imports.mapM fun specifier =>
    (hooks.resolve specifier (some node.id)).map fun target => ⟨node.id, specifier, target⟩

/-- The modules that are to be visited for the given imports and are not in the graph yet, with
the importing module. -/
def pendingOf (graph : Graph) (resolutions : List Resolution) : List (Text × Option Text) :=
  resolutions.filterMap fun resolution =>
    if resolution.target.isExternal || graph.contains resolution.target.moduleId then none
    else some (resolution.target.moduleId, some resolution.importer)

/-- The graph with one more module and the targets of its imports. -/
def extend (graph : Graph) (node : GraphModule) (resolutions : List Resolution) : Graph :=
  { graph with
    modules := graph.modules ++ [node]
    resolutions := graph.resolutions ++ resolutions }

/-- Walk on from a part of the graph, the modules still to be visited given in order. `limit`
bounds the number of modules yet to come. -/
def walk (hooks : Hooks m) (limit : Nat) (graph : Graph)
    (pending : List (Text × Option Text)) : ExceptT Failure m Graph :=
  match limit, pending.dropWhile fun next => graph.contains next.1 with
  | _, [] => pure graph
  | 0, _ :: _ => throw .tooManyModules
  | limit + 1, (id, importer) :: rest => do
    let node ← visit hooks id importer
    let resolutions ← decided (resolveImports hooks node)
    let next := graph.extend node resolutions
    walk hooks limit next (next.pendingOf resolutions ++ rest)

/-- The graph of an entry, of at most the given number of modules. -/
def collect (limit : Nat) (hooks : Hooks m) (entry : Text) :
    ExceptT Failure m Graph := do
  let target ← decided (hooks.resolve entry none)
  walk hooks limit { entry := target.moduleId } [(target.moduleId, none)]

/-- The resolutions of a module as the linker takes them. -/
def resolutionFields (graph : Graph) (id : Text) : Record :=
  (graph.resolutions.filter fun resolution => resolution.importer == id).map fun resolution =>
    (resolution.specifier,
      .obj [
        ("id", .str resolution.target.moduleId),
        ("external", .bool resolution.target.isExternal)])

/-- The graph as the linker takes it. -/
def payload (graph : Graph) : Record :=
  let modules := graph.modules.map fun node =>
    (node.id, Json.obj [("code", .str node.code), ("map", node.map)])
  let importers := (graph.resolutions.map Resolution.importer).eraseDups
  let resolutions := importers.map fun id => (id, Json.obj (graph.resolutionFields id))
  [("entry", .str graph.entry), ("modules", .obj modules), ("resolutions", .obj resolutions)]

end Graph
end SiteBuild.Module
