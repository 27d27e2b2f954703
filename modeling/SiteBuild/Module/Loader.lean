import SiteBuild.Json.Writer
import SiteBuild.Module.Resolver
import SiteBuild.Page.Assembly

/-!
# Loading

The text of a module, by its id in the graph: generated modules and files are at hand, remote
modules are fetched. A remote module whose path ends in `.json` is data, and becomes a module
that exports it.
-/
namespace SiteBuild.Module

/-- What loading depends on besides the id. -/
structure Loader where
  /-- The files of the page. -/
  files : Page.Files
  /-- The values of the page. -/
  bindings : Bindings
  /-- Whether the build is for the server. -/
  server : Bool
  /-- Whether the build is for development. -/
  dev : Bool := false
  /-- The address of the runtime. -/
  runtimeUrl : Text := Builtin.runtimeUrl

/-- Where the text of a module comes from. -/
inductive Origin where
  /-- It is at hand. -/
  | text (source : Textual)
  /-- It is fetched. -/
  | fetched (url : Text)
  /-- Nothing backs the module. -/
  | nowhere
  deriving Repr

namespace Loader

/-- The text of a generated module. -/
def virtualSource? (loader : Loader) (name : Text) : Option Text :=
  if name == Builtin.environmentName then
    some (Builtin.environmentModule loader.server loader.dev)
  else if name == Builtin.serverRuntimeName then
    some (Builtin.serverRuntimeModule loader.runtimeUrl)
  else loader.bindings.serverModule? name

/-- The text at hand, or nowhere. -/
def atHand : Option Text → Origin
  | some source => .text (.text source)
  | none => .nowhere

/-- Where the text of a module comes from. -/
def origin (loader : Loader) (id : Text) : Origin :=
  if id == Builtin.iconId then .text (.text Builtin.iconSource)
  else if Text.startsWith Target.virtualMark id then
    atHand (loader.virtualSource? (id.drop Target.virtualMark.length))
  else
    match loader.files.find? id with
    | some source => .text source
    | none => if Url.isRemote id then .fetched id else .nowhere

/-- Whether a remote module is data: its address ends in `.json` before the query. -/
def isData (url : Text) : Bool := Text.endsWith ".json" (Text.before '?' url)

/-- The module that exports the data of a text. -/
def dataModule (text : Text) : Except Failure Text :=
  match Json.read text with
  | .error error => .error (.badJson error)
  | .ok value => .ok ("export default " ++ value.write .plain ++ ";")

/-- The module of a fetched text. -/
def fetchedModule (url text : Text) : Except Failure Text :=
  if isData url then dataModule text else .ok text

/-- The text of a module; `fetch` gets remote texts. -/
def load {m : Type → Type} [Monad m] (loader : Loader)
    (fetch : Text → ExceptT Failure m Text) (id : Text) :
    ExceptT Failure m (Option Textual) :=
  match loader.origin id with
  | .text source => pure (some source)
  | .nowhere => pure none
  | .fetched url => do
    let text ← fetch url
    match fetchedModule url text with
    | .ok code => pure (some (.text code))
    | .error failure => throw failure

end Loader
end SiteBuild.Module
