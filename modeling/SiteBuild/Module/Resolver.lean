import SiteBuild.Bindings.Basic
import SiteBuild.Module.Builtin
import SiteBuild.Module.Target
import SiteBuild.Url.Basic

/-!
# Resolution

What a module specifier refers to, by the first rule that fits: the environment, a binding, a
file, an absolute address, a path relative to the importing module, a path from the root of the
importing server, the runtime, the icon component, and any other name as a package. The server
takes the bindings and the runtime from generated modules; the browser is left the bindings and
fetches the runtime.
-/
namespace SiteBuild.Module

/-- What resolution depends on besides the request. -/
structure Resolver where
  /-- Whether there is a file of a name. -/
  hasFile : Text → Bool
  /-- Whether the build is for the server. -/
  server : Bool
  /-- The address of packages, without a slash at its end. -/
  cdnUrl : Text := Builtin.cdnUrl
  /-- The address of the runtime. -/
  runtimeUrl : Text := Builtin.runtimeUrl

namespace Resolver

/-- The importing module, if it is a remote one. -/
def remoteImporter? (importer : Option Text) : Option Text := importer.filter Url.isRemote

/-- The target of the runtime and of its parts, if one of them is requested. -/
def runtimeTarget? (resolver : Resolver) (requested : Text) : Option Target :=
  let inside := Builtin.packageName ++ "/"
  if requested == Builtin.packageName then
    some <|
      if resolver.server then .virtual Builtin.serverRuntimeName
      else .remote resolver.runtimeUrl
  else if Text.startsWith inside requested then
    some (.remote (resolver.runtimeUrl ++ "/" ++ requested.drop inside.length))
  else none

/-- The target of a name that is neither generated nor a file, an address or a path. -/
def packageTarget (resolver : Resolver) (requested : Text) : Target :=
  match resolver.runtimeTarget? requested with
  | some target => target
  | none =>
    if requested == Builtin.iconName then .file Builtin.iconId
    else .remote (resolver.cdnUrl ++ "/" ++ requested)

/-- The target of a request, with the id of the importing module if there is one. -/
def resolve (resolver : Resolver) (requested : Text) (importer : Option Text) :
    Except Url.UrlError Target :=
  if requested == Builtin.environmentName then .ok (.virtual Builtin.environmentName)
  else if (Binding.ofName? requested).isSome then
    .ok (if resolver.server then .virtual requested else .external requested)
  else if resolver.hasFile requested then .ok (.file requested)
  else if Url.isRemote requested then .ok (.remote requested)
  else if Text.startsWith "." requested then
    match remoteImporter? importer with
    | some url => (Url.join url requested).map .remote
    | none => .ok (.file requested)
  else
    match Text.startsWith "/" requested, remoteImporter? importer with
    | true, some url => (Url.origin url).map fun origin => .remote (origin ++ requested)
    | _, _ => .ok (resolver.packageTarget requested)

end Resolver
end SiteBuild.Module
