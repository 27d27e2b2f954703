import SiteBuild.Text.CodePoint

/-!
# Targets

What a requested module turns out to be. Every target but an external one is a module of the
graph, under an id that tells the generated modules from the rest.
-/
namespace SiteBuild.Module

/-- What a requested module refers to. -/
inductive Target where
  /-- A generated module. -/
  | virtual (name : Text)
  /-- A file of the page. -/
  | file (name : Text)
  /-- A module on another server. -/
  | remote (url : Text)
  /-- A module that the browser is left to find. -/
  | external (name : Text)
  deriving DecidableEq, Repr

namespace Target

/-- What the ids of generated modules start with. -/
def virtualMark : Text := "virtual:"

/-- The name of the kind of a target. -/
def kind : Target → Text
  | .virtual _ => "virtual"
  | .file _ => "local"
  | .remote _ => "remote"
  | .external _ => "external"

/-- The name or the address of a target. -/
def value : Target → Text
  | .virtual name => name
  | .file name => name
  | .remote url => url
  | .external name => name

/-- The id of a target in the graph. -/
def moduleId : Target → Text
  | .virtual name => virtualMark ++ name
  | target => target.value

/-- Whether a target is left to the browser. -/
def isExternal : Target → Bool
  | .external _ => true
  | _ => false

end Target
end SiteBuild.Module
