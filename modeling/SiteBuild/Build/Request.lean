import SiteBuild.Bindings.Basic
import SiteBuild.Build.Options
import SiteBuild.Page.Section

/-!
# Build requests

Everything that one build needs: the components of the page, its head, the options and the
bindings. Of the two keys for components the first with a value counts.
-/
namespace SiteBuild.Build

/-- What is to be built. -/
structure Request where
  /-- The components of the page. -/
  sources : Page.Sources
  /-- The head of the page. -/
  head : Page.Head := {}
  /-- Which bundles to make and how. -/
  options : Options := {}
  /-- The values the page is built with. -/
  bindings : Bindings := {}
  deriving Repr, Inhabited

/-- The request that a value stands for. -/
def Request.ofJson (value : Json) : Except Failure Request := do
  let sources? ← Options.orMisuse (Options.pick value ["sources", "component"])
  let sources ← Options.orMisuse (Page.Sources.ofJson (sources?.getD (.str [])))
  match value with
  | .obj fields =>
    let head ← Options.orMisuse (Page.Head.ofJson (Record.get fields "head"))
    let options ← Options.ofJson (Record.get fields "options")
    let bindings ← Options.orMisuse (Bindings.ofJson (Record.get fields "bindings"))
    return { sources, head, options, bindings }
  | other => throw (.misuse (.noMember other.typeName "get"))

end SiteBuild.Build
