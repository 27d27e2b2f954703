import SiteBuild.Component.Compiler

/-!
# Build options

Which bundles a build makes and how. A key may be spelled with underscores or in camel case; the
first spelling with a value counts, and a null is no value.
-/
namespace SiteBuild.Build

/-- The bundles that a build can make. -/
inductive Target where
  /-- The page for the server. -/
  | server
  /-- The page for the browser, by itself. -/
  | browser
  /-- The page for the browser, taking over rendered markup. -/
  | hydration
  deriving DecidableEq, Repr

/-- The name of a bundle. -/
def Target.name : Target → Text
  | .server => "ssr"
  | .browser => "dom"
  | .hydration => "hydrate"

/-- Which bundles a build makes and how. -/
structure Options where
  /-- Whether the page is rendered on the server. -/
  buildStatic : Bool := true
  /-- Whether there is a bundle that takes over rendered markup. -/
  hydrated : Bool := false
  /-- What becomes of styles in the bundle for the browser. -/
  css : Component.CssMode := .external
  /-- Whether browser bundles are for development; the compiler takes it as it is given. -/
  devMode : Json := .bool false
  /-- Whether bundles have source maps. -/
  sourcemap : Bool := false
  /-- The names that the entry hands on from the runtime. -/
  runtimeExports : List Json := []
  deriving Repr, Inhabited

namespace Options

/-- The only format of bundles. -/
def bundleFormat : Text := "esm"

/-- The options as a request gives them. -/
def toJson (options : Options) : Json :=
  .obj [
    ("build_static", .bool options.buildStatic),
    ("hydrated", .bool options.hydrated),
    ("css", .str options.css.name),
    ("format", .str bundleFormat),
    ("dev_mode", options.devMode),
    ("sourcemap", .bool options.sourcemap),
    ("runtime_exports", .arr options.runtimeExports)]

/-- The value of a key in options, if it has one. Options that are no object have no values, as
long as the key is not found in them. -/
def valueOf? (raw : Json) (key : Text) : Except Misuse (Option Json) :=
  match raw with
  | .obj fields => .ok ((Record.find? fields key).filter fun value => !value.isNull)
  | .str text => if Text.holds key text then .error (.noNamedItems true) else .ok none
  | .arr items =>
    if items.any (Json.isString key) then .error (.noNamedItems false) else .ok none
  | other => .error (.notSearchable other.typeName)

/-- The value of the first of several keys that has one. -/
def pick (raw : Json) (keys : List Text) : Except Misuse (Option Json) :=
  match keys with
  | [] => .ok none
  | key :: rest => do
    match ← valueOf? raw key with
    | some value => return some value
    | none => pick raw rest

/-- A truth value of options: whatever is not empty is true. -/
def flag (raw : Json) (keys : List Text) (default : Bool) : Except Misuse Bool :=
  (pick raw keys).map fun value? => (value?.map fun value => !value.isEmpty).getD default

/-- The names that a value lists: one string, or a list of strings. -/
def exportNames (value : Json) : Except Failure (List Json) :=
  match value with
  | .str name => .ok [.str name]
  | .arr items =>
    if items.all fun item => item.string?.isSome then .ok items
    else .error (.badOption (.badExports value))
  | other => .error (.badOption (.badExports other))

/-- Check a value that should name the format of bundles. -/
def checkFormat (value : Json) : Except Failure Unit :=
  match value with
  | .arr _ | .obj _ => .error (.misuse (.badKey value.typeName))
  | _ =>
    if value.isString bundleFormat then .ok () else .error (.badOption (.badFormat value))

/-- A misuse as a failure. -/
def orMisuse {α : Type} (result : Except Misuse α) : Except Failure α := result.mapError .misuse

/-- The options of a request. -/
def ofJson (value : Json) : Except Failure Options := do
  let raw := value.orElse .emptyObject
  let buildStatic ← orMisuse (flag raw ["build_static", "buildStatic"] true)
  let hydrated ← orMisuse (flag raw ["hydrated"] false)
  let css? ← orMisuse (pick raw ["css"])
  let format? ← orMisuse (pick raw ["format"])
  let devMode ← orMisuse (flag raw ["dev_mode", "devMode"] false)
  let sourcemap ← orMisuse (flag raw ["sourcemap"] false)
  let exports? ← orMisuse (pick raw ["runtime_exports", "runtimeExports", "runtime"])
  let runtimeExports ← exportNames (exports?.getD (.arr []))
  let css ← Component.CssMode.ofJson (css?.getD (.str "external"))
  checkFormat (format?.getD (.str bundleFormat))
  return {
    buildStatic, hydrated, css, sourcemap, runtimeExports
    devMode := .bool devMode }

/-- The bundles that a build makes, in the order it makes them. -/
def plan (options : Options) : List Target :=
  (if options.buildStatic then .server else .browser) ::
    if options.hydrated then [.hydration] else []

/-- How components are compiled for a bundle. -/
def compileOptions (options : Options) : Target → Component.Options
  | .server => { generate := .server, css := .injected }
  | .hydration => { generate := .client, css := .external, dev := options.devMode }
  | .browser => { generate := .client, css := options.css, dev := options.devMode }

end Options
end SiteBuild.Build
