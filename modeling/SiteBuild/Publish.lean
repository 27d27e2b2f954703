import SiteBuild.Build.Run
import SiteBuild.Page.Props
import SiteBuild.Site.Document

/-!
# Publishing

A page is built, rendered on the server and put into a document. Rendering is the work of a tool
that evaluates the bundle for the server. A page with script code also gets a bundle that takes
over in the browser.
-/
namespace SiteBuild.Publish

/-- A rendered page, its markup as the tool gives it. -/
structure Rendered where
  /-- The markup of the head. -/
  head : Textual := ""
  /-- The markup of the body. -/
  body : Textual := ""
  deriving Repr

/-- A rendered page as a value. -/
def Rendered.toJson (page : Rendered) : Json :=
  .obj [("head", page.head.toJson), ("body", page.body.toJson)]

/-- What came of building and rendering a page. -/
structure Payload where
  /-- The markup of the head. -/
  head : Textual := ""
  /-- The markup of the body. -/
  body : Textual := ""
  /-- The bundle for the browser. -/
  js : Text := []
  /-- The message for the author, if something failed. -/
  error : Text := []
  deriving Repr

/-- A payload as a value. -/
def Payload.toJson (payload : Payload) : Json :=
  .obj [
    ("head", payload.head.toJson),
    ("body", payload.body.toJson),
    ("js", .str payload.js),
    ("error", .str payload.error)]

/-- The failure of a render. -/
def renderFailure (cause : Text) : Failure := .render ("Render error: " ++ cause)

/-- The rendered page of what the tool answers. -/
def renderedOfAnswer (answer : Except Failure Json) : Except Failure Rendered :=
  match answer with
  | .error failure => .error (renderFailure failure.text)
  | .ok (.obj fields) =>
    let part (key : Text) : Textual := .ofJson (Record.get fields key)
    let error := Record.get fields "error"
    if error.isEmpty then .ok { head := part "head", body := part "body" }
    else .error (renderFailure error.shown)
  | .ok other => .error (.misuse (.noMember other.typeName "get"))

/-- How a page is built and rendered. -/
structure Wishes where
  /-- The head of the page. -/
  head : Page.Head := {}
  /-- The values the page is built with. -/
  bindings : Bindings := {}
  /-- Whether the page is rendered on the server. -/
  buildStatic : Bool := true
  /-- Whether there is a bundle that takes over; if this is not said, a rendered page with script
  code has one. -/
  hydrated : Option Bool := none
  /-- What becomes of styles in the bundle for the browser. -/
  css : Component.CssMode := .external
  /-- Whether browser bundles are for development; the compiler takes it as it is given. -/
  devMode : Json := .bool false
  /-- The names that the entry hands on from the runtime; each should be a string. -/
  runtimeExports : List Json := []
  deriving Repr, Inhabited

/-- Whether a page gets a bundle that takes over. -/
def Wishes.wantsHydration (wishes : Wishes) (sources : Page.Sources) : Except Misuse Bool :=
  match wishes.hydrated with
  | some hydrated => .ok hydrated
  | none => if wishes.buildStatic then Page.hasScripts sources else .ok false

/-- The page that fields describe, and how it is built. Whether it takes over is decided before
what the entry hands on and what becomes of styles are looked at. -/
def Wishes.ofFields (raw : Record) : Except Failure (Page.Sources × Wishes) := do
  let flag (key : Text) : Option Bool := (Record.find? raw key).map fun value => !value.isEmpty
  let head ← (Page.Head.ofJson (raw.get "head")).mapError .misuse
  let bindings ← (Bindings.ofJson (raw.get "bindings")).mapError .misuse
  let sources ← (Page.Sources.ofJson (raw.get "sources")).mapError .misuse
  let wishes : Wishes := {
    head := head
    bindings := bindings
    buildStatic := (flag "build_static").getD true
    hydrated := if (raw.get "hydrated").isNull then none else flag "hydrated"
    devMode := (Record.find? raw "dev_mode").getD (.bool false) }
  let _ ← (wishes.wantsHydration sources).mapError .misuse
  let exports := (Record.find? raw "runtime_exports").getD (.arr [])
  let runtimeExports ← exports.members.mapError .misuse
  let css ← Component.CssMode.ofJson ((Record.find? raw "css").getD (.str "external"))
  return (sources, { wishes with css, runtimeExports })

/-- The request of a page. -/
def Wishes.request (wishes : Wishes) (sources : Page.Sources) (hydrated : Bool) :
    Build.Request :=
  { sources := sources
    head := wishes.head
    options := {
      buildStatic := wishes.buildStatic
      hydrated := hydrated
      css := wishes.css
      devMode := wishes.devMode
      runtimeExports := wishes.runtimeExports }
    bindings := wishes.bindings }

/-- What a build and its rendering rely on. -/
structure Services (m : Type → Type) extends Build.Services m where
  /-- The answer of the tool that renders the code of a page with the given values. -/
  render : Text → Fields → m (Except Failure Json)

/-- The services of a session. -/
def Services.ofTools {m : Type → Type} [Monad m] (limit : Nat) (tools : Build.Tools m) :
    Services (StateT Build.Session m) :=
  { Build.Services.ofTools limit tools with
    render := fun code props session => do
      return (← tools.run (.render code props), session) }

variable {m : Type → Type} [Monad m]

/-- Render the code of a page. -/
def render (services : Services m) (code : Text) (props : Fields) :
    m (Except Failure Rendered) := do
  return renderedOfAnswer (← services.render code props)

/-- The payload of a page that was built. -/
def renderPayload (services : Services m) (sources : Page.Sources) (head : Page.Head)
    (result : Build.Result) : m (Except Failure Payload) := do
  match ← render services result.ssr (Page.renderProps sources (some head)) with
  | .ok page => return .ok { head := page.head, body := page.body, js := result.dom }
  | .error (.render message) => return .ok { error := message }
  | .error failure => return .error failure

/-- Build a page and, unless it is for the browser alone, render it. -/
def processPage (services : Services m) (sources : Page.Sources) (wishes : Wishes) :
    m (Except Failure Payload) := do
  match wishes.wantsHydration sources with
  | .error cause => return .error (.misuse cause)
  | .ok hydrated =>
    match ← Build.build services.toServices (wishes.request sources hydrated) with
    | .error failure => return .error failure
    | .ok result =>
      if !result.error.isEmpty then return .ok { error := result.error }
      if !wishes.buildStatic then return .ok { js := result.dom }
      renderPayload services sources wishes.head result

/-- The failure of a page that cannot be published. -/
def unpublished (message : Text) : Failure :=
  .build { kind := .build, message := .str message }

/-- The document of a payload. -/
def documentOf (config : Site.Config) (payload : Payload) : Except Failure Text :=
  if !payload.error.isEmpty then .error (unpublished payload.error)
  else if payload.body.isEmpty then
    .error (unpublished "SSR compilation produced no body output")
  else Site.renderDocument payload.body config payload.head (.text payload.js)

/-- How a page of a site is built: one with script code takes over in the browser. -/
def wishesOf (config : Site.Config) (interactive : Bool) : Except Misuse Wishes := do
  let bindings ← config.bindings
  return {
    bindings := bindings
    hydrated := some interactive
    runtimeExports := if interactive then [.str "hydrate"] else [] }

/-- The document of a component of a site; an empty component has an empty document. -/
def publish (services : Services m) (source : Text) (config : Site.Config) :
    m (Except Failure Text) := do
  if source.isEmpty then return .ok []
  match wishesOf config (Text.holds "<script" source) with
  | .error cause => return .error (.misuse cause)
  | .ok wishes =>
    match ← processPage services (.single (.text source)) wishes with
    | .error failure => return .error failure
    | .ok payload => return documentOf config payload

/-- The document of a component of the site of a request. The site of an empty component is not
looked at. -/
def publishFor (services : Services m) (source : Text) (site : Json) :
    m (Except Failure Text) := do
  if source.isEmpty then return .ok []
  match Site.Config.ofJson site with
  | .error cause => return .error (.misuse cause)
  | .ok config => publish services source config

end SiteBuild.Publish
