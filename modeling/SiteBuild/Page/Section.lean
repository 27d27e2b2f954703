import SiteBuild.Json.Fields

/-!
# Sections and heads

What an author hands in: a page is one component or a list of sections; a component is a text or
a section with markup, style, script and data apart. A field that should be text is kept as it
came, and what comes of a field that is no text is decided where it is used.
-/
namespace SiteBuild.Page

/-- A component with its parts apart. -/
structure Section where
  /-- The markup. -/
  html : Textual := ""
  /-- The style sheet, nested rules allowed. -/
  css : Textual := ""
  /-- The script. -/
  js : Textual := ""
  /-- The values it is rendered with. -/
  data : Fields := []
  /-- The markup before it in the page. -/
  wrapperStart : Textual := ""
  /-- The markup behind it in the page. -/
  wrapperEnd : Textual := ""
  deriving Repr, Inhabited

/-- The section of a request. -/
def Section.ofFields (raw : Record) : Except Misuse Section := do
  let data ← (raw.get "data").asFields
  let field (key : Text) : Textual := .ofJson (raw.get key)
  return {
    html := field "html"
    css := field "css"
    js := field "js"
    data := data
    wrapperStart := field "wrapper_start"
    wrapperEnd := field "wrapper_end" }

/-- A section as a value, its data as a list of pairs. -/
def Section.toJson (content : Section) : Json :=
  .obj [
    ("html", content.html.toJson),
    ("css", content.css.toJson),
    ("js", content.js.toJson),
    ("data", content.data.toPairs),
    ("wrapper_start", content.wrapperStart.toJson),
    ("wrapper_end", content.wrapperEnd.toJson)]

/-- A component. -/
inductive Source where
  /-- The text of a whole component. -/
  | text (value : Text)
  /-- A component with its parts apart. -/
  | parts (content : Section)
  deriving Repr, Inhabited

/-- The component of a request. -/
def Source.ofJson : Json → Except Misuse Source
  | .str value => .ok (.text value)
  | .obj fields => (Section.ofFields fields).map .parts
  | other => .error (.noSource other.typeName)

/-- A component as a value. -/
def Source.toJson : Source → Json
  | .text value => .str value
  | .parts content => content.toJson

/-- The components of a page. -/
inductive Sources where
  /-- One component is the page. -/
  | single (source : Source)
  /-- The page is made of sections. -/
  | list (sources : List Source)
  deriving Repr, Inhabited

/-- The components of a request. -/
def Sources.ofJson : Json → Except Misuse Sources
  | .arr items => (items.mapM Source.ofJson).map .list
  | other => (Source.ofJson other).map .single

/-- The components of a page as a value. -/
def Sources.toJson : Sources → Json
  | .single source => source.toJson
  | .list sources => .arr (sources.map Source.toJson)

/-- The components, in order. -/
def Sources.toList : Sources → List Source
  | .single source => [source]
  | .list sources => sources

/-- The head of a page. -/
structure Head where
  /-- The markup. -/
  code : Textual := ""
  /-- The values it is rendered with. -/
  data : Fields := []
  deriving Repr, Inhabited

/-- The head of a request. -/
def Head.ofJson (value : Json) : Except Misuse Head := do
  let raw ← value.asObject "get"
  let data ← (raw.get "data").asFields
  return { code := .ofJson (raw.get "code"), data := data }

/-- A head as a value, its data as a list of pairs. -/
def Head.toJson (head : Head) : Json :=
  .obj [("code", head.code.toJson), ("data", head.data.toPairs)]

end SiteBuild.Page
