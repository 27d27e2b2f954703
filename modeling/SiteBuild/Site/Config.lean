import SiteBuild.Bindings.Basic

/-!
# Sites

What a published page needs besides its markup: the name and the project of the site, its
content, its design tokens and the names of its collections.
-/
namespace SiteBuild.Site

/-- A design token, which becomes a custom property of the page's style. -/
structure DesignToken where
  /-- The name of the property. -/
  cssVar : Textual := ""
  /-- Its value. -/
  value : Text := []
  /-- What it is: a colour, a font, or anything else. -/
  type : Textual := ""
  deriving Repr, Inhabited

/-- The design token of a request. -/
def DesignToken.ofJson (item : Json) : Except Misuse DesignToken :=
  match item with
  | .obj raw =>
    let value := Record.get raw "value"
    .ok {
      cssVar := .ofJson ((Record.get raw "css_var").orElse (Record.get raw "cssVar"))
      value := if value.isEmpty then [] else value.shown
      type := .ofJson (Record.get raw "type") }
  | other => .error (.noMember other.typeName "get")

/-- A design token as a value. -/
def DesignToken.toJson (token : DesignToken) : Json :=
  .obj [
    ("css_var", token.cssVar.toJson),
    ("value", .str token.value),
    ("type", token.type.toJson)]

/-- A site. -/
structure Config where
  /-- The id of the project. -/
  projectId : Text := []
  /-- The name of the site. -/
  name : Textual := "pagesmith App"
  /-- The fields of the content. -/
  content : Fields := []
  /-- The design tokens, in order. -/
  design : List DesignToken := []
  /-- The names of the collections. -/
  collections : List Json := []
  deriving Repr, Inhabited

/-- The name of a site that has none. -/
def unnamed : Json := .str "pagesmith App"

/-- The site of a request. -/
def Config.ofJson (value : Json) : Except Misuse Config := do
  let raw ← value.asObject "get"
  let content ← (raw.get "content").asFields
  let items ← (raw.get "design").asItems
  let design ← items.mapM DesignToken.ofJson
  let collections ←
    ((raw.get "data_collections").orElse (raw.get "dataCollections")).asItems
  return {
    projectId := Bindings.projectIdOf raw
    name := .ofJson (((raw.get "name").orElse (raw.get "project_name")).orElse unnamed)
    content := content
    design := design
    collections := collections }

/-- The value of a token under its name, if it has one. -/
def DesignToken.entry? (token : DesignToken) : Except Misuse (Option (Key × Json)) :=
  if token.cssVar.isEmpty then .ok none
  else token.cssVar.toJson.asKey.map fun name => some (name, .str token.value)

/-- The values of the tokens that have a name; of tokens of one name the last counts. -/
def Config.designValues (config : Config) : Except Misuse Fields :=
  (config.design.mapM DesignToken.entry?).map fun entries => Fields.ofList (entries.filterMap id)

/-- The bindings of a page of the site; records are left to the browser. -/
def Config.bindings (config : Config) : Except Misuse Bindings := do
  let design ← config.designValues
  return { content := config.content, design, projectId := config.projectId }

end SiteBuild.Site
