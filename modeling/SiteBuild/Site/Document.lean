import SiteBuild.Bindings.Client
import SiteBuild.Module.Builtin
import SiteBuild.Site.Fonts

/-!
# Documents

The published page: rendered markup in a document with the design, the fonts and, for a page that
takes over in the browser, an import map for the bindings and the script that starts it.
-/
namespace SiteBuild.Site

/-- What the address of a module that is its own text starts with. -/
def dataHeader : Text := "data:text/javascript,"

/-- The characters besides letters and digits that stand in such an address as they are. -/
def dataMarks : String := "-_.!~*'()"

/-- The address of a module that is its own text. -/
def dataUrl (source : Text) : Except Text.Unencodable Text :=
  (Url.escaped dataMarks source).map fun escaped => dataHeader ++ escaped

/-- The names of the collections as keys, each once. -/
def collectionKeys (collections : List Json) : Except Misuse (List Key) :=
  (collections.mapM Json.asKey).map fun keys => keys.eraseDupsBy Key.same

/-- The bindings that the browser is given: the collections are named and empty. -/
def browserBindings (config : Config) : Except Misuse Bindings := do
  let design ← config.designValues
  let names ← collectionKeys config.collections
  let data ← Bindings.collectionsOf (names.map fun name => (name, .arr []))
  return {
    content := config.content
    design := design
    data := data
    projectId := Bindings.projectIdOf [("project_id", .str config.projectId)] }

/-- The addresses of the bindings in the browser, by name. -/
def bindingAddresses (bindings : Bindings) : Except Text.Unencodable (List (Text × Text)) :=
  bindings.clientModules.mapM fun entry => (dataUrl entry.2).map fun url => (entry.1, url)

/-- The addresses of the runtime and of the bindings in the browser, by name. -/
def importMap (config : Config) : Except Failure (List (Text × Text)) := do
  let bindings ← (browserBindings config).mapError .misuse
  let addresses ← (bindingAddresses bindings).mapError .unencodable
  return (Builtin.packageName, Builtin.publishedUrl) ::
    (Builtin.packageName ++ "/", Builtin.publishedUrl ++ "/") :: addresses

/-- The element of the import map. -/
def importMapElement (imports : List (Text × Text)) : Text :=
  let addresses := Json.obj (imports.map fun entry => (entry.1, .str entry.2))
  let text := Script.escapeEndTags ((Json.obj [("imports", addresses)]).write .indented)
  "<script type=\"importmap\">\n" ++ text ++ "\n    </script>"

/-- The script that starts a page in the browser. -/
def hydrationScript (code : Json) : Text :=
  Text.unlines [
    "",
    "    <script type=\"module\">",
    "        const code = " ++ Script.literal code ++ ";",
    "        const blob = new Blob([code], \x7b type: 'text/javascript' \x7d);",
    "        const url = URL.createObjectURL(blob);",
    "        try \x7b",
    "            const mod = await import(url);",
    "            mod.hydrate(mod.default, \x7b target: document.getElementById('app') \x7d);",
    "        \x7d catch (e) \x7b",
    "            console.error('[pagesmith] hydration failed:', e);",
    "        \x7d finally \x7b",
    "            URL.revokeObjectURL(url);",
    "        \x7d",
    "    </script>"
  ]

/-- A code point in markup. -/
def escapedMarkup : CodePoint → Text
  | .scalar '&' => "&amp;"
  | .scalar '<' => "&lt;"
  | .scalar '>' => "&gt;"
  | .scalar '\x22' => "&quot;"
  | .scalar '\x27' => "&#x27;"
  | point => [point]

/-- A text in markup. -/
def escapeMarkup (text : Text) : Text := text.flatMap escapedMarkup

/-- The style sheet that every page starts from. -/
def normalizeUrl : Text :=
  "https://cdn.jsdelivr.net/npm/modern-normalize@2.0.0/modern-normalize.min.css"

/-- The parts of a document that the site and the page decide. -/
structure DocumentParts where
  /-- The escaped name of the site. -/
  title : Text
  /-- The link to web fonts. -/
  fonts : Text
  /-- The style rule of the design. -/
  style : Text
  /-- The rendered head. -/
  head : Text
  /-- The element of the import map. -/
  imports : Text
  /-- The rendered body. -/
  body : Text
  /-- The script that starts the page. -/
  script : Text

/-- The document of its parts. -/
def documentText (parts : DocumentParts) : Text :=
  Text.unlines [
    "<!DOCTYPE html>",
    "<html>",
    "<head>",
    "    <meta charset=\"utf-8\">",
    "    <meta name=\"viewport\" content=\"width=device-width, initial-scale=1\">",
    "    <title>" ++ parts.title ++ "</title>",
    "    <link rel=\"stylesheet\" href=\"" ++ normalizeUrl ++ "\">",
    "    " ++ parts.fonts,
    "    <style>" ++ parts.style ++ "</style>",
    "    " ++ parts.head,
    "    " ++ parts.imports,
    "</head>",
    "<body>",
    "    <div id=\"app\">" ++ parts.body ++ "</div>" ++ parts.script,
    "</body>",
    "</html>"
  ]

/-- A text that is put behind others in a document. -/
def appended (part : Textual) : Except Failure Text :=
  match part with
  | .text value => .ok value
  | .other value => .error (.misuse (.badTail value.typeName))

/-- The document of a rendered page; without code for the browser it has no script. Of several
parts that are no texts, the first one that is put into the document is told. -/
def renderDocument (body : Textual) (config : Config) (head code : Textual) :
    Except Failure Text := do
  let imports ← if code.isEmpty then pure [] else (importMap config).map importMapElement
  let name ← (config.name.asText "replace").mapError .misuse
  let fonts ← (fontLinks config.design).mapError .unencodable
  return documentText {
    title := escapeMarkup name
    fonts := fonts
    style := designCss config.design
    head := ← appended head
    imports := imports
    body := ← appended body
    script := if code.isEmpty then [] else hydrationScript code.toJson }

end SiteBuild.Site
