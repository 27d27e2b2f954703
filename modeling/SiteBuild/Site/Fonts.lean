import SiteBuild.Site.Config
import SiteBuild.Text.Blank
import SiteBuild.Text.Lowercase
import SiteBuild.Text.Search
import SiteBuild.Url.Percent

/-!
# Fonts and design

The style rules of the design tokens, and the web fonts that the tokens ask for. A font that
systems bring along is not asked for.
-/
namespace SiteBuild.Site

/-- The fonts that systems bring along, in lower case. -/
def systemFonts : List Text :=
  ["system-ui", "-apple-system", "blinkmacsystemfont", "segoe ui", "helvetica", "arial",
    "sans-serif", "serif", "monospace", "cursive", "fantasy", "ui-monospace", "ui-sans-serif",
    "ui-serif", "ui-rounded", "georgia", "cambria", "times new roman", "times", "courier new",
    "courier", "monaco", "menlo", "consolas", "liberation mono", "dejavu sans mono",
    "lucida console", "sf mono", "sfmono-regular"]

/-- A text without blanks around it and without quotes. -/
def unquoted (text : Text) : Text := Text.without ['\x22', '\x27'] (Text.trim text)

/-- The names of the font of the system. -/
def systemNames : List Text := ["system-ui", "-apple-system"]

/-- Whether a list of fonts starts with the font of the system. -/
def startsWithSystem (font : Text) : Bool :=
  font.contains (.scalar ',') && systemNames.contains (unquoted (Text.before ',' font))

/-- Whether a font needs no web font. -/
def isSystemFont (font : Text) : Bool :=
  font.isEmpty || startsWithSystem font || systemFonts.contains (Text.lower font)

/-- The name of the web font that a token asks for. -/
def webFont? (token : DesignToken) : Option Text :=
  if !token.type.toJson.isString "font" || isSystemFont token.value then none
  else
    let name := unquoted token.value
    if name.isEmpty then none else some name

/-- The names of the web fonts of a design, each once. -/
def webFonts (design : List DesignToken) : List Text := (design.filterMap webFont?).eraseDups

/-- Where web fonts are found. -/
def fontsUrl : Text := "https://fonts.bunny.net/css"

/-- A font in the address of its style sheet: the words in lower case, and the weights. -/
def fontParameter (font : Text) : Text :=
  Text.join "-" (Text.words (Text.lower font)) ++ ":400,500,600,700"

/-- The link to the style sheet of the web fonts of a design. -/
def fontLinks (design : List DesignToken) : Except Text.Unencodable Text :=
  match webFonts design with
  | [] => .ok []
  | fonts => do
    let families ← Url.escaped "" (Text.join "|" (fonts.map fontParameter))
    return "<link rel=\"stylesheet\" href=\"" ++ fontsUrl ++ "?family=" ++ families ++
      "&display=swap\">"

/-- The line that sets the custom property of a token, if the token has a name. -/
def propertyLine? (token : DesignToken) : Option Text :=
  if token.cssVar.isEmpty then none
  else some ("\t" ++ token.cssVar.shown ++ ": " ++ token.value ++ ";")

/-- The style rule that sets the custom properties of a design. -/
def designCss (design : List DesignToken) : Text :=
  match design.filterMap propertyLine? with
  | [] => ":root \x7b\x7d"
  | lines => ":root \x7b\n" ++ Text.unlines lines ++ "\n\x7d"

end SiteBuild.Site
