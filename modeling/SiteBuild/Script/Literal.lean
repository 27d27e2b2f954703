import SiteBuild.Json.Writer
import SiteBuild.Text.Search

/-!
# Values as script literals

A value inside a script is its JSON text with the slash of every end tag escaped, so that a
script element around it is not closed.
-/
namespace SiteBuild.Script

/-- A text with a backslash before the slash of every `</`. -/
def escapeEndTags (text : Text) : Text :=
  Text.replaceAll (Text.ofString "</") "<\\/" text

/-- A value as the text of a literal. -/
def literal (value : Json) : Text := escapeEndTags (value.write .script)

end SiteBuild.Script
