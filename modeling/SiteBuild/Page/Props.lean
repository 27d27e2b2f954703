import SiteBuild.Page.Section
import SiteBuild.Text.Blank

/-!
# The values of a page

The values that the rendered page takes, by section, and whether a page has script code of its
own.
-/
namespace SiteBuild.Page

/-- The name under which the page takes the values of a section. -/
def sectionPropsName (index : Nat) : Text := "component_" ++ Text.ofNat index ++ "_props"

/-- The values of the sections that have any, each under the name of its section. -/
def sectionProps (sections : List Source) : Fields :=
  sections.zipIdx.filterMap fun entry =>
    match entry.1 with
    | .text _ => none
    | .parts content =>
      if content.data.isEmpty then none
      else some (.text (sectionPropsName entry.2), .obj content.data.toRecord)

/-- The values that the page takes when it is rendered. -/
def renderProps (sources : Sources) (head : Option Head) : Fields :=
  match sources with
  | .single (.text _) => []
  | .single (.parts content) => content.data
  | .list sections =>
    let headData := (head.map Head.data).getD []
    sectionProps sections ++ [(.text "head_props", .obj headData.toRecord)]

/-- Whether a component has script code. -/
def hasScript : Source → Except Misuse Bool
  | .text value => .ok (Text.holds "<script" value)
  | .parts content => do
    let script ← content.js.asText "strip"
    if (Text.trim script).isEmpty then content.html.holds "<script" else return true

/-- Whether one of the components has script code; the first that has decides. -/
def anyScript : List Source → Except Misuse Bool
  | [] => .ok false
  | source :: rest => do
    if ← hasScript source then return true
    anyScript rest

/-- Whether a page has script code. -/
def hasScripts (sources : Sources) : Except Misuse Bool := anyScript sources.toList

end SiteBuild.Page
