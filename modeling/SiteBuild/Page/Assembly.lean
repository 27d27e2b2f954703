import SiteBuild.Module.Builtin
import SiteBuild.Page.Section

/-!
# The files of a page

The files a build starts from: one component file for each section, the shell that puts them in
order, and the entry module. The shell hands each section its own values and reads the fields of
the head from theirs.
-/
namespace SiteBuild.Page

/-- The files of a build, by name. A file should be a text. -/
abbrev Files := List (Text × Textual)

/-- What is in a file. -/
def Files.find? : Files → Text → Option Textual
  | [], _ => none
  | file :: rest, name => if file.1 = name then some file.2 else Files.find? rest name

/-- The name of the entry module. -/
def entryFile : Text := "./entry.js"

/-- The name of the component that is the page. -/
def appFile : Text := "./App.svelte"

/-- The name of the component of a section. -/
def sectionFile (index : Nat) : Text := "./Component_" ++ Text.ofNat index ++ ".svelte"

/-- The keys of fields that are not empty. -/
def fieldKeys (data : Fields) : List Key := (data.map Prod.fst).filter fun key => !key.isEmpty

/-- The lines of the script of a section: its values, then its own script. -/
def scriptLines (content : Section) : Except Misuse (List Textual) := do
  let keys := fieldKeys content.data
  let names ← Textual.join ", " (keys.map Key.toTextual)
  let line : Text := "let \x7b " ++ names ++ " \x7d = $props();"
  let values : List Textual := if keys.isEmpty then [] else [.text line]
  return if content.js.isEmpty then values else values ++ [content.js]

/-- The component file of a section: markup, script and style, one below the other. Markup that
has a script of its own is the whole component. -/
def assembleSection (content : Section) : Except Misuse Textual := do
  if ← content.html.holds "<script" then return content.html
  let lines ← Textual.join "\n" (← scriptLines content)
  let script : Text := "<script>\n" ++ lines ++ "\n</script>"
  let style : Text := "<style>" ++ content.css.shown ++ "</style>"
  let parts : List Textual := [content.html, .text script]
  Textual.join "\n" (if content.css.isEmpty then parts else parts ++ [.text style])

/-- The component file of a source. -/
def assemble : Source → Except Misuse Textual
  | .text value => .ok value
  | .parts content => assembleSection content

/-- The element of a section in the shell. -/
def sectionElement (index : Nat) (source : Source) : Text :=
  let number := Text.ofNat index
  let element := "<Component_" ++ number ++ " \x7b...component_" ++ number ++ "_props\x7d />"
  match source with
  | .text _ => element
  | .parts content => content.wrapperStart.shown ++ element ++ content.wrapperEnd.shown

/-- The import of a section in the shell. -/
def sectionImport (index : Nat) : Text :=
  "import Component_" ++ Text.ofNat index ++ " from '" ++ sectionFile index ++ "';"

/-- The line of the shell that takes the values of a section. -/
def sectionValues (index : Nat) : Text :=
  "let \x7b component_" ++ Text.ofNat index ++ "_props \x7d = props;"

/-- The line of the shell that reads a field of the head. -/
def headField (key : Text) : Text := "let " ++ key ++ " = head_props['" ++ key ++ "'];"

/-- The lines of the script of the shell. -/
def shellLines (count : Nat) (headFields : List Text) : List Text :=
  let indices := List.range count
  List.flatten [
    ["let props = $props();"], indices.map sectionImport, indices.map sectionValues,
    ["let \x7b head_props \x7d = props;"], headFields.map headField]

/-- The shell: the head, the script, and the sections in order. -/
def appShell (sections : List Source) (head : Head) : Text :=
  let script := shellLines sections.length ((fieldKeys head.data).map Key.shown)
  let elements := sections.zipIdx.map fun entry => sectionElement entry.2 entry.1
  "<svelte:head>\n" ++ head.code.shown ++ "\n</svelte:head>\n<script>\n" ++
    Text.unlines script ++ "\n</script>\n" ++ Text.unlines elements

/-- The entry module: the page, and what it hands on from the runtime. -/
def entryModule (runtimeExports : List Json) : Except Misuse Text := do
  let page : Text := "export \x7b default \x7d from './App.svelte';\n"
  if runtimeExports.isEmpty then return page
  let names ← Textual.join ", " (runtimeExports.map Textual.exactly)
  return page ++ "export \x7b " ++ names ++ " \x7d from 'svelte';\n"

/-- The files of the components of a page, in the order they are made. -/
def componentFiles (sources : Sources) (head : Head) : Except Misuse Files :=
  match sources with
  | .single source => do return [(appFile, ← assemble source)]
  | .list sections => do
    let files ← sections.zipIdx.mapM fun item =>
      (assemble item.1).map fun content => (sectionFile item.2, content)
    return files ++ [(appFile, .text (appShell sections head))]

/-- The files of a page: those of its components, and the entry module. -/
def localFiles (sources : Sources) (head : Head) (runtimeExports : List Json) :
    Except Misuse Files := do
  let components ← componentFiles sources head
  return components ++ [(entryFile, .text (← entryModule runtimeExports))]

end SiteBuild.Page
