import SiteBuild.Diagnostic.CodeFrame
import SiteBuild.Json.Fields
import SiteBuild.Text.Blank
import SiteBuild.Url.Basic

/-!
# Diagnostics

A failure or the report of a tool in one form: a headline, the position, the lines around it and
the pages that document it. The message for the author is made from that form.
-/
namespace SiteBuild

/-- What an author is told about a failure. -/
structure Diagnostic where
  /-- The name of the error. -/
  name : Json
  /-- What is wrong. -/
  message : Json
  /-- The line, from one, if it is an integer. -/
  line : Json := .null
  /-- The column, from zero, if it is an integer. -/
  column : Json := .null
  /-- The lines around the place. -/
  frame : Option Text := none
  /-- The pages that document the error, in any order; each should be a text. -/
  links : List Key := []
  /-- The part of the tool that reported it. -/
  plugin : Json := .null
  /-- The module it belongs to. -/
  moduleId : Json := .null
  deriving Repr

namespace Diagnostic

/-- The line and the column as far as they are integers. -/
def position (diagnostic : Diagnostic) : Text :=
  let part (name : Text) (value : Json) : List Text :=
    if value.int?.isSome then [name ++ " " ++ value.shown] else []
  Text.join ", " (part "line" diagnostic.line ++ part "column" diagnostic.column)

/-- The links, each once, in the order of their code points. -/
def sortedLinks (diagnostic : Diagnostic) : List Key :=
  (diagnostic.links.eraseDupsBy Key.same).mergeSort fun first second =>
    !Text.precedes second.shown first.shown

/-- A diagnostic with its position and its links in order. -/
def toJson (diagnostic : Diagnostic) : Json :=
  .obj [
    ("name", diagnostic.name),
    ("message", diagnostic.message),
    ("line", diagnostic.line),
    ("column", diagnostic.column),
    ("frame", Json.ofString? diagnostic.frame),
    ("links", .arr (diagnostic.sortedLinks.map Key.toJson)),
    ("plugin", diagnostic.plugin),
    ("module_id", diagnostic.moduleId),
    ("position", .str diagnostic.position)]

/-- A frame without the blanks around it, if it is a string. -/
def trimmedFrame? (frame : Json) : Option Text := frame.string?.map Text.trim

/-- The links of a build error: where it is documented, if that is known. -/
def errorLinks (error : BuildError) : Except Misuse (List Key) :=
  if error.url.isEmpty then .ok [] else error.url.asKey.map fun link => [link]

/-- The diagnostic of a build error. -/
def ofBuildError (error : BuildError) (moduleId : Json) : Except Misuse Diagnostic := do
  let links ← errorLinks error
  return {
    name := error.name
    message := error.message
    line := error.line
    column := error.column
    frame := trimmedFrame? error.frame
    links := links
    plugin := error.plugin
    moduleId := error.moduleId.orElse moduleId }

/-- The diagnostic of a failure; one without a text shows its kind. -/
def ofFailure (failure : Failure) (moduleId : Json) : Except Misuse Diagnostic :=
  match failure with
  | .build error => ofBuildError error moduleId
  | other =>
    let text : Text := if other.text.isEmpty then other.label ++ "('')" else other.text
    .ok { name := .str other.label, message := .str text, moduleId := moduleId }

/-- The integer that a report gives for a key: in its location, in its start, or by itself. -/
def reportedPosition (report : Record) (key : Text) : Json :=
  let inside (container : Text) : Option Json := do
    let fields ← (report.get container).record?
    let value := Record.get fields key
    if value.int?.isSome then some value else none
  let own := report.get key
  ((inside "loc").orElse fun _ => inside "start").getD (if own.int?.isSome then own else .null)

/-- The addresses that lines of a stack are made of. -/
def stackLinks (stack : Json) : List Text :=
  match stack.string? with
  | none => []
  | some text => ((Text.lines text).map Text.trim).filter Url.isRemote

/-- The diagnostic of the report of a tool. -/
def ofReport (report : Record) (moduleId : Json) : Diagnostic :=
  { name := ((report.get "name").orElse (report.get "code")).orElse (.str "BuildError")
    message :=
      ((report.get "message").orElse (report.get "reason")).orElse (.str "Unknown build error")
    line := reportedPosition report "line"
    column := reportedPosition report "column"
    frame := trimmedFrame? (report.get "frame")
    links := (stackLinks (report.get "stack") ++ (report.get "url").string?.toList).map .text
    plugin := report.get "plugin"
    moduleId := (report.get "id").orElse moduleId }

/-- The diagnostic of what a tool answers in place of a result. -/
def ofAnswer (answer : Json) (moduleId : Json) : Diagnostic :=
  match answer with
  | .obj report => ofReport report moduleId
  | other =>
    { name := .str "BuildError", message := .str other.shown, moduleId := moduleId }

/-- The frame that is shown: the one given, or one made from the source. -/
def shownFrame (diagnostic : Diagnostic) (source : Option Textual) : Except Misuse Text :=
  let given := diagnostic.frame.getD []
  if !given.isEmpty then .ok given
  else
    match source, diagnostic.line.int? with
    | some source, some line =>
      if source.isEmpty then .ok []
      else do codeFrame (← source.asText "split") line diagnostic.column.int?
    | _, _ => .ok []

/-- The links below each other; every link has to be a text. -/
def linkList (diagnostic : Diagnostic) : Except Misuse Text :=
  Textual.join "\n" (diagnostic.sortedLinks.map Key.toTextual)

/-- The message for the author. -/
def format (diagnostic : Diagnostic) (source : Option Textual) : Except Misuse Text := do
  let below (gap part : Text) : Text := if part.isEmpty then [] else gap ++ part
  let plugin : Text :=
    if diagnostic.plugin.isEmpty then [] else "[" ++ diagnostic.plugin.shown ++ "] "
  let headline := plugin ++ diagnostic.name.shown ++ ": " ++ diagnostic.message.shown
  let frame ← diagnostic.shownFrame source
  let links ← diagnostic.linkList
  return headline ++ below "\n" diagnostic.position ++ below "\n\n" frame ++
    (if diagnostic.links.isEmpty then [] else "\n\n" ++ links : Text)

end Diagnostic

/-- The message for the author of what a tool answers in place of a result. -/
def formatAnswer (answer moduleId : Json) (source : Option Textual) : Except Misuse Text :=
  match answer with
  | .null => .ok "Unknown build error"
  | .str text => .ok text
  | other => (Diagnostic.ofAnswer other moduleId).format source

/-- The message for the author of a failure. -/
def formatFailure (failure : Failure) (moduleId : Json) (source : Option Textual) :
    Except Misuse Text := do
  (← Diagnostic.ofFailure failure moduleId).format source

end SiteBuild
