import SiteBuild.Component.GlobalStyle
import SiteBuild.Diagnostic.Basic
import SiteBuild.Json.Fields

/-!
# Compiling components

A component is compiled by a tool, for the server or for the browser. The tool is asked for a
source map every time. What it reports in place of a result becomes a compile error, and so does
whatever else it raises that is no build error.
-/
namespace SiteBuild.Component

/-- The side that a component is compiled for. -/
inductive Side where
  /-- It renders to markup. -/
  | server
  /-- It renders in the browser. -/
  | client
  deriving DecidableEq, Repr

/-- The name of a side. -/
def Side.name : Side → Text
  | .server => "server"
  | .client => "client"

/-- What becomes of the styles of a component. -/
inductive CssMode where
  /-- They are left to a style sheet. -/
  | external
  /-- The component brings them along. -/
  | injected
  deriving DecidableEq, Repr

/-- The name of a way of styles. -/
def CssMode.name : CssMode → Text
  | .external => "external"
  | .injected => "injected"

/-- The way of styles that a value names. -/
def CssMode.ofJson (value : Json) : Except Failure CssMode :=
  match value with
  | .arr _ | .obj _ => .error (.misuse (.badKey value.typeName))
  | _ =>
    if value.isString "external" then .ok .external
    else if value.isString "injected" then .ok .injected
    else .error (.badOption (.badCss value))

/-- The side that a value names. -/
def Side.ofJson (value : Json) : Except Failure Side :=
  if value.isString "server" then .ok .server
  else if value.isString "client" then .ok .client
  else .error (.badOption (.badSide value))

/-- How a component is compiled. -/
structure Options where
  /-- The side. -/
  generate : Side := .client
  /-- What becomes of the styles. -/
  css : CssMode := .external
  /-- Whether the code is for development; the tool takes it as it is given. -/
  dev : Json := .bool false
  deriving Repr, Inhabited

/-- The names of the options. -/
def optionNames : List Text := ["generate", "css", "dev"]

/-- The options that fields give; what they do not give is as usual. -/
def Options.ofFields (raw : Record) : Except Failure Options := do
  match (raw.map Prod.fst).filter (!optionNames.contains ·) with
  | name :: _ => throw (.misuse (.unknownName name))
  | [] =>
    let given (name : Text) (usual : Json) : Json := (Record.find? raw name).getD usual
    let generate ← Side.ofJson (given "generate" (.str "client"))
    let css ← CssMode.ofJson (given "css" (.str "external"))
    return { generate, css, dev := given "dev" (.bool false) }

/-- The options as the tool takes them. -/
def Options.toJson (options : Options) : Json :=
  .obj [
    ("generate", .str options.generate.name),
    ("css", .str options.css.name),
    ("dev", options.dev),
    ("sourcemap", .bool true)]

/-- A compiled component. -/
structure Compiled where
  /-- The code of the module, as the tool gives it. -/
  code : Textual
  /-- The source map. -/
  map : Json := .null
  /-- What the tool warns of. -/
  warnings : List Json := []
  deriving Repr

/-- A compiled component as a value. -/
def Compiled.toJson (compiled : Compiled) : Json :=
  .obj [
    ("code", compiled.code.toJson),
    ("map", compiled.map),
    ("warnings", .arr compiled.warnings)]

/-- What the compiler counts. -/
structure Counts where
  /-- The number of compiled components. -/
  compiled : Nat := 0
  /-- The number of rejected components. -/
  failed : Nat := 0
  /-- The number of warnings. -/
  warnings : Nat := 0
  deriving DecidableEq, Repr

/-- The counts as a value. -/
def Counts.toJson (counts : Counts) : Json :=
  .obj [
    ("compiled", .int counts.compiled),
    ("failed", .int counts.failed),
    ("warnings", .int counts.warnings)]

/-- The compile error of a diagnostic; where it is documented and which part of the tool reported
it is dropped. -/
def errorOfDiagnostic (diagnostic : Diagnostic) : BuildError :=
  let name :=
    if diagnostic.name.isString "BuildError" then .str "CompileError"
    else diagnostic.name
  { kind := .compile
    message := diagnostic.message
    name := name.orElse (.str "CompileError")
    line := diagnostic.line
    column := diagnostic.column
    frame := Json.ofString? diagnostic.frame
    moduleId := diagnostic.moduleId }

/-- The error that is raised for a failure of the tool itself. -/
def errorOfFailure (failure : Failure) (moduleId : Option Text) : BuildError :=
  match failure with
  | .build error => error
  | other =>
    { kind := .compile, message := .str other.text, moduleId := Json.ofString? moduleId }

/-- The first warning that is no object, if there is one. -/
def badWarning? (warnings : List Json) : Option Json :=
  warnings.find? fun warning => warning.record?.isNone

/-- The compiled component of a result without an error, and the new counts. -/
def ofResult (fields : Record) (counts : Counts) : Except Failure Compiled × Counts :=
  match (Record.get fields "warnings").asItems with
  | .error cause => (.error (.misuse cause), counts)
  | .ok warnings =>
    match badWarning? warnings with
    | some warning => (.error (.misuse (.noMember warning.typeName "get")), counts)
    | none =>
      let counted :=
        { counts with
          compiled := counts.compiled + 1
          warnings := counts.warnings + warnings.length }
      let code := Textual.ofJson (Record.get fields "code")
      (.ok { code := code, map := Record.get fields "map", warnings := warnings }, counted)

/-- The compiled component of what the tool answers, and the new counts. -/
def ofAnswer (answer : Except Failure Json) (moduleId : Option Text) (counts : Counts) :
    Except Failure Compiled × Counts :=
  let failed := { counts with failed := counts.failed + 1 }
  match answer with
  | .error failure => (.error (.build (errorOfFailure failure moduleId)), failed)
  | .ok (.obj fields) =>
    let error := Record.get fields "error"
    if error.isEmpty then ofResult fields counts
    else
      let diagnostic := Diagnostic.ofAnswer error (Json.ofString? moduleId)
      (.error (.build (errorOfDiagnostic diagnostic)), failed)
  | .ok other => (.error (.misuse (.noMember other.typeName "get")), counts)

/-- Compile a component; `run` hands its source, with global styles enclosed, and the options to
the tool. A source that is no text is not handed in. -/
def compile {m : Type → Type} [Monad m] (run : Text → Options → m (Except Failure Json))
    (source : Textual) (options : Options) (moduleId : Option Text) (counts : Counts) :
    m (Except Failure Compiled × Counts) := do
  match source with
  | .other value => return (.error (.misuse (.notText value.typeName)), counts)
  | .text source =>
    return ofAnswer (← run (encloseGlobalStyles source) options) moduleId counts

end SiteBuild.Component
