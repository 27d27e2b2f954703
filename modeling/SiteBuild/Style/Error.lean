import SiteBuild.Failure

/-!
# Style errors

Whatever the flattening of a style sheet raises or reports becomes one kind of error.
-/
namespace SiteBuild.Style

/-- What a style error says if nothing is known. -/
def unknownMessage : Json := .str "Unknown CSS compilation error"

/-- A style error with nothing but a message. -/
def plainError (message : Json) : BuildError := { kind := .style, message := message }

/-- The value if it is an integer. -/
def integerOnly (value : Json) : Json := if value.int?.isSome then value else .null

/-- The style error of a report. -/
def errorOfReport (report : Record) : BuildError :=
  let reason := report.get "reason"
  { kind := .style
    message := ((report.get "message").orElse reason).orElse unknownMessage
    line := integerOnly (report.get "line")
    column := integerOnly (report.get "column")
    reason := if reason.string?.isSome then reason else .null }

/-- The style error of what the transform answers in place of a result. -/
def errorOfAnswer (answer : Json) : BuildError :=
  match answer with
  | .obj report => errorOfReport report
  | .str message => plainError (.str message)
  | other => plainError (.str other.shown)

/-- The style error of a failure; a style error stays as it is. -/
def errorOfFailure (failure : Failure) : BuildError :=
  let message := (Json.str failure.text).orElse unknownMessage
  match failure with
  | .build error =>
    if error.kind = .style then error
    else { kind := .style, message := message, line := error.line, column := error.column }
  | _ => plainError message

end SiteBuild.Style
