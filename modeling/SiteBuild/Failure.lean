import SiteBuild.Json.Reader
import SiteBuild.Json.Shown
import SiteBuild.Text.Utf8
import SiteBuild.Url.Host

/-!
# Failures

What can end a step of a build: an error of the build with the position that a tool reported, a
value that is not of the type it is used as, a text that is not read, or whatever a collaborator
raised. A failure has a label, which names its kind, and a text.
-/
namespace SiteBuild

/-- The kinds of build errors. -/
inductive BuildErrorKind where
  /-- A build or a render that failed as a whole. -/
  | build
  /-- A remote module that cannot be fetched. -/
  | fetch
  /-- A component that the compiler rejects. -/
  | compile
  /-- A style sheet that cannot be flattened. -/
  | style
  /-- A graph that the linker rejects. -/
  | link
  /-- A module that nothing backs. -/
  | unresolved
  deriving DecidableEq, Repr

/-- The name of a kind. -/
def BuildErrorKind.label : BuildErrorKind → String
  | .build => "BuildError"
  | .fetch => "FetchError"
  | .compile => "CompileError"
  | .style => "CssCompilationError"
  | .link => "LinkError"
  | .unresolved => "UnresolvedModuleError"

/-- A build error. What a tool reports is kept as it came; null stands for what is unknown. -/
structure BuildError where
  /-- Its kind. -/
  kind : BuildErrorKind
  /-- What is wrong. -/
  message : Json
  /-- The name it is shown under. -/
  name : Json := .str kind.label
  /-- The line, from one. -/
  line : Json := .null
  /-- The column. -/
  column : Json := .null
  /-- The lines around the place. -/
  frame : Json := .null
  /-- The part of the tool that reported it. -/
  plugin : Json := .null
  /-- Where it is documented. -/
  url : Json := .null
  /-- The module it belongs to. -/
  moduleId : Json := .null
  /-- The status of a response, for a fetch. -/
  statusCode : Json := .null
  /-- The bare reason, for a style sheet. -/
  reason : Json := .null
  deriving Repr

/-- The attributes of a build error. -/
def BuildError.toJson (error : BuildError) : Json :=
  .obj [
    ("name", error.name),
    ("message", error.message),
    ("line", error.line),
    ("column", error.column),
    ("frame", error.frame),
    ("plugin", error.plugin),
    ("url", error.url),
    ("module_id", error.moduleId)]

/-- The position of a style error as it stands behind the message. -/
def BuildError.stylePosition (error : BuildError) : Text :=
  let part (name : Text) (value : Json) : List Text :=
    if value.isNull then [] else [name ++ " " ++ value.shown]
  match part "line" error.line ++ part "column" error.column with
  | [] => ""
  | parts => " (" ++ Text.join ", " parts ++ ")"

/-- The text of a build error. -/
def BuildError.text (error : BuildError) : Text :=
  match error.kind with
  | .style => "CSS Error: " ++ error.message.shown ++ error.stylePosition
  | _ => error.message.shown

/-- A value that is used as something it is not. -/
inductive Misuse where
  /-- A value of a type whose values have no such member. -/
  | noMember (type member : String)
  /-- A value that is no sequence is gone through. -/
  | notIterable (type : String)
  /-- A value that holds nothing is searched. -/
  | notSearchable (type : String)
  /-- A part of a text is no string. -/
  | badPart (index : Nat) (type : String)
  /-- Something other than a string is put behind a string. -/
  | badTail (type : String)
  /-- A name is given that is none of those that are asked for. -/
  | unknownName (name : Text)
  /-- Something other than a string is looked through for a pattern. -/
  | notText (type : String)
  /-- An item of a list of fields has not two parts. -/
  | badPairLength (index length : Nat)
  /-- An item of a list of fields has no parts. -/
  | noPair (index : Nat)
  /-- A text or a list is asked for a member by name. -/
  | noNamedItems (isText : Bool)
  /-- A value that cannot be a key. -/
  | badKey (type : String)
  /-- A text is filled to a width beyond all texts, or only beyond the memory. -/
  | tooWide (beyondAll : Bool)
  /-- Something other than a number is counted back from. -/
  | noNumber (type : String)
  /-- A bound between items has a fraction. -/
  | badBound
  /-- A value that no collection can be built from. -/
  | noCollection (type : String)
  /-- A value that is no component source. -/
  | noSource (type : String)
  deriving DecidableEq, Repr

/-- The name of a misuse. -/
def Misuse.label : Misuse → String
  | .noMember _ _ => "AttributeError"
  | .badPairLength _ _ => "ValueError"
  | .tooWide true => "OverflowError"
  | .tooWide false => "MemoryError"
  | _ => "TypeError"

/-- The text of a misuse. -/
def Misuse.text : Misuse → Text
  | .noMember type member => s!"'{type}' object has no attribute '{member}'"
  | .notIterable type => s!"'{type}' object is not iterable"
  | .notSearchable type => s!"argument of type '{type}' is not iterable"
  | .badPart index type => s!"sequence item {index}: expected str instance, {type} found"
  | .badTail type => s!"can only concatenate str (not \"{type}\") to str"
  | .notText type => s!"expected string or bytes-like object, got '{type}'"
  | .badPairLength index length =>
    s!"dictionary update sequence element #{index} has length {length}; 2 is required"
  | .noPair index => s!"cannot convert dictionary update sequence element #{index} to a sequence"
  | .unknownName name => "got an unexpected keyword argument " ++ Text.quoted name
  | .noNamedItems true => "string indices must be integers, not 'str'"
  | .noNamedItems false => "list indices must be integers or slices, not str"
  | .badKey type => s!"unhashable type: '{type}'"
  | .tooWide true => "cannot fit 'int' into an index-sized integer"
  | .tooWide false => ""
  | .noNumber type => s!"unsupported operand type(s) for -: '{type}' and 'int'"
  | .badBound => "slice indices must be integers or None or have an __index__ method"
  | .noCollection type => s!"Cannot build a collection from {type}"
  | .noSource type => s!"Unsupported component source: {type}"

/-- An option that is none of those there are. -/
inductive OptionError where
  /-- The side to compile for. -/
  | badSide (value : Json)
  /-- The way of styles. -/
  | badCss (value : Json)
  /-- The format of a bundle. -/
  | badFormat (value : Json)
  /-- The names handed on from the runtime. -/
  | badExports (value : Json)
  deriving Repr

/-- The text of an option error. -/
def OptionError.text : OptionError → Text
  | .badSide value => "Invalid generate mode: " ++ value.shown
  | .badCss value => "Invalid css mode: " ++ value.shown
  | .badFormat value => "Invalid output format: " ++ value.shown
  | .badExports value => "Invalid runtime exports: " ++ value.inspected

/-- What ends a step of a build. -/
inductive Failure where
  /-- An error of the build. -/
  | build (error : BuildError)
  /-- A value used as something it is not. -/
  | misuse (cause : Misuse)
  /-- An option that is none of those there are. -/
  | badOption (cause : OptionError)
  /-- A graph that was not walked to its end within the limit of modules. -/
  | tooManyModules
  /-- A text that is no JSON. -/
  | badJson (error : Json.ReadError)
  /-- A URL that cannot be split. -/
  | badUrl (error : Url.UrlError)
  /-- A page that is not rendered. -/
  | render (message : Text)
  /-- A text that has no bytes. -/
  | unencodable (cause : Text.Unencodable)
  /-- What a collaborator raised, by the name of its kind and its text. -/
  | foreign (label : String) (text : Text)
  deriving Repr

namespace Failure

/-- The name of the kind of a failure. -/
def label : Failure → String
  | .build error => error.kind.label
  | .misuse cause => cause.label
  | .badOption _ => "ValueError"
  | .tooManyModules => "LimitError"
  | .badJson error => error.label
  | .badUrl _ => "ValueError"
  | .render _ => "SSRError"
  | .unencodable _ => "UnicodeEncodeError"
  | .foreign label _ => label

/-- The text of a failure. -/
def text : Failure → Text
  | .build error => error.text
  | .misuse cause => cause.text
  | .badOption cause => cause.text
  | .tooManyModules => "The graph has too many modules"
  | .badJson error => error.message
  | .badUrl error => error.message
  | .render message => message
  | .unencodable cause => cause.message
  | .foreign _ text => text

/-- The module that a failure belongs to, null if it names none. -/
def moduleId : Failure → Json
  | .build error => error.moduleId
  | _ => .null

end Failure
end SiteBuild
