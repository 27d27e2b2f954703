import SiteBuild.Json.Basic
import SiteBuild.Number.Notation
import SiteBuild.Text.Quoted

/-!
# Values in messages

How a message shows a value: a string as it is, any other value in a notation with `None`, `True`
and `False` and with strings in quotes. Values are those that the reader makes: what holds an
integer of more than `Json.integerDigits` digits, or is nested deeper than `Json.nestingLimit`, has
a notation here as well, which no message shows.
-/
namespace SiteBuild.Json

/-- What messages call the type of a value. -/
def typeName : Json → String
  | .null => "NoneType"
  | .bool _ => "bool"
  | .int _ => "int"
  | .real _ => "float"
  | .str _ => "str"
  | .arr _ => "list"
  | .obj _ => "dict"

mutual

/-- A value in its own notation, if it keeps to the limits of the reader. -/
def inspected : Json → Text
  | .null => "None"
  | .bool value => if value then "True" else "False"
  | .int value => Text.ofInt value
  | .real value => Number.shortestText Number.messageLayout value
  | .str value => Text.quoted value
  | .arr items => "[" ++ Text.join ", " (inspectedItems items) ++ "]"
  | .obj fields => "\x7b" ++ Text.join ", " (inspectedFields fields) ++ "\x7d"

/-- The items of an array in their own notation. -/
def inspectedItems : List Json → List Text
  | [] => []
  | item :: rest => inspected item :: inspectedItems rest

/-- The fields of an object in their own notation. -/
def inspectedFields : List (Text × Json) → List Text
  | [] => []
  | (key, value) :: rest =>
    (Text.quoted key ++ ": " ++ inspected value) :: inspectedFields rest

end

/-- What a message shows of a value within the limits of the reader: a string stands without
quotes. -/
def shown : Json → Text
  | .str value => value
  | value => inspected value

end SiteBuild.Json
