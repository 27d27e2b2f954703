import SiteBuild.Json.Key
import SiteBuild.Json.Textual

/-!
# Values as fields and items

Requests are forgiving about shapes: fields may come as an object or as a list of pairs, and a
list may come as an object or a string. What cannot be taken so is a misuse.
-/
namespace SiteBuild

/-- A key in the place of a text. -/
def Key.toTextual (key : Key) : Textual := .exactly key.toJson

namespace Json

/-- A value as a key; a list and an object are none. -/
def asKey : Json → Except Misuse Key
  | .null => .ok .null
  | .bool value => .ok (.bool value)
  | .int value => .ok (.int value)
  | .real value => .ok (.real value)
  | .str text => .ok (.text text)
  | .arr items => .error (.badKey (Json.arr items).typeName)
  | .obj fields => .error (.badKey (Json.obj fields).typeName)

/-- The pair that an item of a list stands for, the item's place given. -/
def asPair (index : Nat) : Json → Except Misuse (Key × Json)
  | .arr [key, value] => key.asKey.map fun key => (key, value)
  | .str [key, value] => .ok (.text [key], .str [value])
  | .obj [key, value] => .ok (.text key.1, .str value.1)
  | .arr items => .error (.badPairLength index items.length)
  | .str text => .error (.badPairLength index text.length)
  | .obj fields => .error (.badPairLength index fields.length)
  | _ => .error (.noPair index)

/-- The fields that a list of pairs sets, from a place on. -/
def fieldsFrom (fields : Fields) (index : Nat) : List Json → Except Misuse Fields
  | [] => .ok fields
  | item :: rest => do
    let (key, value) ← asPair index item
    fieldsFrom (Fields.insert fields key value) (index + 1) rest

/-- The fields of a value. An empty value has none. -/
def asFields (value : Json) : Except Misuse Fields :=
  if value.isEmpty then .ok []
  else
    match value with
    | .obj fields => .ok (Fields.ofRecord fields)
    | .arr items => fieldsFrom [] 0 items
    | .str text => fieldsFrom [] 0 (text.map fun point => .str [point])
    | other => .error (.notIterable other.typeName)

/-- The members of a value: of an object its keys, of a string its characters. -/
def members : Json → Except Misuse (List Json)
  | .arr items => .ok items
  | .obj fields => .ok (fields.map fun field => .str field.1)
  | .str text => .ok (text.map fun point => .str [point])
  | other => .error (.notIterable other.typeName)

/-- The items of a value: its members, and of an empty value none. -/
def asItems (value : Json) : Except Misuse (List Json) :=
  if value.isEmpty then .ok [] else value.members

/-- The fields of a value that must be an object if it is not empty; `member` is what is asked of
it. -/
def asObject (member : String) (value : Json) : Except Misuse Record :=
  if value.isEmpty then .ok []
  else
    match value with
    | .obj fields => .ok fields
    | other => .error (.noMember other.typeName member)

end Json
end SiteBuild
