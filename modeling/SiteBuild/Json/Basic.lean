import SiteBuild.Number.Binary64
import SiteBuild.Text.CodePoint

/-!
# JSON values

The values that requests, tool replies and data records are made of. An object keeps the order in
which its keys first came; an integer is unbounded and is another value than a number with a
fraction or exponent; a string may hold lone surrogates. A value is *empty* when it is null,
false, zero or has no members, and requests treat an empty value as an absent one.
-/
namespace SiteBuild

/-- A JSON value. -/
inductive Json where
  /-- The null value. -/
  | null
  /-- A truth value. -/
  | bool (value : Bool)
  /-- An integer. -/
  | int (value : Int)
  /-- A number with a fraction or an exponent. -/
  | real (value : Binary64)
  /-- A string. -/
  | str (value : Text)
  /-- An array. -/
  | arr (items : List Json)
  /-- An object, its fields in order. -/
  | obj (fields : List (Text × Json))
  deriving Repr, Inhabited

/-- The fields of an object, in order, each key once. -/
abbrev Record := List (Text × Json)

namespace Record

/-- The value of a key. -/
def find? : Record → Text → Option Json
  | [], _ => none
  | field :: rest, key => if field.1 = key then some field.2 else Record.find? rest key

/-- The value of a key; an absent key counts as null. -/
def get (record : Record) (key : Text) : Json := (Record.find? record key).getD .null

/-- Set a key: a new key goes to the end, a known key keeps its place. -/
def insert : Record → Text → Json → Record
  | [], key, value => [(key, value)]
  | field :: rest, key, value =>
    if field.1 = key then (key, value) :: rest else field :: Record.insert rest key value

/-- Set the fields one after the other. -/
def ofFields (fields : List (Text × Json)) : Record :=
  fields.foldl (fun record field => Record.insert record field.1 field.2) []

/-- The value just set is found. -/
theorem find?_insert_self (record : Record) (key : Text) (value : Json) :
    Record.find? (Record.insert record key value) key = some value := by
  induction record with
  | nil => simp [insert, find?]
  | cons field rest tail => by_cases same : field.1 = key <;> simp [insert, find?, same, tail]

/-- Setting one key leaves the values of the others. -/
theorem find?_insert_of_ne (record : Record) {key other : Text} (value : Json)
    (differ : other ≠ key) :
    Record.find? (Record.insert record key value) other = Record.find? record other := by
  induction record with
  | nil => simp [insert, find?, Ne.symm differ]
  | cons field rest tail =>
    by_cases same : field.1 = key
    · simp [insert, find?, same, Ne.symm differ]
    · by_cases found : field.1 = other
      · subst found
        simp [insert, find?, differ]
      · simp [insert, find?, same, found, tail]

end Record

namespace Json

/-- An array of strings. -/
def strings (items : List Text) : Json := .arr (items.map .str)

/-- The empty object. -/
def emptyObject : Json := .obj []

/-- Whether a value is null, false, zero or without members. -/
def isEmpty : Json → Bool
  | .null => true
  | .bool value => !value
  | .int value => value == 0
  | .real value => value.isZero
  | .str value => value.isEmpty
  | .arr items => items.isEmpty
  | .obj fields => fields.isEmpty

/-- The value, or another one in place of an empty value. -/
def orElse (value other : Json) : Json := if value.isEmpty then other else value

/-- Whether a value is null. -/
def isNull : Json → Bool
  | .null => true
  | _ => false

/-- The integer of a value; a truth value counts as one or zero. -/
def int? : Json → Option Int
  | .int value => some value
  | .bool value => some (if value then 1 else 0)
  | _ => none

/-- The string of a value. -/
def string? : Json → Option Text
  | .str value => some value
  | _ => none

/-- Only a string has a string. -/
theorem string?_eq_some_iff {value : Json} {text : Text} :
    value.string? = some text ↔ value = .str text := by
  cases value <;> simp [string?]

/-- Whether a value is a given string. -/
def isString (text : Text) : Json → Bool
  | .str value => value == text
  | _ => false

/-- The fields of a value. -/
def record? : Json → Option Record
  | .obj fields => some fields
  | _ => none

/-- The integer or nothing, as a value. -/
def ofInt? : Option Int → Json
  | some value => .int value
  | none => .null

/-- The string or nothing, as a value. -/
def ofString? : Option Text → Json
  | some value => .str value
  | none => .null

end Json
end SiteBuild
