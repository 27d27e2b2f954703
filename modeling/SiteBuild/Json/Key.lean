import SiteBuild.Json.Shown
import SiteBuild.Json.Writer

/-!
# Keys

The keys of fields that come as a list of pairs. A key is any value but a list or an object. Keys
are the same if they are equal as values, and a truth value, an integer and a number with a
fraction are equal if they are the same number. Main statements: the value just set is found under
every key that is the same (`Fields.find?_insert_of_same`), and the values of other keys stay
(`Fields.find?_insert_of_differ`).
-/
namespace SiteBuild

/-- A key of fields. -/
inductive Key where
  /-- The null value. -/
  | null
  /-- A truth value. -/
  | bool (value : Bool)
  /-- An integer. -/
  | int (value : Int)
  /-- A number with a fraction or an exponent. -/
  | real (value : Binary64)
  /-- A string. -/
  | text (value : Text)
  deriving DecidableEq, Repr, Inhabited

namespace Key

instance : Coe Text Key := ⟨.text⟩
instance : Coe String Key := ⟨fun value => .text value⟩

/-- A key as a value. -/
def toJson : Key → Json
  | .null => .null
  | .bool value => .bool value
  | .int value => .int value
  | .real value => .real value
  | .text value => .str value

/-- The integer in place of every number that is one. -/
def canonical : Key → Key
  | .bool value => .int (if value then 1 else 0)
  | .real value => (value.toInt?.map Key.int).getD (.real value)
  | key => key

/-- Whether two keys are equal as values. -/
def same (first second : Key) : Bool := first.canonical == second.canonical

/-- A key that is the same as a text is this text. -/
theorem eq_of_same_text {text : Text} {key : Key} (same : (Key.text text).same key) :
    key = .text text := by
  have canonical : Key.text text = key.canonical := eq_of_beq same
  cases key with
  | text value => exact canonical.symm
  | real value => cases whole : value.toInt? <;> simp [Key.canonical, whole] at canonical
  | _ => cases canonical

/-- Whether a key is an empty value. -/
def isEmpty (key : Key) : Bool := key.toJson.isEmpty

/-- What a generated text shows of a key. -/
def shown (key : Key) : Text := key.toJson.shown

/-- The string that stands for a key in JSON text: of what is no string its JSON text. -/
def name : Key → Text
  | .text value => value
  | key => key.toJson.write .plain

/-- Keys that are texts are the same if the texts are. -/
theorem eraseDupsBy_map_text (names : List Text) :
    (names.map Key.text).eraseDupsBy Key.same = names.eraseDups.map Key.text := by
  match names with
  | [] => rfl
  | name :: rest =>
    have shorter : (rest.filter fun other => !other == name).length < rest.length + 1 :=
      Nat.lt_succ_of_le (List.length_filter_le _ _)
    have alike (other : Text) : Key.same (.text other) (.text name) = (other == name) := by
      rw [Bool.eq_iff_iff]
      simp [Key.same, Key.canonical]
    rw [List.map_cons, List.eraseDupsBy_cons, List.eraseDups_cons, List.map_cons,
      List.filter_map, ← eraseDupsBy_map_text]
    simp [Function.comp_def, alike]
termination_by names.length

end Key

/-- Fields under keys of any type, in order, each key once. -/
abbrev Fields := List (Key × Json)

namespace Fields

/-- The fields of an object. -/
def ofRecord (record : Record) : Fields := record.map fun field => (.text field.1, field.2)

/-- The fields as they stand in JSON text. -/
def toRecord (fields : Fields) : Record := fields.map fun field => (field.1.name, field.2)

/-- The fields as a list of pairs. -/
def toPairs (fields : Fields) : Json :=
  .arr (fields.map fun field => .arr [field.1.toJson, field.2])

/-- The value of a key. -/
def find? : Fields → Key → Option Json
  | [], _ => none
  | field :: rest, key => if field.1.same key then some field.2 else Fields.find? rest key

/-- Set a key: a new key goes to the end, a known key keeps its place and its spelling. -/
def insert : Fields → Key → Json → Fields
  | [], key, value => [(key, value)]
  | field :: rest, key, value =>
    if field.1.same key then (field.1, value) :: rest
    else field :: Fields.insert rest key value

/-- Set fields one after the other. -/
def ofList (fields : List (Key × Json)) : Fields :=
  fields.foldl (fun all field => Fields.insert all field.1 field.2) []

/-- The value just set is found under every key that is the same. -/
theorem find?_insert_of_same (fields : Fields) {key other : Key} (value : Json)
    (equal : key.same other) :
    Fields.find? (Fields.insert fields key value) other = some value := by
  have equal : key.canonical = other.canonical := eq_of_beq equal
  induction fields with
  | nil => simp [insert, find?, Key.same, equal]
  | cons field rest tail =>
    by_cases known : field.1.canonical = key.canonical
    · simp [insert, find?, Key.same, known, equal]
    · have apart : field.1.canonical ≠ other.canonical := equal ▸ known
      simp [insert, find?, Key.same, known, apart, tail]

/-- Setting one key leaves the values of the others. -/
theorem find?_insert_of_differ (fields : Fields) {key other : Key} (value : Json)
    (differ : key.same other = false) :
    Fields.find? (Fields.insert fields key value) other = Fields.find? fields other := by
  have differ : key.canonical ≠ other.canonical := by simpa [Key.same] using differ
  induction fields with
  | nil => simp [insert, find?, Key.same, differ]
  | cons field rest tail =>
    by_cases known : field.1.canonical = key.canonical
    · simp [insert, find?, Key.same, known, differ]
    · by_cases found : field.1.canonical = other.canonical
      · simp [insert, find?, Key.same, found, Ne.symm differ]
      · simp [insert, find?, Key.same, known, found, tail]

end Fields
end SiteBuild
