import SiteBuild.Json.Fields

/-!
# Bindings

The values a page is built with: the fields of its content and of its design, the records of its
collections, and the id of its project. Each is reached from components through a module with a
reserved name.
-/
namespace SiteBuild

/-- The modules through which components reach the bindings. -/
inductive Binding where
  /-- The fields of the content. -/
  | content
  /-- The fields of the design. -/
  | design
  /-- The collections of records. -/
  | data
  /-- Assets and requests through the host. -/
  | site
  /-- Functions of the host. -/
  | backend
  deriving DecidableEq, Repr

namespace Binding

/-- All bindings, in the order of the import map. -/
def all : List Binding := [.content, .design, .data, .site, .backend]

/-- The reserved name of a binding. -/
def name : Binding → Text
  | .content => "$content"
  | .design => "$design"
  | .data => "$data"
  | .site => "$site"
  | .backend => "$backend"

/-- The binding of a name. -/
def ofName? (name : Text) : Option Binding := all.find? fun binding => binding.name == name

/-- Every binding is found by its name. -/
theorem ofName?_name (binding : Binding) : ofName? binding.name = some binding := by
  cases binding <;> decide +kernel

end Binding

/-- The records of one collection. -/
structure Collection where
  /-- The records, in order. -/
  records : List Json := []
  /-- What the host knows of their fields. -/
  schema : Json := .null
  deriving Repr, Inhabited

/-- The collection that a value stands for: a list of records, or an object that holds them. -/
def Collection.ofJson : Json → Except Misuse Collection
  | .arr items => .ok { records := items }
  | .obj fields =>
    (Record.get fields "records").asItems.map fun records =>
      { records := records, schema := Record.get fields "schema" }
  | other => .error (.noCollection other.typeName)

/-- A collection as a value. -/
def Collection.toJson (collection : Collection) : Json :=
  .obj [("records", .arr collection.records), ("schema", collection.schema)]

/-- The values a page is built with. -/
structure Bindings where
  /-- The fields of the content. -/
  content : Fields := []
  /-- The fields of the design. -/
  design : Fields := []
  /-- The collections, each name once. -/
  data : List (Key × Collection) := []
  /-- The id of the project. -/
  projectId : Text := []
  deriving Repr, Inhabited

namespace Bindings

/-- The text of the id of a project, under either spelling of its key. -/
def projectIdOf (raw : Record) : Text :=
  let id := (raw.get "project_id").orElse (raw.get "projectId")
  if id.isEmpty then [] else id.shown

/-- The collections that the values of fields stand for. -/
def collectionsOf (fields : Fields) : Except Misuse (List (Key × Collection)) :=
  fields.mapM fun field => (Collection.ofJson field.2).map fun collection => (field.1, collection)

/-- The bindings of a request. -/
def ofJson (value : Json) : Except Misuse Bindings := do
  let raw ← value.asObject "get"
  let collections ← (raw.get "data").asObject "items"
  let data ← collectionsOf (Fields.ofRecord collections)
  let content ← (raw.get "content").asFields
  let design ← (raw.get "design").asFields
  return { content, design, data, projectId := projectIdOf raw }

/-- Bindings as a value, fields as lists of pairs. -/
def toJson (bindings : Bindings) : Json :=
  .obj [
    ("content", bindings.content.toPairs),
    ("design", bindings.design.toPairs),
    ("project_id", .str bindings.projectId),
    ("data", Fields.toPairs (bindings.data.map fun entry => (entry.1, entry.2.toJson)))]

/-- The names of the collections, in order. -/
def collectionNames (bindings : Bindings) : List Key := bindings.data.map Prod.fst

/-- The collection of a name; an unknown name has an empty one. -/
def collection (bindings : Bindings) (name : Key) : Collection :=
  ((bindings.data.find? fun entry => entry.1.same name).map Prod.snd).getD {}

end Bindings
end SiteBuild
