import SiteBuild.Failure
import SiteBuild.Text.Search

/-!
# Values in the place of texts

A field that should be text is kept as it came, and what comes of a value that is no text is
decided where it is used: it may be shown, searched or handed on, but no text is put together
from it.
-/
namespace SiteBuild

/-- A value in the place of a text. -/
inductive Textual where
  /-- A text. -/
  | text (value : Text)
  /-- Another value. -/
  | other (value : Json)
  deriving Repr

namespace Textual

instance : Inhabited Textual := ⟨.text []⟩
instance : Coe Text Textual := ⟨.text⟩
instance : Coe String Textual := ⟨fun value => .text value⟩

/-- The value itself, in the place of a text. -/
def exactly : Json → Textual
  | .str points => .text points
  | value => .other value

/-- The value that stands in the place of a text; an empty value is the empty text. -/
def ofJson (value : Json) : Textual := if value.isEmpty then "" else exactly value

/-- The value as it came. -/
def toJson : Textual → Json
  | .text value => .str value
  | .other value => value

/-- Whether it is the empty text. -/
def isEmpty : Textual → Bool
  | .text value => value.isEmpty
  | .other value => value.isEmpty

/-- What a message or a generated text shows of it. -/
def shown : Textual → Text
  | .text value => value
  | .other value => value.shown

/-- The text, where another value lacks the given member of texts. -/
def asText (member : String) : Textual → Except Misuse Text
  | .text value => .ok value
  | .other value => .error (.noMember value.typeName member)

/-- Whether a pattern stands in it: in a text somewhere, in a list as an item, in an object as a
key. -/
def holds (pattern : Text) : Textual → Except Misuse Bool
  | .text value => .ok (Text.holds pattern value)
  | .other (.arr items) => .ok (items.any (Json.isString pattern))
  | .other (.obj fields) => .ok (fields.any fun field => field.1 == pattern)
  | .other value => .error (.notSearchable value.typeName)

/-- The parts put together from the given place on, a separator before each; every part has to be
a text. -/
def joinFrom (separator : Text) (index : Nat) : List Textual → Except Misuse Text
  | [] => .ok []
  | .other value :: _ => .error (.badPart index value.typeName)
  | .text value :: rest => (joinFrom separator (index + 1) rest).map (separator ++ value ++ ·)

/-- The parts put together, a separator between them; every part has to be a text. -/
def join (separator : Text) (parts : List Textual) : Except Misuse Text :=
  (joinFrom separator 0 parts).map fun joined => joined.drop separator.length

/-- Texts are put together like parts that are texts. -/
theorem join_texts (separator : Text) (parts : List Text) :
    join separator (parts.map .text) = .ok (Text.join separator parts) := by
  have from_index (index : Nat) (all : List Text) :
      joinFrom separator index (all.map .text) = .ok (all.flatMap (separator ++ ·)) := by
    induction all generalizing index with
    | nil => rfl
    | cons first rest tail => simp [joinFrom, tail, Except.map, List.append_assoc]
  have joined (first : Text) (rest : List Text) :
      first ++ rest.flatMap (separator ++ ·) = Text.join separator (first :: rest) := by
    induction rest generalizing first with
    | nil => simp [Text.join, List.intercalate]
    | cons next others tail =>
      have shorter := tail next
      simp only [Text.join, List.intercalate] at shorter ⊢
      simp [← shorter, List.append_assoc]
  rw [join, from_index]
  cases parts with
  | nil => simp [Except.map, Text.join, List.intercalate]
  | cons first rest =>
    rw [List.flatMap_cons, List.append_assoc, joined]
    simp [Except.map]

end Textual
end SiteBuild
