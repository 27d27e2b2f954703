import SiteBuild.Proofs.PercentEscapes
import SiteBuild.Proofs.WrittenData

/-!
# Lone surrogates in written data

The only code points without bytes that a written value holds are those of its strings, and a
style that escapes nothing keeps each of them (`lone_writeAt`). Behind end tags nothing changes
about that (`lone_literal`). So it can be told from the strings of a value whether its text has
bytes.
-/
namespace SiteBuild

namespace Text

/-- The lone surrogates of a text, in order. -/
def lone (text : Text) : Text := text.filter fun point => !isScalar point

@[simp] theorem lone_nil : lone [] = [] := rfl

@[simp] theorem lone_append (first second : Text) :
    lone (first ++ second) = lone first ++ lone second :=
  List.filter_append first second

/-- A text has no lone surrogates exactly if it is made of characters. -/
theorem lone_eq_nil_iff {text : Text} : lone text = [] ↔ text.Encodable := by
  simp [lone, Encodable]

@[simp] theorem lone_ofChars (chars : List Char) : lone (ofChars chars) = [] :=
  lone_eq_nil_iff.mpr (encodable_ofChars chars)

@[simp] theorem lone_ofString (string : String) : lone (ofString string) = [] :=
  lone_ofChars string.toList

/-- The lone surrogates of points that are replaced are those of the replacements. -/
theorem lone_flatMap (text : Text) (written : CodePoint → Text) :
    lone (text.flatMap written) = text.flatMap fun point => lone (written point) := by
  induction text with
  | nil => rfl
  | cons point rest tail => rw [List.flatMap_cons, lone_append, tail, List.flatMap_cons]

/-- A separator between texts adds no lone surrogates if it has none. -/
theorem lone_join {separator : Text} (plain : lone separator = []) (parts : List Text) :
    lone (join separator parts) = parts.flatMap lone := by
  induction parts with
  | nil => rfl
  | cons first rest tail =>
    cases rest with
    | nil => simp [join]
    | cons second others =>
      have step : join separator (first :: second :: others) =
          first ++ (separator ++ join separator (second :: others)) := by
        simp [join]
      simp only [step, lone_append, plain, tail, List.nil_append, List.flatMap_cons]

/-- The lone surrogates of lines are those of each line. -/
@[simp] theorem lone_unlines (lines : List Text) : lone (unlines lines) = lines.flatMap lone :=
  lone_join (lone_ofString "\n") lines

end Text

namespace Json

open Text

/-! ## Strings of a value -/

mutual

/-- The strings of a value, its keys as well, in order. -/
def texts : Json → List Text
  | .str text => [text]
  | .arr items => itemTexts items
  | .obj fields => memberTexts fields
  | _ => []

/-- The strings of items. -/
def itemTexts : List Json → List Text
  | [] => []
  | item :: rest => texts item ++ itemTexts rest

/-- The keys of members and the strings of their values. -/
def memberTexts : List (Text × Json) → List Text
  | [] => []
  | (key, value) :: rest => key :: (texts value ++ memberTexts rest)

end

/-- The strings of strings are these. -/
theorem itemTexts_map_str (names : List Text) : itemTexts (names.map Json.str) = names := by
  induction names with
  | nil => rfl
  | cons name rest tail => rw [List.map_cons, itemTexts, texts, tail, List.singleton_append]

/-! ## Written strings -/

/-- What a style leaves of the lone surrogates of a string: an escape is made of characters. -/
def kept (ascii : Bool) (text : Text) : Text := if ascii then [] else lone text

/-- A written point is a lone surrogate, or there is none in it. -/
theorem lone_writePoint (ascii : Bool) (point : CodePoint) :
    lone (writePoint ascii point) = kept ascii [point] := by
  cases point with
  | surrogate index => cases ascii <;> simp [writePoint, kept]
  | scalar char =>
    have none : kept ascii [.scalar char] = [] := by cases ascii <;> rfl
    rw [none, writePoint]
    cases shortEscape? char with
    | some letter => exact lone_ofChars ['\\', letter]
    | none =>
      simp only
      split
      · exact lone_ofChars _
      · rfl

/-- A written string has the lone surrogates that are kept of it. -/
theorem lone_writeString (ascii : Bool) (text : Text) :
    lone (writeString ascii text) = kept ascii text := by
  rw [writeString, lone_append, lone_append, lone_ofString, List.nil_append, List.append_nil,
    lone_flatMap]
  induction text with
  | nil => cases ascii <;> rfl
  | cons point rest tail =>
    rw [List.flatMap_cons, tail, lone_writePoint]
    cases ascii with
    | true => rfl
    | false => exact (lone_append [point] rest).symm

/-! ## Written values -/

/-- Whether the separators of a style hold no lone surrogates. -/
structure Style.IsPlain (style : Style) : Prop where
  item : lone style.itemSeparator = []
  key : lone style.keySeparator = []

/-- A line break and an indentation hold no lone surrogates. -/
theorem lone_lineBreak (style : Style) (level : Nat) : lone (lineBreak style level) = [] := by
  rw [lineBreak]
  split
  · rfl
  · exact lone_ofChars _

mutual

/-- The lone surrogates of a written value are those that are kept of its strings. -/
theorem lone_writeAt {style : Style} (plain : style.IsPlain) (level : Nat) :
    (value : Json) → lone (writeAt style level value) = (texts value).flatMap (kept style.ascii)
  | .null => rfl
  | .bool value => by cases value <;> rfl
  | .int value => lone_ofString _
  | .real value => by
    rw [writeAt]
    exact lone_ofString _
  | .str value => by
    rw [writeAt, texts, List.flatMap_singleton]
    exact lone_writeString style.ascii value
  | .arr [] => rfl
  | .arr (first :: rest) => by
    simp only [writeAt, lone_append, lone_ofString, lone_lineBreak, texts, itemTexts,
      List.nil_append, List.append_nil, List.flatMap_append]
    rw [lone_writeAt plain (level + 1) first, lone_writeItems plain (level + 1) rest]
  | .obj [] => rfl
  | .obj ((key, value) :: rest) => by
    simp only [writeAt, lone_append, lone_ofString, lone_lineBreak, lone_writeString, plain.key,
      texts, memberTexts, List.nil_append, List.append_nil, List.flatMap_cons,
      List.flatMap_append, List.append_assoc]
    rw [lone_writeAt plain (level + 1) value, lone_writeMembers plain (level + 1) rest]

/-- The lone surrogates of the items behind the first one are those kept of their strings. -/
theorem lone_writeItems {style : Style} (plain : style.IsPlain) (level : Nat) :
    (items : List Json) →
      lone (writeItems style level items) = (itemTexts items).flatMap (kept style.ascii)
  | [] => rfl
  | item :: rest => by
    simp only [writeItems, lone_append, lone_lineBreak, plain.item, itemTexts, List.nil_append,
      List.flatMap_append]
    rw [lone_writeAt plain level item, lone_writeItems plain level rest]

/-- The lone surrogates of the members behind the first one are those kept of their strings. -/
theorem lone_writeMembers {style : Style} (plain : style.IsPlain) (level : Nat) :
    (members : List (Text × Json)) →
      lone (writeMembers style level members) = (memberTexts members).flatMap (kept style.ascii)
  | [] => rfl
  | (key, value) :: rest => by
    simp only [writeMembers, lone_append, lone_lineBreak, lone_writeString, plain.item, plain.key,
      memberTexts, List.nil_append, List.flatMap_cons, List.flatMap_append, List.append_assoc]
    rw [lone_writeAt plain level value, lone_writeMembers plain level rest]

end

/-- The lone surrogates of a value in a style that escapes none are those of its strings. -/
theorem lone_write {style : Style} (plain : style.IsPlain) (characters : style.ascii = false)
    (value : Json) : lone (value.write style) = (texts value).flatMap lone := by
  have each : kept false = lone := rfl
  rw [write, lone_writeAt plain, characters, each]

theorem Style.isPlain_script : Style.script.IsPlain := ⟨lone_ofString _, lone_ofString _⟩

end Json

namespace Script

open Text

/-- Backslashes in end tags leave the lone surrogates of a text. -/
theorem lone_shielded (opened : Bool) (text : Text) : lone (shielded opened text) = lone text := by
  induction text generalizing opened with
  | nil => rfl
  | cons point rest tail =>
    have first (text : Text) : lone (point :: text) = lone [point] ++ lone text :=
      lone_append [point] text
    rw [shielded]
    split
    · change lone (point :: shielded false rest) = _
      rw [first, tail, ← first]
    · rw [first, tail, ← first]

/-- **Literals and their strings.** The lone surrogates of the text of a literal are those of the
strings of the value. -/
theorem lone_literal (value : Json) : lone (literal value) = value.texts.flatMap lone := by
  rw [literal, escapeEndTags_eq, lone_shielded]
  exact Json.lone_write Json.Style.isPlain_script rfl value

end Script
end SiteBuild
