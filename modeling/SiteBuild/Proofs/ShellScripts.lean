import Mathlib.Data.List.Nodup
import SiteBuild.Page.Props
import SiteBuild.Proofs.GeneratedLines
import SiteBuild.Proofs.PageFiles

/-!
# The script of the shell

The shell of a page imports the component of each section and takes the values of each section and
of the head. What its script declares is read off the script's own tokens. Main statement: the
names that it binds are its own ones and the fields of the head, and none of them is bound twice if
and only if no field of the head has the name of an own one (`nodup_boundNames_shell_iff`).
-/
namespace SiteBuild

/-! ## Numbered names -/

namespace Text

/-- The digits of a number are points of names. -/
theorem points_ofNat (number : Nat) :
    ∀ point ∈ ofNat number, Script.isNamePoint point = true ∧ isBlank point = false := by
  intro point member
  obtain ⟨digit, known, rfl⟩ := List.mem_map.mp member
  have decimal := Nat.isDigit_of_mem_toDigits (by decide) (by decide)
    (show digit ∈ Nat.toDigits 10 number by simpa [Nat.repr] using known)
  obtain ⟨low, high⟩ := Char.isDigit_iff_toNat.mp decimal
  have each : ∀ value < 58, 48 ≤ value →
      Script.isNamePoint (.scalar (Char.ofNat value)) = true ∧
        isBlank (.scalar (Char.ofNat value)) = false := by decide
  simpa using each digit.toNat (Nat.lt_succ_of_le high) low

/-- Numbers with the same digits are the same. -/
theorem ofNat_injective : Function.Injective ofNat := by
  intro first second same
  have scalars : Function.Injective CodePoint.scalar := fun a b equal => by cases equal; rfl
  have strings : first.repr.toList = second.repr.toList := List.map_injective_iff.mpr scalars same
  have digits : Nat.toDigits 10 first = Nat.toDigits 10 second := by
    simpa [Nat.repr] using strings
  calc
    first = Nat.ofDigitChars 10 (Nat.toDigits 10 first) 0 := Nat.ofDigitChars_ten_toDigits.symm
    _ = Nat.ofDigitChars 10 (Nat.toDigits 10 second) 0 := by rw [digits]
    _ = second := Nat.ofDigitChars_ten_toDigits

end Text

namespace Page

open Script

/-- The name of the component of a section in the shell. -/
def componentName (index : Nat) : Text := "Component_" ++ Text.ofNat index

/-- A name that the shell binds by itself. -/
inductive ShellName where
  /-- The name of all values. -/
  | props
  /-- The name of the component of a section. -/
  | component (index : Nat)
  /-- The name of the values of a section. -/
  | values (index : Nat)
  /-- The name of the values of the head. -/
  | head

namespace ShellName

/-- The text of a name. -/
def text : ShellName → Text
  | .props => "props"
  | .component index => componentName index
  | .values index => sectionPropsName index
  | .head => "head_props"

/-- The letter that a name starts with. -/
def letter : ShellName → Char
  | .props => 'p'
  | .component _ => 'C'
  | .values _ => 'c'
  | .head => 'h'

theorem head?_text (name : ShellName) : name.text.head? = some (.scalar name.letter) := by
  cases name <;> rfl

/-- Names with the same text are the same. -/
theorem text_injective : Function.Injective text := by
  intro first second same
  have letters : first.letter = second.letter := by
    have heads := congrArg List.head? same
    simpa [head?_text] using heads
  have indices {start stop : Text} {one other : Nat}
      (equal : start ++ Text.ofNat one ++ stop = start ++ Text.ofNat other ++ stop) :
      one = other :=
    Text.ofNat_injective (List.append_cancel_left (List.append_cancel_right equal))
  cases first <;> cases second
  case props.props => rfl
  case component.component one other =>
    have equal : ("Component_" : Text) ++ Text.ofNat one ++ [] =
      ("Component_" : Text) ++ Text.ofNat other ++ [] := by
        rw [List.append_nil, List.append_nil]
        exact same
    rw [indices equal]
  case values.values one other =>
    have equal : ("component_" : Text) ++ Text.ofNat one ++ ("_props" : Text) =
      ("component_" : Text) ++ Text.ofNat other ++ ("_props" : Text) := same
    rw [indices equal]
  case head.head => rfl
  all_goals exact absurd letters (by simp [letter])

/-- The names of the shell of a page with a number of sections, in the order they are bound. -/
def all (count : Nat) : List ShellName :=
  .props :: ((List.range count).map component ++ ((List.range count).map values ++ [head]))

/-- The shell binds no name of its own twice. -/
theorem nodup_all (count : Nat) : (all count).Nodup := by
  have components : ((List.range count).map component).Nodup :=
    List.nodup_range.map fun _ _ same => by cases same; rfl
  have others : ((List.range count).map values).Nodup :=
    List.nodup_range.map fun _ _ same => by cases same; rfl
  simp +contextual [all, List.nodup_append, components, others, or_imp]

/-- Every name of the shell is a word. -/
theorem isWord_text (name : ShellName) : IsWord name.text := by
  cases name with
  | props => decide
  | component index => exact IsWord.append (by decide) (Text.points_ofNat index)
  | values index =>
    have digits : IsWord ("component_" ++ Text.ofNat index) :=
      IsWord.append (by decide) (Text.points_ofNat index)
    exact digits.append (by decide)
  | head => decide

end ShellName

/-! ## Fields -/

/-- Whether each key of fields is a word, or empty. -/
def HasWordKeys (data : Fields) : Prop :=
  ∀ field ∈ data, ∃ key : Text, field.1 = .text key ∧ (key = [] ∨ IsWord key)

/-- Keys that are words are the texts of their names. -/
theorem HasWordKeys.exists_word {data : Fields} (words : HasWordKeys data) {key : Key}
    (member : key ∈ fieldKeys data) : ∃ name, key = .text name ∧ IsWord name := by
  obtain ⟨known, filled⟩ := List.mem_filter.mp member
  obtain ⟨field, listed, rfl⟩ := List.mem_map.mp known
  obtain ⟨name, same, empty | word⟩ := words field listed
  · rw [same, empty] at filled
    cases filled
  · exact ⟨name, same, word⟩

theorem HasWordKeys.isWord {data : Fields} (words : HasWordKeys data) :
    ∀ name ∈ fieldNames data, IsWord name := by
  intro name member
  obtain ⟨key, listed, rfl⟩ := List.mem_map.mp member
  obtain ⟨name, rfl, word⟩ := words.exists_word listed
  exact word

/-- What generated text shows of keys that are words are their names. -/
theorem HasWordKeys.map_shown {data : Fields} (words : HasWordKeys data) :
    (fieldKeys data).map Key.shown = fieldNames data := by
  apply List.map_congr_left
  intro key member
  obtain ⟨name, rfl, _⟩ := words.exists_word member
  rfl

/-- Keys that are words have different names if they differ. -/
theorem HasWordKeys.nodup_fieldNames {data : Fields} (words : HasWordKeys data)
    (distinct : (data.map Prod.fst).Nodup) : (fieldNames data).Nodup := by
  refine (distinct.filter _).map_on fun first member second other same => ?_
  obtain ⟨one, rfl, _⟩ := words.exists_word member
  obtain ⟨two, rfl, _⟩ := words.exists_word other
  exact congrArg Key.text same

/-! ## The shell -/

/-- What stands in the script element of the shell. -/
def shellBlock (sections : List Source) (head : Head) : Text :=
  Text.ownLines (Text.unlines (shellLines sections.length ((fieldKeys head.data).map Key.shown)))

/-- The shell is the head, its script and the sections. -/
theorem appShell_eq (sections : List Source) (head : Head) :
    appShell sections head = "<svelte:head>\n" ++ head.code.shown ++ "\n</svelte:head>\n" ++
      scriptElement (shellBlock sections head) ++
      ("\n" ++ Text.unlines (sections.zipIdx.map fun entry => sectionElement entry.2 entry.1)) := by
  simp only [appShell, scriptElement, shellBlock, Text.ownLines, List.append_assoc,
    List.cons_append]
  rfl

/-- The declarations of the shell. -/
def shellDeclared (count : Nat) (headFields : List Text) : List Declared :=
  let indices := List.range count
  List.flatten [
    [.named "props" propsCall],
    indices.map fun index => .imported (componentName index) (sectionFile index),
    indices.map fun index => .fields [sectionPropsName index] [nameToken "props"],
    [.fields ["head_props"] [nameToken "props"]],
    headFields.map fun key => .named key (fieldOf "head_props" key)]

/-- The import of a section is cut into its declaration. -/
theorem isCutInto_sectionImport (index : Nat) :
    IsCutInto [] (sectionImport index)
      (Declared.imported (componentName index) (sectionFile index)).tokens [] := by
  have bare : IsBare (sectionFile index) := by
    intro point member
    simp only [sectionFile, List.mem_append] at member
    rcases member with (start | digit) | stop
    · exact (by decide : ∀ point ∈ ("./Component_" : Text), point ∉ _) point start
    · exact isBare_of_named (fun point digit => (Text.points_ofNat index point digit).1) point digit
    · exact (by decide : ∀ point ∈ (".svelte" : Text), point ∉ _) point stop
  have line := IsCutInto.imported (ShellName.isWord_text (.component index)) bare
  refine line.congr ?_ rfl
  simp only [sectionImport, ShellName.text, componentName, List.append_assoc]
  rfl

/-- The line of the values of a section is cut into its declaration. -/
theorem isCutInto_sectionValues (index : Nat) :
    IsCutInto [] (sectionValues index)
      (Declared.fields [sectionPropsName index] [nameToken "props"]).tokens [] := by
  have line := IsCutInto.fields (List.cons_ne_nil _ [])
    (List.forall_mem_singleton.mpr (ShellName.isWord_text (.values index)))
    (.word (ShellName.isWord_text .props))
  refine line.congr ?_ rfl
  have only : Text.join ", " [(ShellName.values index).text] = sectionPropsName index := by
    simp [Text.join, ShellName.text]
  rw [only]
  simp only [sectionValues, sectionPropsName, List.append_assoc]
  rfl

/-- The line of a field of the head is cut into its declaration. -/
theorem isCutInto_headField {key : Text} (word : IsWord key) :
    IsCutInto [] (headField key) (Declared.named key (fieldOf "head_props" key)).tokens [] := by
  have line := IsCutInto.named word (.fieldOf (ShellName.isWord_text .head) word.isBare)
  refine line.congr ?_ rfl
  simp only [headField, List.append_assoc]
  rfl

/-- The script of the shell is cut into its declarations. -/
theorem isCutInto_shellLines (count : Nat) {headFields : List Text}
    (words : ∀ key ∈ headFields, IsWord key) :
    IsCutInto [] (Text.unlines (shellLines count headFields))
      ((shellDeclared count headFields).flatMap Declared.tokens) [] := by
  have props : IsWord "props" := ShellName.isWord_text .props
  have first : IsCutInto [] "let props = $props();" (Declared.named "props" propsCall).tokens [] :=
    .named props .props
  have values : IsCutInto [] "let \x7b head_props \x7d = props;"
      (Declared.fields ["head_props"] [nameToken "props"]).tokens [] :=
    .fields (List.cons_ne_nil _ _) (List.forall_mem_singleton.mpr (ShellName.isWord_text .head))
      (.word props)
  refine .unlines ?_
  rw [shellLines, shellDeclared]
  refine List.rel_flatten (.cons (.cons first .nil) (.cons ?_ (.cons ?_
    (.cons (.cons values .nil) (.cons ?_ .nil)))))
  · simpa [List.forall₂_map_left_iff, List.forall₂_map_right_iff, List.forall₂_same] using
      fun index _ => isCutInto_sectionImport index
  · simpa [List.forall₂_map_left_iff, List.forall₂_map_right_iff, List.forall₂_same] using
      fun index _ => isCutInto_sectionValues index
  · simpa [List.forall₂_map_left_iff, List.forall₂_map_right_iff, List.forall₂_same] using
      fun key member => isCutInto_headField (words key member)

/-- The names that the declarations of the shell bind. -/
theorem names_shellDeclared (count : Nat) (headFields : List Text) :
    (shellDeclared count headFields).flatMap Declared.names =
      (ShellName.all count).map ShellName.text ++ headFields := by
  simp [shellDeclared, ShellName.all, List.flatMap_append, List.flatMap_map, Declared.names,
    ShellName.text, Function.comp_def, ← List.map_eq_flatMap]

/-- Every declaration of the shell is whole. -/
theorem isWhole_shellDeclared (count : Nat) (headFields : List Text) :
    ∀ declared ∈ shellDeclared count headFields, declared.IsWhole := by
  have noEnd : markToken ';' ∉ [nameToken "props"] := by decide
  intro declared member
  simp only [shellDeclared, List.flatten_cons, List.flatten_nil, List.append_nil, List.mem_append,
    List.mem_singleton, List.mem_map] at member
  rcases member with rfl | ⟨index, -, rfl⟩ | ⟨index, -, rfl⟩ | rfl | ⟨key, -, rfl⟩
  · exact Declared.isWhole_named _ (by decide)
  · exact Declared.isWhole_imported _ _
  · exact Declared.isWhole_fields (List.cons_ne_nil _ _) noEnd
  · exact Declared.isWhole_fields (List.cons_ne_nil _ _) noEnd
  · exact Declared.isWhole_named _ (not_mem_fieldOf _ _)

/-- Only the imports of the shell name sources. -/
theorem isCalm_shellDeclared (count : Nat) (headFields : List Text) :
    ∀ declared ∈ shellDeclared count headFields, declared.IsCalm := by
  have values : ∀ token ∈ [nameToken "props"], isQuiet token = true := by decide
  intro declared member
  simp only [shellDeclared, List.flatten_cons, List.flatten_nil, List.append_nil, List.mem_append,
    List.mem_singleton, List.mem_map] at member
  rcases member with rfl | ⟨index, -, rfl⟩ | ⟨index, -, rfl⟩ | rfl | ⟨key, -, rfl⟩
  · exact (by decide : ∀ token ∈ propsCall, isQuiet token = true)
  · exact (rfl : isDeclarationKeyword (componentName index) = false)
  · exact values
  · exact values
  · exact isQuiet_fieldOf (by decide) key

/-- The sources that the shell names are the components of its sections. -/
theorem sources_shellDeclared (count : Nat) (headFields : List Text) :
    (shellDeclared count headFields).flatMap Declared.sources =
      (List.range count).map sectionFile := by
  simp [shellDeclared, List.flatMap_append, List.flatMap_map, Declared.sources,
    ← List.map_eq_flatMap]

/-- The shell reads each field of the head. -/
theorem read_shellDeclared (count : Nat) (headFields : List Text) :
    (shellDeclared count headFields).flatMap (Declared.read "head_props") = headFields := by
  have props : (Declared.named "props" propsCall).read "head_props" = [] := rfl
  have nothing (indices : List Nat) : indices.flatMap (fun _ => ([] : List Text)) = [] := by simp
  simp only [shellDeclared, List.flatten_cons, List.flatten_nil, List.append_nil,
    List.flatMap_append, List.flatMap_map, List.flatMap_singleton, props, Declared.read_fieldOf]
  simp [Declared.read, nothing]

/-- What is read of the script of the shell are the tokens of its declarations. -/
theorem cut_shellBlock (sections : List Source) {head : Head} (words : HasWordKeys head.data) :
    cut .start (shellBlock sections head) =
      .ok ((shellDeclared sections.length (fieldNames head.data)).flatMap Declared.tokens) := by
  rw [shellBlock, words.map_shown]
  exact (isCutInto_shellLines _ words.isWord).cut_ownLines

theorem readTokens?_shellBlock (sections : List Source) {head : Head}
    (words : HasWordKeys head.data) :
    readTokens? (shellBlock sections head) =
      some ((shellDeclared sections.length (fieldNames head.data)).flatMap Declared.tokens) := by
  have cut := cut_shellBlock sections words
  rw [shellBlock] at cut ⊢
  rw [readTokens?_ownLines, cut]
  rfl

/-- The names that are read are those of the declarations. -/
theorem boundNames_shellDeclared (count : Nat) (headFields : List Text) :
    boundNames ((shellDeclared count headFields).flatMap Declared.tokens) =
      (ShellName.all count).map ShellName.text ++ headFields := by
  rw [boundNames, declarations_tokens (isWhole_shellDeclared count headFields),
    names_shellDeclared]

/-- The names that the script of the shell binds are its own ones and the fields of the head. None
is bound twice if and only if no field of the head has an own name of the shell. -/
theorem nodup_boundNames_shell_iff (sections : List Source) {head : Head}
    (words : HasWordKeys head.data) (distinct : (head.data.map Prod.fst).Nodup) :
    (∃ elements, appShell sections head = "<svelte:head>\n" ++ head.code.shown ++
      "\n</svelte:head>\n" ++ scriptElement (shellBlock sections head) ++ elements) ∧
    ∃ read, readTokens? (shellBlock sections head) = some read ∧
      boundNames read = (ShellName.all sections.length).map ShellName.text ++
        fieldNames head.data ∧
      ((boundNames read).Nodup ↔
        ∀ own ∈ ShellName.all sections.length, own.text ∉ fieldNames head.data) := by
  have names := boundNames_shellDeclared sections.length (fieldNames head.data)
  refine ⟨⟨_, appShell_eq sections head⟩, _, readTokens?_shellBlock sections words, names, ?_⟩
  rw [names, List.nodup_append]
  have own : ((ShellName.all sections.length).map ShellName.text).Nodup :=
    (ShellName.nodup_all _).map ShellName.text_injective
  constructor
  · rintro ⟨-, -, apart⟩ name listed field
    exact apart _ (List.mem_map_of_mem listed) _ field rfl
  · intro apart
    refine ⟨own, words.nodup_fieldNames distinct, fun text listed key field same => ?_⟩
    obtain ⟨name, known, rfl⟩ := List.mem_map.mp listed
    exact apart name known (same ▸ field)

/-- A page with a title binds every name once. -/
theorem nodup_boundNames_shell_title :
    ∃ read, readTokens? (shellBlock [.text "<p/>", .parts {}]
        ⟨"", [("title", .str "Home"), ("", .null)]⟩) = some read ∧
      (boundNames read).Nodup := by
  have words : HasWordKeys [("title", .str "Home"), ("", .null)] :=
    List.forall_mem_cons.mpr ⟨⟨"title", rfl, .inr (by decide)⟩,
      List.forall_mem_singleton.mpr ⟨[], rfl, .inl rfl⟩⟩
  obtain ⟨-, read, found, -, once⟩ := @nodup_boundNames_shell_iff [.text "<p/>", .parts {}]
    ⟨"", [("title", .str "Home"), ("", .null)]⟩ words (by decide)
  exact ⟨read, found, once.mpr (by decide +kernel)⟩

/-- A field of the head that is named like the values of the page is bound a second time. -/
theorem boundNames_shell_props :
    ∃ read, readTokens? (shellBlock [.text "<p/>"] ⟨"", [("props", .int 1)]⟩) = some read ∧
      boundNames read =
        ["props", "Component_0", "component_0_props", "head_props", "props"] ∧
      ¬(boundNames read).Nodup := by
  have words : HasWordKeys [("props", .int 1)] :=
    List.forall_mem_singleton.mpr ⟨"props", rfl, .inr (by decide)⟩
  have read := @readTokens?_shellBlock [.text "<p/>"] ⟨"", [("props", .int 1)]⟩ words
  refine ⟨_, read, ?_, ?_⟩
  · rw [boundNames_shellDeclared]
    decide +kernel
  · rw [boundNames_shellDeclared]
    decide +kernel

end Page
end SiteBuild
