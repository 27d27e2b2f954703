import SiteBuild.Json.Reader

/-!
# What stands in JSON text

The grammar of values as a relation: which value stands at the start of a text, and which text is
behind it. Strings, words and numbers are what their readers make of them; arrays and objects are
the values in their brackets, a key that comes again being set again. Main statement: the reader
follows the grammar (`readValue_eq_ok_iff`), so that what holds of every derivation holds of
everything that is read.
-/
namespace SiteBuild.Json

mutual

/-- Whether a value stands at the start of a text, in which brackets may go a depth further; behind
it is another text. -/
inductive Reads : Nat → Text → Json → Text → Prop where
  /-- A string. -/
  | string {depth : Nat} {body string rest : Text}
      (content : readString (body.length + 1) [] body = .ok (string, rest)) :
      Reads depth (.scalar '\x22' :: body) (.str string) rest
  /-- An object without members. -/
  | emptyObject {depth : Nat} {body rest : Text} (close : skipSpace body = .scalar '\x7d' :: rest) :
      Reads (depth + 1) (.scalar '\x7b' :: body) (.obj []) rest
  /-- An object. -/
  | object {depth : Nat} {body rest : Text} {fields : Record}
      (inside : ReadsMembers depth [] (skipSpace body) fields rest) :
      Reads (depth + 1) (.scalar '\x7b' :: body) (.obj fields) rest
  /-- An array without items. -/
  | emptyArray {depth : Nat} {body rest : Text} (close : skipSpace body = .scalar ']' :: rest) :
      Reads (depth + 1) (.scalar '[' :: body) (.arr []) rest
  /-- An array. -/
  | array {depth : Nat} {body rest : Text} {items : List Json}
      (unclosed : (skipSpace body).head? ≠ some (.scalar ']'))
      (inside : ReadsItems depth (skipSpace body) items rest) :
      Reads (depth + 1) (.scalar '[' :: body) (.arr items) rest
  /-- A word or a number. -/
  | atom {depth : Nat} {text rest : Text} {value : Json}
      (found : readAtom text = .ok (value, rest)) (shorter : rest.length < text.length)
      (bare : ∀ mark ∈ ("\x22\x7b[" : Text), text.head? ≠ some mark) :
      Reads depth text value rest

/-- Whether members up to a closing bracket stand at the start of a text; they are set one after the
other in the fields of those before them. -/
inductive ReadsMembers : Nat → Record → Text → Record → Text → Prop where
  /-- The last member. -/
  | last {depth : Nat} {fields : Record} {body key afterKey afterColon afterValue rest : Text}
      {value : Json} (named : readString (body.length + 1) [] body = .ok (key, afterKey))
      (colon : skipSpace afterKey = .scalar ':' :: afterColon)
      (valued : Reads depth (skipSpace afterColon) value afterValue)
      (close : skipSpace afterValue = .scalar '\x7d' :: rest) :
      ReadsMembers depth fields (.scalar '\x22' :: body) (Record.insert fields key value) rest
  /-- A member with others behind it. -/
  | cons {depth : Nat} {fields all : Record}
      {body key afterKey afterColon afterValue more rest : Text} {value : Json}
      (named : readString (body.length + 1) [] body = .ok (key, afterKey))
      (colon : skipSpace afterKey = .scalar ':' :: afterColon)
      (valued : Reads depth (skipSpace afterColon) value afterValue)
      (comma : skipSpace afterValue = .scalar ',' :: more)
      (others : ReadsMembers depth (Record.insert fields key value) (skipSpace more) all rest) :
      ReadsMembers depth fields (.scalar '\x22' :: body) all rest

/-- Whether items up to a closing bracket stand at the start of a text. -/
inductive ReadsItems : Nat → Text → List Json → Text → Prop where
  /-- The last item. -/
  | last {depth : Nat} {text afterValue rest : Text} {value : Json}
      (valued : Reads depth text value afterValue)
      (close : skipSpace afterValue = .scalar ']' :: rest) : ReadsItems depth text [value] rest
  /-- An item with others behind it. -/
  | cons {depth : Nat} {text afterValue more rest : Text} {value : Json} {items : List Json}
      (valued : Reads depth text value afterValue)
      (comma : skipSpace afterValue = .scalar ',' :: more)
      (others : ReadsItems depth (skipSpace more) items rest) :
      ReadsItems depth text (value :: items) rest

end

/-- Members start with a quote. -/
theorem ReadsMembers.head? {depth : Nat} {fields all : Record} {text rest : Text}
    (members : ReadsMembers depth fields text all rest) : text.head? = some (.scalar '\x22') := by
  cases members <;> rfl

/-! ## What is read stands in the text -/

/-- Behind the first point that is no space there is less left. -/
theorem length_of_skipSpace {text rest : Text} {point : CodePoint}
    (found : skipSpace text = point :: rest) : rest.length < text.length := by
  have shorter := length_skipSpace_le text
  rw [found] at shorter
  exact shorter

/-- Whether what is read of texts below a length stands in them. -/
structure ReadsBelow (length : Nat) : Prop where
  value : ∀ {depth : Nat} {text : Text} {value : Json}
    {rest : { rest : Text // rest.length < text.length }}, text.length < length →
    readValue depth text = .ok (value, rest) → Reads depth text value rest
  members : ∀ {depth : Nat} {fields all : Record} {text : Text}
    {rest : { rest : Text // rest.length < text.length }}, text.length < length →
    readMembers depth fields text = .ok (all, rest) → ReadsMembers depth fields text all rest
  items : ∀ {depth : Nat} {text : Text} {items : List Json}
    {rest : { rest : Text // rest.length < text.length }}, text.length < length →
    readItems depth text = .ok (items, rest) → ReadsItems depth text items rest

namespace ReadsBelow

variable {text : Text} (below : ReadsBelow text.length)
  {rest : { rest : Text // rest.length < text.length }}

include below

/-- A value that is read stands in the text. -/
theorem reads_of_readValue {depth : Nat} {value : Json}
    (found : readValue depth text = .ok (value, rest)) : Reads depth text value rest := by
  unfold readValue at found
  split at found
  · split at found
    · cases found
    rename_i content
    cases found
    exact .string content
  · split at found
    · cases found
    split at found
    · rename_i close
      cases found
      exact .emptyObject close
    split at found
    · cases found
    rename_i inside
    cases found
    exact .object (below.members (Nat.lt_succ_of_le (length_skipSpace_le _)) inside)
  · split at found
    · cases found
    split at found
    · rename_i close
      cases found
      exact .emptyArray close
    rename_i unclosed
    split at found
    · cases found
    rename_i inside
    cases found
    refine .array (fun closed => ?_)
      (below.items (Nat.lt_succ_of_le (length_skipSpace_le _)) inside)
    obtain ⟨rest, close⟩ := List.head?_eq_some_iff.mp closed
    exact unclosed rest close
  · rename_i noString noObject noArray
    split at found
    · cases found
    rename_i atom
    split at found
    · rename_i shorter
      cases found
      refine .atom atom shorter ?_
      have marks : Text.ofString "\x22\x7b[" = [.scalar '\x22', .scalar '\x7b', .scalar '['] := rfl
      rintro mark member starts
      obtain ⟨body, rfl⟩ := List.head?_eq_some_iff.mp starts
      simp only [marks, List.mem_cons, List.not_mem_nil, or_false] at member
      rcases member with rfl | rfl | rfl
      · exact noString body rfl
      · exact noObject body rfl
      · exact noArray body rfl
    · cases found

/-- Members that are read stand in the text. -/
theorem readsMembers_of_readMembers {depth : Nat} {fields all : Record}
    (found : readMembers depth fields text = .ok (all, rest)) :
    ReadsMembers depth fields text all rest := by
  unfold readMembers at found
  split at found
  · split at found
    · cases found
    rename_i named
    split at found
    · rename_i colon
      split at found
      · cases found
      rename_i afterColon _ _ afterValue shorter valued
      have behindKey := length_of_readString named
      have behindColon := length_of_skipSpace colon
      have spaced := length_skipSpace_le afterColon
      have value := below.value (by simp only [List.length_cons]; omega) valued
      split at found
      · rename_i close
        cases found
        exact .last named colon value close
      · rename_i more comma
        split at found
        · cases found
        rename_i others
        cases found
        have behindValue := length_of_skipSpace comma
        have spaced' := length_skipSpace_le more
        exact .cons named colon value comma
          (below.members (by simp only [List.length_cons]; omega) others)
      · cases found
    · cases found
  · cases found

/-- Items that are read stand in the text. -/
theorem readsItems_of_readItems {depth : Nat} {items : List Json}
    (found : readItems depth text = .ok (items, rest)) : ReadsItems depth text items rest := by
  unfold readItems at found
  split at found
  · cases found
  rename_i shorter valued
  have value := below.reads_of_readValue valued
  split at found
  · rename_i close
    cases found
    exact .last value close
  · rename_i more comma
    split at found
    · cases found
    rename_i others
    cases found
    have behind := length_of_skipSpace comma
    have spaced := length_skipSpace_le more
    exact .cons value comma (below.items (by omega) others)
  · cases found

end ReadsBelow

/-- What is read stands in the text. -/
theorem readsBelow (length : Nat) : ReadsBelow length := by
  induction length with
  | zero => exact ⟨nofun, nofun, nofun⟩
  | succ length below =>
    have here {text : Text} (short : text.length < length + 1) : ReadsBelow text.length :=
      ⟨fun less => below.value (Nat.lt_of_lt_of_le less (Nat.le_of_lt_succ short)),
        fun less => below.members (Nat.lt_of_lt_of_le less (Nat.le_of_lt_succ short)),
        fun less => below.items (Nat.lt_of_lt_of_le less (Nat.le_of_lt_succ short))⟩
    exact ⟨fun short => (here short).reads_of_readValue,
      fun short => (here short).readsMembers_of_readMembers,
      fun short => (here short).readsItems_of_readItems⟩

/-! ## What stands in the text is read -/

/-- What was read, and the text behind it. -/
def withRest {α : Type} {text : Text}
    (read : Except Fault (α × { rest : Text // rest.length < text.length })) :
    Except Fault (α × Text) :=
  read.map fun found => (found.1, found.2.val)

theorem withRest_eq_ok_iff {α : Type} {text rest : Text} {value : α}
    {read : Except Fault (α × { rest : Text // rest.length < text.length })} :
    withRest read = .ok (value, rest) ↔ ∃ shorter, read = .ok (value, ⟨rest, shorter⟩) := by
  constructor
  · intro found
    cases read with
    | error fault => cases found
    | ok result =>
      cases found
      exact ⟨result.2.property, rfl⟩
  · rintro ⟨shorter, rfl⟩
    rfl

mutual

/-- A value that stands in a text is read. -/
theorem readValue_of_reads {depth : Nat} {text rest : Text} {value : Json} :
    Reads depth text value rest → withRest (readValue depth text) = .ok (value, rest)
  | .string content => by
    unfold readValue
    simp only
    split <;> rename_i found <;> cases content.symm.trans found
    rfl
  | .emptyObject close => by
    unfold readValue
    simp only
    split
    · rename_i found
      cases close.symm.trans found
      rfl
    · rename_i unclosed
      exact absurd close (unclosed _)
  | .object inside => by
    obtain ⟨shorter, found⟩ := withRest_eq_ok_iff.mp (readMembers_of_readsMembers inside)
    have quoted := inside.head?
    unfold readValue
    simp only
    split
    · rename_i close
      rw [close] at quoted
      cases quoted
    · rw [found]
      rfl
  | .emptyArray close => by
    unfold readValue
    simp only
    split
    · rename_i found
      cases close.symm.trans found
      rfl
    · rename_i unclosed
      exact absurd close (unclosed _)
  | .array unclosed inside => by
    obtain ⟨shorter, found⟩ := withRest_eq_ok_iff.mp (readItems_of_readsItems inside)
    unfold readValue
    simp only
    split
    · rename_i close
      rw [close] at unclosed
      exact absurd rfl unclosed
    · rw [found]
      rfl
  | .atom found shorter bare => by
    unfold readValue
    split
    · exact absurd rfl (bare _ (by decide))
    · exact absurd rfl (bare _ (by decide))
    · exact absurd rfl (bare _ (by decide))
    · rw [found]
      simp only
      rw [dif_pos shorter]
      rfl

/-- Members that stand in a text are read. -/
theorem readMembers_of_readsMembers {depth : Nat} {fields all : Record} {text rest : Text} :
    ReadsMembers depth fields text all rest →
      withRest (readMembers depth fields text) = .ok (all, rest)
  | .last named colon valued close => by
    obtain ⟨shorter, value⟩ := withRest_eq_ok_iff.mp (readValue_of_reads valued)
    unfold readMembers
    simp only
    split <;> rename_i found <;> cases named.symm.trans found
    split
    · rename_i found'
      cases colon.symm.trans found'
      rw [value]
      simp only
      split
      · rename_i found''
        cases close.symm.trans found''
        rfl
      · rename_i comma
        cases close.symm.trans comma
      · rename_i unclosed _
        exact absurd close (unclosed _)
    · rename_i other
      exact absurd colon (other _)
  | .cons named colon valued comma others => by
    obtain ⟨shorter, value⟩ := withRest_eq_ok_iff.mp (readValue_of_reads valued)
    obtain ⟨less, members⟩ := withRest_eq_ok_iff.mp (readMembers_of_readsMembers others)
    unfold readMembers
    simp only
    split <;> rename_i found <;> cases named.symm.trans found
    split
    · rename_i found'
      cases colon.symm.trans found'
      rw [value]
      simp only
      split
      · rename_i close
        cases comma.symm.trans close
      · rename_i found''
        cases comma.symm.trans found''
        rw [members]
        rfl
      · rename_i other
        exact absurd comma (other _)
    · rename_i other
      exact absurd colon (other _)

/-- Items that stand in a text are read. -/
theorem readItems_of_readsItems {depth : Nat} {text rest : Text} {items : List Json} :
    ReadsItems depth text items rest → withRest (readItems depth text) = .ok (items, rest)
  | .last valued close => by
    obtain ⟨shorter, value⟩ := withRest_eq_ok_iff.mp (readValue_of_reads valued)
    unfold readItems
    rw [value]
    simp only
    split
    · rename_i found
      cases close.symm.trans found
      rfl
    · rename_i comma
      cases close.symm.trans comma
    · rename_i unclosed _
      exact absurd close (unclosed _)
  | .cons valued comma others => by
    obtain ⟨shorter, value⟩ := withRest_eq_ok_iff.mp (readValue_of_reads valued)
    obtain ⟨less, more⟩ := withRest_eq_ok_iff.mp (readItems_of_readsItems others)
    unfold readItems
    rw [value]
    simp only
    split
    · rename_i close
      cases comma.symm.trans close
    · rename_i found
      cases comma.symm.trans found
      rw [more]
      rfl
    · rename_i other
      exact absurd comma (other _)

end

/-- **The grammar of values.** The reader reads exactly the value that stands at the start of a
text. -/
theorem readValue_eq_ok_iff {depth : Nat} {text rest : Text} {value : Json} :
    withRest (readValue depth text) = .ok (value, rest) ↔ Reads depth text value rest := by
  refine ⟨fun found => ?_, readValue_of_reads⟩
  obtain ⟨shorter, read⟩ := withRest_eq_ok_iff.mp found
  exact (readsBelow _).reads_of_readValue read

/-- A whole text is read as the value that stands in it, with space around it and nothing else. -/
theorem readNested_eq_ok_iff {depth : Nat} {text : Text} {value : Json} :
    readNested depth text = .ok value ↔
      text.head? ≠ some (.scalar '\ufeff') ∧
        ∃ rest, Reads depth (skipSpace text) value rest ∧ skipSpace rest = [] := by
  simp only [← readValue_eq_ok_iff, withRest_eq_ok_iff]
  unfold readNested
  simp only
  split
  · simp
  · rename_i unmarked
    have start : text.head? ≠ some (.scalar '\ufeff') := by
      intro mark
      obtain ⟨rest, rfl⟩ := List.head?_eq_some_iff.mp mark
      exact unmarked rest rfl
    cases found : readValue depth (skipSpace text) with
    | error fault => simp
    | ok result =>
      obtain ⟨other, rest, shorter⟩ := result
      simp only
      constructor
      · split
        · rename_i empty
          rintro same
          cases same
          exact ⟨start, rest, ⟨shorter, rfl⟩, empty⟩
        · nofun
      · rintro ⟨-, rest, ⟨shorter, same⟩, empty⟩
        cases same
        rw [empty]

end SiteBuild.Json
