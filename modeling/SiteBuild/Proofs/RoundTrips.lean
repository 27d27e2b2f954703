import SiteBuild.Module.Loader
import SiteBuild.Proofs.ReadNumbers
import SiteBuild.Proofs.ReadStrings

/-!
# Values that are read back

What is read of a text is a value of bounded depth with atoms in their bounds and each key once
(`readable_of_read`). Such a value is read back from its text on one line, with or without
backslashes in end tags, by recursion over the value as it is written (`read_write`). Main
statement: values that were read are read back from literals and from modules of data
(`data_reads_back`).
-/
namespace SiteBuild.Json

open Script

/-! ## Values that are read -/

/-- The values that are read of texts with strings of a sort, inside of brackets that may go a depth
further. -/
inductive Readable (sort : Text → Prop) : Nat → Json → Prop where
  /-- A word or a number. -/
  | atom {depth : Nat} {value : Json} (atom : IsAtom value) : Readable sort depth value
  /-- A string. -/
  | str {depth : Nat} {text : Text} (known : sort text) : Readable sort depth (.str text)
  /-- An array. -/
  | arr {depth : Nat} {items : List Json} (inside : ∀ item ∈ items, Readable sort depth item) :
      Readable sort (depth + 1) (.arr items)
  /-- An object, each key once. -/
  | obj {depth : Nat} {fields : Record} (distinct : (fields.map Prod.fst).Nodup)
      (keys : ∀ field ∈ fields, sort field.1)
      (inside : ∀ field ∈ fields, Readable sort depth field.2) :
      Readable sort (depth + 1) (.obj fields)

/-- The fields after one is set are those before, and the one that is set. -/
theorem mem_of_mem_insert {fields : Record} {key : Text} {value : Json} {field : Text × Json}
    (member : field ∈ Record.insert fields key value) :
    field ∈ fields ∨ field = (key, value) := by
  induction fields with
  | nil => exact .inr (List.mem_singleton.mp member)
  | cons first fields tail =>
    rw [Record.insert] at member
    split at member
    · exact (List.mem_cons.mp member).symm.imp_left (List.mem_cons_of_mem _)
    · rcases List.mem_cons.mp member with same | behind
      · exact .inl (same ▸ List.mem_cons_self)
      · exact (tail behind).imp_left (List.mem_cons_of_mem _)

/-- Setting a key that is known keeps the keys; a new one is behind them. -/
theorem keys_insert (fields : Record) (key : Text) (value : Json) :
    (Record.insert fields key value).map Prod.fst =
      if key ∈ fields.map Prod.fst then fields.map Prod.fst else fields.map Prod.fst ++ [key] := by
  induction fields with
  | nil => simp [Record.insert]
  | cons first fields tail =>
    by_cases same : first.1 = key
    · simp [Record.insert, same]
    · rw [Record.insert, if_neg same, List.map_cons, tail]
      by_cases known : key ∈ fields.map Prod.fst
      · simp [known]
      · simp [known, Ne.symm same]

/-- A new key is set behind the others. -/
theorem insert_of_new {fields : Record} {key : Text} (new : key ∉ fields.map Prod.fst)
    (value : Json) : Record.insert fields key value = fields ++ [(key, value)] := by
  induction fields with
  | nil => rfl
  | cons first fields tail =>
    simp only [List.map_cons, List.mem_cons, not_or] at new
    rw [Record.insert, if_neg (Ne.symm new.1), tail new.2, List.cons_append]

/-- A key that comes once is not among those in front of it. -/
theorem new_of_nodup {fields members : Record} {key : Text} {value : Json}
    (distinct : ((fields ++ (key, value) :: members).map Prod.fst).Nodup) :
    key ∉ fields.map Prod.fst := by
  rw [List.map_append, List.nodup_append] at distinct
  exact fun member => distinct.2.2 key member key (by simp) rfl

/-- Each key stays once when one is set. -/
theorem nodup_keys_insert {fields : Record} (distinct : (fields.map Prod.fst).Nodup) (key : Text)
    (value : Json) : ((Record.insert fields key value).map Prod.fst).Nodup := by
  rw [keys_insert]
  split
  · exact distinct
  · rename_i new
    refine List.nodup_append.mpr ⟨distinct, by simp, fun known member other same => ?_⟩
    rintro rfl
    exact new (List.mem_singleton.mp same ▸ member)

/-- Whether fields are those of a readable object. -/
structure ReadableFields (sort : Text → Prop) (depth : Nat) (fields : Record) : Prop where
  distinct : (fields.map Prod.fst).Nodup
  keys : ∀ field ∈ fields, sort field.1
  inside : ∀ field ∈ fields, Readable sort depth field.2

/-- No fields are those of a readable object. -/
theorem ReadableFields.nil {sort : Text → Prop} {depth : Nat} : ReadableFields sort depth [] :=
  ⟨List.nodup_nil, by simp, by simp⟩

/-- Fields of a readable object are such fields when one of them is set. -/
theorem ReadableFields.insert {sort : Text → Prop} {depth : Nat} {fields : Record} {key : Text}
    {value : Json} (before : ReadableFields sort depth fields) (known : sort key)
    (readable : Readable sort depth value) :
    ReadableFields sort depth (Record.insert fields key value) where
  distinct := nodup_keys_insert before.distinct key value
  keys field member := by
    rcases mem_of_mem_insert member with old | rfl
    · exact before.keys field old
    · exact known
  inside field member := by
    rcases mem_of_mem_insert member with old | rfl
    · exact before.inside field old
    · exact readable

/-- Whether what is read of texts of a kind are strings of a sort, with texts of the kind behind
them. -/
structure Sorts (kind sort : Text → Prop) : Prop where
  behind : ∀ {text rest : Text}, kind text → rest <:+ text → kind rest
  string : ∀ {opening : Nat} {body string rest : Text}, kind body →
    readString opening [] body = .ok (string, rest) → sort string ∧ kind rest

namespace Sorts

variable {kind sort : Text → Prop} (sorts : Sorts kind sort)

include sorts

/-- Behind space the kind is the same. -/
theorem skipSpace {text : Text} (known : kind text) : kind (Json.skipSpace text) :=
  sorts.behind known (List.dropWhile_suffix _)

/-- Behind a first point that is no space the kind is the same. -/
theorem next {text rest : Text} {point : CodePoint} (known : kind text)
    (found : Json.skipSpace text = point :: rest) : kind rest := by
  have space := sorts.skipSpace known
  rw [found] at space
  exact sorts.behind space (List.suffix_cons _ _)

mutual

/-- What is read is readable. -/
theorem readable {depth : Nat} {text rest : Text} {value : Json} (known : kind text) :
    Reads depth text value rest → Readable sort depth value ∧ kind rest
  | .string content =>
    (sorts.string (sorts.behind known (List.suffix_cons _ _)) content).imp_left .str
  | .emptyObject close =>
    ⟨.obj List.nodup_nil (by simp) (by simp),
      sorts.next (sorts.behind known (List.suffix_cons _ _)) close⟩
  | .object inside => by
    have body := sorts.skipSpace (sorts.behind known (List.suffix_cons _ _))
    obtain ⟨fields, behind⟩ := readableFields body .nil inside
    exact ⟨.obj fields.distinct fields.keys fields.inside, behind⟩
  | .emptyArray close =>
    ⟨.arr (by simp), sorts.next (sorts.behind known (List.suffix_cons _ _)) close⟩
  | .array _ inside => by
    have body := sorts.skipSpace (sorts.behind known (List.suffix_cons _ _))
    exact (readableItems body inside).imp_left .arr
  | .atom found _ _ => by
    obtain ⟨atom, suffix⟩ := isAtom_of_readAtom found
    exact ⟨.atom atom, sorts.behind known suffix⟩

/-- Members that are read are readable. -/
theorem readableFields {depth : Nat} {fields all : Record} {text rest : Text} (known : kind text)
    (before : ReadableFields sort depth fields) :
    ReadsMembers depth fields text all rest → ReadableFields sort depth all ∧ kind rest
  | .last named colon valued close => by
    obtain ⟨key, afterKey⟩ := sorts.string (sorts.behind known (List.suffix_cons _ _)) named
    obtain ⟨readable, afterValue⟩ := readable (sorts.skipSpace (sorts.next afterKey colon)) valued
    exact ⟨before.insert key readable, sorts.next afterValue close⟩
  | .cons named colon valued comma others => by
    obtain ⟨key, afterKey⟩ := sorts.string (sorts.behind known (List.suffix_cons _ _)) named
    obtain ⟨readable, afterValue⟩ := readable (sorts.skipSpace (sorts.next afterKey colon)) valued
    exact readableFields (sorts.skipSpace (sorts.next afterValue comma))
      (before.insert key readable) others

/-- Items that are read are readable. -/
theorem readableItems {depth : Nat} {text rest : Text} {items : List Json} (known : kind text) :
    ReadsItems depth text items rest → (∀ item ∈ items, Readable sort depth item) ∧ kind rest
  | .last valued close => by
    obtain ⟨readable, afterValue⟩ := readable known valued
    exact ⟨by simpa using readable, sorts.next afterValue close⟩
  | .cons valued comma others => by
    obtain ⟨readable, afterValue⟩ := readable known valued
    obtain ⟨more, behind⟩ := readableItems (sorts.skipSpace (sorts.next afterValue comma)) others
    exact ⟨List.forall_mem_cons.mpr ⟨readable, more⟩, behind⟩

end

end Sorts

/-- Any text. -/
theorem sorts_any : Sorts (fun _ => True) fun _ => True :=
  ⟨fun _ _ => trivial, fun _ _ => ⟨trivial, trivial⟩⟩

/-- Strings of texts of characters are joined. -/
theorem sorts_joined : Sorts Text.Encodable Text.IsJoined where
  behind known suffix := fun point member => known point (suffix.subset member)
  string known found := by
    obtain ⟨joined, suffix⟩ := isJoined_of_readString found known
    exact ⟨joined, fun point member => known point (suffix.subset member)⟩

/-- What is read of a text is readable, up to the greatest depth. -/
theorem readable_of_read {kind sort : Text → Prop} (sorts : Sorts kind sort) {text : Text}
    {value : Json} (known : kind text) (found : read text = .ok value) :
    Readable sort nestingLimit value := by
  obtain ⟨-, rest, reads, -⟩ := readNested_eq_ok_iff.mp found
  exact (sorts.readable (sorts.skipSpace known) reads).1

/-- The strings of items are those of each item. -/
theorem mem_itemTexts_iff {items : List Json} {text : Text} :
    text ∈ itemTexts items ↔ ∃ item ∈ items, text ∈ item.texts := by
  induction items with
  | nil => simp [itemTexts]
  | cons first items tail => simp [itemTexts, tail]

/-- The strings of members are their keys and those of their values. -/
theorem mem_memberTexts_iff {fields : Record} {text : Text} :
    text ∈ memberTexts fields ↔ ∃ field ∈ fields, text = field.1 ∨ text ∈ field.2.texts := by
  induction fields with
  | nil => simp [memberTexts]
  | cons first fields tail => simp [memberTexts, tail, or_assoc]

/-- Words and numbers hold no strings. -/
theorem texts_of_isAtom {value : Json} (atom : IsAtom value) : value.texts = [] := by
  cases value with
  | str | arr | obj => cases atom
  | null | bool | int | real => rfl

/-- The sort of strings of a readable value is that of each of them. -/
theorem readable_iff {sort : Text → Prop} {depth : Nat} {value : Json} :
    Readable sort depth value ↔
      Readable (fun _ => True) depth value ∧ ∀ text ∈ value.texts, sort text := by
  constructor
  · intro readable
    induction readable with
    | atom atom => exact ⟨.atom atom, by simp [texts_of_isAtom atom]⟩
    | str known => exact ⟨.str trivial, by simpa [texts] using known⟩
    | arr _ tail =>
      refine ⟨.arr fun item member => (tail item member).1, fun text known => ?_⟩
      obtain ⟨item, member, inside⟩ := mem_itemTexts_iff.mp known
      exact (tail item member).2 text inside
    | obj distinct keys _ tail =>
      refine ⟨.obj distinct (by simp) fun field member => (tail field member).1,
        fun text known => ?_⟩
      obtain ⟨field, member, rfl | inside⟩ := mem_memberTexts_iff.mp known
      · exact keys field member
      · exact (tail field member).2 text inside
  · rintro ⟨readable, known⟩
    induction readable with
    | atom atom => exact .atom atom
    | str => exact .str (known _ (List.mem_singleton_self _))
    | arr _ tail =>
      exact .arr fun item member => tail item member fun text inside =>
        known text (mem_itemTexts_iff.mpr ⟨item, member, inside⟩)
    | obj distinct _ _ tail =>
      exact .obj distinct
        (fun field member => known _ (mem_memberTexts_iff.mpr ⟨field, member, .inl rfl⟩))
        fun field member => tail field member fun text inside =>
          known text (mem_memberTexts_iff.mpr ⟨field, member, .inr inside⟩)

/-! ## Values that are written -/

mutual

/-- The numbers with a fraction or an exponent in a value, in order. -/
def reals : Json → List Binary64
  | .real number => [number]
  | .arr items => itemReals items
  | .obj fields => memberReals fields
  | _ => []

/-- The numbers with a fraction or an exponent in items. -/
def itemReals : List Json → List Binary64
  | [] => []
  | item :: rest => reals item ++ itemReals rest

/-- The numbers with a fraction or an exponent in the values of members. -/
def memberReals : List (Text × Json) → List Binary64
  | [] => []
  | (_, value) :: rest => reals value ++ memberReals rest

end

/-- Whether the finite numbers with a fraction or an exponent in a value are read back. -/
def RealsReadBack (value : Json) : Prop :=
  ∀ number ∈ value.reals, number.isFinite = true → ReadsBack number

/-- Where the numbers of an array are read back, those of its items are. -/
theorem realsReadBack_items {items : List Json} (back : RealsReadBack (.arr items)) :
    ∀ item ∈ items, RealsReadBack item := by
  have inside : ∀ item ∈ items, ∀ number ∈ item.reals, number ∈ itemReals items := by
    clear back
    induction items with
    | nil => nofun
    | cons first items tail =>
      intro item member number known
      rcases List.mem_cons.mp member with rfl | behind
      · exact List.mem_append_left _ known
      · exact List.mem_append_right _ (tail item behind number known)
  exact fun item member number known => back number (inside item member number known)

/-- Where the numbers of an object are read back, those of its values are. -/
theorem realsReadBack_members {fields : Record} (back : RealsReadBack (.obj fields)) :
    ∀ field ∈ fields, RealsReadBack field.2 := by
  have inside : ∀ field ∈ fields, ∀ number ∈ field.2.reals, number ∈ memberReals fields := by
    clear back
    induction fields with
    | nil => nofun
    | cons first fields tail =>
      intro field member number known
      rcases List.mem_cons.mp member with rfl | behind
      · exact List.mem_append_left _ known
      · exact List.mem_append_right _ (tail field behind number known)
  exact fun field member number known => back number (inside field member number known)

/-- A value starts with a point that values start with. -/
theorem Reads.exists_head {depth : Nat} {text rest : Text} {value : Json}
    (reads : Reads depth text value rest) :
    ∃ first more, text = first :: more ∧ first ∉ outside := by
  cases reads with
  | string => exact ⟨_, _, rfl, by decide⟩
  | emptyObject => exact ⟨_, _, rfl, by decide⟩
  | object => exact ⟨_, _, rfl, by decide⟩
  | emptyArray => exact ⟨_, _, rfl, by decide⟩
  | array => exact ⟨_, _, rfl, by decide⟩
  | atom found => exact exists_head_of_readAtom found

/-- Words and numbers are written with points that begin no string, no brackets and no tag. -/
theorem points_of_isAtom (style : Style) (level : Nat) {value : Json} (atom : IsAtom value) :
    ∀ point ∈ writeAt style level value, point ≠ .scalar '<' ∧ point ∉ ("\x22\x7b[" : Text) := by
  have numerals : ∀ point ∈ numeralPoints,
      point ≠ .scalar '<' ∧ point ∉ ("\x22\x7b[" : Text) := by decide
  cases value with
  | null =>
    rw [writeAt]
    decide
  | bool value =>
    rw [writeAt]
    cases value <;> decide
  | int value => exact fun point member => numerals point (isNumeral_int value point member)
  | real value =>
    rw [writeAt]
    exact fun point member => numerals point (isNumeral_shortestText value point member)
  | str | arr | obj => cases atom

/-- Items start with a point that values start with. -/
theorem ReadsItems.exists_head {depth : Nat} {text rest : Text} {items : List Json}
    (reads : ReadsItems depth text items rest) :
    ∃ first more, text = first :: more ∧ first ∉ outside := by
  cases reads with
  | last valued => exact valued.exists_head
  | cons valued => exact valued.exists_head

/-- Whether a text is read as a value in front of everything that can stand behind one, with the
slashes of end tags escaped or not. -/
def IsReadAs (shield : Bool → Text → Text) (depth : Nat) (text : Text) (value : Json) : Prop :=
  ∀ rest, Closes rest → Reads depth (shield false (text ++ rest)) value (shield false rest)

/-- A text that starts with a point of a value starts there. -/
theorem skipSpace_of_head {first : CodePoint} (solid : first ∉ outside) (more : Text) :
    skipSpace (first :: more) = first :: more := by
  refine List.dropWhile_cons_of_neg fun space => solid ?_
  simp only [isSpace, Bool.or_eq_true, beq_iff_eq] at space
  rcases space with ((rfl | rfl) | rfl) | rfl <;> decide

/-- A blank is space. -/
theorem skipSpace_blank (text : Text) : skipSpace (.scalar ' ' :: text) = skipSpace text := rfl

/-- Values on one line, with a blank behind each mark. -/
def Style.line (ascii : Bool) : Style := ⟨", ", ": ", ascii, none⟩

/-- Values on one line have no line breaks. -/
theorem lineBreak_line (ascii : Bool) (level : Nat) : lineBreak (.line ascii) level = [] := rfl

/-- Items behind the first one on one line. -/
theorem writeItems_line (ascii : Bool) (level : Nat) (item : Json) (items : List Json) :
    writeItems (.line ascii) level (item :: items) =
      Text.ofString ", " ++
        (writeAt (.line ascii) level item ++ writeItems (.line ascii) level items) := by
  rw [writeItems, ← List.append_assoc]
  rfl

/-- Members behind the first one on one line. -/
theorem writeMembers_line (ascii : Bool) (level : Nat) (key : Text) (value : Json)
    (members : Record) :
    writeMembers (.line ascii) level ((key, value) :: members) =
      Text.ofString ", " ++ (writeString ascii key ++ (Text.ofString ": " ++
        (writeAt (.line ascii) level value ++ writeMembers (.line ascii) level members))) := by
  rw [writeMembers]
  simp only [← List.append_assoc]
  rfl

/-- An array on one line. -/
theorem writeAt_array_line (ascii : Bool) (level : Nat) (first : Json) (items : List Json) :
    writeAt (.line ascii) level (.arr (first :: items)) =
      Text.ofString "[" ++ (writeAt (.line ascii) (level + 1) first ++
        writeItems (.line ascii) (level + 1) items) ++ Text.ofString "]" := by
  rw [writeAt, lineBreak_line, lineBreak_line, List.append_nil, List.append_nil,
    ← List.append_assoc]

/-- An object on one line. -/
theorem writeAt_object_line (ascii : Bool) (level : Nat) (key : Text) (value : Json)
    (members : Record) :
    writeAt (.line ascii) level (.obj ((key, value) :: members)) =
      Text.ofString "\x7b" ++ (writeString ascii key ++ (Text.ofString ": " ++
        (writeAt (.line ascii) (level + 1) value ++
          writeMembers (.line ascii) (level + 1) members))) ++ Text.ofString "\x7d" := by
  rw [writeAt, lineBreak_line, lineBreak_line, List.append_nil, List.append_nil]
  simp only [← List.append_assoc]
  rfl

section Write

variable {shield : Bool → Text → Text} (shields : Shields shield) {ascii : Bool}

include shields

/-- What can stand behind a value can so with slashes of end tags escaped. -/
theorem closes_shield {rest : Text} (closes : Closes rest) : Closes (shield false rest) := by
  cases rest with
  | nil => rwa [shields.nil]
  | cons point rest =>
    rw [shields.kept (.inl rfl)]
    exact fun other same => closes other same

/-- A mark is kept. -/
theorem shield_mark {mark : CodePoint} (other : mark ≠ .scalar '<') (rest : Text) :
    shield false (mark :: rest) = mark :: shield false rest := by
  rw [shields.kept (.inl rfl), beq_eq_false_iff_ne.mpr other]

/-- An atom is read back. -/
theorem isReadAs_atom {depth level : Nat} {value : Json} (atom : IsAtom value)
    (back : ∀ number, value = .real number → number.isFinite = true → ReadsBack number) :
    IsReadAs shield depth (writeAt (.line ascii) level value) value := by
  intro rest closes
  have found {rest : Text} (closes : Closes rest) :
      readAtom (writeAt (.line ascii) level value ++ rest) = .ok (value, rest) :=
    readAtom_writeAt atom back closes
  have points := points_of_isAtom (.line ascii) level atom
  obtain ⟨first, more, written, -⟩ := exists_head_of_readAtom (found (show Closes [] from nofun))
  rw [List.append_nil] at written
  rw [shields.append fun point member => (points point member).1]
  refine .atom (found (closes_shield shields closes)) ?_ fun mark member starts => ?_
  · rw [written, List.cons_append, List.length_cons, List.length_append]
    exact Nat.lt_succ_of_le (Nat.le_add_left _ _)
  · rw [written] at starts points
    cases starts
    exact (points first List.mem_cons_self).2 member

/-- A string is read back, as a key or as a value. -/
theorem exists_body_of_writeString {text : Text} (joined : ascii = true → text.IsJoined)
    (rest : Text) :
    ∃ body, shield false (writeString ascii text ++ rest) = .scalar '\x22' :: body ∧
      readString (body.length + 1) [] body = .ok (text, shield false rest) := by
  have quote : Text.ofString "\x22" = [.scalar '\x22'] := rfl
  refine ⟨_, ?_, shields.readString_written joined _ rest⟩
  rw [writeString, quote, List.append_assoc, List.append_assoc]
  exact shield_mark shields (by decide) _

/-- A string is read back. -/
theorem isReadAs_string {depth : Nat} {text : Text} (joined : ascii = true → text.IsJoined) :
    IsReadAs shield depth (writeString ascii text) (.str text) := by
  intro rest closes
  obtain ⟨body, same, content⟩ := exists_body_of_writeString shields joined rest
  rw [same]
  exact .string content

/-- The last item is read up to the bracket. -/
theorem readsItems_last {depth : Nat} {front : Text} {value : Json}
    (valued : IsReadAs shield depth front value) (rest : Text) :
    ReadsItems depth (shield false (front ++ .scalar ']' :: rest)) [value] (shield false rest) := by
  have close := shield_mark shields (show CodePoint.scalar ']' ≠ .scalar '<' by decide) rest
  refine .last (valued (.scalar ']' :: rest) fun point same => ?_) ?_
  · cases same
    decide
  · rw [close]
    rfl

/-- An item is read up to the comma, and those behind it follow. -/
theorem readsItems_cons {depth : Nat} {front more rest : Text} {value : Json} {items : List Json}
    (valued : IsReadAs shield depth front value)
    (others : ReadsItems depth (shield false more) items rest) :
    ReadsItems depth (shield false (front ++ (", " ++ more))) (value :: items) rest := by
  have comma : shield false (Text.ofString ", " ++ more) =
      .scalar ',' :: .scalar ' ' :: shield false more := by
    rw [shields.append (by decide)]
    rfl
  obtain ⟨first, behind, same, solid⟩ := others.exists_head
  refine .cons (valued (Text.ofString ", " ++ more) fun point starts => ?_) (by rw [comma]; rfl) ?_
  · cases starts
    decide
  · rwa [skipSpace_blank, same, skipSpace_of_head solid, ← same]

/-- Items between brackets are read back. -/
theorem isReadAs_array {depth : Nat} {inside : Text} {items : List Json}
    (read : ∀ rest, ReadsItems depth (shield false (inside ++ .scalar ']' :: rest)) items
      (shield false rest)) :
    IsReadAs shield (depth + 1) ("[" ++ inside ++ "]") (.arr items) := by
  intro rest closes
  have whole : shield false (Text.ofString "[" ++ inside ++ "]" ++ rest) =
      .scalar '[' :: shield false (inside ++ .scalar ']' :: rest) := by
    rw [List.append_assoc, List.append_assoc]
    exact shield_mark shields (by decide) _
  obtain ⟨first, behind, same, solid⟩ := (read rest).exists_head
  have start : skipSpace (shield false (inside ++ .scalar ']' :: rest)) =
      shield false (inside ++ .scalar ']' :: rest) := by
    rw [same, skipSpace_of_head solid]
  rw [whole]
  refine .array (fun closed => ?_) (by rw [start]; exact read rest)
  rw [start, same] at closed
  cases closed
  exact solid (by decide)

/-- A key and its value are read up to what closes the value. -/
theorem exists_member {depth : Nat} {key front behind : Text} {value : Json}
    (joined : ascii = true → key.IsJoined) (valued : IsReadAs shield depth front value)
    (closes : Closes behind) :
    ∃ body afterKey afterColon,
      shield false (writeString ascii key ++ (": " ++ (front ++ behind))) =
        .scalar '\x22' :: body ∧
      readString (body.length + 1) [] body = .ok (key, afterKey) ∧
      skipSpace afterKey = .scalar ':' :: afterColon ∧
      Reads depth (skipSpace afterColon) value (shield false behind) := by
  have colon : shield false (Text.ofString ": " ++ (front ++ behind)) =
      .scalar ':' :: .scalar ' ' :: shield false (front ++ behind) := by
    rw [shields.append (by decide)]
    rfl
  have reads := valued behind closes
  obtain ⟨first, more, same, solid⟩ := reads.exists_head
  obtain ⟨body, written, named⟩ := exists_body_of_writeString shields joined
    (Text.ofString ": " ++ (front ++ behind))
  refine ⟨body, _, _, written, named, by rw [colon]; rfl, ?_⟩
  rwa [skipSpace_blank, same, skipSpace_of_head solid, ← same]

/-- The last member is read up to the bracket. -/
theorem readsMembers_last {depth : Nat} {key front : Text} {value : Json}
    (joined : ascii = true → key.IsJoined) (valued : IsReadAs shield depth front value)
    (fields : Record) (rest : Text) :
    ReadsMembers depth fields
      (shield false (writeString ascii key ++ (": " ++ (front ++ .scalar '\x7d' :: rest))))
      (Record.insert fields key value) (shield false rest) := by
  have close := shield_mark shields (show CodePoint.scalar '\x7d' ≠ .scalar '<' by decide) rest
  have closes : Closes (.scalar '\x7d' :: rest) := by
    intro point starts
    cases starts
    decide
  obtain ⟨body, afterKey, afterColon, written, named, colon, reads⟩ :=
    exists_member shields joined valued closes
  rw [written]
  refine .last named colon reads ?_
  rw [close]
  rfl

/-- A member is read up to the comma, and those behind it follow. -/
theorem readsMembers_cons {depth : Nat} {fields all : Record} {key front more rest : Text}
    {value : Json} (joined : ascii = true → key.IsJoined)
    (valued : IsReadAs shield depth front value)
    (others : ReadsMembers depth (Record.insert fields key value) (shield false more) all rest) :
    ReadsMembers depth fields
      (shield false (writeString ascii key ++ (": " ++ (front ++ (", " ++ more))))) all rest := by
  have comma : shield false (Text.ofString ", " ++ more) =
      .scalar ',' :: .scalar ' ' :: shield false more := by
    rw [shields.append (by decide)]
    rfl
  have closes : Closes (Text.ofString ", " ++ more) := by
    intro point starts
    cases starts
    decide
  obtain ⟨body, afterKey, afterColon, written, named, colon, reads⟩ :=
    exists_member shields joined valued closes
  obtain ⟨behind, same⟩ := List.head?_eq_some_iff.mp others.head?
  rw [written]
  refine .cons named colon reads (by rw [comma]; rfl) ?_
  rwa [skipSpace_blank, same, skipSpace_of_head (by decide), ← same]

/-- Members between brackets are read back. -/
theorem isReadAs_object {depth : Nat} {inside : Text} {fields : Record}
    (read : ∀ rest, ReadsMembers depth [] (shield false (inside ++ .scalar '\x7d' :: rest)) fields
      (shield false rest)) :
    IsReadAs shield (depth + 1) ("\x7b" ++ inside ++ "\x7d") (.obj fields) := by
  intro rest closes
  have whole : shield false (Text.ofString "\x7b" ++ inside ++ "\x7d" ++ rest) =
      .scalar '\x7b' :: shield false (inside ++ .scalar '\x7d' :: rest) := by
    rw [List.append_assoc, List.append_assoc]
    exact shield_mark shields (by decide) _
  obtain ⟨behind, same⟩ := List.head?_eq_some_iff.mp (read rest).head?
  have start : skipSpace (shield false (inside ++ .scalar '\x7d' :: rest)) =
      shield false (inside ++ .scalar '\x7d' :: rest) := by
    rw [same, skipSpace_of_head (by decide)]
  rw [whole]
  exact .object (by rw [start]; exact read rest)

mutual

/-- A value is read back. -/
theorem isReadAs_writeAt {depth : Nat} (level : Nat) : (value : Json) →
    Readable (fun text => ascii = true → text.IsJoined) depth value → RealsReadBack value →
      IsReadAs shield depth (writeAt (.line ascii) level value) value
  | .null, _, _ => isReadAs_atom shields trivial nofun
  | .bool value, _, _ => isReadAs_atom shields trivial nofun
  | .int value, readable, _ => by
    cases readable with
    | atom atom => exact isReadAs_atom shields atom nofun
  | .real number, readable, back => by
    cases readable with
    | atom atom =>
      refine isReadAs_atom shields atom fun other same finite => ?_
      cases same
      exact back number (List.mem_singleton_self number) finite
  | .str text, readable, _ => by
    cases readable with
    | atom atom => cases atom
    | str joined => exact isReadAs_string shields joined
  | .arr [], readable, _ => by
    cases readable with
    | atom atom => cases atom
    | arr inside =>
      intro rest closes
      have whole : shield false (Text.ofString "[]" ++ rest) =
          .scalar '[' :: .scalar ']' :: shield false rest := by
        rw [shields.append (by decide)]
        rfl
      change Reads _ (shield false (Text.ofString "[]" ++ rest)) _ _
      rw [whole]
      exact .emptyArray rfl
  | .arr (first :: items), readable, back => by
    cases readable with
    | atom atom => cases atom
    | arr inside =>
      obtain ⟨here, others⟩ := List.forall_mem_cons.mp inside
      obtain ⟨hereBack, othersBack⟩ := List.forall_mem_cons.mp (realsReadBack_items back)
      have valued := isReadAs_writeAt (level + 1) first here hereBack
      rw [writeAt_array_line]
      refine isReadAs_array shields fun rest => ?_
      rw [List.append_assoc]
      exact readsItems_writeItems (level + 1) items others othersBack valued rest
  | .obj [], readable, _ => by
    cases readable with
    | atom atom => cases atom
    | obj =>
      intro rest closes
      have whole : shield false (Text.ofString "\x7b\x7d" ++ rest) =
          .scalar '\x7b' :: .scalar '\x7d' :: shield false rest := by
        rw [shields.append (by decide)]
        rfl
      change Reads _ (shield false (Text.ofString "\x7b\x7d" ++ rest)) _ _
      rw [whole]
      exact .emptyObject rfl
  | .obj ((key, value) :: members), readable, back => by
    cases readable with
    | atom atom => cases atom
    | obj distinct keys inside =>
      obtain ⟨here, others⟩ := List.forall_mem_cons.mp inside
      obtain ⟨joined, othersJoined⟩ := List.forall_mem_cons.mp keys
      obtain ⟨hereBack, othersBack⟩ := List.forall_mem_cons.mp (realsReadBack_members back)
      have valued := isReadAs_writeAt (level + 1) value here hereBack
      rw [writeAt_object_line]
      refine isReadAs_object shields fun rest => ?_
      simp only [List.append_assoc]
      exact readsMembers_writeMembers (level + 1) members others othersJoined othersBack joined
        valued [] distinct rest

/-- Items are read back behind one that is. -/
theorem readsItems_writeItems {depth : Nat} (level : Nat) : (items : List Json) →
    (∀ item ∈ items, Readable (fun text => ascii = true → text.IsJoined) depth item) →
      (∀ item ∈ items, RealsReadBack item) → ∀ {front : Text} {first : Json},
        IsReadAs shield depth front first → ∀ rest,
          ReadsItems depth
            (shield false (front ++ (writeItems (.line ascii) level items ++ .scalar ']' :: rest)))
            (first :: items) (shield false rest)
  | [], _, _, _, _, valued, rest => readsItems_last shields valued rest
  | item :: items, readable, back, front, first, valued, rest => by
    obtain ⟨here, others⟩ := List.forall_mem_cons.mp readable
    obtain ⟨hereBack, othersBack⟩ := List.forall_mem_cons.mp back
    have next := isReadAs_writeAt level item here hereBack
    have behind := readsItems_writeItems level items others othersBack next rest
    rw [writeItems_line, List.append_assoc, List.append_assoc]
    exact readsItems_cons shields valued behind

/-- Members are read back behind one that is. -/
theorem readsMembers_writeMembers {depth : Nat} (level : Nat) : (members : Record) →
    (∀ field ∈ members, Readable (fun text => ascii = true → text.IsJoined) depth field.2) →
      (∀ field ∈ members, ascii = true → field.1.IsJoined) →
        (∀ field ∈ members, RealsReadBack field.2) → ∀ {key front : Text} {value : Json},
          (ascii = true → key.IsJoined) → IsReadAs shield depth front value → ∀ fields : Record,
            ((fields ++ (key, value) :: members).map Prod.fst).Nodup → ∀ rest,
              ReadsMembers depth fields
                (shield false (writeString ascii key ++ (Text.ofString ": " ++ (front ++
                  (writeMembers (.line ascii) level members ++ .scalar '\x7d' :: rest)))))
                (fields ++ (key, value) :: members) (shield false rest)
  | [], _, _, _, _, _, _, joined, valued, fields, distinct, rest => by
    have last := readsMembers_last shields joined valued fields rest
    rwa [insert_of_new (new_of_nodup distinct)] at last
  | (second, item) :: members, readable, keys, back, key, front, value, joined, valued, fields,
      distinct, rest => by
    obtain ⟨here, others⟩ := List.forall_mem_cons.mp readable
    obtain ⟨hereJoined, othersJoined⟩ := List.forall_mem_cons.mp keys
    obtain ⟨hereBack, othersBack⟩ := List.forall_mem_cons.mp back
    have next := isReadAs_writeAt level item here hereBack
    have set : Record.insert fields key value ++ (second, item) :: members =
        fields ++ (key, value) :: (second, item) :: members := by
      rw [insert_of_new (new_of_nodup distinct), List.append_assoc]
      rfl
    have behind := readsMembers_writeMembers level members others othersJoined othersBack
      hereJoined next (Record.insert fields key value) (by rw [set]; exact distinct) rest
    rw [set] at behind
    rw [writeMembers_line]
    simp only [List.append_assoc]
    exact readsMembers_cons shields joined valued behind

end

/-- A whole text is read back. -/
theorem read_write {value : Json}
    (readable : Readable (fun text => ascii = true → text.IsJoined) nestingLimit value)
    (back : RealsReadBack value) : read (shield false (value.write (.line ascii))) = .ok value := by
  have reads := isReadAs_writeAt shields 0 value readable back [] nofun
  rw [List.append_nil, shields.nil] at reads
  obtain ⟨first, more, same, solid⟩ := reads.exists_head
  refine readNested_eq_ok_iff.mpr ⟨fun mark => ?_, [], ?_, rfl⟩
  · rw [write, same] at mark
    cases mark
    exact solid (by decide)
  · rw [write, same, skipSpace_of_head solid, ← same]
    exact reads

end Write

/-! ## Literals and modules of data -/

/-- Where the slashes of end tags are escaped there are none; a slash starts such a text only where
no less-than sign stands before it. -/
theorem not_endTag_shielded (opened : Bool) (text : Text) :
    ¬[CodePoint.scalar '<', .scalar '/'] <:+: shielded opened text ∧
      (opened = true → (shielded opened text).head? ≠ some (.scalar '/')) := by
  induction text generalizing opened with
  | nil => simp [shielded]
  | cons point text tail =>
    rw [shielded]
    split
    · rename_i slash
      refine ⟨?_, fun _ => by simp⟩
      rw [List.infix_cons_iff, List.infix_cons_iff]
      rintro (start | start | behind)
      · cases (List.cons_prefix_cons.mp start).1
      · cases (List.cons_prefix_cons.mp start).1
        cases (Bool.and_eq_true_iff.mp slash).2
      · exact (tail false).1 behind
    · rename_i kept
      obtain ⟨none, apart⟩ := tail (point == .scalar '<')
      refine ⟨?_, fun opens start => ?_⟩
      · rw [List.infix_cons_iff]
        rintro (start | behind)
        · obtain ⟨rfl, slash⟩ := List.cons_prefix_cons.mp start
          obtain ⟨rest, same⟩ := slash
          exact apart rfl (by rw [← same]; rfl)
        · exact none behind
      · cases start
        subst opens
        exact kept rfl

/-- The text of a literal holds no end tag. -/
theorem not_endTag_literal (value : Json) : ¬Text.ofString "</" <:+: literal value := by
  rw [literal, escapeEndTags_eq]
  exact (not_endTag_shielded false _).1

/-- Values inside scripts are on one line. -/
theorem Style.script_eq : Style.script = .line false := rfl

variable {text : Text} {value : Json} (found : read text = .ok value) (back : RealsReadBack value)

include found back

/-- A value that was read is read back from the text of a literal. -/
theorem read_literal : read (literal value) = .ok value := by
  have readable := readable_of_read sorts_any trivial found
  rw [literal, escapeEndTags_eq, Style.script_eq]
  have joined : ∀ string ∈ value.texts, false = true → string.IsJoined := by simp
  exact read_write shields_shielded (readable_iff.mpr ⟨readable, joined⟩) back

/-- A value that was read is read back from ASCII exactly if its strings are joined. -/
theorem read_plain_iff :
    read (value.write .plain) = .ok value ↔ ∀ string ∈ value.texts, string.IsJoined := by
  constructor
  · intro again
    have characters : (value.write .plain).Encodable := by
      intro point member
      have small := value_lt_of_mem_plain member
      cases point with
      | scalar char => rfl
      | surrogate index =>
        have high : 0xD800 ≤ (CodePoint.surrogate index).value := Nat.le_add_right 0xD800 _
        exact absurd (Nat.lt_of_le_of_lt high small) (by decide)
    exact (readable_iff.mp (readable_of_read sorts_joined characters again)).2
  · intro joined
    have readable : Readable (fun text => true = true → text.IsJoined) nestingLimit value :=
      readable_iff.mpr
        ⟨readable_of_read sorts_any trivial found, fun string known _ => joined string known⟩
    exact read_write shields_id readable back

end SiteBuild.Json

namespace SiteBuild

/-- The module of fetched data exports the value that is read of them, written in ASCII. -/
theorem Module.Loader.fetchedModule_of_read {url text : Text} {value : Json}
    (data : Module.Loader.isData url = true) (found : Json.read text = .ok value) :
    Module.Loader.fetchedModule url text =
      .ok ("export default " ++ value.write .plain ++ ";") := by
  rw [Module.Loader.fetchedModule, if_pos data, Module.Loader.dataModule, found]

/-- One and a half is read back. -/
theorem Json.readsBack_three_halves : Json.ReadsBack ⟨0x3FF8000000000000⟩ := by
  have digits : Text.ofString (Number.shortestText Number.jsonLayout ⟨0x3FF8000000000000⟩) =
      "1.5" := by decide +kernel
  have atom : Json.readAtom "1.5" = .ok (.real ⟨0x3FF8000000000000⟩, []) := rfl
  rw [ReadsBack, digits]
  exact readNested_eq_ok_iff.mpr ⟨by decide, [], .atom atom (by decide) (by decide), rfl⟩

/-- A text that is one string from its first quote on is read as this string. -/
theorem Json.read_of_readString {body string : Text}
    (content : Json.readString (body.length + 1) [] body = .ok (string, [])) :
    Json.read (.scalar '\x22' :: body) = .ok (.str string) := by
  refine Json.readNested_eq_ok_iff.mpr ⟨by rintro ⟨⟩, [], ?_, rfl⟩
  rw [skipSpace_of_head (by decide)]
  exact .string content

end SiteBuild
