import SiteBuild.Proofs.Spelling
import SiteBuild.Script.Literal

/-!
# Written data

What a JSON value is written with. Outside of strings there are only points that begin no other
literal and no comment and stand in no keyword, and braces in pairs: such a text is tame. Strings
are written in characters that do not end them, whatever they hold (`exists_writeString`). Main
statement: every value on one line is tame (`tame_write`), also when the slashes of end tags are
escaped (`tame_literal`).
-/
namespace SiteBuild.Script

/-! ## Tame texts -/

/-- The points that begin literals, comments, end tags and blocks, and one that stands in each
keyword of a dependency. -/
def loudPoints : List CodePoint :=
  [.scalar '\x27', .scalar '\x22', .scalar '\x60', .scalar '/', .scalar '<', .scalar '\x7b',
    .scalar '\x7d', .scalar 'p']

/-- Whether characters stand between double quotes as they are written. -/
def CleanUnits (units : List Written) : Prop :=
  ∀ unit ∈ units, unit.Avoids [Quote.double.point, .scalar '\\', .scalar '\n']

/-- A text of strings in double quotes, braces in pairs, and points that begin nothing else. -/
inductive Tame : Text → Prop where
  /-- Nothing. -/
  | nil : Tame []
  /-- A point by itself. -/
  | point {point : CodePoint} {rest : Text} (quiet : point ∉ loudPoints) (behind : Tame rest) :
      Tame (point :: rest)
  /-- A string. -/
  | string {units : List Written} {rest : Text} (clean : CleanUnits units) (behind : Tame rest) :
      Tame (Quote.double.point :: (spell units ++ Quote.double.point :: rest))
  /-- Braces. -/
  | braces {inner rest : Text} (inside : Tame inner) (behind : Tame rest) :
      Tame (.scalar '\x7b' :: (inner ++ .scalar '\x7d' :: rest))

namespace Tame

/-- Tame texts one behind the other are a tame text. -/
theorem append {first second : Text} (tame : Tame first) (behind : Tame second) :
    Tame (first ++ second) := by
  induction tame with
  | nil => exact behind
  | point quiet _ tail => exact .point quiet tail
  | string clean _ tail => simpa using Tame.string clean tail
  | braces inside _ _ tail => simpa using Tame.braces inside tail

/-- Points by themselves are a tame text. -/
theorem of_points {text : Text} (quiet : ∀ point ∈ text, point ∉ loudPoints) : Tame text := by
  induction text with
  | nil => exact .nil
  | cons point rest tail =>
    exact .point (quiet point List.mem_cons_self)
      (tail fun other member => quiet other (List.mem_cons_of_mem point member))

end Tame

/-! ## End tags -/

/-- A text with a backslash before the slash of every end tag; `opened` tells that a less-than sign
stands before it. -/
def shielded (opened : Bool) : Text → Text
  | [] => []
  | point :: rest =>
    if opened && point == .scalar '/' then .scalar '\\' :: point :: shielded false rest
    else point :: shielded (point == .scalar '<') rest

/-- Where no slash follows, a less-than sign makes no difference. -/
theorem shielded_of_head {text : Text} (noSlash : text.head? ≠ some (.scalar '/')) (opened : Bool) :
    shielded opened text = shielded false text := by
  cases text with
  | nil => rfl
  | cons point rest =>
    have other : (point == .scalar '/') = false := by simpa using noSlash
    simp only [shielded, other, Bool.and_false]

/-- A point behind which no less-than sign stands is as it was. -/
theorem shielded_start (point : CodePoint) (rest : Text) :
    shielded false (point :: rest) = point :: shielded (point == .scalar '<') rest := by
  rw [shielded, Bool.false_and, if_neg Bool.false_ne_true]

/-- End tags are escaped point by point. -/
theorem escapeEndTags_eq (text : Text) : escapeEndTags text = shielded false text := by
  have tag : Text.ofString "</" = [.scalar '<', .scalar '/'] := rfl
  change Text.replaceFrom (Text.ofString "</") "<\\/" 0 text = _
  rw [tag]
  match text with
  | [] => rfl
  | [point] =>
    by_cases less : point = .scalar '<' <;> simp [Text.replaceFrom, shielded, less]
  | first :: second :: rest =>
    have behind := escapeEndTags_eq (second :: rest)
    have beyond := escapeEndTags_eq rest
    change Text.replaceFrom (Text.ofString "</") "<\\/" 0 _ = _ at behind beyond
    rw [tag] at behind beyond
    rw [Text.replaceFrom]
    split
    · rename_i opens
      obtain ⟨more, same⟩ := List.isPrefixOf_iff_prefix.mp opens
      cases same
      simp only [List.length_cons, List.length_nil, Nat.add_one_sub_one, Text.replaceFrom, beyond]
      rfl
    · rename_i other
      rw [behind, shielded_start first]
      cases less : first == CodePoint.scalar '<' with
      | false => rfl
      | true =>
        have here : first = .scalar '<' := by simpa using less
        have noSlash : (second :: rest).head? ≠ some (.scalar '/') := by
          rintro slash
          cases slash
          exact other (by subst here; rfl)
        rw [shielded_of_head noSlash true]

/-- Characters of a string with the slashes of end tags escaped; `opened` tells that a less-than
sign stands before them. -/
def shieldedUnits (opened : Bool) : List Written → List Written
  | [] => []
  | .plain point :: rest =>
    if opened && point == .scalar '/' then .escaped point :: shieldedUnits false rest
    else .plain point :: shieldedUnits (point == .scalar '<') rest
  | .escaped point :: rest => .escaped point :: shieldedUnits (point == .scalar '<') rest

/-- In a string the slashes of end tags are escaped. -/
theorem shielded_spell (opened : Bool) (units : List Written) (rest : Text) :
    shielded opened (spell units ++ Quote.double.point :: rest) =
      spell (shieldedUnits opened units) ++ Quote.double.point :: shielded false rest := by
  induction units generalizing opened with
  | nil => cases opened <;> rfl
  | cons unit units tail =>
    cases unit with
    | plain point =>
      rw [spell_cons, shieldedUnits, Written.text, List.append_assoc, List.singleton_append,
        shielded]
      split <;> rw [tail] <;> rfl
    | escaped point =>
      change shielded opened
        (.scalar '\\' :: point :: (spell units ++ Quote.double.point :: rest)) = _
      have backslash : (CodePoint.scalar '\\' == .scalar '/') = false := rfl
      have noLess : (CodePoint.scalar '\\' == .scalar '<') = false := rfl
      rw [shielded, backslash, Bool.and_false, if_neg Bool.false_ne_true, noLess, shielded_start,
        tail]
      rfl

/-- Characters that are escaped stand for what they stood for. -/
theorem value_shieldedUnits (opened : Bool) (units : List Written) :
    (shieldedUnits opened units).flatMap Written.value = units.flatMap Written.value := by
  induction units generalizing opened with
  | nil => rfl
  | cons unit units tail =>
    cases unit with
    | plain point =>
      rw [shieldedUnits]
      split
      · rename_i slash
        have here : point = .scalar '/' := by simpa using (Bool.and_eq_true_iff.mp slash).2
        rw [List.flatMap_cons, tail, here]
        rfl
      · rw [List.flatMap_cons, tail, List.flatMap_cons]
    | escaped point => rw [shieldedUnits, List.flatMap_cons, tail, List.flatMap_cons]

/-- Characters that are escaped are as clean as before. -/
theorem CleanUnits.shielded {units : List Written} (clean : CleanUnits units) (opened : Bool) :
    CleanUnits (shieldedUnits opened units) := by
  induction units generalizing opened with
  | nil => exact clean
  | cons unit units tail =>
    obtain ⟨first, others⟩ := List.forall_mem_cons.mp clean
    cases unit with
    | plain point =>
      rw [shieldedUnits]
      split
      · exact List.forall_mem_cons.mpr ⟨trivial, tail others _⟩
      · exact List.forall_mem_cons.mpr ⟨first, tail others _⟩
    | escaped point => exact List.forall_mem_cons.mpr ⟨trivial, tail others _⟩

/-- A tame text is tame with the slashes of end tags escaped, whatever is behind it. -/
theorem Tame.exists_shielded {text : Text} (tame : Tame text) :
    ∃ safe, Tame safe ∧ ∀ rest opened, rest.head? ≠ some (.scalar '/') →
      shielded opened (text ++ rest) = safe ++ shielded false rest := by
  induction tame with
  | nil => exact ⟨[], .nil, fun rest opened bare => shielded_of_head bare opened⟩
  | @point point _ quiet _ tail =>
    obtain ⟨safe, tame, same⟩ := tail
    refine ⟨point :: safe, .point quiet tame, fun rest opened bare => ?_⟩
    have slash : (point == .scalar '/') = false := by
      rw [beq_eq_false_iff_ne]
      rintro rfl
      exact quiet (by decide)
    have less : (point == .scalar '<') = false := by
      rw [beq_eq_false_iff_ne]
      rintro rfl
      exact quiet (by decide)
    rw [List.cons_append, shielded, slash, Bool.and_false, if_neg Bool.false_ne_true, less,
      same rest false bare]
    rfl
  | @string units _ clean _ tail =>
    obtain ⟨safe, tame, same⟩ := tail
    refine ⟨_, .string (clean.shielded false) tame, fun rest opened bare => ?_⟩
    rw [List.cons_append, shielded_of_head (by simp [Quote.point]), shielded_start,
      List.append_assoc, List.cons_append]
    change _ :: shielded false (spell units ++ Quote.double.point :: _) = _
    rw [shielded_spell, same rest false bare, List.cons_append, List.append_assoc]
    rfl
  | @braces inner _ _ _ inside tail =>
    obtain ⟨safe, tame, same⟩ := tail
    obtain ⟨within, orderly, alike⟩ := inside
    refine ⟨_, .braces orderly tame, fun rest opened bare => ?_⟩
    rw [List.cons_append, shielded_of_head (by simp), shielded_start, List.append_assoc,
      List.cons_append]
    change _ :: shielded false (inner ++ _) = _
    rw [alike _ false (by simp), shielded_start]
    change _ :: (within ++ _ :: shielded false (_ ++ rest)) = _
    rw [same rest false bare, List.cons_append, List.append_assoc]
    rfl

/-- A tame text is tame with the slashes of end tags escaped. -/
theorem Tame.escapeEndTags {text : Text} (tame : Tame text) : Tame (escapeEndTags text) := by
  obtain ⟨safe, orderly, same⟩ := tame.exists_shielded
  have whole := same [] false (by simp)
  rw [List.append_nil, shielded, List.append_nil] at whole
  rw [escapeEndTags_eq, whole]
  exact orderly

end SiteBuild.Script

namespace SiteBuild.Json

open SiteBuild.Script

/-! ## Strings -/

/-- A digit of an escape stands for itself. -/
theorem lowerHexDigit_avoids (digit : Nat) :
    (Written.plain (.scalar (lowerHexDigit (digit % 16)))).Avoids
      [Quote.double.point, .scalar '\\', .scalar '\n'] := by
  have each : ∀ digit < 16, (.scalar (lowerHexDigit digit) : CodePoint) ∉
      [Quote.double.point, .scalar '\\', .scalar '\n'] := by decide
  exact each _ (Nat.mod_lt _ (by decide))

/-- The escape of a unit is an escaped letter and four digits. -/
theorem exists_unitEscape (unit : Nat) :
    ∃ units, Text.ofChars (unitEscape unit) = spell units ∧ CleanUnits units := by
  refine ⟨.escaped (.scalar 'u') :: [unit / 4096, unit / 256, unit / 16, unit].map fun part =>
    .plain (.scalar (lowerHexDigit (part % 16))), rfl, ?_⟩
  simp only [CleanUnits, List.forall_mem_cons, List.forall_mem_map]
  exact ⟨trivial, lowerHexDigit_avoids _, lowerHexDigit_avoids _, lowerHexDigit_avoids _,
    lowerHexDigit_avoids _, by simp⟩

/-- The escape of a point is one of a unit, or two. -/
theorem exists_pointEscape (value : Nat) :
    ∃ units, Text.ofChars (pointEscape value) = spell units ∧ CleanUnits units := by
  unfold pointEscape
  split
  · exact exists_unitEscape value
  · obtain ⟨first, one, clean⟩ := exists_unitEscape (0xD800 + (value - 0x10000) / 0x400)
    obtain ⟨second, two, clean'⟩ := exists_unitEscape (0xDC00 + (value - 0x10000) % 0x400)
    refine ⟨first ++ second, ?_, List.forall_mem_append.mpr ⟨clean, clean'⟩⟩
    rw [Text.ofChars, List.map_append]
    change Text.ofChars _ ++ Text.ofChars _ = _
    rw [one, two, spell, spell, spell, List.flatMap_append]

/-- A character with a short escape is a control character, or its escape stands for itself. -/
theorem letter_of_shortEscape? {char letter : Char} (short : shortEscape? char = some letter) :
    char.toNat < 0x20 ∨ letter = char := by
  unfold shortEscape? at short
  split at short <;> cases short
  · exact .inr rfl
  · exact .inr rfl
  all_goals exact .inl (by decide)

/-- A point of a string is written in characters that do not end the string. A point that is no
control character stands for itself if no other is escaped. -/
theorem exists_writePoint (ascii : Bool) (point : CodePoint) :
    ∃ units, writePoint ascii point = spell units ∧ CleanUnits units ∧
      (ascii = false → 0x20 ≤ point.value → units.flatMap Written.value = [point]) := by
  cases point with
  | surrogate index =>
    cases ascii with
    | true =>
      obtain ⟨units, same, clean⟩ := exists_pointEscape (CodePoint.surrogate index).value
      exact ⟨units, same, clean, nofun⟩
    | false =>
      refine ⟨[.plain (.surrogate index)], rfl, ?_, fun _ _ => rfl⟩
      simp [CleanUnits, Written.Avoids, Quote.point]
  | scalar char =>
    cases short : shortEscape? char with
    | some letter =>
      refine ⟨[.escaped (.scalar letter)], ?_, by simp [CleanUnits, Written.Avoids], ?_⟩
      · simp only [writePoint, short]
        rfl
      · intro _ high
        have same := (letter_of_shortEscape? short).resolve_left (Nat.not_lt.mpr high)
        have noBreak : (CodePoint.scalar letter == .scalar '\n') = false := by
          rw [beq_eq_false_iff_ne]
          rintro line
          cases line
          subst same
          exact absurd high (by decide)
        rw [List.flatMap_cons, Written.value, noBreak, same]
        rfl
    | none =>
      by_cases special :
          (CodePoint.scalar char).value < 0x20 ∨ (ascii ∧ 0x7E < (CodePoint.scalar char).value)
      · obtain ⟨units, same, clean⟩ := exists_pointEscape (CodePoint.scalar char).value
        refine ⟨units, ?_, clean, ?_⟩
        · simp only [writePoint, short, if_pos special, same]
        · rintro rfl high
          exact absurd (special.resolve_right (by simp)) (Nat.not_lt.mpr high)
      · refine ⟨[.plain (.scalar char)], ?_, ?_, fun _ _ => rfl⟩
        · simp only [writePoint, short, if_neg special]
          rfl
        · intro unit only
          cases List.mem_singleton.mp only
          simp only [Written.Avoids, Quote.point, List.mem_cons, List.not_mem_nil, or_false,
            CodePoint.scalar.injEq]
          rintro (rfl | rfl | rfl) <;> cases short

/-- A string is written in characters that do not end it. One without control characters is what
it stands for if no other is escaped. -/
theorem exists_writeString (ascii : Bool) (text : Text) :
    ∃ units, writeString ascii text =
        Quote.double.point :: (spell units ++ [Quote.double.point]) ∧ CleanUnits units ∧
      (ascii = false → (∀ point ∈ text, 0x20 ≤ point.value) →
        units.flatMap Written.value = text) := by
  suffices body : ∃ units, text.flatMap (writePoint ascii) = spell units ∧ CleanUnits units ∧
      (ascii = false → (∀ point ∈ text, 0x20 ≤ point.value) →
        units.flatMap Written.value = text) by
    obtain ⟨units, same, rest⟩ := body
    refine ⟨units, ?_, rest⟩
    rw [writeString, same]
    rfl
  induction text with
  | nil => exact ⟨[], rfl, by simp [CleanUnits], fun _ _ => rfl⟩
  | cons point text tail =>
    obtain ⟨first, one, clean, value⟩ := exists_writePoint ascii point
    obtain ⟨others, two, clean', value'⟩ := tail
    refine ⟨first ++ others, ?_, List.forall_mem_append.mpr ⟨clean, clean'⟩, ?_⟩
    · rw [List.flatMap_cons, one, two, spell, spell, spell, List.flatMap_append]
    · intro plain high
      obtain ⟨here, behind⟩ := List.forall_mem_cons.mp high
      rw [List.flatMap_append, value plain here, value' plain behind]
      rfl

/-- A string is tame. -/
theorem tame_writeString (ascii : Bool) (text : Text) : Tame (writeString ascii text) := by
  obtain ⟨units, same, clean, -⟩ := exists_writeString ascii text
  rw [same]
  exact .string clean .nil

/-! ## Numbers -/

/-- The points that numbers are written with. -/
def numeralPoints : Text := "0123456789+-.einafINty"

/-- Whether a string is made of the points of numbers. -/
def IsNumeral (string : String) : Prop := ∀ point ∈ Text.ofString string, point ∈ numeralPoints

/-- The points of numbers begin nothing else. -/
theorem IsNumeral.quiet {string : String} (numeral : IsNumeral string) :
    ∀ point ∈ Text.ofString string, point ∉ loudPoints := by
  have each : ∀ point ∈ numeralPoints, point ∉ loudPoints := by decide
  exact fun point member => each point (numeral point member)

/-- Two strings of the points of numbers are one. -/
theorem IsNumeral.append {first second : String} (numeral : IsNumeral first)
    (numeral' : IsNumeral second) : IsNumeral (first ++ second) := by
  intro point member
  rw [Text.ofString, String.toList_append, Text.ofChars, List.map_append] at member
  exact (List.mem_append.mp member).elim (numeral point) (numeral' point)

/-- A string of given characters is made of the points of numbers if all of them are. -/
theorem isNumeral_ofList {chars : List Char}
    (numeral : ∀ char ∈ chars, (.scalar char : CodePoint) ∈ numeralPoints) :
    IsNumeral (String.ofList chars) := by
  intro point member
  rw [Text.ofString, String.toList_ofList] at member
  obtain ⟨char, known, rfl⟩ := List.mem_map.mp member
  exact numeral char known

/-- The digits of a natural number are points of numbers. -/
theorem digits_numeral (number : Nat) :
    ∀ digit ∈ Nat.toDigits 10 number, (.scalar digit : CodePoint) ∈ numeralPoints := by
  intro digit member
  have decimal := Nat.isDigit_of_mem_toDigits (by decide) (by decide) member
  obtain ⟨low, high⟩ := Char.isDigit_iff_toNat.mp decimal
  have each : ∀ value < 58, 48 ≤ value →
      (.scalar (Char.ofNat value) : CodePoint) ∈ numeralPoints := by decide
  simpa using each digit.toNat (Nat.lt_succ_of_le high) low

/-- Zeros and digits are points of numbers. -/
theorem filled_numeral (count number : Nat) :
    ∀ digit ∈ List.replicate count '0' ++ Nat.toDigits 10 number,
      (.scalar digit : CodePoint) ∈ numeralPoints := by
  intro digit member
  rcases List.mem_append.mp member with zero | other
  · cases List.eq_of_mem_replicate zero
    decide
  · exact digits_numeral number digit other

/-- The words and marks of numbers are made of their points. -/
theorem isNumeral_word :
    ∀ word ∈ ["NaN", "Infinity", "-", "", ".", ".0", "e-", "e+"], IsNumeral word := by
  unfold IsNumeral
  decide

/-- An integer is made of the points of numbers. -/
theorem isNumeral_int (value : Int) : IsNumeral value.repr := by
  cases value with
  | ofNat number => exact isNumeral_ofList (digits_numeral number)
  | negSucc number =>
    exact (isNumeral_word "-" (by decide)).append (isNumeral_ofList (digits_numeral (number + 1)))

/-- A decimal that is written positionally is made of the points of numbers. -/
theorem isNumeral_positional (decimal : Decimal) : IsNumeral (Number.positional decimal) := by
  unfold Number.positional
  split
  · refine (isNumeral_ofList ?_).append (isNumeral_word ".0" (by decide))
    intro digit member
    rcases List.mem_append.mp member with other | zero
    · exact digits_numeral _ digit other
    · cases List.eq_of_mem_replicate zero
      decide
  · refine ((isNumeral_ofList ?_).append (isNumeral_word "." (by decide))).append
      (isNumeral_ofList ?_)
    · exact fun digit member => filled_numeral _ _ digit (List.mem_of_mem_take member)
    · exact fun digit member => filled_numeral _ _ digit (List.mem_of_mem_drop member)

/-- A decimal with an exponent is made of the points of numbers. -/
theorem isNumeral_scientific (layout : Number.Layout) (decimal : Decimal) :
    IsNumeral (Number.scientific layout decimal) := by
  have digits := digits_numeral decimal.digits
  have exponent (mark : String) (numeral : IsNumeral mark) (width number : Nat) :
      IsNumeral (mark ++ Number.padded width number) :=
    numeral.append (isNumeral_ofList (filled_numeral _ _))
  have mark : IsNumeral (if decimal.leadingPower < 0 then "e-" else "e+") := by
    split <;> exact isNumeral_word _ (by decide)
  unfold Number.scientific
  cases written : Nat.toDigits 10 decimal.digits with
  | nil => exact exponent _ mark _ _
  | cons first rest =>
    rw [written] at digits
    obtain ⟨first_numeral, rest_numeral⟩ := List.forall_mem_cons.mp digits
    cases rest with
    | nil => exact (isNumeral_ofList digits).append (exponent _ mark _ _)
    | cons second more =>
      refine (isNumeral_ofList ?_).append (exponent _ mark _ _)
      exact List.forall_mem_cons.mpr ⟨first_numeral,
        List.forall_mem_cons.mpr ⟨by decide, rest_numeral⟩⟩

/-- A number in its shortest digits is made of the points of numbers. -/
theorem isNumeral_shortestText (number : Binary64) :
    IsNumeral (Number.shortestText Number.jsonLayout number) := by
  have minus (negative : Bool) : IsNumeral (Number.sign negative) := by
    cases negative <;> exact isNumeral_word _ (by decide)
  unfold Number.shortestText
  split
  · exact isNumeral_word "NaN" (by decide)
  split
  · exact (minus _).append (isNumeral_word "Infinity" (by decide))
  · refine (minus _).append ?_
    split
    · exact isNumeral_positional _
    · exact isNumeral_scientific _ _

/-! ## Values -/

/-- Whether a style writes values on one line, with separators that begin nothing else. -/
structure Style.IsInline (style : Style) : Prop where
  indent : style.indent = none
  item : ∀ point ∈ style.itemSeparator, point ∉ loudPoints
  key : ∀ point ∈ style.keySeparator, point ∉ loudPoints

/-- On one line there are no line breaks. -/
theorem lineBreak_eq_nil {style : Style} (inline : style.IsInline) (level : Nat) :
    lineBreak style level = [] := by
  rw [lineBreak, inline.indent]

mutual

/-- A value on one line is tame. -/
theorem tame_writeAt {style : Style} (inline : style.IsInline) (level : Nat) :
    (value : Json) → Tame (writeAt style level value)
  | .null => @Tame.of_points "null" (by decide)
  | .bool value => by
    rw [writeAt]
    split <;> exact .of_points (by decide)
  | .int value => by
    rw [writeAt]
    exact .of_points (isNumeral_int value).quiet
  | .real value => by
    rw [writeAt]
    exact .of_points (isNumeral_shortestText value).quiet
  | .str value => by
    rw [writeAt]
    exact tame_writeString style.ascii value
  | .arr [] => @Tame.of_points "[]" (by decide)
  | .arr (first :: rest) => by
    rw [writeAt, lineBreak_eq_nil inline, lineBreak_eq_nil inline, List.append_nil,
      List.append_nil]
    refine (((Tame.of_points (by decide)).append ?_).append ?_).append (.of_points (by decide))
    · exact tame_writeAt inline (level + 1) first
    · exact tame_writeItems inline (level + 1) rest
  | .obj [] => .braces .nil .nil
  | .obj ((key, value) :: rest) => by
    rw [writeAt, lineBreak_eq_nil inline, lineBreak_eq_nil inline, List.append_nil,
      List.append_nil]
    have inside := (((tame_writeString style.ascii key).append (Tame.of_points inline.key)).append
      (tame_writeAt inline (level + 1) value)).append
      (tame_writeMembers inline (level + 1) rest)
    have opening : Text.ofString "\x7b" = [.scalar '\x7b'] := rfl
    have closing : Text.ofString "\x7d" = [.scalar '\x7d'] := rfl
    rw [opening, closing]
    simpa using Tame.braces inside .nil

/-- The items behind the first one are tame. -/
theorem tame_writeItems {style : Style} (inline : style.IsInline) (level : Nat) :
    (items : List Json) → Tame (writeItems style level items)
  | [] => .nil
  | item :: rest => by
    rw [writeItems, lineBreak_eq_nil inline, List.append_nil]
    refine ((Tame.of_points inline.item).append ?_).append ?_
    · exact tame_writeAt inline level item
    · exact tame_writeItems inline level rest

/-- The members behind the first one are tame. -/
theorem tame_writeMembers {style : Style} (inline : style.IsInline) (level : Nat) :
    (members : List (Text × Json)) → Tame (writeMembers style level members)
  | [] => .nil
  | (key, value) :: rest => by
    rw [writeMembers, lineBreak_eq_nil inline, List.append_nil]
    refine ((((Tame.of_points inline.item).append (tame_writeString style.ascii key)).append
      (Tame.of_points inline.key)).append ?_).append ?_
    · exact tame_writeAt inline level value
    · exact tame_writeMembers inline level rest

end

/-- Values inside scripts are written on one line. -/
theorem Style.isInline_script : Style.script.IsInline := ⟨rfl, by decide, by decide⟩

/-- Values of which all but printable characters are escaped are written on one line. -/
theorem Style.isInline_plain : Style.plain.IsInline := ⟨rfl, by decide, by decide⟩

/-- **Written values are tame.** A value that is written on one line is a tame text. -/
theorem tame_write {style : Style} (inline : style.IsInline) (value : Json) :
    Tame (value.write style) :=
  tame_writeAt inline 0 value

/-! ## Points of written values -/

/-- Whether a style writes values on one line, with points of one sort. -/
structure Style.Writes (style : Style) (sort : CodePoint → Prop) : Prop where
  indent : style.indent = none
  mark : ∀ point ∈ numeralPoints ++ "nulltruefalse[]\x7b\x7d", sort point
  item : ∀ point ∈ style.itemSeparator, sort point
  key : ∀ point ∈ style.keySeparator, sort point
  string : ∀ text, ∀ point ∈ writeString style.ascii text, sort point

namespace Style.Writes

variable {style : Style} {sort : CodePoint → Prop} (writes : style.Writes sort)

include writes

/-- The points of a word that stands for a value are of the sort. -/
theorem word {word : Text} (known : ∀ point ∈ word, point ∈ ("nulltruefalse[]\x7b\x7d" : Text)) :
    ∀ point ∈ word, sort point :=
  fun point member => writes.mark point (List.mem_append_right _ (known point member))

/-- The points of a number are of the sort. -/
theorem numeral {string : String} (numeral : IsNumeral string) :
    ∀ point ∈ Text.ofString string, sort point :=
  fun point member => writes.mark point (List.mem_append_left _ (numeral point member))

/-- There are no line breaks. -/
theorem lineBreak_eq (level : Nat) : lineBreak style level = [] := by
  rw [lineBreak, writes.indent]

mutual

/-- The points of a value are of the sort. -/
theorem writeAt (level : Nat) : (value : Json) → ∀ point ∈ Json.writeAt style level value,
    sort point
  | .null => @word _ _ writes "null" (by decide)
  | .bool value => by
    rw [Json.writeAt]
    split <;> exact writes.word (by decide)
  | .int value => writes.numeral (isNumeral_int value)
  | .real value => writes.numeral (isNumeral_shortestText value)
  | .str value => writes.string value
  | .arr [] => @word _ _ writes "[]" (by decide)
  | .arr (first :: rest) => by
    rw [Json.writeAt, writes.lineBreak_eq, writes.lineBreak_eq]
    simp only [List.forall_mem_append, List.append_nil]
    exact ⟨⟨⟨writes.word (by decide), writeAt (level + 1) first⟩, writeItems (level + 1) rest⟩,
      writes.word (by decide)⟩
  | .obj [] => @word _ _ writes "\x7b\x7d" (by decide)
  | .obj ((key, value) :: rest) => by
    rw [Json.writeAt, writes.lineBreak_eq, writes.lineBreak_eq]
    simp only [List.forall_mem_append, List.append_nil]
    exact ⟨⟨⟨⟨⟨writes.word (by decide), writes.string key⟩, writes.key⟩,
      writeAt (level + 1) value⟩, writeMembers (level + 1) rest⟩, writes.word (by decide)⟩

/-- The points of the items behind the first one are of the sort. -/
theorem writeItems (level : Nat) : (items : List Json) →
    ∀ point ∈ Json.writeItems style level items, sort point
  | [] => by simp [Json.writeItems]
  | item :: rest => by
    rw [Json.writeItems, writes.lineBreak_eq]
    simp only [List.forall_mem_append, List.append_nil]
    exact ⟨⟨writes.item, writeAt level item⟩, writeItems level rest⟩

/-- The points of the members behind the first one are of the sort. -/
theorem writeMembers (level : Nat) : (members : List (Text × Json)) →
    ∀ point ∈ Json.writeMembers style level members, sort point
  | [] => by simp [Json.writeMembers]
  | (key, value) :: rest => by
    rw [Json.writeMembers, writes.lineBreak_eq]
    simp only [List.forall_mem_append, List.append_nil]
    exact ⟨⟨⟨⟨writes.item, writes.string key⟩, writes.key⟩, writeAt level value⟩,
      writeMembers level rest⟩

end

end Style.Writes

/-- The escape of a unit is made of characters from the blank on, and ASCII. -/
theorem value_of_mem_unitEscape {unit : Nat} {point : CodePoint}
    (member : point ∈ Text.ofChars (unitEscape unit)) :
    0x20 ≤ point.value ∧ point.value < 0x7F := by
  have digits : ∀ digit < 16, 0x20 ≤ (CodePoint.scalar (lowerHexDigit digit)).value ∧
      (CodePoint.scalar (lowerHexDigit digit)).value < 0x7F := by decide
  have digit (number : Nat) := digits (number % 16) (Nat.mod_lt _ (by decide))
  have each : ∀ point ∈ Text.ofChars (unitEscape unit),
      0x20 ≤ point.value ∧ point.value < 0x7F := by
    simp only [unitEscape, Text.ofChars, List.map_cons, List.map_nil, List.forall_mem_cons]
    exact ⟨by decide, by decide, digit _, digit _, digit _, digit _, by simp⟩
  exact each point member

/-- The escape of a point is made of characters from the blank on, and ASCII. -/
theorem value_of_mem_pointEscape {value : Nat} {point : CodePoint}
    (member : point ∈ Text.ofChars (pointEscape value)) :
    0x20 ≤ point.value ∧ point.value < 0x7F := by
  unfold pointEscape at member
  split at member
  · exact value_of_mem_unitEscape member
  · rw [Text.ofChars, List.map_append] at member
    exact (List.mem_append.mp member).elim value_of_mem_unitEscape value_of_mem_unitEscape

/-- A point of a string is written in characters from the blank on, and in ASCII if all else is
escaped. -/
theorem value_of_mem_writePoint {ascii : Bool} {written point : CodePoint}
    (member : point ∈ writePoint ascii written) :
    0x20 ≤ point.value ∧ (ascii = true → point.value < 0x80) := by
  have escaped {value : Nat} (member : point ∈ Text.ofChars (pointEscape value)) :
      0x20 ≤ point.value ∧ (ascii = true → point.value < 0x80) := by
    obtain ⟨low, high⟩ := value_of_mem_pointEscape member
    exact ⟨low, fun _ => Nat.lt_succ_of_lt high⟩
  cases written with
  | surrogate index =>
    cases ascii with
    | true => exact escaped member
    | false =>
      cases List.mem_singleton.mp member
      exact ⟨Nat.le_trans (by decide) (Nat.le_add_right 0xD800 _), nofun⟩
  | scalar char =>
    cases short : shortEscape? char with
    | some letter =>
      simp only [writePoint, short] at member
      unfold shortEscape? at short
      have each : ∀ letter ∈ ['\x22', '\\', 'b', 'f', 'n', 'r', 't'],
          ∀ point ∈ Text.ofChars ['\\', letter], 0x20 ≤ point.value ∧ point.value < 0x80 := by
        simp [Text.ofChars, CodePoint.value]
      have known : letter ∈ ['\x22', '\\', 'b', 'f', 'n', 'r', 't'] := by
        split at short <;> cases short <;> decide
      obtain ⟨low, high⟩ := each letter known point member
      exact ⟨low, fun _ => high⟩
    | none =>
      simp only [writePoint, short] at member
      split at member
      · exact escaped member
      · rename_i plain
        cases List.mem_singleton.mp member
        rw [not_or, not_and, Nat.not_lt, Nat.not_lt] at plain
        exact ⟨plain.1, fun ascii => Nat.lt_succ_of_le (Nat.le_succ_of_le (plain.2 ascii))⟩

/-- A string is written in characters from the blank on, and in ASCII if all else is escaped. -/
theorem value_of_mem_writeString {ascii : Bool} {text : Text} {point : CodePoint}
    (member : point ∈ writeString ascii text) :
    0x20 ≤ point.value ∧ (ascii = true → point.value < 0x80) := by
  have quote : ∀ point ∈ Text.ofString "\x22",
      0x20 ≤ point.value ∧ (ascii = true → point.value < 0x80) := by
    rw [show Text.ofString "\x22" = [.scalar '\x22'] from rfl, List.forall_mem_singleton]
    exact ⟨by decide, fun _ => by decide⟩
  rcases List.mem_append.mp member with front | last
  · rcases List.mem_append.mp front with first | inside
    · exact quote point first
    · obtain ⟨written, -, here⟩ := List.mem_flatMap.mp inside
      exact value_of_mem_writePoint here
  · exact quote point last

/-- Values inside scripts are written in characters from the blank on. -/
theorem le_value_of_mem_script {value : Json} {point : CodePoint}
    (member : point ∈ value.write .script) : 0x20 ≤ point.value := by
  have writes : Style.script.Writes fun point => 0x20 ≤ point.value :=
    ⟨rfl, by decide, by decide, by decide, fun _ _ member => (value_of_mem_writeString member).1⟩
  exact writes.writeAt 0 value point member

/-- Values that are escaped are written in ASCII. -/
theorem value_lt_of_mem_plain {value : Json} {point : CodePoint}
    (member : point ∈ value.write .plain) : point.value < 0x80 := by
  have writes : Style.plain.Writes fun point => point.value < 0x80 :=
    ⟨rfl, by decide, by decide, by decide,
      fun _ _ member => (value_of_mem_writeString member).2 rfl⟩
  exact writes.writeAt 0 value point member

end SiteBuild.Json

namespace SiteBuild.Script

/-- A value as the text of a literal is tame. -/
theorem tame_literal (value : Json) : Tame (literal value) :=
  (Json.tame_write Json.Style.isInline_script value).escapeEndTags

/-- A text with its end tags escaped holds nothing but its points and backslashes. -/
theorem mem_of_mem_shielded {opened : Bool} {text : Text} {point : CodePoint}
    (member : point ∈ shielded opened text) : point ∈ text ∨ point = .scalar '\\' := by
  induction text generalizing opened with
  | nil => exact .inl member
  | cons first rest tail =>
    rw [shielded] at member
    split at member
    · rcases List.mem_cons.mp member with slash | member
      · exact .inr slash
      · rcases List.mem_cons.mp member with here | behind
        · exact .inl (here ▸ List.mem_cons_self)
        · exact (tail behind).imp_left (List.mem_cons_of_mem first)
    · rcases List.mem_cons.mp member with here | behind
      · exact .inl (here ▸ List.mem_cons_self)
      · exact (tail behind).imp_left (List.mem_cons_of_mem first)

/-- A literal holds no character below the blank. -/
theorem le_value_of_mem_literal {value : Json} {point : CodePoint}
    (member : point ∈ literal value) : 0x20 ≤ point.value := by
  rw [literal, escapeEndTags_eq] at member
  rcases mem_of_mem_shielded member with written | rfl
  · exact Json.le_value_of_mem_script written
  · decide

/-- A string without control characters is, as the text of a literal, a string literal that stands
for it. -/
theorem exists_literal_str {text : Text} (high : ∀ point ∈ text, 0x20 ≤ point.value) :
    ∃ content : Quoted .double,
      literal (.str text) =
        Quote.double.point :: (spell content.units ++ [Quote.double.point]) ∧
      content.units.flatMap Written.value = text := by
  obtain ⟨units, same, clean, value⟩ := Json.exists_writeString false text
  refine ⟨⟨shieldedUnits false units, clean.shielded false⟩, ?_, ?_⟩
  · change escapeEndTags (Json.writeString false text) = _
    rw [same, escapeEndTags_eq, shielded_start]
    exact congrArg _ (shielded_spell false units [])
  · exact (value_shieldedUnits false units).trans (value rfl high)

end SiteBuild.Script
