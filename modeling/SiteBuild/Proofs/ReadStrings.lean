import SiteBuild.Proofs.DataReader
import SiteBuild.Proofs.LoneSurrogates

/-!
# Strings that are read back

The points of a string are written by themselves, behind a backslash, or as the units of UTF-16, and
a backslash before the slash of an end tag makes one of these ways of another. Main statements: a
written string is read back, unless halves of pairs that are escaped stand where they are put
together (`Shields.readString_written`); and no such halves are in a string that is read of a text
of characters (`isJoined_of_readString`).
-/
namespace SiteBuild

namespace CodePoint

/-- A character is no half of a pair. -/
theorem not_half (char : Char) : ¬(0xD800 ≤ char.toNat ∧ char.toNat < 0xE000) := by
  rcases char.valid with low | ⟨high, -⟩
  · exact fun range => absurd low (Nat.not_lt.mpr range.1)
  · exact fun range => absurd high (Nat.not_lt.mpr (Nat.le_of_lt_succ range.2))

/-- The values of code points are bounded. -/
theorem value_lt (point : CodePoint) : point.value < 0x110000 := by
  cases point with
  | surrogate index =>
    have bound := index.isLt
    rw [value]
    omega
  | scalar char =>
    rcases char.valid with low | ⟨-, high⟩
    · exact Nat.lt_trans low (by decide)
    · exact high

/-- The value of a point, taken as a unit, is read as the point. -/
theorem ofUnit_value (point : CodePoint) : ofUnit point.value = point := by
  cases point with
  | surrogate index =>
    have bound := index.isLt
    have range : 0xD800 ≤ 0xD800 + index.val ∧ 0xD800 + index.val < 0xE000 := by omega
    rw [value, ofUnit, dif_pos range]
    simp
  | scalar char => rw [value, ofUnit, dif_neg (not_half char), Char.ofNat_toNat]

/-- High and low surrogates are halves of pairs. -/
theorem half_of_isHigh {unit : Nat} (high : isHigh unit = true) :
    0xD800 ≤ unit ∧ unit < 0xE000 := by
  simp only [isHigh, Bool.and_eq_true, decide_eq_true_eq] at high
  omega

theorem half_of_isLow {unit : Nat} (low : isLow unit = true) : 0xD800 ≤ unit ∧ unit < 0xE000 := by
  simp only [isLow, Bool.and_eq_true, decide_eq_true_eq] at low
  omega

/-- A unit that is read as a half of a pair is that half. -/
theorem value_ofUnit {unit : Nat}
    (half : 0xD800 ≤ (ofUnit unit).value ∧ (ofUnit unit).value < 0xE000) :
    (ofUnit unit).value = unit := by
  by_cases range : 0xD800 ≤ unit ∧ unit < 0xE000
  · rw [ofUnit, dif_pos range]
    change 0xD800 + (unit - 0xD800) = unit
    omega
  · rw [ofUnit, dif_neg range] at half
    exact absurd half (not_half _)

end CodePoint

/-- Whether no high surrogate stands directly before a low one: a pair is one character. -/
def Text.IsJoined (text : Text) : Prop :=
  ∀ high low, [high, low] <:+: text →
    ¬(CodePoint.isHigh high.value = true ∧ CodePoint.isLow low.value = true)

/-- A text of characters is joined. -/
theorem Text.Encodable.isJoined {text : Text} (encodable : text.Encodable) : text.IsJoined := by
  rintro high low inside ⟨opens, -⟩
  have scalar := encodable high (inside.subset List.mem_cons_self)
  cases high with
  | scalar char => exact CodePoint.not_half char (CodePoint.half_of_isHigh opens)
  | surrogate index => cases scalar

namespace Json

open Script

/-! ## Written points -/

/-- The ways to write a point of a string; halves of pairs are escaped only where all but printable
characters are. -/
inductive Form (ascii : Bool) : CodePoint → Text → Prop where
  /-- By itself. -/
  | plain {point : CodePoint} (printable : 0x20 ≤ point.value)
      (solid : point ∉ ("\x22\\" : Text)) : Form ascii point [point]
  /-- Behind a backslash. -/
  | short {char letter : Char} (escape : simpleEscape? (.scalar letter) = some char) :
      Form ascii (.scalar char) (Text.ofChars ['\\', letter])
  /-- As one unit or two. -/
  | escaped {point : CodePoint}
      (special : point.value < 0x20 ∨ (ascii = true ∧ 0x7E < point.value)) :
      Form ascii point (Text.ofChars (pointEscape point.value))

/-- The letter of a short escape is read as the character. -/
theorem simpleEscape?_of_shortEscape? {char letter : Char}
    (short : shortEscape? char = some letter) : simpleEscape? (.scalar letter) = some char := by
  unfold shortEscape? at short
  split at short <;> cases short <;> rfl

/-- A point is written in one of the ways. -/
theorem form_writePoint (ascii : Bool) (point : CodePoint) :
    Form ascii point (writePoint ascii point) := by
  cases point with
  | surrogate index =>
    have high : 0xD800 ≤ (CodePoint.surrogate index).value := Nat.le_add_right 0xD800 _
    cases ascii with
    | true => exact .escaped (.inr ⟨rfl, Nat.lt_of_lt_of_le (by decide) high⟩)
    | false => exact .plain (Nat.le_trans (by decide) high) (by simp [Text.ofString, Text.ofChars])
  | scalar char =>
    cases short : shortEscape? char with
    | some letter =>
      simp only [writePoint, short]
      exact .short (simpleEscape?_of_shortEscape? short)
    | none =>
      simp only [writePoint, short]
      split
      · rename_i special
        exact .escaped special
      · rename_i printable
        refine .plain (Nat.not_lt.mp fun control => printable (.inl control)) fun member => ?_
        have marks : Text.ofString "\x22\\" = [.scalar '\x22', .scalar '\\'] := rfl
        simp only [marks, List.mem_cons, CodePoint.scalar.injEq, List.not_mem_nil, or_false]
          at member
        rcases member with rfl | rfl <;> cases short

/-! ## Backslashes in end tags -/

/-- An escape is a backslash and other points that open no tag. -/
theorem exists_backslash (value : Nat) :
    ∃ front, Text.ofChars (pointEscape value) = .scalar '\\' :: front ∧
      ∀ point ∈ front, point ≠ .scalar '<' := by
  have each : ∀ digit < 16, (.scalar (lowerHexDigit digit) : CodePoint) ≠ .scalar '<' := by decide
  have digit (number : Nat) := each (number % 16) (Nat.mod_lt _ (by decide))
  unfold pointEscape
  split
  · refine ⟨_, rfl, ?_⟩
    simp only [List.map_cons, List.map_nil, List.forall_mem_cons]
    exact ⟨by decide, digit _, digit _, digit _, digit _, by simp⟩
  · refine ⟨_, rfl, ?_⟩
    simp only [unitEscape, List.cons_append, List.nil_append, List.append_eq, List.map_cons,
      List.map_nil, List.forall_mem_cons]
    exact ⟨by decide, digit _, digit _, digit _, digit _, by decide, by decide, digit _, digit _,
      digit _, digit _, by simp⟩

/-- Whether a way to go through a text keeps its points, but for a backslash that it may put before
a slash behind a less-than sign; it is told whether that sign stands before the text. -/
structure Shields (shield : Bool → Text → Text) : Prop where
  nil : shield false [] = []
  kept : ∀ {opened : Bool} {point : CodePoint}, opened = false ∨ point ≠ .scalar '/' → ∀ rest,
    shield opened (point :: rest) = point :: shield (point == .scalar '<') rest
  slash : (∀ rest, shield true (.scalar '/' :: rest) = .scalar '/' :: shield false rest) ∨
    ∀ rest, shield true (.scalar '/' :: rest) = .scalar '\\' :: .scalar '/' :: shield false rest

/-- A text as it is. -/
theorem shields_id : Shields fun _ text => text := ⟨rfl, fun _ _ => rfl, .inl fun _ => rfl⟩

/-- A text with the slashes of end tags escaped. -/
theorem shields_shielded : Shields shielded where
  nil := rfl
  kept {opened point} apart rest := by
    have keeps : (opened && point == .scalar '/') = false := by
      rcases apart with rfl | other
      · rfl
      · rw [beq_eq_false_iff_ne.mpr other, Bool.and_false]
    rw [shielded, keeps, if_neg Bool.false_ne_true]
  slash := .inr fun _ => rfl

namespace Shields

variable {shield : Bool → Text → Text} (shields : Shields shield)

include shields

/-- Text without less-than signs is kept. -/
theorem append {front : Text} (quiet : ∀ point ∈ front, point ≠ .scalar '<') (rest : Text) :
    shield false (front ++ rest) = front ++ shield false rest := by
  induction front with
  | nil => rfl
  | cons point front tail =>
    obtain ⟨here, others⟩ := List.forall_mem_cons.mp quiet
    rw [List.cons_append, shields.kept (.inl rfl), beq_eq_false_iff_ne.mpr here, tail others,
      List.cons_append]

/-- An escape is kept. -/
theorem escape {front : Text} (quiet : ∀ point ∈ front, point ≠ .scalar '<') (opened : Bool)
    (rest : Text) :
    shield opened (.scalar '\\' :: front ++ rest) =
      .scalar '\\' :: front ++ shield false rest := by
  have mark : (CodePoint.scalar '\\' == .scalar '<') = false := rfl
  rw [List.cons_append, shields.kept (.inr (by decide)), mark, shields.append quiet,
    List.cons_append]

/-- A point is written in one of the ways also with a backslash before a slash. -/
theorem exists_form {ascii : Bool} {point : CodePoint} {front : Text}
    (form : Form ascii point front) (opened : Bool) :
    ∃ safe, Form ascii point safe ∧ ∀ rest,
      shield opened (front ++ rest) = safe ++ shield (point == .scalar '<') rest := by
  cases form with
  | plain printable solid =>
    by_cases kept : opened = false ∨ point ≠ .scalar '/'
    · exact ⟨_, .plain printable solid, shields.kept kept⟩
    · obtain ⟨opens, same⟩ := not_or.mp kept
      cases Bool.not_eq_false _ ▸ opens
      cases not_not.mp same
      rcases shields.slash with plain | escaped
      · exact ⟨_, .plain printable solid, plain⟩
      · exact ⟨_, @Form.short _ '/' '/' rfl, escaped⟩
  | @short char letter escape =>
    obtain ⟨quiet, other⟩ : letter ≠ '<' ∧ char ≠ '<' := by
      unfold simpleEscape? at escape
      split at escape <;> cases escape <;> rename_i same <;> cases same <;> decide
    have apart : (CodePoint.scalar char == .scalar '<') = false := by simpa using other
    refine ⟨_, .short escape, fun rest => ?_⟩
    rw [apart]
    exact shields.escape (by simpa using quiet) opened rest
  | escaped special =>
    obtain ⟨front, same, quiet⟩ := exists_backslash point.value
    have apart : (point == .scalar '<') = false := by
      rw [beq_eq_false_iff_ne]
      rintro rfl
      rcases special with low | ⟨-, high⟩
      · exact absurd low (by decide)
      · exact absurd high (by decide)
    refine ⟨_, .escaped special, fun rest => ?_⟩
    rw [same, apart]
    exact shields.escape quiet opened rest

end Shields

/-! ## Reading points -/

/-- A hexadecimal digit is read back. -/
theorem hexDigit?_lowerHexDigit (number : Nat) :
    hexDigit? (.scalar (lowerHexDigit (number % 16))) = some (number % 16) := by
  have each : ∀ digit < 16, hexDigit? (.scalar (lowerHexDigit digit)) = some digit := by decide
  exact each _ (Nat.mod_lt _ (by decide))

/-- The escape of a unit is read back in front of other text. -/
theorem escapedUnit?_unitEscape {unit : Nat} (bound : unit < 0x10000) {rest : Text}
    (more : rest ≠ []) :
    escapedUnit? (Text.ofChars (unitEscape unit) ++ rest) = some (some unit, rest) := by
  obtain ⟨next, behind, rfl⟩ := List.exists_cons_of_ne_nil more
  have digits : unit? (.scalar (lowerHexDigit (unit / 4096 % 16)))
      (.scalar (lowerHexDigit (unit / 256 % 16))) (.scalar (lowerHexDigit (unit / 16 % 16)))
      (.scalar (lowerHexDigit (unit % 16))) = some unit := by
    simp only [unit?, hexDigit?_lowerHexDigit, Option.bind_eq_bind, Option.bind_some]
    congr 1
    omega
  rw [← digits]
  rfl

/-- Only a backslash starts an escape. -/
theorem escapedUnit?_eq_none {text : Text} (bare : text.head? ≠ some (.scalar '\\')) :
    escapedUnit? text = none := by
  unfold escapedUnit?
  split
  · exact absurd rfl bare
  · rfl

/-- Whether no escape of a low surrogate stands at the start of a text, and no broken escape. -/
def NoLow (text : Text) : Prop :=
  ∀ unit rest, escapedUnit? text = some (unit, rest) →
    ∃ value, unit = some value ∧ CodePoint.isLow value = false

/-- A unit that opens no pair is read by itself. -/
theorem escapedPoint?_unitEscape {unit : Nat} (bound : unit < 0x10000) {rest : Text}
    (more : rest ≠ []) (apart : CodePoint.isHigh unit = true → NoLow rest) :
    escapedPoint? (Text.ofChars (unitEscape unit) ++ rest) = some (.ok (.ofUnit unit, rest)) := by
  unfold escapedPoint?
  rw [escapedUnit?_unitEscape bound more]
  simp only
  split
  · rename_i found
    split
    · rename_i high
      obtain ⟨value, same, -⟩ := apart high none _ found
      cases same
    · rfl
  · rename_i low beyond found
    split
    · rename_i pair
      obtain ⟨high, closes⟩ := Bool.and_eq_true_iff.mp pair
      obtain ⟨value, same, other⟩ := apart high (some low) beyond found
      cases same
      cases closes.symm.trans other
    · rfl
  · rfl

/-- The units of a character beyond the first sixteen bits are read as a pair. -/
theorem escapedPoint?_pair {char : Char} (beyond : 0x10000 ≤ char.toNat) {rest : Text}
    (more : rest ≠ []) :
    escapedPoint? (Text.ofChars (pointEscape char.toNat) ++ rest) =
      some (.ok (.scalar char, rest)) := by
  have valid : char.toNat < 0x110000 := (CodePoint.scalar char).value_lt
  have whole : Text.ofChars (pointEscape char.toNat) ++ rest =
      Text.ofChars (unitEscape (0xD800 + (char.toNat - 0x10000) / 0x400)) ++
        (Text.ofChars (unitEscape (0xDC00 + (char.toNat - 0x10000) % 0x400)) ++ rest) := by
    rw [pointEscape, if_neg (Nat.not_lt.mpr beyond), Text.ofChars, List.map_append,
      List.append_assoc]
    rfl
  have high : CodePoint.isHigh (0xD800 + (char.toNat - 0x10000) / 0x400) = true := by
    simp only [CodePoint.isHigh, Bool.and_eq_true, decide_eq_true_eq]
    omega
  have low : CodePoint.isLow (0xDC00 + (char.toNat - 0x10000) % 0x400) = true := by
    simp only [CodePoint.isLow, Bool.and_eq_true, decide_eq_true_eq]
    omega
  have pair : CodePoint.ofPair (0xD800 + (char.toNat - 0x10000) / 0x400)
      (0xDC00 + (char.toNat - 0x10000) % 0x400) = .scalar char := by
    have value : 0x10000 + (0xD800 + (char.toNat - 0x10000) / 0x400 - 0xD800) * 0x400 +
        (0xDC00 + (char.toNat - 0x10000) % 0x400 - 0xDC00) = char.toNat := by omega
    rw [CodePoint.ofPair, value, Char.ofNat_toNat]
  unfold escapedPoint?
  rw [whole, escapedUnit?_unitEscape (by omega) (by simp [more])]
  simp only
  rw [escapedUnit?_unitEscape (by omega) more]
  simp only
  rw [high, low, pair]
  rfl

/-- A written point is read back in front of other text, if that does not make it a pair. -/
theorem readPoint_of_form {ascii : Bool} {point : CodePoint} {front : Text}
    (form : Form ascii point front) (opening : Nat) {rest : Text} (more : rest ≠ [])
    (apart : ascii = true → CodePoint.isHigh point.value = true → NoLow rest) :
    readPoint opening (front ++ rest) = .ok (some point, rest) := by
  cases form with
  | plain printable solid =>
    have marks : Text.ofString "\x22\\" = [.scalar '\x22', .scalar '\\'] := rfl
    simp only [marks, List.mem_cons, List.not_mem_nil, or_false, not_or] at solid
    have none : escapedUnit? (point :: rest) = none :=
      escapedUnit?_eq_none (by simpa using solid.2)
    rw [List.singleton_append]
    unfold readPoint escapedPoint?
    rw [none]
    simp only
    split
    · rename_i empty
      cases empty
    · rename_i quote
      exact absurd (List.cons.inj quote).1 solid.1
    · rename_i backslash
      exact absurd (List.cons.inj backslash).1 solid.2
    · rename_i backslash
      exact absurd (List.cons.inj backslash).1 solid.2
    · rename_i _ backslash
      exact absurd (List.cons.inj backslash).1 solid.2
    · rename_i same
      cases same
      rw [if_neg (Nat.not_lt.mpr printable)]
  | @short char letter escape =>
    unfold simpleEscape? at escape
    split at escape <;> cases escape <;> rename_i same <;> cases same <;> rfl
  | escaped special =>
    have read : escapedPoint? (Text.ofChars (pointEscape point.value) ++ rest) =
        some (.ok (point, rest)) := by
      by_cases bound : point.value < 0x10000
      · have one : pointEscape point.value = unitEscape point.value := if_pos bound
        have alone := escapedPoint?_unitEscape bound more fun high => by
          rcases special with low | ⟨ascii, -⟩
          · simp only [CodePoint.isHigh, Bool.and_eq_true, decide_eq_true_eq] at high
            omega
          · exact apart ascii high
        rw [one, alone, CodePoint.ofUnit_value]
      · cases point with
        | scalar char => exact escapedPoint?_pair (Nat.not_lt.mp bound) more
        | surrogate index =>
          have half := index.isLt
          exact absurd (show 0xD800 + index.val < 0x10000 by omega) bound
    unfold readPoint
    rw [read]

/-! ## Reading strings -/

/-- A string that is written in these ways, point by point. -/
inductive Forms (ascii : Bool) : Text → Text → Prop where
  /-- Nothing. -/
  | nil : Forms ascii [] []
  /-- A point in front of others. -/
  | cons {point : CodePoint} {text front behind : Text} (form : Form ascii point front)
      (others : Forms ascii text behind) : Forms ascii (point :: text) (front ++ behind)

/-- A string is written in these ways, also with backslashes in end tags. -/
theorem Shields.exists_forms {shield : Bool → Text → Text} (shields : Shields shield) (ascii : Bool)
    (text : Text) (opened : Bool) :
    ∃ safe, Forms ascii text safe ∧ ∀ rest,
      shield opened (text.flatMap (writePoint ascii) ++ .scalar '\x22' :: rest) =
        safe ++ .scalar '\x22' :: shield false rest := by
  induction text generalizing opened with
  | nil => exact ⟨[], .nil, fun rest => shields.kept (.inr (by decide)) rest⟩
  | cons point text tail =>
    obtain ⟨front, form, first⟩ := shields.exists_form (form_writePoint ascii point) opened
    obtain ⟨behind, others, second⟩ := tail (point == .scalar '<')
    refine ⟨_, .cons form others, fun rest => ?_⟩
    rw [List.flatMap_cons, List.append_assoc, first, second, List.append_assoc]

/-- A point that is not escaped starts no escape. -/
theorem noLow_of_none {text : Text} (none : escapedUnit? text = none) : NoLow text := by
  intro unit rest found
  cases none.symm.trans found

/-- A point that is no low surrogate is not written as one. -/
theorem noLow_of_form {ascii : Bool} {point : CodePoint} {front : Text}
    (form : Form ascii point front) (other : CodePoint.isLow point.value = false) {rest : Text}
    (more : rest ≠ []) : NoLow (front ++ rest) := by
  have unit {value : Nat} (bound : value < 0x10000) (other : CodePoint.isLow value = false)
      {rest : Text} (more : rest ≠ []) : NoLow (Text.ofChars (unitEscape value) ++ rest) := by
    intro unit behind found
    cases (escapedUnit?_unitEscape bound more).symm.trans found
    exact ⟨value, rfl, other⟩
  cases form with
  | plain printable solid =>
    refine noLow_of_none (escapedUnit?_eq_none ?_)
    rintro same
    cases same
    exact solid (by decide)
  | @short char letter escape =>
    refine noLow_of_none ?_
    unfold simpleEscape? at escape
    split at escape <;> cases escape <;> rename_i same <;> cases same <;> rfl
  | escaped special =>
    unfold pointEscape
    split
    · rename_i bound
      exact unit bound other more
    · have valid := point.value_lt
      have first : CodePoint.isLow (0xD800 + (point.value - 0x10000) / 0x400) = false := by
        simp only [CodePoint.isLow, Bool.and_eq_false_iff, decide_eq_false_iff_not]
        omega
      rw [Text.ofChars, List.map_append, List.append_assoc]
      exact unit (by omega) first (by simp [more])

/-- A written string is read back up to its quote, if it is not made of halves that are put
together. -/
theorem readString_of_forms {ascii : Bool} {text written : Text} (forms : Forms ascii text written)
    (joined : ascii = true → text.IsJoined) (opening : Nat) (read rest : Text) :
    readString opening read (written ++ .scalar '\x22' :: rest) =
      .ok (read.reverse ++ text, rest) := by
  induction forms generalizing read with
  | nil =>
    have close : readPoint opening (.scalar '\x22' :: rest) = .ok (none, rest) := rfl
    rw [List.nil_append, List.append_nil]
    unfold readString
    split <;> rename_i found <;> cases close.symm.trans found
    rfl
  | @cons point text front behind form others tail =>
    have apart (ascii_ : ascii = true) (high : CodePoint.isHigh point.value = true) :
        NoLow (behind ++ .scalar '\x22' :: rest) := by
      cases others with
      | nil => exact noLow_of_none rfl
      | cons second others =>
        rw [List.append_assoc]
        refine noLow_of_form second ?_ (by simp)
        have pair := joined ascii_ _ _ (List.prefix_append [_, _] _).isInfix
        simpa [high] using pair
    have first := readPoint_of_form form opening (by simp) apart
    have joined' (ascii_ : ascii = true) : text.IsJoined :=
      fun high low inside => joined ascii_ high low (inside.trans (List.suffix_cons _ _).isInfix)
    rw [List.append_assoc]
    unfold readString
    split <;> rename_i found <;> cases first.symm.trans found
    rw [tail joined', List.reverse_cons, List.append_assoc, List.singleton_append]

/-- **Strings.** A written string is read back, whether or not the slashes of end tags are escaped
and whether or not all but printable characters are; in the latter case halves of pairs must not
stand where they are put together. -/
theorem Shields.readString_written {shield : Bool → Text → Text} (shields : Shields shield)
    {ascii : Bool} {text : Text} (joined : ascii = true → text.IsJoined) (opening : Nat)
    (rest : Text) :
    readString opening []
        (shield false (text.flatMap (writePoint ascii) ++ .scalar '\x22' :: rest)) =
      .ok (text, shield false rest) := by
  obtain ⟨safe, forms, same⟩ := shields.exists_forms ascii text false
  rw [same, readString_of_forms forms joined]
  rfl

/-! ## Halves that stay apart -/

/-- An escape is in front of what is behind it. -/
theorem suffix_of_escapedUnit? {text rest : Text} {unit : Option Nat}
    (found : escapedUnit? text = some (unit, rest)) : rest <:+ text := by
  unfold escapedUnit? at found
  split at found
  · cases found
    exact ⟨_ :: _ :: _ :: _ :: _ :: [_], rfl⟩
  · cases found

/-- An escaped point is a unit that makes no pair with what is behind it, or a character. -/
theorem cases_of_escapedPoint? {text rest : Text} {point : CodePoint}
    (found : escapedPoint? text = some (.ok (point, rest))) :
    rest <:+ text ∧ ((∃ char, point = .scalar char) ∨
      ∃ unit, escapedUnit? text = some (some unit, rest) ∧ point = .ofUnit unit ∧
        (CodePoint.isHigh unit = true → ∀ low beyond, escapedUnit? rest = some (some low, beyond) →
          CodePoint.isLow low = false)) := by
  unfold escapedPoint? at found
  split at found
  · cases found
  · rename_i unit behind first
    have suffix := suffix_of_escapedUnit? first
    split at found
    · split at found <;> cases found
      rename_i single _
      exact ⟨suffix, .inr ⟨unit, first, rfl, fun high => absurd high single⟩⟩
    · rename_i low beyond second
      split at found <;> cases found
      · exact ⟨(suffix_of_escapedUnit? second).trans suffix, .inl ⟨_, rfl⟩⟩
      · rename_i single
        refine ⟨suffix, .inr ⟨unit, first, rfl, fun high other _ same => ?_⟩⟩
        cases second.symm.trans same
        simpa [high] using single
    · rename_i none
      cases found
      refine ⟨suffix, .inr ⟨unit, first, rfl, fun _ low beyond same => ?_⟩⟩
      cases none.symm.trans same
  · cases found

/-- A point of a string of characters is a character, or a unit that makes no pair with what is
behind it. -/
theorem cases_of_readPoint {opening : Nat} {text rest : Text} {point : CodePoint}
    (found : readPoint opening text = .ok (some point, rest)) (encodable : text.Encodable) :
    rest <:+ text ∧ ((∃ char, point = .scalar char) ∨
      ∃ unit, escapedUnit? text = some (some unit, rest) ∧ point = .ofUnit unit ∧
        (CodePoint.isHigh unit = true → ∀ low beyond, escapedUnit? rest = some (some low, beyond) →
          CodePoint.isLow low = false)) := by
  unfold readPoint at found
  split at found
  · cases found
  · rename_i escaped
    cases found
    exact cases_of_escapedPoint? escaped
  · split at found
    · cases found
    · cases found
    · cases found
    · cases found
    · split at found <;> cases found
      exact ⟨⟨[_, _], rfl⟩, .inl ⟨_, rfl⟩⟩
    · split at found <;> cases found
      refine ⟨List.suffix_cons _ _, .inl ?_⟩
      have scalar := encodable point List.mem_cons_self
      cases point with
      | scalar char => exact ⟨char, rfl⟩
      | surrogate index => cases scalar

/-- A string ends at its quote. -/
theorem eq_of_readPoint_none {opening : Nat} {text rest : Text}
    (close : readPoint opening text = .ok (none, rest)) : text = .scalar '\x22' :: rest := by
  unfold readPoint at close
  split at close
  · cases close
  · cases close
  · split at close
    · cases close
    · cases close
      rfl
    · cases close
    · cases close
    · split at close <;> cases close
    · split at close <;> cases close

/-- A string that is read from characters is joined; where it starts with a low surrogate, the text
starts with its escape. -/
theorem exists_joined_of_readString {opening : Nat} {read text string rest : Text}
    (found : readString opening read text = .ok (string, rest)) (encodable : text.Encodable) :
    rest <:+ text ∧ ∃ behind : Text, string = read.reverse ++ behind ∧ behind.IsJoined ∧
      ∀ low more, behind = low :: more → CodePoint.isLow low.value = true →
        ∃ unit beyond, escapedUnit? text = some (some unit, beyond) ∧
          CodePoint.isLow unit = true := by
  fun_induction readString opening read text with
  | case1 read text fault failed => cases found
  | case2 read text behind close =>
    cases found
    cases eq_of_readPoint_none close
    refine ⟨List.suffix_cons _ _, [], (List.append_nil _).symm, fun high low inside => ?_, by simp⟩
    cases List.infix_nil.mp inside
  | case3 read text point after next shorter tail =>
    obtain ⟨suffix, origin⟩ := cases_of_readPoint next encodable
    obtain ⟨suffix', behind, rfl, joined, starts⟩ :=
      tail found fun other member => encodable other (suffix.subset member)
    refine ⟨suffix'.trans suffix, point :: behind, by simp, fun high low inside => ?_, ?_⟩
    · rcases List.infix_cons_iff.mp inside with first | within
      · obtain ⟨rfl, more, rfl⟩ := List.cons_prefix_cons.mp first
        rintro ⟨opens, closes⟩
        rcases origin with ⟨char, rfl⟩ | ⟨unit, -, rfl, single⟩
        · exact CodePoint.not_half char (CodePoint.half_of_isHigh opens)
        · rw [CodePoint.value_ofUnit (CodePoint.half_of_isHigh opens)] at opens
          obtain ⟨other, beyond, second, low'⟩ := starts low more rfl closes
          cases low'.symm.trans (single opens other beyond second)
      · exact joined high low within
    · rintro low more same closes
      cases same
      rcases origin with ⟨char, rfl⟩ | ⟨unit, escaped, rfl, -⟩
      · exact absurd (CodePoint.half_of_isLow closes) (CodePoint.not_half char)
      · rw [CodePoint.value_ofUnit (CodePoint.half_of_isLow closes)] at closes
        exact ⟨unit, after, escaped, closes⟩

/-- A string that is read from characters is joined. -/
theorem isJoined_of_readString {opening : Nat} {text string rest : Text}
    (found : readString opening [] text = .ok (string, rest)) (encodable : text.Encodable) :
    string.IsJoined ∧ rest <:+ text := by
  obtain ⟨suffix, behind, rfl, joined, -⟩ := exists_joined_of_readString found encodable
  exact ⟨joined, suffix⟩

end Json
end SiteBuild
