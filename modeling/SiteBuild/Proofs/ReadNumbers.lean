import Mathlib.Algebra.Group.Nat.Defs
import SiteBuild.Proofs.DataReader
import SiteBuild.Proofs.WrittenData

/-!
# Numbers and words that are read

A number goes on up to the first point that is none of its own, so that what stands behind a value
in brackets does not change how the value is read (`readNumber?_append`). What words and numbers are
read as are atoms: integers of not too many digits, finite numbers, infinities, and one NaN
(`isAtom_of_readAtom`). Main statement: atoms are read back from what they are written as, finite
numbers with a fraction or an exponent if their shortest digits are (`readAtom_writeAt`).
-/
namespace SiteBuild.Json

/-! ## What is behind a number -/

/-- The points that stand behind a value in brackets. -/
def closers : Text := ",]\x7d"

/-- Whether a text starts with a point that stands behind a value, or is empty. -/
def Closes (rest : Text) : Prop := ∀ point, rest.head? = some point → point ∈ closers

/-- A text that is not empty and stands behind a value starts with one of three points. -/
theorem Closes.cases {point : CodePoint} {rest : Text} (closes : Closes (point :: rest)) :
    point = .scalar ',' ∨ point = .scalar ']' ∨ point = .scalar '\x7d' := by
  have marks : closers = [.scalar ',', .scalar ']', .scalar '\x7d'] := rfl
  simpa [marks] using closes point rfl

/-- A run of digits ends where a value does. -/
theorem digits_append {rest : Text} (closes : Closes rest) (text : Text) :
    (text ++ rest).takeWhile CodePoint.isDigit = text.takeWhile CodePoint.isDigit ∧
      (text ++ rest).dropWhile CodePoint.isDigit = text.dropWhile CodePoint.isDigit ++ rest := by
  induction text with
  | nil =>
    cases rest with
    | nil => exact ⟨rfl, rfl⟩
    | cons point rest => rcases closes.cases with rfl | rfl | rfl <;> exact ⟨rfl, rfl⟩
  | cons point text tail =>
    rw [List.cons_append, List.takeWhile_cons, List.dropWhile_cons, List.takeWhile_cons,
      List.dropWhile_cons]
    split
    · exact ⟨by rw [tail.1], tail.2⟩
    · exact ⟨rfl, rfl⟩

/-- What was read, with another text behind the rest. -/
def extended {α : Type} (rest : Text) (read : α × Text) : α × Text := (read.1, read.2 ++ rest)

theorem wholePart?_append {rest : Text} (closes : Closes rest) (text : Text) :
    wholePart? (text ++ rest) = (wholePart? text).map (extended rest) := by
  cases text with
  | nil =>
    cases rest with
    | nil => rfl
    | cons point rest => rcases closes.cases with rfl | rfl | rfl <;> rfl
  | cons point text =>
    by_cases zero : point = .scalar '0'
    · rw [zero]
      rfl
    · obtain ⟨run, behind⟩ := digits_append closes text
      have other : ∀ rest, point :: rest = .scalar '0' :: rest → False := by
        rintro rest same
        exact zero (List.cons.inj same).1
      rw [List.cons_append, wholePart?, wholePart?, run, behind]
      · split <;> rfl
      · simpa using zero
      · simpa using zero

theorem fractionPart_append {rest : Text} (closes : Closes rest) (text : Text) :
    fractionPart (text ++ rest) = extended rest (fractionPart text) := by
  match text with
  | [] =>
    cases rest with
    | nil => rfl
    | cons point rest => rcases closes.cases with rfl | rfl | rfl <;> rfl
  | [first] =>
    by_cases dot : first = .scalar '.'
    · subst dot
      cases rest with
      | nil => rfl
      | cons point rest => rcases closes.cases with rfl | rfl | rfl <;> rfl
    · simp [fractionPart, dot, extended]
  | first :: second :: text =>
    by_cases dot : first = .scalar '.'
    · obtain ⟨run, behind⟩ := digits_append closes text
      subst dot
      rw [List.cons_append, List.cons_append, fractionPart, fractionPart, run, behind]
      split <;> rfl
    · simp [fractionPart, dot, extended]

theorem exponentDigits?_append {rest : Text} (closes : Closes rest) (negative : Bool)
    (text : Text) :
    exponentDigits? negative (text ++ rest) =
      (exponentDigits? negative text).map (extended rest) := by
  obtain ⟨run, behind⟩ := digits_append closes text
  unfold exponentDigits?
  rw [run, behind]
  split <;> rfl

/-- The part of an exponent behind its letter. -/
theorem signedExponent_append {rest : Text} (closes : Closes rest) (text : Text) :
    exponentPart? (.scalar 'e' :: (text ++ rest)) =
      (exponentPart? (.scalar 'e' :: text)).map (extended rest) := by
  have digits (negative : Bool) := exponentDigits?_append closes negative
  cases text with
  | nil =>
    cases rest with
    | nil => rfl
    | cons point rest => rcases closes.cases with rfl | rfl | rfl <;> rfl
  | cons sign text =>
    by_cases minus : sign = .scalar '-'
    · rw [minus]
      exact digits true text
    by_cases plus : sign = .scalar '+'
    · rw [plus]
      exact digits false text
    · have whole := digits false (sign :: text)
      simpa [exponentPart?, minus, plus] using whole

theorem exponentPart?_append {rest : Text} (closes : Closes rest) (text : Text) :
    exponentPart? (text ++ rest) = (exponentPart? text).map (extended rest) := by
  cases text with
  | nil =>
    cases rest with
    | nil => rfl
    | cons point rest => rcases closes.cases with rfl | rfl | rfl <;> rfl
  | cons letter text =>
    by_cases small : letter = .scalar 'e'
    · rw [small]
      exact signedExponent_append closes text
    by_cases capital : letter = .scalar 'E'
    · rw [capital]
      exact signedExponent_append closes text
    · simp [exponentPart?, small, capital]

theorem readMagnitude?_append {rest : Text} (closes : Closes rest) (negative : Bool) (text : Text) :
    readMagnitude? negative (text ++ rest) =
      (readMagnitude? negative text).map (extended rest) := by
  unfold readMagnitude?
  rw [wholePart?_append closes]
  cases wholePart? text with
  | none => rfl
  | some found =>
    obtain ⟨whole, afterWhole⟩ := found
    simp only [Option.map_some, extended, Option.bind_eq_bind, Option.bind_some]
    rw [fractionPart_append closes]
    obtain ⟨fraction, afterFraction⟩ := fractionPart afterWhole
    simp only [extended]
    rw [exponentPart?_append closes]
    cases fraction <;> cases exponentPart? afterFraction <;>
      simp only [Option.map_none, Option.map_some, Option.getD_none, Option.getD_some, extended]
    split <;> rfl

/-- What is behind a number does not matter. -/
theorem readNumber?_append {rest : Text} (closes : Closes rest) (text : Text) :
    readNumber? (text ++ rest) = (readNumber? text).map (extended rest) := by
  cases text with
  | nil =>
    cases rest with
    | nil => rfl
    | cons point rest => rcases closes.cases with rfl | rfl | rfl <;> rfl
  | cons sign text =>
    by_cases minus : sign = .scalar '-'
    · rw [minus]
      exact readMagnitude?_append closes true text
    · have whole := readMagnitude?_append closes false (sign :: text)
      simpa [readNumber?, minus] using whole

/-! ## Atoms -/

/-- A number starts with a digit, or a minus sign and a digit. -/
theorem head_of_readMagnitude? {negative : Bool} {text : Text}
    {read : Except Problem Json × Text} (found : readMagnitude? negative text = some read) :
    ∃ digit rest, text = digit :: rest ∧ CodePoint.isDigit digit = true := by
  unfold readMagnitude? at found
  cases part : wholePart? text with
  | none =>
    rw [part] at found
    cases found
  | some whole =>
    unfold wholePart? at part
    split at part
    · exact ⟨_, _, rfl, rfl⟩
    · split at part
      · rename_i digit
        exact ⟨_, _, rfl, digit⟩
      · cases part
    · cases part

/-- A text that starts with a number starts with no word that stands for a value. -/
theorem readWord?_of_readNumber? {text : Text} {read : Except Problem Json × Text}
    (found : readNumber? text = some read) : readWord? text = none := by
  refine List.findSome?_eq_none_iff.mpr fun word member => if_neg fun starts => ?_
  obtain ⟨more, same⟩ := List.isPrefixOf_iff_prefix.mp starts
  simp only [wordValues, List.mem_cons, List.not_mem_nil, or_false] at member
  unfold readNumber? at found
  split at found
  · obtain ⟨digit, rest, rfl, decimal⟩ := head_of_readMagnitude? found
    rcases member with rfl | rfl | rfl | rfl | rfl | rfl <;> cases same
    cases decimal
  · obtain ⟨digit, rest, rfl, decimal⟩ := head_of_readMagnitude? found
    rcases member with rfl | rfl | rfl | rfl | rfl | rfl <;> cases same <;> cases decimal

/-- A number behind which a value ends is read as an atom. -/
theorem readAtom_number {text rest : Text} {value : Json}
    (found : readNumber? text = some (.ok value, [])) (closes : Closes rest) :
    readAtom (text ++ rest) = .ok (value, rest) := by
  have whole : readNumber? (text ++ rest) = some (.ok value, rest) := by
    rw [readNumber?_append closes, found]
    rfl
  rw [readAtom, readWord?_of_readNumber? whole, whole]

/-! ## What numbers are read as -/

/-- A decimal digit is at most nine. -/
theorem digitValue_le {digit : CodePoint} (decimal : CodePoint.isDigit digit = true) :
    digit.digitValue ≤ 9 := by
  cases digit with
  | surrogate index => cases decimal
  | scalar char =>
    obtain ⟨-, high⟩ := Char.isDigit_iff_toNat.mp decimal
    exact Nat.sub_le_of_le_add high

/-- Digits write a number of no more digits, whatever number is in front of them. -/
theorem foldl_digits_lt {digits : Text} (decimal : ∀ digit ∈ digits, CodePoint.isDigit digit = true)
    (value : Nat) :
    digits.foldl (fun value digit => value * 10 + digit.digitValue) value <
      (value + 1) * 10 ^ digits.length := by
  induction digits generalizing value with
  | nil => simp
  | cons digit digits tail =>
    obtain ⟨here, others⟩ := List.forall_mem_cons.mp decimal
    have small := digitValue_le here
    calc digits.foldl _ (value * 10 + digit.digitValue)
        < (value * 10 + digit.digitValue + 1) * 10 ^ digits.length := tail others _
      _ ≤ ((value + 1) * 10) * 10 ^ digits.length := Nat.mul_le_mul_right _ (by omega)
      _ = (value + 1) * 10 ^ (digit :: digits).length := by
        rw [List.length_cons, Nat.pow_succ', Nat.mul_assoc]

/-- Digits write a number of no more digits. -/
theorem digitsValue_lt {digits : Text}
    (decimal : ∀ digit ∈ digits, CodePoint.isDigit digit = true) :
    Text.digitsValue digits < 10 ^ digits.length := by
  have bound := foldl_digits_lt decimal 0
  rwa [Nat.zero_add, Nat.one_mul] at bound

/-- A whole part is digits in front of the text behind it. -/
theorem digits_of_wholePart? {text whole rest : Text}
    (found : wholePart? text = some (whole, rest)) :
    (∀ digit ∈ whole, CodePoint.isDigit digit = true) ∧ rest <:+ text := by
  unfold wholePart? at found
  split at found
  · cases found
    exact ⟨by decide, List.suffix_cons _ _⟩
  · split at found
    · rename_i digit
      cases found
      refine ⟨List.forall_mem_cons.mpr ⟨digit, fun point member => ?_⟩,
        (List.dropWhile_suffix _).trans (List.suffix_cons _ _)⟩
      exact List.all_eq_true.mp List.all_takeWhile point member
    · cases found
  · cases found

/-- Behind a fraction is what stood behind it. -/
theorem suffix_of_fractionPart {text rest : Text} {fraction : Option Text}
    (found : fractionPart text = (fraction, rest)) : rest <:+ text := by
  unfold fractionPart at found
  split at found
  · split at found <;> cases found
    · exact ((List.dropWhile_suffix _).trans (List.suffix_cons _ _)).trans (List.suffix_cons _ _)
    · exact List.suffix_rfl
  · cases found
    exact List.suffix_rfl

/-- Behind an exponent is what stood behind it. -/
theorem suffix_of_exponentPart? {text rest : Text} {power : Int}
    (found : exponentPart? text = some (power, rest)) : rest <:+ text := by
  have digits {negative : Bool} {text : Text}
      (found : exponentDigits? negative text = some (power, rest)) : rest <:+ text := by
    unfold exponentDigits? at found
    split at found <;> cases found
    exact List.dropWhile_suffix _
  have sign {letter : CodePoint} {text : Text} (behind : rest <:+ text) : rest <:+ letter :: text :=
    behind.trans (List.suffix_cons _ _)
  unfold exponentPart? at found
  split at found
  · split at found
    · exact sign (sign (digits found))
    · exact sign (sign (digits found))
    · exact sign (digits found)
  · split at found
    · exact sign (sign (digits found))
    · exact sign (sign (digits found))
    · exact sign (digits found)
  · cases found

/-- Whether a value is one that words and numbers are read as: integers of not too many digits,
finite numbers, infinities, and one NaN. -/
def IsAtom : Json → Prop
  | .null | .bool _ => True
  | .int value => value.natAbs < 10 ^ integerDigits
  | .real value =>
    value.isFinite = true ∨ value ∈ [Binary64.nan, .infinity false, .infinity true]
  | .str _ | .arr _ | .obj _ => False

/-- A magnitude keeps its bits beside the sign. -/
theorem magnitudeBits_ofMagnitude (negative : Bool) {magnitude : Nat}
    (bound : magnitude < Nat.pow 2 63) :
    (Binary64.ofMagnitude negative magnitude).magnitudeBits = magnitude := by
  have power : Nat.pow 2 63 = 9223372036854775808 := rfl
  rw [power] at bound
  cases negative <;>
    simp only [Binary64.magnitudeBits, Binary64.ofMagnitude, UInt64.toNat_ofNat', power] <;>
    simp <;> omega

/-- A magnitude up to that of an infinity is finite, or that of an infinity. -/
theorem ofMagnitude_cases (negative : Bool) {magnitude : Nat}
    (bound : magnitude ≤ 2047 * Nat.pow 2 52) :
    (Binary64.ofMagnitude negative magnitude).isFinite = true ∨
      Binary64.ofMagnitude negative magnitude = .infinity negative := by
  rcases Nat.lt_or_eq_of_le bound with below | same
  · left
    have bits := magnitudeBits_ofMagnitude negative (Nat.lt_trans below (by decide))
    have exponent : magnitude / Nat.pow 2 52 < 2047 :=
      Nat.div_lt_of_lt_mul (by rwa [Nat.mul_comm] at below)
    rw [Binary64.isFinite, Binary64.exponentBits, bits, bne_iff_ne]
    exact Nat.ne_of_lt exponent
  · right
    rw [same]
    rfl

/-- A decimal is read as a finite number or an infinity. -/
theorem ofDecimal_cases (negative : Bool) (mantissa : Nat) (exponent : Int) :
    (Binary64.ofDecimal negative mantissa exponent).isFinite = true ∨
      Binary64.ofDecimal negative mantissa exponent = .infinity negative := by
  unfold Binary64.ofDecimal
  simp only
  split
  · exact ofMagnitude_cases negative (Nat.zero_le _)
  split
  · exact .inr rfl
  · exact ofMagnitude_cases negative (Nat.min_le_right _ _)

/-- A number is read as an atom, and what stood behind it is behind it. -/
theorem isAtom_of_readMagnitude? {negative : Bool} {text rest : Text} {value : Json}
    (found : readMagnitude? negative text = some (.ok value, rest)) :
    IsAtom value ∧ rest <:+ text := by
  unfold readMagnitude? at found
  cases part : wholePart? text with
  | none =>
    rw [part] at found
    cases found
  | some read =>
    obtain ⟨whole, afterWhole⟩ := read
    obtain ⟨decimal, behindWhole⟩ := digits_of_wholePart? part
    rw [part] at found
    simp only [Option.bind_eq_bind, Option.bind_some] at found
    cases fractional : fractionPart afterWhole with
    | mk fraction afterFraction =>
    have behindFraction := suffix_of_fractionPart fractional
    rw [fractional] at found
    split at found
    · split at found
      · cases found
      · rename_i few
        cases found
        refine ⟨?_, behindWhole⟩
        have bound : Text.digitsValue whole < 10 ^ integerDigits :=
          Nat.lt_of_lt_of_le (digitsValue_lt decimal)
            (Nat.pow_le_pow_right (by decide) (Nat.not_lt.mp few))
        cases negative <;> simpa [IsAtom] using bound
    · cases found
      refine ⟨?_, ?_⟩
      · refine (ofDecimal_cases negative _ _).imp_right fun same => ?_
        rw [same]
        cases negative <;> simp
      · cases powered : exponentPart? afterFraction with
        | none => exact behindFraction.trans behindWhole
        | some read =>
          exact ((suffix_of_exponentPart? powered).trans behindFraction).trans behindWhole

/-- A word or a number is read as an atom, and what stood behind it is behind it. -/
theorem isAtom_of_readAtom {text rest : Text} {value : Json}
    (found : readAtom text = .ok (value, rest)) : IsAtom value ∧ rest <:+ text := by
  unfold readAtom at found
  split at found
  · rename_i word
    cases found
    obtain ⟨known, member, same⟩ := List.exists_of_findSome?_eq_some word
    split at same
    · cases same
      refine ⟨?_, List.drop_suffix _ _⟩
      simp only [wordValues, List.mem_cons, List.not_mem_nil, or_false] at member
      rcases member with rfl | rfl | rfl | rfl | rfl | rfl <;> simp [IsAtom]
    · cases same
  · split at found
    · rename_i number
      cases found
      unfold readNumber? at number
      split at number
      · exact (isAtom_of_readMagnitude? number).imp_right (·.trans (List.suffix_cons _ _))
      · exact isAtom_of_readMagnitude? number
    · cases found
    · cases found

/-- The points that no value starts with: space, what stands behind values, a byte order mark. -/
def outside : Text := " \t\n\r,]\x7d\ufeff"

/-- A word or a number starts with a point that values start with. -/
theorem exists_head_of_readAtom {text rest : Text} {value : Json}
    (found : readAtom text = .ok (value, rest)) :
    ∃ first more, text = first :: more ∧ first ∉ outside := by
  have digits {negative : Bool} {text : Text} {read : Except Problem Json × Text}
      (found : readMagnitude? negative text = some read) :
      ∃ first more, text = first :: more ∧ first ∉ outside := by
    have each : ∀ point ∈ outside, CodePoint.isDigit point = false := by decide
    obtain ⟨digit, more, rfl, decimal⟩ := head_of_readMagnitude? found
    exact ⟨digit, more, rfl, fun member => by cases decimal.symm.trans (each digit member)⟩
  unfold readAtom at found
  split at found
  · rename_i word
    obtain ⟨known, member, same⟩ := List.exists_of_findSome?_eq_some word
    split at same
    · rename_i starts
      obtain ⟨more, rfl⟩ := List.isPrefixOf_iff_prefix.mp starts
      simp only [wordValues, List.mem_cons, List.not_mem_nil, or_false] at member
      rcases member with rfl | rfl | rfl | rfl | rfl | rfl <;> exact ⟨_, _, rfl, by decide⟩
    · cases same
  · split at found
    · rename_i number
      unfold readNumber? at number
      split at number
      · exact ⟨_, _, rfl, by decide⟩
      · exact digits number
    · cases found
    · cases found

/-! ## Integers -/

/-- Only zero is written with a zero in front. -/
theorem eq_zero_of_head_toDigits (number : Nat) :
    (Nat.toDigits 10 number).head? = some '0' → number = 0 := by
  induction number using Nat.strongRecOn with
  | ind number tail =>
    intro zero
    by_cases small : number < 10
    · have each : ∀ digit < 10, digit.digitChar = '0' → digit = 0 := by decide
      rw [Nat.toDigits_of_lt_base small] at zero
      exact each number small (Option.some.inj zero)
    · obtain ⟨first, more, same⟩ :=
        List.exists_cons_of_ne_nil (Nat.toDigits_ne_nil : Nat.toDigits 10 (number / 10) ≠ [])
      rw [Nat.toDigits_of_base_le (by decide) (Nat.not_lt.mp small), same] at zero
      have none := tail (number / 10) (by omega) (by rw [same]; exact zero)
      omega

/-- The digits of a natural number are a whole part. -/
theorem wholePart?_toDigits (number : Nat) :
    wholePart? (Text.ofChars (Nat.toDigits 10 number)) =
      some (Text.ofChars (Nat.toDigits 10 number), []) := by
  have decimal : ∀ point ∈ Text.ofChars (Nat.toDigits 10 number),
      CodePoint.isDigit point = true := by
    intro point member
    obtain ⟨char, known, rfl⟩ := List.mem_map.mp member
    exact Nat.isDigit_of_mem_toDigits (by decide) (by decide) known
  cases digits : Nat.toDigits 10 number with
  | nil => exact absurd digits Nat.toDigits_ne_nil
  | cons first rest =>
    by_cases zero : first = '0'
    · subst zero
      have none := eq_zero_of_head_toDigits number (by rw [digits]; rfl)
      subst none
      cases digits
      rfl
    · rw [digits] at decimal
      obtain ⟨here, others⟩ := List.forall_mem_cons.mp decimal
      change wholePart? (.scalar first :: Text.ofChars rest) = _
      have run := @List.takeWhile_append_of_pos _ _ (Text.ofChars rest) [] others
      have behind := @List.dropWhile_append_of_pos _ _ (Text.ofChars rest) [] others
      rw [List.append_nil, List.takeWhile_nil, List.append_nil] at run
      rw [List.append_nil, List.dropWhile_nil] at behind
      rw [wholePart?, if_pos here, run, behind]
      · rfl
      · simpa using zero

/-- The digits of a natural number write it. -/
theorem digitsValue_toDigits (number : Nat) :
    Text.digitsValue (Text.ofChars (Nat.toDigits 10 number)) = number := by
  have step (value : Nat) (char : Char) :
      value * 10 + (CodePoint.scalar char).digitValue = 10 * value + (char.toNat - '0'.toNat) := by
    rw [Nat.mul_comm]
    rfl
  calc Text.digitsValue (Text.ofChars (Nat.toDigits 10 number))
      = Nat.ofDigitChars 10 (Nat.toDigits 10 number) 0 := by
        simp only [Text.digitsValue, Text.ofChars, List.foldl_map, step, Nat.ofDigitChars]
    _ = number := Nat.ofDigitChars_ten_toDigits

/-- The digits of a natural number, if they are not too many, are read as an integer. -/
theorem readMagnitude?_toDigits (negative : Bool) {number : Nat}
    (bound : number < 10 ^ integerDigits) :
    readMagnitude? negative (Text.ofChars (Nat.toDigits 10 number)) =
      some (.ok (.int (if negative then -(number : Int) else number)), []) := by
  have few : (Text.ofChars (Nat.toDigits 10 number)).length ≤ integerDigits := by
    rw [Text.ofChars, List.length_map]
    exact (Nat.length_toDigits_le_iff (by decide) (by decide)).mpr bound
  rw [readMagnitude?, wholePart?_toDigits]
  change (if _ then _ else _) = _
  rw [if_neg (Nat.not_lt.mpr few), digitsValue_toDigits]

/-- An integer of not too many digits is read back. -/
theorem readNumber?_ofInt {value : Int} (bound : value.natAbs < 10 ^ integerDigits) :
    readNumber? (Text.ofInt value) = some (.ok (.int value), []) := by
  have written (number : Nat) :
      Text.ofString number.repr = Text.ofChars (Nat.toDigits 10 number) := by
    rw [Nat.repr, Text.ofString, String.toList_ofList]
  cases value with
  | ofNat number =>
    have read := @readMagnitude?_toDigits false number bound
    obtain ⟨digit, rest, same, decimal⟩ := head_of_readMagnitude? read
    change readNumber? (Text.ofString number.repr) = _
    rw [written]
    unfold readNumber?
    split
    · rename_i minus
      rw [same] at minus
      cases minus
      cases decimal
    · exact read
  | negSucc number =>
    have signed : Text.ofInt (.negSucc number) =
        .scalar '-' :: Text.ofString (number + 1).repr := by
      change Text.ofString ("-" ++ (number + 1).repr) = _
      rw [Text.ofString, String.toList_append]
      rfl
    rw [signed, written]
    exact readMagnitude?_toDigits true bound

/-! ## Atoms that are read back -/

/-- Whether a number is what its shortest digits are read as. -/
def ReadsBack (number : Binary64) : Prop :=
  read (Text.ofString (Number.shortestText Number.jsonLayout number)) = .ok (.real number)

/-- A text without space starts at its first point. -/
theorem skipSpace_of_noSpace {text : Text} (solid : ∀ point ∈ text, isSpace point = false) :
    skipSpace text = text := by
  cases text with
  | nil => rfl
  | cons point text => exact List.dropWhile_cons_of_neg (by simp [solid])

/-- Numbers are written without space. -/
theorem isSpace_of_isNumeral {string : String} (numeral : IsNumeral string) :
    ∀ point ∈ Text.ofString string, isSpace point = false := by
  have each : ∀ point ∈ numeralPoints, isSpace point = false := by decide
  exact fun point member => each point (numeral point member)

/-- A finite number that is read back is the number that stands in its digits. -/
theorem readNumber?_of_readsBack {number : Binary64} (finite : number.isFinite = true)
    (back : ReadsBack number) :
    readNumber? (Text.ofString (Number.shortestText Number.jsonLayout number)) =
      some (.ok (.real number), []) := by
  have solid := isSpace_of_isNumeral (isNumeral_shortestText number)
  obtain ⟨-, rest, reads, empty⟩ := readNested_eq_ok_iff.mp back
  rw [skipSpace_of_noSpace solid] at reads
  generalize Text.ofString (Number.shortestText Number.jsonLayout number) = text at solid reads ⊢
  cases reads with
  | atom found shorter bare =>
    obtain ⟨-, behind⟩ := isAtom_of_readAtom found
    rw [skipSpace_of_noSpace fun point member => solid point (behind.subset member)] at empty
    subst empty
    unfold readAtom at found
    split at found
    · rename_i word
      cases found
      obtain ⟨known, member, same⟩ := List.exists_of_findSome?_eq_some word
      split at same
      · obtain ⟨value, -⟩ := Prod.mk.inj (Option.some.inj same)
        simp only [wordValues, List.mem_cons, List.not_mem_nil, or_false] at member
        rcases member with rfl | rfl | rfl | rfl | rfl | rfl <;> cases value <;> cases finite
      · cases same
    · split at found
      · rename_i read
        cases found
        exact read
      · cases found
      · cases found

/-- An atom is read back in front of a point that stands behind a value, its number if it is finite
being read back by itself. -/
theorem readAtom_writeAt {style : Style} {level : Nat} {value : Json} (atom : IsAtom value)
    (back : ∀ number, value = .real number → number.isFinite = true → ReadsBack number)
    {rest : Text} (closes : Closes rest) :
    readAtom (writeAt style level value ++ rest) = .ok (value, rest) := by
  cases value with
  | null => rfl
  | bool value => cases value <;> rfl
  | int value => exact readAtom_number (readNumber?_ofInt atom) closes
  | real number =>
    by_cases finite : number.isFinite = true
    · rw [writeAt]
      exact readAtom_number (readNumber?_of_readsBack finite (back number rfl finite)) closes
    · have known := atom.resolve_left finite
      simp only [List.mem_cons, List.not_mem_nil, or_false] at known
      rcases known with rfl | rfl | rfl <;> rfl
  | str | arr | obj => cases atom

end SiteBuild.Json
