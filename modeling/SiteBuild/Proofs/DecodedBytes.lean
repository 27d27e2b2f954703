import Mathlib.Data.List.Basic
import SiteBuild.Proofs.PercentEscapes

/-!
# Bytes that are decoded

A character is only read from the bytes that write it: no two forms of bytes stand for one
character, and no form stands for a surrogate. So bytes are decoded to a text exactly if they are
the bytes of the text (`decode?_eq_some_iff`).
-/
namespace SiteBuild.Text

/-- Bytes that go on a form, as many as belong to it, are the next ones. -/
theorem goesOn_continuation {count low high : Nat} {rest : List UInt8}
    (full : (continuation count low high rest).length = count) :
    GoesOn low high (continuation count low high rest) ∧
      rest.take count = (continuation count low high rest).map UInt8.ofNat := by
  induction count generalizing low high rest with
  | zero => exact ⟨by simp [continuation, GoesOn], by simp [continuation]⟩
  | succ count tail =>
    cases rest with
    | nil => simp [continuation] at full
    | cons byte rest =>
      rw [continuation] at full ⊢
      split at full
      · rename_i inside
        obtain ⟨goes, next⟩ := tail (Nat.succ.inj full)
        have bound : byte.toNat < 256 := byte.toNat_lt
        rw [if_pos inside]
        exact ⟨⟨inside.1, inside.2, bound, goes⟩, by simp [next]⟩
      · cases full

/-- The forms of several bytes, by their first byte. -/
theorem leadByte?_eq_some {first count low high : Nat}
    (lead : leadByte? first = some (count, low, high)) :
    0x80 ≤ low ∧ high ≤ 0xBF ∧
      (count = 1 ∧ (0xC2 ≤ first ∧ first ≤ 0xDF) ∨
        count = 2 ∧ (0xE0 ≤ first ∧ first ≤ 0xEF) ∧ (first = 0xE0 → 0xA0 ≤ low) ∧
          (first = 0xED → high ≤ 0x9F) ∨
        count = 3 ∧ (0xF0 ≤ first ∧ first ≤ 0xF4) ∧ (first = 0xF0 → 0x90 ≤ low) ∧
          (first = 0xF4 → high ≤ 0x8F)) := by
  unfold leadByte? at lead
  split_ifs at lead <;> simp only [Option.some.injEq, Prod.mk.injEq] at lead <;> omega

/-- The number of a character that is made of its number. -/
theorem toNat_ofNat_of_isValidChar {number : Nat} (valid : number.isValidChar) :
    (Char.ofNat number).toNat = number := by
  rw [Char.ofNat, dif_pos valid]
  rfl

/-- A character that two bytes write. -/
theorem utf8EncodeChar_two {char : Char} {first second : Nat}
    (lead : 0xC2 ≤ first ∧ first ≤ 0xDF) (next : 0x80 ≤ second ∧ second ≤ 0xBF)
    (number : char.toNat = first % 32 * 64 + second % 64) :
    String.utf8EncodeChar char = [UInt8.ofNat first, UInt8.ofNat second] := by
  have value : char.val.toNat = first % 32 * 64 + second % 64 := number
  have bytes : char.val.toNat / 64 % 32 + 192 = first ∧ char.val.toNat % 64 + 128 = second := by
    omega
  unfold String.utf8EncodeChar
  simp only [bytes]
  rw [if_neg (by omega), if_pos (by omega)]

/-- A character that three bytes write. -/
theorem utf8EncodeChar_three {char : Char} {first second third : Nat}
    (lead : 0xE0 ≤ first ∧ first ≤ 0xEF) (least : first = 0xE0 → 0xA0 ≤ second)
    (next : 0x80 ≤ second ∧ second ≤ 0xBF) (last : 0x80 ≤ third ∧ third ≤ 0xBF)
    (number : char.toNat = (first % 16 * 64 + second % 64) * 64 + third % 64) :
    String.utf8EncodeChar char =
      [UInt8.ofNat first, UInt8.ofNat second, UInt8.ofNat third] := by
  have value : char.val.toNat = (first % 16 * 64 + second % 64) * 64 + third % 64 := number
  have bytes : char.val.toNat / 4096 % 16 + 224 = first ∧
      char.val.toNat / 64 % 64 + 128 = second ∧ char.val.toNat % 64 + 128 = third := by
    omega
  unfold String.utf8EncodeChar
  simp only [bytes]
  rw [if_neg (by omega), if_neg (by omega), if_pos (by omega)]

/-- A character that four bytes write. -/
theorem utf8EncodeChar_four {char : Char} {first second third fourth : Nat}
    (lead : 0xF0 ≤ first ∧ first ≤ 0xF4) (least : first = 0xF0 → 0x90 ≤ second)
    (next : 0x80 ≤ second ∧ second ≤ 0xBF) (other : 0x80 ≤ third ∧ third ≤ 0xBF)
    (last : 0x80 ≤ fourth ∧ fourth ≤ 0xBF)
    (number : char.toNat =
      ((first % 8 * 64 + second % 64) * 64 + third % 64) * 64 + fourth % 64) :
    String.utf8EncodeChar char =
      [UInt8.ofNat first, UInt8.ofNat second, UInt8.ofNat third, UInt8.ofNat fourth] := by
  have value : char.val.toNat =
    ((first % 8 * 64 + second % 64) * 64 + third % 64) * 64 + fourth % 64 := number
  have bytes : char.val.toNat / 262144 % 8 + 240 = first ∧
      char.val.toNat / 4096 % 64 + 128 = second ∧ char.val.toNat / 64 % 64 + 128 = third ∧
        char.val.toNat % 64 + 128 = fourth := by
    omega
  unfold String.utf8EncodeChar
  simp only [bytes]
  rw [if_neg (by omega), if_neg (by omega), if_neg (by omega)]

/-- A character is written in the bytes that it is read from. -/
theorem utf8EncodeChar_of_decodeFirst {byte : UInt8} {rest : List UInt8} {char : Char} {more : Nat}
    (read : decodeFirst byte rest = (some char, more)) :
    String.utf8EncodeChar char = byte :: rest.take more := by
  have bound : byte.toNat < 256 := byte.toNat_lt
  unfold decodeFirst at read
  simp only at read
  split at read
  · rename_i ascii
    cases read
    have valid : byte.toNat.isValidChar := .inl (by omega)
    have number := toNat_ofNat_of_isValidChar valid
    rw [utf8EncodeChar_of_ascii (number.trans_lt ascii), number, UInt8.ofNat_toNat]
    rfl
  split at read
  · cases read
  rename_i count low high lead
  split at read
  · rename_i full
    obtain ⟨goes, next⟩ := goesOn_continuation full
    cases read
    rw [next]
    obtain ⟨least, greatest, form⟩ := leadByte?_eq_some lead
    -- One case for each length of a form.
    rcases form with ⟨rfl, bounds⟩ | ⟨rfl, bounds, first⟩ | ⟨rfl, bounds, first⟩
    · obtain ⟨second, only⟩ := List.length_eq_one_iff.mp full
      rw [only] at goes ⊢
      obtain ⟨lower, upper, -, -⟩ := goes
      have valid : (byte.toNat % 32 * 64 + second % 64).isValidChar := .inl (by omega)
      rw [List.foldl_cons, List.foldl_nil]
      change String.utf8EncodeChar (Char.ofNat (byte.toNat % 32 * 64 + second % 64)) = _
      rw [utf8EncodeChar_two bounds (by omega) (toNat_ofNat_of_isValidChar valid)]
      simp
    · obtain ⟨second, third, only⟩ := List.length_eq_two.mp full
      rw [only] at goes ⊢
      obtain ⟨lower, upper, -, lower', upper', -, -⟩ := goes
      have valid : ((byte.toNat % 16 * 64 + second % 64) * 64 + third % 64).isValidChar := by
        rw [Nat.isValidChar]
        omega
      rw [List.foldl_cons, List.foldl_cons, List.foldl_nil]
      change String.utf8EncodeChar
        (Char.ofNat ((byte.toNat % 16 * 64 + second % 64) * 64 + third % 64)) = _
      rw [utf8EncodeChar_three bounds (by omega) (by omega) (by omega)
        (toNat_ofNat_of_isValidChar valid)]
      simp
    · obtain ⟨second, third, fourth, only⟩ := List.length_eq_three.mp full
      rw [only] at goes ⊢
      obtain ⟨lower, upper, -, lower', upper', -, lower'', upper'', -, -⟩ := goes
      have valid : (((byte.toNat % 8 * 64 + second % 64) * 64 + third % 64) * 64 +
          fourth % 64).isValidChar := by
        rw [Nat.isValidChar]
        omega
      rw [List.foldl_cons, List.foldl_cons, List.foldl_cons, List.foldl_nil]
      change String.utf8EncodeChar (Char.ofNat
        (((byte.toNat % 8 * 64 + second % 64) * 64 + third % 64) * 64 + fourth % 64)) = _
      rw [utf8EncodeChar_four bounds (by omega) (by omega) (by omega) (by omega)
        (toNat_ofNat_of_isValidChar valid)]
      simp
  · cases read

/-- Bytes that are passed over do not count. -/
theorem decodeFrom_eq_drop (skip : Nat) (bytes : List UInt8) :
    decodeFrom skip bytes = decodeFrom 0 (bytes.drop skip) := by
  induction skip generalizing bytes with
  | zero => rfl
  | succ skip tail =>
    cases bytes with
    | nil => rfl
    | cons byte rest => exact tail rest

/-- Bytes that are read as characters are those of the characters. -/
theorem flatMap_of_decodeFrom {bytes : List UInt8} {chars : List Char}
    (read : decodeFrom 0 bytes = chars.map some) :
    bytes = chars.flatMap String.utf8EncodeChar := by
  induction chars generalizing bytes with
  | nil =>
    cases bytes with
    | nil => rfl
    | cons byte rest => cases read
  | cons char chars tail =>
    cases bytes with
    | nil => cases read
    | cons byte rest =>
      rw [decodeFrom] at read
      obtain ⟨first, more, found⟩ : ∃ first more, decodeFirst byte rest = (first, more) :=
        ⟨_, _, rfl⟩
      rw [found, List.map_cons] at read
      simp only [List.cons.injEq] at read
      obtain ⟨rfl, behind⟩ := read
      rw [decodeFrom_eq_drop] at behind
      rw [List.flatMap_cons, utf8EncodeChar_of_decodeFirst found, ← tail behind, List.cons_append,
        List.take_append_drop]

/-- **Which bytes are decoded.** Bytes are decoded to a text exactly if they are its bytes. -/
theorem decode?_eq_some_iff {bytes : List UInt8} {text : Text} :
    decode? bytes = some text ↔ encode text = .ok bytes := by
  refine ⟨fun decoded => ?_, decode?_encode⟩
  have all (read : List (Option Char)) (chars : List Char)
      (found : read.mapM id = some chars) : read = chars.map some := by
    induction read generalizing chars with
    | nil =>
      cases found
      rfl
    | cons first rest tail =>
      cases first with
      | none => simp at found
      | some char =>
        cases others : rest.mapM id with
        | none => simp [others] at found
        | some others' =>
          simp [others] at found
          cases found
          rw [List.map_cons, tail _ others]
  obtain ⟨chars, found, rfl⟩ := Option.map_eq_some_iff.mp decoded
  exact encode_eq_ok_iff.mpr ⟨chars, rfl, flatMap_of_decodeFrom (all _ _ found)⟩

end SiteBuild.Text
