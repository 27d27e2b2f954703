import Mathlib.Tactic.NormNum
import Mathlib.Tactic.SplitIfs
import SiteBuild.Url.Percent

/-!
# Reading percent escapes

A text of characters has bytes, and those bytes are read as the text again, character by character
(`decode?_encode`). An escape is read as the byte it was made of, and no other byte of an escaped
text is taken for one. So escaping is undone on every text that has bytes
(`unescaped?_of_escaped`), and what it leaves are letters, digits, the marks that are to stand as
they are, and escapes (`isEscaped_of_escaped`).
-/
namespace SiteBuild

/-- A list of bytes survives the way into an array and back. -/
theorem toList_toByteArray (bytes : List UInt8) : bytes.toByteArray.toList = bytes := by
  have loop (array : ByteArray) (place : Nat) (done : List UInt8) :
      ByteArray.toList.loop array place done =
        done.reverse ++ array.data.toList.drop place := by
    fun_induction ByteArray.toList.loop array place done with
    | case1 place done inside tail =>
      have inside : place < array.data.toList.length := by simpa using inside
      rw [tail, List.drop_eq_getElem_cons inside]
      simp [ByteArray.get!, getElem!_pos array.data place (by simpa using inside)]
    | case2 place done outside =>
      rw [List.drop_eq_nil_of_le (by simpa using outside), List.append_nil]
  rw [ByteArray.toList, loop, List.reverse_nil, List.nil_append, List.drop_zero,
    List.toList_data_toByteArray]

/-- A number that fits into a byte survives it. -/
theorem toNat_ofNat_of_lt {value : Nat} (fits : value < 256) :
    (UInt8.ofNat value).toNat = value := by
  rw [UInt8.toNat_ofNat']
  exact Nat.mod_eq_of_lt fits

namespace Text

/-! ## Characters and their bytes -/

/-- Whether a text is made of characters, so that it has bytes. -/
def Encodable (text : Text) : Prop := ∀ point ∈ text, isScalar point = true

instance (text : Text) : Decidable text.Encodable :=
  inferInstanceAs (Decidable (∀ point ∈ text, isScalar point = true))

theorem encodable_ofChars (chars : List Char) : Encodable (ofChars chars) := by
  intro point member
  obtain ⟨char, _, rfl⟩ := List.mem_map.mp member
  rfl

/-- A text that is made of characters is the text of a list of them. -/
theorem Encodable.exists_ofChars {text : Text} (encodable : text.Encodable) :
    ∃ chars, text = ofChars chars := by
  induction text with
  | nil => exact ⟨[], rfl⟩
  | cons point rest tail =>
    obtain ⟨first, others⟩ := List.forall_mem_cons.mp encodable
    obtain ⟨chars, rfl⟩ := tail others
    cases point with
    | scalar char => exact ⟨char :: chars, rfl⟩
    | surrogate index => cases first

/-- The bytes of a text are those of its characters. -/
theorem toUTF8_ofChars (chars : List Char) :
    (toString (ofChars chars)).toUTF8.toList = chars.flatMap String.utf8EncodeChar := by
  have whole : toString (ofChars chars) = String.ofList chars := by
    simp [toString, ofChars, Function.comp_def, CodePoint.toChar]
  rw [whole, String.toUTF8_eq_toByteArray]
  exact toList_toByteArray _

theorem encode_ofChars (chars : List Char) :
    encode (ofChars chars) = .ok (chars.flatMap String.utf8EncodeChar) := by
  have none : unencodable? (ofChars chars) = none :=
    (unencodable?_eq_none_iff _).mpr (encodable_ofChars chars)
  simp only [encode, none, toUTF8_ofChars]

/-- A text has bytes exactly if it is made of characters, and then they are those of the
characters. -/
theorem encode_eq_ok_iff {text : Text} {bytes : List UInt8} :
    encode text = .ok bytes ↔
      ∃ chars, text = ofChars chars ∧ bytes = chars.flatMap String.utf8EncodeChar := by
  constructor
  · intro done
    have encodable : text.Encodable := by
      refine (unencodable?_eq_none_iff text).mp ?_
      unfold encode at done
      split at done
      · cases done
      · assumption
    obtain ⟨chars, rfl⟩ := encodable.exists_ofChars
    rw [encode_ofChars] at done
    cases done
    exact ⟨chars, rfl, rfl⟩
  · rintro ⟨chars, rfl, rfl⟩
    exact encode_ofChars chars

/-- The byte of an ASCII character is its number. -/
theorem utf8EncodeChar_of_ascii {char : Char} (ascii : char.toNat < 128) :
    String.utf8EncodeChar char = [UInt8.ofNat char.toNat] :=
  if_pos (Nat.le_of_lt_succ ascii)

/-! ## Bytes and their characters -/

/-- Whether numbers are bytes that go on a form, the first of them in a range and the others in
the range of all such bytes. -/
def GoesOn (low high : Nat) : List Nat → Prop
  | [] => True
  | byte :: rest => low ≤ byte ∧ byte ≤ high ∧ byte < 256 ∧ GoesOn 0x80 0xBF rest

/-- Bytes that go on a form are read, whatever is behind them. -/
theorem continuation_of_goesOn {low high : Nat} {more : List Nat} (goes : GoesOn low high more)
    (rest : List UInt8) :
    continuation more.length low high (more.map UInt8.ofNat ++ rest) = more := by
  induction more generalizing low high with
  | nil => cases rest <;> rfl
  | cons byte others tail =>
    obtain ⟨least, greatest, fits, behind⟩ := goes
    simp only [List.map_cons, List.cons_append, List.length_cons, continuation,
      toNat_ofNat_of_lt fits, least, greatest, and_self, if_true, tail behind]

/-- A form of several bytes is read as the character that the bytes write. -/
theorem decodeFirst_of_goesOn (more : List Nat) {first low high : Nat} {char : Char}
    (lead : leadByte? first = some (more.length, low, high)) (range : 0x80 ≤ first ∧ first < 256)
    (goes : GoesOn low high more)
    (written : more.foldl (fun value next => value * 64 + next % 64)
      (first % Nat.pow 2 (6 - more.length)) = char.toNat) (rest : List UInt8) :
    decodeFirst (UInt8.ofNat first) (more.map UInt8.ofNat ++ rest) =
      (some char, more.length) := by
  simp only [decodeFirst, toNat_ofNat_of_lt range.2, lead, continuation_of_goesOn goes, written,
    if_true, Char.ofNat_toNat]
  rw [if_neg (by omega)]

/-- A character is read from its bytes, whatever is behind them. -/
theorem decodeFirst_utf8EncodeChar (char : Char) : ∃ first more,
    String.utf8EncodeChar char = first :: more ∧
      ∀ rest, decodeFirst first (more ++ rest) = (some char, more.length) := by
  have scalar : char.toNat.isValidChar := char.valid
  simp only [Nat.isValidChar] at scalar
  unfold String.utf8EncodeChar
  change ∃ first more, (if char.toNat ≤ _ then _ else _) = _ ∧ _
  generalize number : char.toNat = value at scalar
  simp only [show char.val.toNat = value from number]
  -- One case for each length of a form; the range of the second byte hangs on the first one.
  split
  · refine ⟨_, _, rfl, fun rest => ?_⟩
    simp only [decodeFirst, toNat_ofNat_of_lt (show value < 256 by omega), List.nil_append]
    rw [if_pos (by omega), ← number, Char.ofNat_toNat]
    rfl
  split
  · have lead : leadByte? (value / 64 % 32 + 192) = some (1, 0x80, 0xBF) := if_pos (by omega)
    refine ⟨_, _, rfl, decodeFirst_of_goesOn [value % 64 + 128] lead (by omega)
      ⟨by omega, by omega, by omega, trivial⟩ ?_⟩
    simp only [List.foldl_cons, List.foldl_nil, List.length_cons, List.length_nil, number]
    norm_num
    omega
  split
  · obtain ⟨low, high, lead, least, greatest⟩ : ∃ low high,
        leadByte? (value / 4096 % 16 + 224) = some (2, low, high) ∧
          low ≤ value / 64 % 64 + 128 ∧ value / 64 % 64 + 128 ≤ high := by
      unfold leadByte?
      split_ifs <;> first | exact ⟨_, _, rfl, by omega, by omega⟩ | omega
    refine ⟨_, _, rfl, decodeFirst_of_goesOn
      [value / 64 % 64 + 128, value % 64 + 128] lead (by omega)
      ⟨least, greatest, by omega, by omega, by omega, by omega, trivial⟩ ?_⟩
    simp only [List.foldl_cons, List.foldl_nil, List.length_cons, List.length_nil, number]
    norm_num
    omega
  · obtain ⟨low, high, lead, least, greatest⟩ : ∃ low high,
        leadByte? (value / 262144 % 8 + 240) = some (3, low, high) ∧
          low ≤ value / 4096 % 64 + 128 ∧ value / 4096 % 64 + 128 ≤ high := by
      unfold leadByte?
      split_ifs <;> first | exact ⟨_, _, rfl, by omega, by omega⟩ | omega
    refine ⟨_, _, rfl, decodeFirst_of_goesOn
      [value / 4096 % 64 + 128, value / 64 % 64 + 128, value % 64 + 128] lead (by omega)
      ⟨least, greatest, by omega, by omega, by omega, by omega, by omega, by omega, by omega,
        trivial⟩ ?_⟩
    simp only [List.foldl_cons, List.foldl_nil, List.length_cons, List.length_nil, number]
    norm_num
    omega

/-- Bytes that belong to a character that was read are passed over. -/
theorem decodeFrom_length (more rest : List UInt8) :
    decodeFrom more.length (more ++ rest) = decodeFrom 0 rest := by
  induction more with
  | nil => rfl
  | cons byte more tail => exact tail

/-- The bytes of characters are read as the characters. -/
theorem decodeFrom_encoded (chars : List Char) :
    decodeFrom 0 (chars.flatMap String.utf8EncodeChar) = chars.map some := by
  induction chars with
  | nil => rfl
  | cons char rest tail =>
    obtain ⟨first, more, bytes, read⟩ := decodeFirst_utf8EncodeChar char
    rw [List.flatMap_cons, bytes, List.cons_append, decodeFrom, read]
    simp only [decodeFrom_length, tail, List.map_cons]

/-- **Bytes are read back.** The bytes of a text are those of no other text. -/
theorem decode?_encode {text : Text} {bytes : List UInt8} (encoded : encode text = .ok bytes) :
    decode? bytes = some text := by
  obtain ⟨chars, rfl, rfl⟩ := encode_eq_ok_iff.mp encoded
  have all (known : List Char) : (known.map some).mapM id = some known := by
    induction known with
    | nil => rfl
    | cons char rest tail => simp [tail]
  rw [decode?, decodeFrom_encoded, all]
  rfl

end Text

namespace Url

open Text

/-! ## Escapes and their bytes -/

/-- The digits of an escape, in order. -/
theorem toNat_upperHexDigit : ∀ {digit : Nat}, digit < 16 →
    (upperHexDigit digit).toNat = if digit < 10 then 48 + digit else 55 + digit := by
  decide

/-- A digit is read as its value. -/
theorem hexValue?_upperHexDigit {digit : Nat} (small : digit < 16) :
    hexValue? (UInt8.ofNat (upperHexDigit digit).toNat) = some digit := by
  have number := toNat_upperHexDigit small
  split at number
  · simp only [hexValue?, number, toNat_ofNat_of_lt (show 48 + digit < 256 by omega)]
    rw [if_pos (by omega), Nat.add_sub_cancel_left]
  · simp only [hexValue?, number, toNat_ofNat_of_lt (show 55 + digit < 256 by omega)]
    rw [if_neg (by omega), if_pos (by omega), Nat.add_sub_cancel_left]

/-- A byte that begins no escape stands for itself. -/
theorem unescapedBytes_cons {byte : UInt8} (plain : byte ≠ 0x25) (rest : List UInt8) :
    unescapedBytes (byte :: rest) = byte :: unescapedBytes rest := by
  rw [unescapedBytes.eq_2]
  rintro high low more rfl
  exact absurd rfl plain

/-- An escape stands for its byte. -/
theorem unescapedBytes_escapedByte (byte : UInt8) (rest : List UInt8) :
    unescapedBytes ((escapedByte byte).flatMap String.utf8EncodeChar ++ rest) =
      byte :: unescapedBytes rest := by
  have bound : byte.toNat < 256 := byte.toNat_lt
  have high : byte.toNat / 16 < 16 := by omega
  have low : byte.toNat % 16 < 16 := by omega
  have ascii {digit : Nat} (small : digit < 16) : (upperHexDigit digit).toNat < 128 := by
    rw [toNat_upperHexDigit small]
    split <;> omega
  have mark : String.utf8EncodeChar '%' = [0x25] := rfl
  have whole : byte.toNat / 16 * 16 + byte.toNat % 16 = byte.toNat := by omega
  simp only [escapedByte, List.flatMap_cons, List.flatMap_nil, List.append_nil, mark,
    utf8EncodeChar_of_ascii (ascii high), utf8EncodeChar_of_ascii (ascii low),
    List.cons_append, List.nil_append, unescapedBytes, hexValue?_upperHexDigit high,
    hexValue?_upperHexDigit low, whole, UInt8.ofNat_toNat]

/-- A byte is escaped, or it is a character of ASCII that stands as it is. -/
theorem quotedByte_cases (safe : List Char) (byte : UInt8) :
    quotedByte safe byte = escapedByte byte ∨
      ∃ char, quotedByte safe byte = [char] ∧ char.toNat = byte.toNat ∧ char.toNat < 128 ∧
        (isUnreserved char = true ∨ char ∈ safe) := by
  unfold quotedByte
  simp only
  split
  · rename_i plain
    simp only [Bool.and_eq_true, decide_eq_true_eq, Bool.or_eq_true,
      List.contains_iff_mem] at plain
    obtain ⟨small, known⟩ := plain
    have ascii : byte.toNat < 128 := small
    have number : (Char.ofNat byte.toNat).toNat = byte.toNat := by
      rw [Char.ofNat, dif_pos (.inl (by omega))]
      rfl
    exact .inr ⟨_, rfl, number, number.trans_lt ascii, known⟩
  · exact .inl rfl

/-- A byte in a URL stands for itself, if the mark of escapes is escaped. -/
theorem unescapedBytes_quotedByte {safe : List Char} (mark : '%' ∉ safe) (byte : UInt8)
    (rest : List UInt8) :
    unescapedBytes ((quotedByte safe byte).flatMap String.utf8EncodeChar ++ rest) =
      byte :: unescapedBytes rest := by
  rcases quotedByte_cases safe byte with escape | ⟨char, plain, number, ascii, known⟩
  · rw [escape]
    exact unescapedBytes_escapedByte byte rest
  · have apart : byte ≠ 0x25 := by
      rintro rfl
      obtain rfl : char = '%' := Char.toNat_inj.mp number
      exact known.elim (by decide) mark
    rw [plain, List.flatMap_singleton, utf8EncodeChar_of_ascii ascii, number, UInt8.ofNat_toNat]
    exact unescapedBytes_cons apart rest

/-- Bytes in a URL stand for themselves. -/
theorem unescapedBytes_quoted {safe : List Char} (mark : '%' ∉ safe) (bytes : List UInt8) :
    unescapedBytes ((bytes.flatMap (quotedByte safe)).flatMap String.utf8EncodeChar) = bytes := by
  induction bytes with
  | nil => rfl
  | cons byte rest tail =>
    rw [List.flatMap_cons, List.flatMap_append, unescapedBytes_quotedByte mark, tail]

/-! ## Texts -/

/-- What a text with escapes stands for, if the bytes that it writes are those of a text. -/
def unescaped? (text : Text) : Option Text :=
  Text.decode? (unescapedBytes (Text.toString text).toUTF8.toList)

/-- A text is escaped byte by byte, if it has bytes. -/
theorem escaped_eq_ok_iff {safe : String} {text url : Text} :
    escaped safe text = .ok url ↔ ∃ bytes, Text.encode text = .ok bytes ∧
      url = ofChars (bytes.flatMap (quotedByte safe.toList)) := by
  unfold escaped
  cases Text.encode text with
  | error run => simp [Except.map]
  | ok bytes => simp [Except.map, eq_comm]

/-- **Escapes are read back.** An escaped text stands for the text. -/
theorem unescaped?_of_escaped {safe : String} (mark : '%' ∉ safe.toList) {text url : Text}
    (done : escaped safe text = .ok url) : unescaped? url = some text := by
  obtain ⟨bytes, encoded, rfl⟩ := escaped_eq_ok_iff.mp done
  rw [unescaped?, toUTF8_ofChars, unescapedBytes_quoted mark]
  exact decode?_encode encoded

/-- A text that is escaped is made of characters. -/
theorem encodable_of_escaped {safe : String} {text url : Text}
    (done : escaped safe text = .ok url) : text.Encodable := by
  obtain ⟨bytes, encoded, -⟩ := escaped_eq_ok_iff.mp done
  obtain ⟨chars, rfl, -⟩ := encode_eq_ok_iff.mp encoded
  exact encodable_ofChars chars

/-- A mark that is escaped does not stand in an escaped text. -/
theorem not_mem_of_escaped {safe : String} {mark : Char} (reserved : isUnreserved mark = false)
    (noEscape : mark ≠ '%') (noSafe : mark ∉ safe.toList) {text url : Text}
    (done : escaped safe text = .ok url) : .scalar mark ∉ url := by
  obtain ⟨bytes, -, rfl⟩ := escaped_eq_ok_iff.mp done
  intro member
  obtain ⟨char, known, same⟩ := List.mem_map.mp member
  cases same
  obtain ⟨byte, -, here⟩ := List.mem_flatMap.mp known
  have digits : ∀ number < 16, isUnreserved (upperHexDigit number) = true := by decide
  have noDigit {number : Nat} (small : number < 16) : mark ≠ upperHexDigit number := by
    rintro rfl
    rw [digits number small] at reserved
    cases reserved
  rcases quotedByte_cases _ byte with escape | ⟨char, plain, -, -, stands⟩
  · have bound : byte.toNat < 256 := byte.toNat_lt
    rw [escape] at here
    simp only [escapedByte, List.mem_cons, List.not_mem_nil, or_false] at here
    rcases here with escape | high | low
    · exact noEscape escape
    · exact noDigit (by omega) high
    · exact noDigit (by omega) low
  · rw [plain] at here
    cases List.mem_singleton.mp here
    rcases stands with unreserved | kept
    · rw [reserved] at unreserved
      cases unreserved
    · exact noSafe kept

/-- A text of letters, digits and some marks, and of escapes. -/
inductive IsEscaped (marks : List Char) : Text → Prop where
  /-- Nothing. -/
  | nil : IsEscaped marks []
  /-- A character that stands as it is. -/
  | char {char : Char} {rest : Text} (plain : char.isAlphanum = true ∨ char ∈ marks)
      (behind : IsEscaped marks rest) : IsEscaped marks (.scalar char :: rest)
  /-- The mark of escapes and two digits. -/
  | escape {high low : Nat} {rest : Text} (first : high < 16) (second : low < 16)
      (behind : IsEscaped marks rest) :
      IsEscaped marks (ofChars ['%', upperHexDigit high, upperHexDigit low] ++ rest)

/-- **What escaping leaves.** An escaped text holds letters, digits and the given marks, if the
marks that are never escaped are among them, and escapes. -/
theorem isEscaped_of_escaped {safe : String}
    (marks : ∀ char ∈ ['_', '.', '-', '~'], char ∈ safe.toList) {text url : Text}
    (done : escaped safe text = .ok url) : IsEscaped safe.toList url := by
  obtain ⟨bytes, -, rfl⟩ := escaped_eq_ok_iff.mp done
  clear done
  induction bytes with
  | nil => exact .nil
  | cons byte rest tail =>
    simp only [List.flatMap_cons, ofChars, List.map_append] at tail ⊢
    rcases quotedByte_cases safe.toList byte with escape | ⟨char, plain, _, _, known⟩
    · rw [escape]
      have bound : byte.toNat < 256 := byte.toNat_lt
      exact .escape (by omega) (by omega) tail
    · rw [plain]
      refine .char ?_ tail
      rcases known with unreserved | member
      · simp only [isUnreserved, Bool.or_eq_true, beq_iff_eq] at unreserved
        rcases unreserved with (((letter | rfl) | rfl) | rfl) | rfl
        · exact .inl letter
        all_goals exact .inr (marks _ (by simp))
      · exact .inr member

/-- A text that is made of characters can be escaped. -/
theorem exists_escaped (safe : String) {text : Text} (encodable : text.Encodable) :
    ∃ url, escaped safe text = .ok url := by
  obtain ⟨chars, rfl⟩ := encodable.exists_ofChars
  exact ⟨_, by rw [escaped, encode_ofChars]; rfl⟩

end Url
end SiteBuild
