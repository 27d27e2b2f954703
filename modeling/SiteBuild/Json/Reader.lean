import SiteBuild.Json.Basic

/-!
# Reading JSON text

A text is read from the front; a reader returns what it read and the rest of the text, which is
shorter. The grammar is that of JSON with three words more, `NaN`, `Infinity` and `-Infinity`. A
key that comes twice keeps its first place and takes its last value. Arrays and objects may be
nested up to a given depth. What is wrong with a text that is not read is a `Problem` and the place
where it shows, which is given inside the readers as the number of code points left from there on.
-/
namespace SiteBuild.Json

/-- What is wrong with a text. -/
inductive Problem where
  /-- The text starts with a byte order mark. -/
  | byteOrderMark
  /-- No value starts here. -/
  | noValue
  /-- No quoted key starts here. -/
  | noKey
  /-- A key is not followed by a colon. -/
  | noColon
  /-- A member is followed by neither a comma nor the closing bracket. -/
  | noComma
  /-- The string that starts here has no end. -/
  | openString
  /-- A control character inside a string. -/
  | controlCharacter
  /-- A backslash before a character that it does not escape. -/
  | badEscape
  /-- An escape without its four hexadecimal digits. -/
  | badUnicodeEscape
  /-- Something follows the value. -/
  | extraData
  /-- An integer of more digits than are read. -/
  | longInteger (digits : Nat)
  /-- An array or an object inside more brackets than are followed. -/
  | tooDeep (isObject : Bool)
  deriving DecidableEq, Repr

/-- A problem and the number of code points left from its place on. -/
abbrev Fault := Problem × Nat

/-- The greatest number of digits of an integer that is read. -/
def integerDigits : Nat := 4300

/-- The greatest number of brackets around a value that are followed. -/
def nestingLimit : Nat := 980

/-- Whether a code point may stand between the parts of a JSON text. -/
def isSpace (point : CodePoint) : Bool :=
  point == .scalar ' ' || point == .scalar '\t' || point == .scalar '\n' ||
    point == .scalar '\r'

/-- The text after the space at its start. -/
def skipSpace (text : Text) : Text := text.dropWhile isSpace

/-- Skipping space does not lengthen a text. -/
theorem length_skipSpace_le (text : Text) : (skipSpace text).length ≤ text.length :=
  (List.dropWhile_sublist isSpace).length_le

/-- The value of a hexadecimal digit. -/
def hexDigit? : CodePoint → Option Nat
  | .surrogate _ => none
  | .scalar char =>
    let number := char.toNat
    if 48 ≤ number ∧ number ≤ 57 then some (number - 48)
    else if 97 ≤ number ∧ number ≤ 102 then some (number - 87)
    else if 65 ≤ number ∧ number ≤ 70 then some (number - 55)
    else none

/-- The unit that four hexadecimal digits write. -/
def unit? (first second third fourth : CodePoint) : Option Nat := do
  let a ← hexDigit? first
  let b ← hexDigit? second
  let c ← hexDigit? third
  let d ← hexDigit? fourth
  some (((a * 16 + b) * 16 + c) * 16 + d)

/-- The character that a backslash and a letter write. -/
def simpleEscape? : CodePoint → Option Char
  | .scalar '\x22' => some '\x22'
  | .scalar '\\' => some '\\'
  | .scalar '/' => some '/'
  | .scalar 'b' => some '\x08'
  | .scalar 'f' => some '\x0c'
  | .scalar 'n' => some '\n'
  | .scalar 'r' => some '\r'
  | .scalar 't' => some '\t'
  | _ => none

/-- The unit that an escape at the start of a text writes, if its digits are good, and the text
behind it. Digits that nothing follows make no escape. -/
def escapedUnit? : Text → Option (Option Nat × Text)
  | .scalar '\\' :: .scalar 'u' :: a :: b :: c :: d :: e :: rest => some (unit? a b c d, e :: rest)
  | _ => none

/-- An escape takes six code points. -/
theorem length_of_escapedUnit? {text rest : Text} {unit : Option Nat}
    (found : escapedUnit? text = some (unit, rest)) : rest.length + 6 = text.length := by
  unfold escapedUnit? at found
  split at found
  · cases found
    simp
  · cases found

/-- The code point that the escape of a unit at the start of a text writes, and the text behind it,
or the fault of an escape without its digits. A high surrogate joins the low one that is escaped
behind it; any other surrogate stands alone. -/
def escapedPoint? (text : Text) : Option (Except Fault (CodePoint × Text)) :=
  match escapedUnit? text with
  | some (none, rest) => some (.error (.badUnicodeEscape, rest.length + 5))
  | some (some unit, rest) =>
    match escapedUnit? rest with
    | some (none, beyond) =>
      if CodePoint.isHigh unit then some (.error (.badUnicodeEscape, beyond.length + 5))
      else some (.ok (.ofUnit unit, rest))
    | some (some low, beyond) =>
      if CodePoint.isHigh unit && CodePoint.isLow low then
        some (.ok (.ofPair unit low, beyond))
      else some (.ok (.ofUnit unit, rest))
    | none => some (.ok (.ofUnit unit, rest))
  | none => none

/-- An escaped code point is read from a longer text. -/
theorem length_of_escapedPoint? {text rest : Text} {point : CodePoint}
    (found : escapedPoint? text = some (.ok (point, rest))) : rest.length < text.length := by
  unfold escapedPoint? at found
  grind [length_of_escapedUnit?]

/-- Read the next code point of a string, or nothing at the closing quote, and the text behind it.
`opening` is the number of code points left from the opening quote on. -/
def readPoint (opening : Nat) (text : Text) : Except Fault (Option CodePoint × Text) :=
  match escapedPoint? text with
  | some (.error fault) => .error fault
  | some (.ok (point, rest)) => .ok (some point, rest)
  | none =>
    match text with
    | [] => .error (.openString, opening)
    | .scalar '\x22' :: rest => .ok (none, rest)
    | [.scalar '\\'] => .error (.openString, opening)
    | .scalar '\\' :: .scalar 'u' :: rest => .error (.badUnicodeEscape, rest.length + 1)
    | .scalar '\\' :: point :: rest =>
      match simpleEscape? point with
      | some char => .ok (some (.scalar char), rest)
      | none => .error (.badEscape, rest.length + 2)
    | point :: rest =>
      if point.value < 0x20 then .error (.controlCharacter, rest.length + 1)
      else .ok (some point, rest)

/-- A code point of a string is read from a longer text. -/
theorem length_of_readPoint {opening : Nat} {text rest : Text} {point : Option CodePoint}
    (found : readPoint opening text = .ok (point, rest)) : rest.length < text.length := by
  unfold readPoint at found
  grind [→ length_of_escapedPoint?]

/-- Read a string from behind its opening quote. `opening` is the number of code points left from
that quote on, and `read` holds what was read, in reverse. -/
def readString (opening : Nat) (read text : Text) : Except Fault (Text × Text) :=
  match found : readPoint opening text with
  | .error fault => .error fault
  | .ok (none, rest) => .ok (read.reverse, rest)
  | .ok (some point, rest) =>
    have := length_of_readPoint found
    readString opening (point :: read) rest
  termination_by text.length

/-- A string is read from a longer text. -/
theorem length_of_readString {opening : Nat} {read text string rest : Text}
    (found : readString opening read text = .ok (string, rest)) : rest.length < text.length := by
  fun_induction readString opening read text <;> grind [→ length_of_readPoint]

/-- The whole part of a number and the text behind it: a zero, or digits that start with another
digit. -/
def wholePart? : Text → Option (Text × Text)
  | .scalar '0' :: rest => some ([.scalar '0'], rest)
  | point :: rest =>
    if CodePoint.isDigit point then
      some (point :: rest.takeWhile CodePoint.isDigit, rest.dropWhile CodePoint.isDigit)
    else none
  | [] => none

/-- The digits of a fraction and the text behind them, if a point and a digit come next. -/
def fractionPart : Text → Option Text × Text
  | .scalar '.' :: point :: rest =>
    if CodePoint.isDigit point then
      (some (point :: rest.takeWhile CodePoint.isDigit), rest.dropWhile CodePoint.isDigit)
    else (none, .scalar '.' :: point :: rest)
  | text => (none, text)

/-- The digits of an exponent with its sign, and the text behind them, if they come next. -/
def exponentDigits? (negative : Bool) (text : Text) : Option (Int × Text) :=
  match text.takeWhile CodePoint.isDigit with
  | [] => none
  | digits =>
    let value : Int := Text.digitsValue digits
    some (if negative then -value else value, text.dropWhile CodePoint.isDigit)

/-- The exponent and the text behind it, if a complete one comes next. -/
def exponentPart? : Text → Option (Int × Text)
  | .scalar 'e' :: rest | .scalar 'E' :: rest =>
    match rest with
    | .scalar '-' :: digits => exponentDigits? true digits
    | .scalar '+' :: digits => exponentDigits? false digits
    | digits => exponentDigits? false digits
  | _ => none

/-- Read a number behind its sign. Without fraction and exponent it is an integer. -/
def readMagnitude? (negative : Bool) (text : Text) : Option (Except Problem Json × Text) := do
  let (whole, afterWhole) ← wholePart? text
  let (fraction, afterFraction) := fractionPart afterWhole
  match fraction, exponentPart? afterFraction with
  | none, none =>
    if integerDigits < whole.length then some (.error (.longInteger whole.length), afterWhole)
    else
      let value : Int := Text.digitsValue whole
      some (.ok (.int (if negative then -value else value)), afterWhole)
  | fraction, exponent =>
    let places := fraction.getD []
    let (power, rest) := exponent.getD (0, afterFraction)
    let digits := Text.digitsValue (whole ++ places)
    some (.ok (.real (.ofDecimal negative digits (power - places.length))), rest)

/-- Read a number. -/
def readNumber? : Text → Option (Except Problem Json × Text)
  | .scalar '-' :: rest => readMagnitude? true rest
  | text => readMagnitude? false text

/-- The words that stand for values. -/
def wordValues : List (Text × Json) :=
  [("null", .null), ("true", .bool true), ("false", .bool false), ("NaN", .real .nan),
    ("Infinity", .real (.infinity false)), ("-Infinity", .real (.infinity true))]

/-- Read a word that stands for a value. -/
def readWord? (text : Text) : Option (Json × Text) :=
  wordValues.findSome? fun word =>
    if word.1.isPrefixOf text then some (word.2, text.drop word.1.length) else none

/-- Read a word or a number; the rest is cut to a proper suffix of the text. -/
def readAtom (text : Text) : Except Fault (Json × Text) :=
  match readWord? text with
  | some (value, rest) => .ok (value, rest)
  | none =>
    match readNumber? text with
    | some (.ok value, rest) => .ok (value, rest)
    | some (.error problem, _) => .error (problem, text.length)
    | none => .error (.noValue, text.length)

mutual

/-- Read a value in which arrays and objects may be nested up to a depth. -/
def readValue (depth : Nat) (text : Text) :
    Except Fault (Json × { rest : Text // rest.length < text.length }) :=
  match text with
  | .scalar '\x22' :: body =>
    match found : readString (body.length + 1) [] body with
    | .error fault => .error fault
    | .ok (string, rest) =>
      .ok (.str string, ⟨rest, Nat.lt_succ_of_lt (length_of_readString found)⟩)
  | .scalar '\x7b' :: body =>
    match depth with
    | 0 => .error (.tooDeep true, body.length + 1)
    | depth + 1 =>
      match found : skipSpace body with
      | .scalar '\x7d' :: rest =>
        .ok (.obj [], ⟨rest, by have := length_skipSpace_le body; simp_all; omega⟩)
      | inner =>
        match readMembers depth [] inner with
        | .error fault => .error fault
        | .ok (fields, ⟨rest, shorter⟩) =>
          .ok (.obj fields, ⟨rest, by have := length_skipSpace_le body; simp_all; omega⟩)
  | .scalar '[' :: body =>
    match depth with
    | 0 => .error (.tooDeep false, body.length + 1)
    | depth + 1 =>
      match found : skipSpace body with
      | .scalar ']' :: rest =>
        .ok (.arr [], ⟨rest, by have := length_skipSpace_le body; simp_all; omega⟩)
      | inner =>
        match readItems depth inner with
        | .error fault => .error fault
        | .ok (items, ⟨rest, shorter⟩) =>
          .ok (.arr items, ⟨rest, by have := length_skipSpace_le body; simp_all; omega⟩)
  | text =>
    match readAtom text with
    | .error fault => .error fault
    | .ok (value, rest) =>
      if shorter : rest.length < text.length then .ok (value, ⟨rest, shorter⟩)
      else .error (.noValue, text.length)
  termination_by (text.length, 1)
  decreasing_by
    all_goals
      have := length_skipSpace_le body
      simp_all
      omega

/-- Read the members of an object up to its closing bracket, from the first quote on. -/
def readMembers (depth : Nat) (fields : Record) (text : Text) :
    Except Fault (Record × { rest : Text // rest.length < text.length }) :=
  match text with
  | .scalar '\x22' :: body =>
    match found : readString (body.length + 1) [] body with
    | .error fault => .error fault
    | .ok (key, afterKey) =>
      match colon : skipSpace afterKey with
      | .scalar ':' :: afterColon =>
        match readValue depth (skipSpace afterColon) with
        | .error fault => .error fault
        | .ok (value, ⟨afterValue, shorter⟩) =>
          match next : skipSpace afterValue with
          | .scalar '\x7d' :: rest =>
            .ok (Record.insert fields key value, ⟨rest, by
              have := length_of_readString found
              have := length_skipSpace_le afterKey
              have := length_skipSpace_le afterColon
              have := length_skipSpace_le afterValue
              simp_all; omega⟩)
          | .scalar ',' :: more =>
            match readMembers depth (Record.insert fields key value) (skipSpace more) with
            | .error fault => .error fault
            | .ok (all, ⟨rest, less⟩) =>
              .ok (all, ⟨rest, by
                have := length_of_readString found
                have := length_skipSpace_le afterKey
                have := length_skipSpace_le afterColon
                have := length_skipSpace_le afterValue
                have := length_skipSpace_le more
                simp_all; omega⟩)
          | other => .error (.noComma, other.length)
      | other => .error (.noColon, other.length)
  | other => .error (.noKey, other.length)
  termination_by (text.length, 0)
  decreasing_by
    · have := length_of_readString found
      have := length_skipSpace_le afterKey
      have := length_skipSpace_le afterColon
      simp_all
      omega
    · have := length_of_readString found
      have := length_skipSpace_le afterKey
      have := length_skipSpace_le afterColon
      have := length_skipSpace_le afterValue
      have := length_skipSpace_le more
      simp_all
      omega

/-- Read the items of an array up to its closing bracket, from the first one on. -/
def readItems (depth : Nat) (text : Text) :
    Except Fault (List Json × { rest : Text // rest.length < text.length }) :=
  match readValue depth text with
  | .error fault => .error fault
  | .ok (value, ⟨afterValue, shorter⟩) =>
    match next : skipSpace afterValue with
    | .scalar ']' :: rest =>
      .ok ([value], ⟨rest, by have := length_skipSpace_le afterValue; simp_all; omega⟩)
    | .scalar ',' :: more =>
      match readItems depth (skipSpace more) with
      | .error fault => .error fault
      | .ok (items, ⟨rest, less⟩) =>
        .ok (value :: items, ⟨rest, by
          have := length_skipSpace_le afterValue
          have := length_skipSpace_le more
          simp_all; omega⟩)
    | other => .error (.noComma, other.length)
  termination_by (text.length, 2)
  decreasing_by
    · exact Prod.Lex.right _ (by decide)
    · have := length_skipSpace_le afterValue
      have := length_skipSpace_le more
      simp_all
      omega

end

/-- The place of a problem in a text. -/
structure ReadError where
  /-- What is wrong. -/
  problem : Problem
  /-- The number of code points before it. -/
  offset : Nat
  /-- Its line, from one. -/
  line : Nat
  /-- Its column in the line, from one. -/
  column : Nat
  deriving DecidableEq, Repr

/-- The error of a problem that shows where a number of code points of the text are left. -/
def ReadError.atRest (text : Text) (fault : Fault) : ReadError :=
  let offset := text.length - fault.2
  let before := text.take offset
  { problem := fault.1
    offset := offset
    line := before.count (.scalar '\n') + 1
    column := (before.reverse.takeWhile (· != .scalar '\n')).length + 1 }

/-- What a message says of a problem. -/
def Problem.message : Problem → String
  | .byteOrderMark => "Unexpected UTF-8 BOM (decode using utf-8-sig)"
  | .noValue => "Expecting value"
  | .noKey => "Expecting property name enclosed in double quotes"
  | .noColon => "Expecting ':' delimiter"
  | .noComma => "Expecting ',' delimiter"
  | .openString => "Unterminated string starting at"
  | .controlCharacter => "Invalid control character at"
  | .badEscape => "Invalid \\escape"
  | .badUnicodeEscape => "Invalid \\uXXXX escape"
  | .extraData => "Extra data"
  | .longInteger digits =>
    s!"Exceeds the limit ({integerDigits} digits) for integer string conversion: value has " ++
      s!"{digits} digits; use sys.set_int_max_str_digits() to increase the limit"
  | .tooDeep isObject =>
    "maximum recursion depth exceeded while decoding a JSON " ++
      (if isObject then "object" else "array") ++ " from a unicode string"

/-- The message of an error; what exceeds a limit is told without its place. -/
def ReadError.message (error : ReadError) : String :=
  match error.problem with
  | .longInteger _ | .tooDeep _ => error.problem.message
  | problem =>
    s!"{problem.message}: line {error.line} column {error.column} (char {error.offset})"

/-- The name of the kind of an error. -/
def ReadError.label (error : ReadError) : String :=
  match error.problem with
  | .longInteger _ => "ValueError"
  | .tooDeep _ => "RecursionError"
  | _ => "JSONDecodeError"

/-- Read a text that holds one value and space around it, up to a depth of nesting. -/
def readNested (depth : Nat) (text : Text) : Except ReadError Json :=
  let fail (fault : Fault) : Except ReadError Json := .error (.atRest text fault)
  match text with
  | .scalar '\ufeff' :: _ => fail (.byteOrderMark, text.length)
  | _ =>
    match readValue depth (skipSpace text) with
    | .error fault => fail fault
    | .ok (value, ⟨rest, _⟩) =>
      match skipSpace rest with
      | [] => .ok value
      | extra => fail (.extraData, extra.length)

/-- Read a text that holds one value and space around it. -/
def read (text : Text) : Except ReadError Json := readNested nestingLimit text

end SiteBuild.Json
