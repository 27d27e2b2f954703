import SiteBuild.Text.Quoted

/-!
# UTF-8

Bytes are cut into the forms of characters and into faults: a fault is the longest start of a
form that does not go on as it must, or a byte that starts no form. A text has bytes unless it
holds a lone surrogate. Main statement: a text has bytes exactly if all its code points are
characters (`unencodable?_eq_none_iff`).
-/
namespace SiteBuild.Text

/-- The number of bytes behind the first one and the range of the second byte, by the first byte
of a form of several bytes. -/
def leadByte? (byte : Nat) : Option (Nat × Nat × Nat) :=
  if 0xC2 ≤ byte ∧ byte ≤ 0xDF then some (1, 0x80, 0xBF)
  else if byte = 0xE0 then some (2, 0xA0, 0xBF)
  else if byte = 0xED then some (2, 0x80, 0x9F)
  else if 0xE1 ≤ byte ∧ byte ≤ 0xEF then some (2, 0x80, 0xBF)
  else if byte = 0xF0 then some (3, 0x90, 0xBF)
  else if 0xF1 ≤ byte ∧ byte ≤ 0xF3 then some (3, 0x80, 0xBF)
  else if byte = 0xF4 then some (3, 0x80, 0x8F)
  else none

/-- The bytes that go on a form, at most the given number, the first of them in a range and the
others in the range of all such bytes. -/
def continuation : Nat → Nat → Nat → List UInt8 → List Nat
  | 0, _, _, _ => []
  | _, _, _, [] => []
  | count + 1, low, high, byte :: rest =>
    if low ≤ byte.toNat ∧ byte.toNat ≤ high then
      byte.toNat :: continuation count 0x80 0xBF rest
    else []

/-- The character at the start of bytes, nothing for a fault, and the number of bytes behind the
first one that belong to it. -/
def decodeFirst (byte : UInt8) (rest : List UInt8) : Option Char × Nat :=
  let first := byte.toNat
  if first < 0x80 then (some (Char.ofNat first), 0)
  else
    match leadByte? first with
    | none => (none, 0)
    | some (count, low, high) =>
      let more := continuation count low high rest
      if more.length = count then
        let start := first % Nat.pow 2 (6 - count)
        let value := more.foldl (fun value next => value * 64 + next % 64) start
        (some (Char.ofNat value), count)
      else (none, more.length)

/-- The characters and faults of bytes. `skip` counts the bytes that still belong to the last
one. -/
def decodeFrom : Nat → List UInt8 → List (Option Char)
  | _, [] => []
  | skip + 1, _ :: rest => decodeFrom skip rest
  | 0, byte :: rest =>
    let (char, more) := decodeFirst byte rest
    char :: decodeFrom more rest

/-- The text of bytes, if there is no fault in them. -/
def decode? (bytes : List UInt8) : Option Text :=
  ((decodeFrom 0 bytes).mapM id).map ofChars

/-- The text of bytes, each fault replaced by the replacement character. -/
def decodeLossy (bytes : List UInt8) : Text :=
  ofChars ((decodeFrom 0 bytes).map fun char => char.getD '\ufffd')

/-- A run of lone surrogates, which have no bytes. -/
structure Unencodable where
  /-- The first of them. -/
  point : CodePoint
  /-- The number of code points before them. -/
  start : Nat
  /-- How many there are, one at least. -/
  count : Nat
  deriving DecidableEq, Repr

/-- The message about lone surrogates. -/
def Unencodable.message (run : Unencodable) : Text :=
  let place :=
    if run.count = 1 then
      "character '" ++ numberedEscape run.point.value ++ "' in position " ++ ofNat run.start
    else
      "characters in position " ++ ofNat run.start ++ "-" ++ ofNat (run.start + run.count - 1)
  "'utf-8' codec can't encode " ++ place ++ ": surrogates not allowed"

/-- Whether a code point is a character. -/
def isScalar (point : CodePoint) : Bool := point.satisfies fun _ => true

/-- The first lone surrogates of a text. -/
def unencodable? (text : Text) : Option Unencodable :=
  match text.dropWhile isScalar with
  | [] => none
  | point :: rest =>
    some {
      point := point
      start := (text.takeWhile isScalar).length
      count := (rest.takeWhile (!isScalar ·)).length + 1 }

/-- The bytes of a text. -/
def encode (text : Text) : Except Unencodable (List UInt8) :=
  match unencodable? text with
  | some run => .error run
  | none => .ok (toString text).toUTF8.toList

/-- The number of bytes of a text. -/
def encodedSize (text : Text) : Except Unencodable Nat :=
  match unencodable? text with
  | some run => .error run
  | none => .ok ((text.map CodePoint.size).foldl (· + ·) 0)

/-- A text has bytes exactly if all its code points are characters. -/
theorem unencodable?_eq_none_iff (text : Text) :
    unencodable? text = none ↔ ∀ point ∈ text, isScalar point := by
  induction text with
  | nil => simp [unencodable?]
  | cons point rest tail =>
    by_cases scalar : isScalar point
    · simp only [unencodable?, List.dropWhile_cons, scalar, if_true, List.mem_cons,
        forall_eq_or_imp, true_and] at tail ⊢
      rw [← tail]
      cases rest.dropWhile isScalar <;> simp
    · simp [unencodable?, scalar]

end SiteBuild.Text
