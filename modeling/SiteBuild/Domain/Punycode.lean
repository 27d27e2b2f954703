import SiteBuild.Text.Search

/-!
# Punycode

A text is written in ASCII: first its ASCII characters, then where the other characters go. These
are inserted in the order of their numbers, and each insertion is one number: how many places are
passed over since the last one, a round through all places for each number between. The digits of
such a number are worth the more the further back they stand, and the first one below its threshold
ends it. The thresholds follow the numbers before. Main statements: a number that is written reads
back (`readNumber?_writeNumber`), and what is behind a number is shorter than the digits it was read
from (`length_of_readNumber?`).
-/
namespace SiteBuild.Domain.Punycode

/-- The number of digits. -/
def base : Nat := 36

/-- The digits by their values. -/
def digits : List Char := "abcdefghijklmnopqrstuvwxyz0123456789".toList

/-- The value of a digit, in lower or upper case. -/
def digitValue? (point : CodePoint) : Option Nat :=
  if point.value < 0x80 then digits.idxOf? point.toChar.toLower else none

/-- The digit of a value. -/
def digitOf (value : Nat) : CodePoint := .scalar (digits.getD value 'a')

/-- The threshold of the digit at a place. -/
def threshold (bias place : Nat) : Nat := min 26 (max 1 (base * (place + 1) - bias))

/-- A threshold is not zero. -/
theorem threshold_pos (bias place : Nat) : 0 < threshold bias place := by
  rw [threshold]
  omega

/-- A threshold is not beyond twenty-six. -/
theorem threshold_le (bias place : Nat) : threshold bias place ≤ 26 := Nat.min_le_left ..

/-- The bias that a number settles to. -/
def settledBias (bias number : Nat) : Nat :=
  if 455 < number then settledBias (bias + base) (number / 35)
  else bias + base * number / (number + 38)
termination_by number

/-- The bias behind a number. The first number is likely to be far greater than the next ones; the
more characters there are, the more places they are spread over. -/
def biasBehind (number : Nat) (isFirst : Bool) (characters : Nat) : Nat :=
  let damped := if isFirst then number / 700 else number / 2
  settledBias 0 (damped + damped / characters)

/-- The bias of the first number. -/
def startBias : Nat := 72

/-- The first number that is not one of ASCII. -/
def startNumber : Nat := 0x80

/-- A number, and the digits behind it. -/
def readNumber? (bias place weight value : Nat) : Text → Option (Nat × Text)
  | [] => none
  | point :: rest =>
    match digitValue? point with
    | none => none
    | some digit =>
      let read := value + digit * weight
      let limit := threshold bias place
      if digit < limit then some (read, rest)
      else readNumber? bias (place + 1) (weight * (base - limit)) read rest

/-- What is behind a number is shorter than the digits it was read from. -/
theorem length_of_readNumber? {bias place weight value number : Nat} {text rest : Text}
    (read : readNumber? bias place weight value text = some (number, rest)) :
    rest.length < text.length := by
  induction text generalizing place weight value with
  | nil => simp [readNumber?] at read
  | cons point more shorter =>
    rw [readNumber?] at read
    split at read
    · simp at read
    · dsimp only at read
      split at read
      · have behind : more = rest := by simp_all
        simp [behind]
      · exact Nat.lt_succ_of_lt (shorter read)

/-- Insert the characters that digits tell into a text. Characters up to the given number are there
already; the places before the given one are passed over. -/
def insertPoints? (text : Text) (number place bias : Nat) (isFirst : Bool) (code : Text) :
    Option Text :=
  match _ : readNumber? bias 0 1 0 code with
  | none => if code.isEmpty then some text else none
  | some (passed, rest) =>
    let places := text.length + 1
    let next := number + (place + passed) / places
    match CodePoint.ofValue? next with
    | none => none
    | some point =>
      let spot := (place + passed) % places
      let bias := biasBehind passed isFirst places
      insertPoints? (text.insertIdx spot point) next (spot + 1) bias false rest
termination_by code.length
decreasing_by exact length_of_readNumber? ‹_›

/-- The text that a code stands for. The ASCII characters stand before its last hyphen. -/
def decode? (code : Text) : Option Text :=
  let behind := Text.behindLast '-' code
  let start := code.take (code.length - behind.length - 1)
  insertPoints? start startNumber 0 startBias true behind

/-- The digits of a number. -/
def writeNumber (bias place number : Nat) : Text :=
  let limit := threshold bias place
  if number < limit then [digitOf number]
  else
    let left := number - limit
    digitOf (limit + left % (base - limit)) :: writeNumber bias (place + 1) (left / (base - limit))
termination_by number
decreasing_by
  have positive := threshold_pos bias place
  exact Nat.lt_of_le_of_lt (Nat.div_le_self ..) (by omega)

/-- A digit has the value that it is the digit of. -/
theorem digitValue?_digitOf {value : Nat} (small : value < base) :
    digitValue? (digitOf value) = some value := by
  have all : ∀ digit ∈ List.range base, digitValue? (digitOf digit) = some digit := by decide
  exact all value (List.mem_range.mpr small)

/-- A number that is written reads back, whatever stands behind it. -/
theorem readNumber?_writeNumber (bias place weight value number : Nat) (rest : Text) :
    readNumber? bias place weight value (writeNumber bias place number ++ rest) =
      some (value + number * weight, rest) := by
  fun_induction writeNumber bias place number generalizing weight value with
  | case1 place number limit small =>
    have few : number < base :=
      Nat.lt_of_lt_of_le small (Nat.le_trans (threshold_le bias place) (by decide))
    simp [readNumber?, digitValue?_digitOf few, small, limit]
  | case2 place number limit great left back =>
    have most := threshold_le bias place
    have few : limit + left % (base - limit) < base := by
      have := Nat.mod_lt left (show 0 < base - limit by simp only [base]; omega)
      omega
    have whole :
        limit + left % (base - limit) + left / (base - limit) * (base - limit) = number := by
      have := Nat.mod_add_div' left (base - limit)
      omega
    have worth : (limit + left % (base - limit)) * weight +
        left / (base - limit) * (weight * (base - limit)) = number * weight := by
      rw [Nat.mul_comm weight, ← Nat.mul_assoc, ← Nat.add_mul, whole]
    rw [List.cons_append, readNumber?, digitValue?_digitOf few]
    simp only [show ¬limit + left % (base - limit) < threshold bias place by omega, if_false]
    rw [back, Nat.add_assoc, worth]

/-- A code that is being written. -/
structure Draft where
  /-- How many places are passed over since the last insertion. -/
  passed : Nat := 0
  /-- How many characters are there already. -/
  characters : Nat
  /-- The bias of the next number. -/
  bias : Nat := startBias
  /-- Whether no number is written yet. -/
  isFirst : Bool := true
  /-- The digits. -/
  code : Text := []

/-- Pass over a character, or insert it. -/
def Draft.see (number : Nat) (draft : Draft) (point : CodePoint) : Draft :=
  if point.value < number then { draft with passed := draft.passed + 1 }
  else if point.value = number then {
    characters := draft.characters + 1
    bias := biasBehind draft.passed draft.isFirst (draft.characters + 1)
    isFirst := false
    code := draft.code ++ writeNumber draft.bias 0 draft.passed }
  else draft

/-- Write where the characters of the given numbers go, which are all at least `next`. -/
def Draft.write (text : Text) (draft : Draft) (next : Nat) : List Nat → Draft
  | [] => draft
  | number :: rest =>
    let passed := draft.passed + (number - next) * (draft.characters + 1)
    let seen := text.foldl (Draft.see number) { draft with passed := passed }
    Draft.write text { seen with passed := seen.passed + 1 } (number + 1) rest

/-- The code of a text. -/
def encode (text : Text) : Text :=
  let start := text.filter fun point => point.value < startNumber
  let numbers := (text.map CodePoint.value).filter fun number => startNumber ≤ number
  let ordered := (numbers.mergeSort (· ≤ ·)).eraseDups
  let draft := Draft.write text { characters := start.length } startNumber ordered
  if start.isEmpty then draft.code else start ++ .scalar '-' :: draft.code

end SiteBuild.Domain.Punycode
