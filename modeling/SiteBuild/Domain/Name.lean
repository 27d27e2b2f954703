import SiteBuild.Domain.Label
import SiteBuild.Domain.Punycode
import SiteBuild.Text.Lowercase

/-!
# Domain names

A domain name is labels with dots between them, and perhaps a dot at its end. A name that holds
more than ASCII is sent with its labels encoded; one that says it is encoded must hold such labels.
Main statement: what is sent is no longer than a name may be (`length_of_encodeName`).
-/
namespace SiteBuild.Domain

/-- The mark of an encoded label. -/
def encodedMark : Text := "xn--"

/-- The greatest length of a label that is sent. -/
def greatestLabel : Nat := 63

/-- Whether a code point is one of ASCII. -/
def isAscii (point : CodePoint) : Bool := point.value < 0x80

/-- The dots between labels, the ideographic ones included. -/
def dots : List Nat := [0x2E, 0x3002, 0xFF0E, 0xFF61]

/-- A dot in its plain form, and any other code point as it is. -/
def plainDot (point : CodePoint) : CodePoint :=
  if dots.contains point.value then .scalar '.' else point

/-- The labels of a name, and whether a dot ends it. -/
def labelsOf (name : Text) : List Text × Bool :=
  let labels := Text.splitAt (.scalar '.') (name.map plainDot)
  if labels.getLast? == some [] then (labels.dropLast, true) else (labels, false)

/-- Check a label of ASCII; an encoded one is checked as what it stands for. -/
def checkEncodedLabel (label : Text) : Except LabelFault Unit :=
  let small := Text.lower label
  if Text.startsWith encodedMark small then
    let code := small.drop encodedMark.length
    if code.isEmpty || Text.endsWith "-" code then .error .malformed
    else
      match Punycode.decode? code with
      | none => .error .malformed
      | some decoded => checkLabel decoded
  else checkLabel small

/-- Refuse a name that is empty or too long. -/
def checkLength (name : Text) : Except LabelFault Unit :=
  if name.isEmpty || greatestLength < name.length then .error .malformed else .ok ()

/-- Check a name of ASCII. -/
def checkEncodedName (name : Text) : Except LabelFault Unit := do
  checkLength name
  (labelsOf name).1.forM checkEncodedLabel

/-- A text that is no longer than it may be. -/
def within (greatest : Nat) (text : Text) : Except LabelFault Text :=
  if greatest < text.length then .error .malformed else .ok text

/-- What is within a length is no longer. -/
theorem length_of_within {greatest : Nat} {text kept : Text}
    (short : within greatest text = .ok kept) : kept.length ≤ greatest := by
  rw [within] at short
  split at short
  · contradiction
  · cases short
    omega

/-- A label as it is sent. -/
def encodeLabel (label : Text) : Except LabelFault Text := do
  if label.all isAscii then checkEncodedLabel label else checkLabel label
  within greatestLabel
    (if label.all isAscii then label else encodedMark ++ Punycode.encode label)

/-- The greatest length of a name that is sent; a dot at its end has a place of its own. -/
def greatestName (closed : Bool) : Nat := if closed then greatestLength else greatestLength - 1

/-- No name is longer than one with a dot at its end. -/
theorem greatestName_le (closed : Bool) : greatestName closed ≤ greatestLength := by
  cases closed <;> decide

/-- A name as it is sent. -/
def encodeName (name : Text) : Except LabelFault Text := do
  checkLength name
  let (labels, closed) := labelsOf name
  let ending : Text := if closed then "." else []
  within (greatestName closed) (Text.join "." (← labels.mapM encodeLabel) ++ ending)

/-- What is sent is no longer than a name may be. -/
theorem length_of_encodeName {name encoded : Text} (sent : encodeName name = .ok encoded) :
    encoded.length ≤ greatestLength := by
  simp only [encodeName, bind, Except.bind] at sent
  split at sent
  · contradiction
  · split at sent
    · contradiction
    · exact Nat.le_trans (length_of_within sent) (greatestName_le _)

end SiteBuild.Domain
