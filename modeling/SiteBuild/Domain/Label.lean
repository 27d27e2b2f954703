import SiteBuild.Domain.Direction
import SiteBuild.Domain.Joining
import SiteBuild.Domain.Letters
import SiteBuild.Text.Composed
import SiteBuild.Text.Search

/-!
# Labels of domain names

Which texts may be a label. A label is composed, does not start with a mark, and keeps its hyphens
away from its ends and from where the mark of an encoded label has them. Most characters may stand
anywhere or nowhere; some need certain characters around them. The directions of the characters
have to go together. Main statement: a label passes if all of that holds, and only then
(`checkLabel_eq_ok_iff`).
-/
namespace SiteBuild.Domain

/-- Why a label is refused. -/
inductive LabelFault where
  /-- It is not formed like a label. -/
  | malformed
  /-- It holds a character that stands in no label. -/
  | badPoint
  /-- It holds a character without what has to stand around it. -/
  | badContext
  /-- The directions of its characters do not go together. -/
  | badDirection
  deriving DecidableEq, Repr

/-- The name of a fault. -/
def LabelFault.label : LabelFault → String
  | .malformed => "IDNAError"
  | .badPoint => "InvalidCodepoint"
  | .badContext => "InvalidCodepointContext"
  | .badDirection => "IDNABidiError"

/-- The greatest length of a label that is checked, and of a whole name with a dot at its end. -/
def greatestLength : Nat := 254

/-- The ranges of the digits of Arabic. -/
def arabicDigits : Text.Ranges := [(0x660, 0x669)]

/-- The ranges of the digits of Persian. -/
def persianDigits : Text.Ranges := [(0x6F0, 0x6F9)]

/-- Whether a character tells letters whether to join. -/
def isJoiner (point : CodePoint) : Bool := point.value == 0x200C || point.value == 0x200D

/-- Whether a character has around it what it needs; nothing stands for a character that stands in
no label. The text before it is given in reverse. -/
def hasContext? (before after : Text) (point : CodePoint) : Option Bool :=
  match point.value with
  | 0x200C => some (endsWithVirama before || wouldJoin before after)
  | 0x200D => some (endsWithVirama before)
  | 0xB7 => some (before.head? == some (.scalar 'l') && after.head? == some (.scalar 'l'))
  | 0x375 => some (after.head?.any greekRanges.hold)
  | 0x5F3 | 0x5F4 => some (before.head?.any hebrewRanges.hold)
  | 0x30FB => some ((before ++ after).any japaneseRanges.hold)
  | _ =>
    if arabicDigits.hold point then some (!(before ++ after).any persianDigits.hold)
    else if persianDigits.hold point then some (!(before ++ after).any arabicDigits.hold)
    else none

/-- Check a character of a label. The text before it is given in reverse. A joiner out of its place
makes the label malformed. -/
def checkPoint (before after : Text) (point : CodePoint) : Except LabelFault Unit :=
  if isLetter point then .ok ()
  else
    match hasContext? before after point with
    | none => .error .badPoint
    | some false => .error (if isJoiner point then .malformed else .badContext)
    | some true => .ok ()

/-- Check the characters of a label. The text before them is given in reverse. -/
def checkPoints (before : Text) : Text → Except LabelFault Unit
  | [] => .ok ()
  | point :: after => do
    checkPoint before after point
    checkPoints (point :: before) after

/-- Whether the hyphens of a label stand where they may. -/
def hasGoodHyphens (label : Text) : Bool :=
  !Text.startsWith "--" (label.drop 2) && !Text.startsWith "-" label && !Text.endsWith "-" label

/-- Whether a label is formed like one. -/
def isFormed (label : Text) : Bool :=
  !label.isEmpty && label.length ≤ greatestLength && Text.isComposed label &&
    hasGoodHyphens label && !label.head?.any Text.isMark

/-- Check a label. -/
def checkLabel (label : Text) : Except LabelFault Unit := do
  if !isFormed label then throw .malformed
  checkPoints [] label
  if !isDirected label then throw .badDirection

/-- A label passes if it is formed like one and its characters and their directions may stand. -/
theorem checkLabel_eq_ok_iff {label : Text} :
    checkLabel label = .ok () ↔
      isFormed label ∧ checkPoints [] label = .ok () ∧ isDirected label := by
  simp only [checkLabel, bind, Except.bind]
  cases isFormed label with
  | false => simp [throw, throwThe, MonadExceptOf.throw]
  | true =>
    cases checkPoints [] label with
    | error fault => simp
    | ok done =>
      cases isDirected label <;> simp [throw, throwThe, MonadExceptOf.throw, pure, Except.pure]

end SiteBuild.Domain
