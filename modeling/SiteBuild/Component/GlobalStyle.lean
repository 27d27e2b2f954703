import SiteBuild.Text.Blank
import SiteBuild.Text.Search
import SiteBuild.Text.Word

/-!
# Global style elements

A component may say of a style element that it is global, by an attribute that the compiler does
not know. The rules of such an element are enclosed in a `:global` block, and its other attributes
are kept. The attribute is looked for by its spelling alone, from the first blank of the start tag
on, and may have a value.
-/
namespace SiteBuild.Component

/-- Whether a code point is a small letter, in either case. The long s is an s. -/
def isLetter (letter point : CodePoint) : Bool :=
  point == letter || point.satisfies fun char =>
    letter == char.toLower || (letter == 's' && char == '\u017f')

/-- The text behind a word in small letters, if the text starts with it in either case. -/
def behindWord? : Text → Text → Option Text
  | [], text => some text
  | _ :: _, [] => none
  | letter :: word, point :: rest => if isLetter letter point then behindWord? word rest else none

/-- The parts of a text before and behind the first place of a word, in either case. -/
def cutAtWord? (word : Text) : Text → Option (Text × Text)
  | [] => (behindWord? word []).map fun behind => ([], behind)
  | point :: rest =>
    match behindWord? word (point :: rest) with
    | some behind => some ([], behind)
    | none => (cutAtWord? word rest).map fun parts => (point :: parts.1, parts.2)

/-- The parts of a style element behind the word that makes it global: the rest of its start tag,
its body, and the text behind it. -/
def restOfElement? (text : Text) : Option (Text × Text × Text) :=
  match Text.startingAt '>' text with
  | [] => none
  | _ :: body =>
    (cutAtWord? "</style>" body).map fun parts => (Text.before '>' text, parts.1, parts.2)

/-- The text behind a value in the given quotes. -/
def behindQuoted? (quote : CodePoint) : Text → Option Text
  | .scalar '=' :: first :: rest =>
    if first == quote && rest.contains quote then some (Text.behind quote rest) else none
  | _ => none

/-- The text behind a value without quotes, or the text itself if there is none. -/
def behindBare (text : Text) : Text :=
  match text with
  | .scalar '=' :: rest => rest.dropWhile fun point => !Text.isBlank point && point != '>'
  | text => text

/-- The parts of an element behind the name of the attribute: a value is dropped, if the element
goes on behind it. -/
def behindAttribute? (text : Text) : Option (Text × Text × Text) :=
  let readings :=
    (behindQuoted? '\x22' text).toList ++ (behindQuoted? '\x27' text).toList ++
      [behindBare text]
  readings.findSome? restOfElement?

/-- Whether a name goes on with a character. -/
def goesOn : Text → Bool
  | [] => false
  | point :: _ => Text.isWordChar point || point == '-'

/-- The parts of an element behind the attribute, if a text of blanks and the attribute comes
next. -/
def globalAttribute? (text : Text) : Option (Text × Text × Text) := do
  let behind ← behindWord? "global" (text.dropWhile Text.isBlank)
  if goesOn behind then none else behindAttribute? behind

/-- The other attributes, the body and the text behind a global style element, from behind its
name on. `before` holds the attributes passed, in reverse. -/
def globalElement? (before : Text) : Text → Option (Text × Text × Text)
  | [] => none
  | point :: rest =>
    if point == '>' then none
    else
      let here := if Text.isBlank point then globalAttribute? (point :: rest) else none
      match here with
      | some (after, body, behind) =>
        some (Text.trimEnd (before.reverse ++ after), body, behind)
      | none => globalElement? (point :: before) rest

/-- The element with its rules inside a block. -/
def wrapped (attributes body : Text) : Text :=
  "<style" ++ attributes ++ ">\n:global \x7b\n" ++ body ++ "\n\x7d\n</style>"

/-- A global style element at the start of a text with its rules enclosed, and the text behind
it. -/
def enclosedElement? (text : Text) : Option (Text × Text) := do
  let inside ← behindWord? "<style" text
  let (attributes, body, behind) ← globalElement? [] inside
  return (wrapped attributes body, behind)

/-- Enclose the rules of all global style elements. `skip` counts the characters that an element
still covers. -/
def encloseFrom : Nat → Text → Text
  | _, [] => []
  | skip + 1, _ :: rest => encloseFrom skip rest
  | 0, point :: rest =>
    match enclosedElement? (point :: rest) with
    | some (element, behind) =>
      element ++ encloseFrom (rest.length - behind.length) rest
    | none => point :: encloseFrom 0 rest

/-- The component with the rules of its global style elements enclosed. -/
def encloseGlobalStyles (source : Text) : Text := encloseFrom 0 source

/-- What is in front of the first global style element stays as it is. -/
theorem encloseGlobalStyles_append {front rest : Text}
    (free : ∀ first second, front = first ++ second → second ≠ [] →
      enclosedElement? (second ++ rest) = none) :
    encloseGlobalStyles (front ++ rest) = front ++ encloseGlobalStyles rest := by
  induction front with
  | nil => rfl
  | cons point front tail =>
    have here := free [] (point :: front) rfl (by simp)
    rw [List.cons_append] at here
    have behind := tail fun first second cut => free (point :: first) second (by simp [cut])
    simpa [encloseGlobalStyles, encloseFrom, here] using behind

end SiteBuild.Component
