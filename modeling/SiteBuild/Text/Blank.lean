import SiteBuild.Text.Ranges

/-!
# Blank characters

The characters that count as white space: those of bidirectional type WS, B or S and the space
separators. Cutting a text at runs of blanks, and trimming it, are defined by this class. Main
statement: every character that the core library calls white space is blank
(`isBlank_of_isWhitespace`).
-/
namespace SiteBuild.Text

/-- The ranges of blank characters. -/
def blankRanges : Ranges :=
  [
    (0x9, 0xD), (0x1C, 0x20), (0x85, 0x85), (0xA0, 0xA0), (0x1680, 0x1680), (0x2000, 0x200A),
    (0x2028, 0x2029), (0x202F, 0x202F), (0x205F, 0x205F), (0x3000, 0x3000)
  ]

/-- Whether a code point is white space. -/
def isBlank (point : CodePoint) : Bool := blankRanges.hold point

/-- Every white space character of the core library is blank. -/
theorem isBlank_of_isWhitespace {char : Char} (white : char.isWhitespace) : isBlank char := by
  simp only [Char.isWhitespace, Bool.or_eq_true, decide_eq_true_eq] at white
  rcases white with ((rfl | rfl) | rfl) | rfl <;> decide

/-- The text without the blanks at its start. -/
def trimStart (text : Text) : Text := text.dropWhile isBlank

/-- The text without the blanks at its end. -/
def trimEnd (text : Text) : Text := (text.reverse.dropWhile isBlank).reverse

/-- The text without the blanks at both ends. -/
def trim (text : Text) : Text := trimEnd (trimStart text)

/-- The maximal runs of code points that are not blank. The second argument holds the run that
is being read, in reverse. -/
def wordsFrom : Text → Text → List Text
  | [], [] => []
  | [], run => [run.reverse]
  | point :: rest, run =>
    if isBlank point then
      if run.isEmpty then wordsFrom rest [] else run.reverse :: wordsFrom rest []
    else wordsFrom rest (point :: run)

/-- The maximal runs of code points that are not blank. -/
def words (text : Text) : List Text := wordsFrom text []

end SiteBuild.Text
