import SiteBuild.Script.Token
import SiteBuild.Text.Blank
import SiteBuild.Text.Search

/-!
# Cutting module code into tokens

Code is a sequence of lexemes: blanks and comments, then one token. Template literals are read
in parts, so that a substitution between two parts is cut into tokens like any other code; a
stack remembers which open brace is a substitution. A slash opens a regular expression where the
token before it cannot end an operand; one that has no second slash on its line divides after
all. Main statement: what a reader returns makes up its text (`append_of_readGap` and its
fellows), so that nothing is skipped or read twice.
-/
namespace SiteBuild.Script

/-- Whether a code point is part of a name. -/
def isNamePoint (point : CodePoint) : Bool :=
  127 < point.value ||
    point.satisfies fun char => char.isAlphanum || char == '_' || char == '$'

/-- The names behind which an operand is expected. -/
def operandKeywords : List Text :=
  ["return", "typeof", "instanceof", "in", "of", "new", "delete", "void", "throw", "case", "do",
    "else", "yield", "await"]

/-- Where the reading of a gap stands. -/
inductive Gap where
  /-- Between comments. -/
  | blank
  /-- In a comment that ends with its line. -/
  | line
  /-- In a comment that ends with a star and a slash; `left` characters are left from its start
  on. -/
  | block (left : Nat)

/-- Read the blanks and comments at the start of a text: the gap and the rest. A comment without
an end is told by the number of characters left from its start on. -/
def readGap : Gap → Text → Except Nat (Text × Text)
  | .block left, [] => .error left
  | _, [] => .ok ([], [])
  | .blank, .scalar '/' :: .scalar '/' :: rest =>
    (readGap .line rest).map fun read => (.scalar '/' :: .scalar '/' :: read.1, read.2)
  | .blank, .scalar '/' :: .scalar '*' :: rest =>
    (readGap (.block (rest.length + 2)) rest).map fun read =>
      (.scalar '/' :: .scalar '*' :: read.1, read.2)
  | .blank, point :: rest =>
    if Text.isBlank point then (readGap .blank rest).map fun read => (point :: read.1, read.2)
    else .ok ([], point :: rest)
  | .line, .scalar '\n' :: rest =>
    (readGap .blank rest).map fun read => (.scalar '\n' :: read.1, read.2)
  | .line, point :: rest => (readGap .line rest).map fun read => (point :: read.1, read.2)
  | .block _, .scalar '*' :: .scalar '/' :: rest =>
    (readGap .blank rest).map fun read => (.scalar '*' :: .scalar '/' :: read.1, read.2)
  | .block left, point :: rest =>
    (readGap (.block left) rest).map fun read => (point :: read.1, read.2)

/-- What a literal denotes, its text, and the text behind it. -/
structure Literal where
  /-- What it denotes. -/
  value : Text
  /-- The characters it is written with. -/
  raw : Text
  /-- The text behind it. -/
  rest : Text

/-- The literal with one more piece in front. -/
def Literal.prepend (value raw : Text) (literal : Literal) : Literal :=
  { literal with value := value ++ literal.value, raw := raw ++ literal.raw }

/-- Read a string literal from behind its opening quote. A backslash stands for the character
behind it, and for nothing before a line break. -/
def readStringBody? (quote : CodePoint) : Text → Option Literal
  | [] => none
  | [.scalar '\\'] => none
  | .scalar '\\' :: point :: rest =>
    (readStringBody? quote rest).map
      (.prepend (if point == '\n' then [] else [point]) [.scalar '\\', point])
  | point :: rest =>
    if point == quote then some ⟨[], [point], rest⟩
    else if point == '\n' then none
    else (readStringBody? quote rest).map (.prepend [point] [point])

/-- Read a part of a template literal up to its closing backtick or its next substitution: its
text, whether a substitution opens, and the text behind it. -/
def readTemplatePart? : Text → Option (Text × Bool × Text)
  | [] => none
  | [.scalar '\\'] => none
  | .scalar '\\' :: point :: rest =>
    (readTemplatePart? rest).map fun part => (.scalar '\\' :: point :: part.1, part.2)
  | .scalar '\x60' :: rest => some ([.scalar '\x60'], false, rest)
  | .scalar '$' :: .scalar '\x7b' :: rest => some ([.scalar '$', .scalar '\x7b'], true, rest)
  | point :: rest => (readTemplatePart? rest).map fun part => (point :: part.1, part.2)

/-- Read a regular expression from behind its first slash, with its flags. Inside a class in
brackets a slash does not end it. -/
def readRegexBody? (inClass : Bool) : Text → Option (Text × Text)
  | [] => none
  | [.scalar '\\'] => none
  | .scalar '\\' :: point :: rest =>
    (readRegexBody? inClass rest).map fun body => (.scalar '\\' :: point :: body.1, body.2)
  | .scalar '\n' :: _ => none
  | .scalar '/' :: rest =>
    if inClass then (readRegexBody? inClass rest).map fun body => (.scalar '/' :: body.1, body.2)
    else some (.scalar '/' :: rest.takeWhile isNamePoint, rest.dropWhile isNamePoint)
  | point :: rest =>
    (readRegexBody? (if inClass then point != ']' else point == '[') rest).map fun body =>
      (point :: body.1, body.2)

/-- What the reading of a token depends on besides the text. -/
structure LexerState where
  /-- For each open brace, the inner ones first, whether it opened a substitution. -/
  braces : List Bool
  /-- Whether a slash can open a regular expression. -/
  operandNext : Bool
  deriving Repr

/-- The state before the first token. -/
def LexerState.start : LexerState := ⟨[], true⟩

/-- A token of a text, the blanks and comments before it, and the state and the text behind. -/
structure Lexeme where
  /-- The blanks and comments before the token. -/
  gap : Text
  /-- The kind of the token. -/
  kind : TokenKind
  /-- What the token denotes. -/
  value : Text
  /-- The characters it is written with. -/
  raw : Text
  /-- The state behind it. -/
  state : LexerState
  /-- The text behind it. -/
  rest : Text

/-- The token of a template part that opens with the given character. -/
def templateLexeme (gap : Text) (opening : CodePoint) (braces : List Bool) (text : Text) :
    Except (Unterminated × Nat) Lexeme :=
  match readTemplatePart? text with
  | none => .error (.template, text.length + 1)
  | some (part, substitutes, rest) =>
    .ok ⟨gap, .template, opening :: part, opening :: part,
      ⟨if substitutes then true :: braces else braces, substitutes⟩, rest⟩

/-- The token of a string literal that opens with the given quote. -/
def stringLexeme (gap : Text) (quote : CodePoint) (braces : List Bool) (text : Text) :
    Except (Unterminated × Nat) Lexeme :=
  match readStringBody? quote text with
  | none => .error (.string, text.length + 1)
  | some literal =>
    .ok ⟨gap, .string, literal.value, quote :: literal.raw, ⟨braces, false⟩, literal.rest⟩

/-- The token of a name that starts with the given character. -/
def nameLexeme (gap : Text) (first : CodePoint) (braces : List Bool) (text : Text) : Lexeme :=
  let name := first :: text.takeWhile isNamePoint
  ⟨gap, .name, name, name, ⟨braces, operandKeywords.contains name⟩,
    text.dropWhile isNamePoint⟩

/-- The token of a mark. A closing brace takes the innermost open brace with it. -/
def markLexeme (gap : Text) (mark : CodePoint) (braces : List Bool) (text : Text) : Lexeme :=
  let inside :=
    if mark == '\x7b' then false :: braces
    else if mark == '\x7d' then braces.drop 1
    else braces
  ⟨gap, .mark, [mark], [mark], ⟨inside, mark != ')' && mark != ']'⟩, text⟩

/-- The token that starts with a character, in front of the given text. -/
def lexemeAt (state : LexerState) (gap : Text) (first : CodePoint) (text : Text) :
    Except (Unterminated × Nat) Lexeme :=
  if first == '\x27' || first == '\x22' then stringLexeme gap first state.braces text
  else if first == '\x60' then templateLexeme gap first state.braces text
  else if first == '\x7d' && state.braces.head? == some true then
    templateLexeme gap first (state.braces.drop 1) text
  else
    let regex? := if first == '/' && state.operandNext then readRegexBody? false text else none
    match regex? with
    | some (body, rest) =>
      .ok ⟨gap, .regex, first :: body, first :: body, ⟨state.braces, false⟩, rest⟩
    | none =>
      if isNamePoint first then .ok (nameLexeme gap first state.braces text)
      else .ok (markLexeme gap first state.braces text)

/-- What a gap holds and what is behind it make up the text. -/
theorem append_of_readGap {mode : Gap} {text gap rest : Text}
    (found : readGap mode text = .ok (gap, rest)) : gap ++ rest = text := by
  fun_induction readGap mode text generalizing gap rest <;>
    simp_all [Except.map] <;> grind

/-- What a literal is written with and what is behind it make up the text. -/
theorem append_of_readStringBody? {quote : CodePoint} {text : Text} {literal : Literal}
    (found : readStringBody? quote text = some literal) : literal.raw ++ literal.rest = text := by
  fun_induction readStringBody? quote text generalizing literal <;>
    grind [Literal.prepend, Option.map_eq_some_iff]

/-- A template part and what is behind it make up the text. -/
theorem append_of_readTemplatePart? {text part rest : Text} {substitutes : Bool}
    (found : readTemplatePart? text = some (part, substitutes, rest)) : part ++ rest = text := by
  fun_induction readTemplatePart? text generalizing part rest <;>
    grind [Option.map_eq_some_iff]

/-- A regular expression and what is behind it make up the text. -/
theorem append_of_readRegexBody? {inClass : Bool} {text body rest : Text}
    (found : readRegexBody? inClass text = some (body, rest)) : body ++ rest = text := by
  fun_induction readRegexBody? inClass text generalizing body rest <;>
    grind [List.takeWhile_append_dropWhile, Option.map_eq_some_iff]

/-- A token starts with the given character, and with what is behind it makes up the text. -/
theorem append_of_lexemeAt {state : LexerState} {gap text : Text} {first : CodePoint}
    {lexeme : Lexeme} (found : lexemeAt state gap first text = .ok lexeme) :
    ∃ more, lexeme.raw = first :: more ∧ more ++ lexeme.rest = text := by
  unfold lexemeAt stringLexeme templateLexeme nameLexeme markLexeme at found
  grind [append_of_readStringBody?, append_of_readTemplatePart?, append_of_readRegexBody?,
    List.takeWhile_append_dropWhile]

/-- The text behind a token is shorter than the one it starts. -/
theorem length_rest_of_lexemeAt {state : LexerState} {gap text : Text} {first : CodePoint}
    {lexeme : Lexeme} (found : lexemeAt state gap first text = .ok lexeme) :
    lexeme.rest.length ≤ text.length := by
  obtain ⟨more, -, whole⟩ := append_of_lexemeAt found
  rw [← whole, List.length_append]
  omega

/-- Read the lexemes of a text; the second part is the gap behind the last token. What has no end
is told by the number of characters left from its start on. -/
def lexemesFrom (state : LexerState) (text : Text) :
    Except (Unterminated × Nat) (List Lexeme × Text) :=
  match _ : readGap .blank text with
  | .error left => .error (.comment, left)
  | .ok (gap, []) => .ok ([], gap)
  | .ok (gap, first :: rest) =>
    match _ : lexemeAt state gap first rest with
    | .error fault => .error fault
    | .ok lexeme =>
      (lexemesFrom lexeme.state lexeme.rest).map fun read => (lexeme :: read.1, read.2)
  termination_by text.length
  decreasing_by
    have whole := append_of_readGap ‹_›
    have shorter := length_rest_of_lexemeAt ‹_›
    rw [← whole, List.length_append, List.length_cons]
    omega

/-- The line at the start of a text that names an interpreter, if there is one, and the rest. -/
def interpreterLine (text : Text) : Text × Text :=
  if Text.startsWith "#!" text then (Text.before '\n' text, Text.startingAt '\n' text)
  else ([], text)

/-- The tokens of lexemes, the first of which stands behind a number of characters. -/
def tokensFrom (offset : Nat) : List Lexeme → List Token
  | [] => []
  | lexeme :: rest =>
    let start := offset + lexeme.gap.length
    ⟨lexeme.kind, lexeme.value, start⟩ ::
      tokensFrom (start + lexeme.raw.length) rest

/-- The tokens of module code. -/
def tokens (code : Text) : Except ScanError (List Token) :=
  let (line, body) := interpreterLine code
  match lexemesFrom .start body with
  | .error (part, left) => .error ⟨part, line.length + body.length - left⟩
  | .ok (lexemes, _) => .ok (tokensFrom line.length lexemes)

end SiteBuild.Script
