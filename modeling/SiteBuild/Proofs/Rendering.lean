import SiteBuild.Proofs.Spelling
import SiteBuild.Script.Imports

/-!
# Rendered tokens

A sequence of tokens is rendered with blanks and comments between them. Two tokens need something
between them only where they would run into each other: a name into a name, and a division slash
into a comment. Main statement: a rendered sequence is cut into the tokens it is made of, if each
of them fits into the state that the tokens before it leave (`tokens_of_rendering`).
-/
namespace SiteBuild.Script

/-- A name or a keyword. -/
structure Word where
  /-- What is written. -/
  text : Text
  /-- It is not empty. -/
  nonempty : text ≠ []
  /-- It is made of points of names that are not blank. -/
  points : ∀ point ∈ text, isNamePoint point ∧ Text.isBlank point = false

/-- The marks that stand in imports and expressions. -/
inductive Mark where
  /-- The end of a statement. -/
  | semicolon
  /-- A comma. -/
  | comma
  /-- An opening brace. -/
  | opening
  /-- A closing brace. -/
  | closing
  /-- A star. -/
  | star
  /-- An equals sign. -/
  | equals
  /-- A colon. -/
  | colon
  /-- An opening parenthesis. -/
  | left
  /-- A closing parenthesis. -/
  | right
  /-- A slash that divides. -/
  | slash
  deriving DecidableEq, Repr

/-- The character of a mark. -/
def Mark.char : Mark → Char
  | .semicolon => ';'
  | .comma => ','
  | .opening => '\x7b'
  | .closing => '\x7d'
  | .star => '*'
  | .equals => '='
  | .colon => ':'
  | .left => '('
  | .right => ')'
  | .slash => '/'

/-- A token as it is written. -/
inductive Spelled where
  /-- A name or a keyword. -/
  | word (word : Word)
  /-- A string literal. -/
  | string (quote : Quote) (content : Quoted quote)
  /-- A regular expression. -/
  | regex (regex : Regex)
  /-- A part of a template literal; it starts the literal or ends a substitution, and it starts a
  substitution or ends the literal. -/
  | template (starts : Bool) (content : TemplateText) (substitutes : Bool)
  /-- A mark. -/
  | mark (mark : Mark)

namespace Spelled

/-- The characters of a token. -/
def raw : Spelled → Text
  | .word name => name.text
  | .string quote content => quote.point :: (spell content.units ++ [quote.point])
  | .regex pattern => .scalar '/' :: pattern.body
  | .template starts content substitutes =>
    .scalar (if starts then '\x60' else '\x7d') ::
      (spell content.units ++ templateEnd substitutes)
  | .mark sign => [.scalar sign.char]

/-- The token that is written, without its place. -/
def token : Spelled → Token
  | .word name => ⟨.name, name.text, 0⟩
  | .string _ content => ⟨.string, content.units.flatMap Written.value, 0⟩
  | .regex pattern => ⟨.regex, .scalar '/' :: pattern.body, 0⟩
  | .template starts content substitutes =>
    ⟨.template, Spelled.raw (.template starts content substitutes), 0⟩
  | .mark sign => ⟨.mark, [.scalar sign.char], 0⟩

/-- Whether a token is read as such in a state: a slash opens a regular expression where an
operand is expected and divides elsewhere, and a closing brace ends the substitution that it
belongs to. -/
def FitsIn (state : LexerState) : Spelled → Prop
  | .regex _ => state.operandNext = true
  | .template starts _ _ => starts = true ∨ state.braces.head? = some true
  | .mark .slash => state.operandNext = false
  | .mark .closing => state.braces.head? ≠ some true
  | _ => True

/-- The state behind a token. -/
def after (state : LexerState) : Spelled → LexerState
  | .word name => ⟨state.braces, operandKeywords.contains name.text⟩
  | .string _ _ => ⟨state.braces, false⟩
  | .regex _ => ⟨state.braces, false⟩
  | .template starts _ substitutes =>
    let outer := if starts then state.braces else state.braces.drop 1
    ⟨if substitutes then true :: outer else outer, substitutes⟩
  | .mark .opening => ⟨false :: state.braces, true⟩
  | .mark .closing => ⟨state.braces.drop 1, true⟩
  | .mark sign => ⟨state.braces, sign != .right⟩

/-- Whether a token does not run into the text behind it. -/
def Apart (text : Text) : Spelled → Prop
  | .word _ => ¬GoesOn text
  | .regex _ => ¬GoesOn text
  | .mark sign =>
    sign = .slash → text.head? ≠ some (.scalar '/') ∧ text.head? ≠ some (.scalar '*')
  | .string _ _ => True
  | .template _ _ _ => True

instance (text : Text) : (spelled : Spelled) → Decidable (spelled.Apart text)
  | .word _ => inferInstanceAs (Decidable (¬GoesOn text))
  | .regex _ => inferInstanceAs (Decidable (¬GoesOn text))
  | .mark sign => inferInstanceAs (Decidable (sign = .slash →
      text.head? ≠ some (.scalar '/') ∧ text.head? ≠ some (.scalar '*')))
  | .string _ _ => inferInstanceAs (Decidable True)
  | .template _ _ _ => inferInstanceAs (Decidable True)

end Spelled

/-- Whether tokens fit one after the other. -/
def Fits : LexerState → List Spelled → Prop
  | _, [] => True
  | state, spelled :: rest => spelled.FitsIn state ∧ Fits (spelled.after state) rest

/-- The text of tokens with blanks and comments between them. -/
inductive Rendering : List Spelled → Text → Prop where
  /-- Behind the last token there may be blanks and comments. -/
  | nil (spacing : Spacing) : Rendering [] spacing.text
  /-- Before a token there may be blanks and comments, and it does not run into what follows. -/
  | cons {rest : List Spelled} {text : Text} (spacing : Spacing) (spelled : Spelled)
      (apart : spelled.Apart text) (behind : Rendering rest text) :
      Rendering (spelled :: rest) (spacing.text ++ spelled.raw ++ text)

/-! ## Single tokens -/

/-- The lexeme of a token in a state, with the gap before it and the text behind it. -/
def Spelled.lexeme (state : LexerState) (gap : Text) (spelled : Spelled) (rest : Text) : Lexeme :=
  ⟨gap, spelled.token.kind, spelled.token.value, spelled.raw, spelled.after state, rest⟩

/-- Whether a token is read as it is written, in front of a text. -/
def Spelled.IsRead (state : LexerState) (gap : Text) (spelled : Spelled) (rest : Text) : Prop :=
  ∃ first more, spelled.raw = first :: more ∧
    lexemeAt state gap first (more ++ rest) = .ok (spelled.lexeme state gap rest)

/-- What starts a name is neither a quote nor a mark. -/
theorem name_point_apart {point : CodePoint} (named : isNamePoint point = true) :
    point ≠ .scalar '\x27' ∧ point ≠ .scalar '\x22' ∧ point ≠ .scalar '\x60' ∧
      point ≠ .scalar '\x7d' ∧ point ≠ .scalar '/' := by
  refine ⟨?_, ?_, ?_, ?_, ?_⟩ <;> rintro rfl <;> exact absurd named (by decide)

variable (state : LexerState) (gap : Text) {rest : Text}

/-- A name is read as it is written. -/
theorem isRead_word (word : Word) (apart : ¬GoesOn rest) :
    (Spelled.word word).IsRead state gap rest := by
  obtain ⟨text, nonempty, points⟩ := word
  cases text with
  | nil => exact absurd rfl nonempty
  | cons first more =>
    have named : isNamePoint first = true := (points first List.mem_cons_self).1
    obtain ⟨single, double, backtick, brace, slash⟩ := name_point_apart named
    have others : ∀ point ∈ more, isNamePoint point := fun point member =>
      (points point (List.mem_cons_of_mem first member)).1
    have read : lexemeAt state gap first (more ++ rest) =
        .ok (nameLexeme gap first state.braces (more ++ rest)) := by
      simp [lexemeAt, single, double, backtick, brace, slash, named]
    refine ⟨first, more, rfl, read.trans ?_⟩
    simp only [nameLexeme, takeWhile_name others apart, dropWhile_name others apart]
    rfl

/-- A string literal is read as it is written. -/
theorem isRead_string {quote : Quote} (content : Quoted quote) :
    (Spelled.string quote content).IsRead state gap rest := by
  refine ⟨quote.point, spell content.units ++ [quote.point], rfl, ?_⟩
  have quoted : (quote.point == .scalar '\x27' || quote.point == .scalar '\x22') = true := by
    cases quote <;> rfl
  rw [lexemeAt, if_pos quoted, stringLexeme, List.append_assoc, List.singleton_append,
    readStringBody?_spell content.units content.clean rest]
  rfl

/-- A regular expression is read as it is written where an operand is expected. -/
theorem isRead_regex (regex : Regex) (operand : state.operandNext = true)
    (apart : ¬GoesOn rest) : (Spelled.regex regex).IsRead state gap rest := by
  refine ⟨.scalar '/', regex.body, rfl, ?_⟩
  have read := readRegexBody?_pieces (regex.first :: regex.others) regex.clean regex.flagPoints
    apart
  have body : readRegexBody? false (regex.body ++ rest) = some (regex.body, rest) := by
    rw [Regex.body, List.append_assoc, List.cons_append]
    exact read
  simp [lexemeAt, operand, body, Spelled.lexeme, Spelled.token, Spelled.raw, Spelled.after]

/-- A part of a template literal is read as it is written. -/
theorem isRead_template (starts : Bool) (content : TemplateText) (substitutes : Bool)
    (place : starts = true ∨ state.braces.head? = some true) :
    (Spelled.template starts content substitutes).IsRead state gap rest := by
  have read := readTemplatePart?_spell content.units content.clean content.closed substitutes rest
  refine ⟨_, _, rfl, ?_⟩
  cases starts with
  | true =>
    change templateLexeme gap (.scalar '\x60') state.braces _ = _
    rw [templateLexeme, read]
    rfl
  | false =>
    have inside : state.braces.head? = some true := by simpa using place
    have branch (text : Text) : lexemeAt state gap (.scalar '\x7d') text =
        templateLexeme gap (.scalar '\x7d') (state.braces.drop 1) text := by
      simp only [lexemeAt, inside]
      rfl
    rw [if_neg (by simp), branch, templateLexeme, read]
    rfl

/-- A mark is read as such. -/
theorem isRead_mark (mark : Mark) (fits : (Spelled.mark mark).FitsIn state) :
    (Spelled.mark mark).IsRead state gap rest := by
  refine ⟨.scalar mark.char, [], rfl, ?_⟩
  cases mark with
  | slash =>
    have divides : state.operandNext = false := fits
    simp only [lexemeAt, divides, Bool.and_false]
    rfl
  | closing =>
    have outside : (state.braces.head? == some true) = false := beq_eq_false_iff_ne.mpr fits
    simp only [lexemeAt, Mark.char, outside, Bool.and_false]
    rfl
  | _ => rfl

/-- Every token is read as it is written, if it fits and does not run into the text behind. -/
theorem isRead_of_fits {spelled : Spelled} (fits : spelled.FitsIn state)
    (apart : spelled.Apart rest) : spelled.IsRead state gap rest := by
  cases spelled with
  | word word => exact isRead_word state gap word apart
  | string quote content => exact isRead_string state gap content
  | regex regex => exact isRead_regex state gap regex fits apart
  | template starts content substitutes =>
    exact isRead_template state gap starts content substitutes fits
  | mark mark => exact isRead_mark state gap mark fits

/-! ## Sequences of tokens -/

/-- The token of a lexeme, without its place. -/
def Lexeme.token (lexeme : Lexeme) : Token := ⟨lexeme.kind, lexeme.value, 0⟩

/-- A text that starts with no blank and no comment is solid. -/
theorem solid_cons {first : CodePoint} {more : Text} (bare : Text.isBlank first = false)
    (noComment : first = .scalar '/' →
      more.head? ≠ some (.scalar '/') ∧ more.head? ≠ some (.scalar '*')) :
    Solid (first :: more) := by
  refine ⟨?_, ?_, ?_⟩
  · intro point others same
    cases same
    exact bare
  · intro others same
    cases same
    exact (noComment rfl).1 rfl
  · intro others same
    cases same
    exact (noComment rfl).2 rfl

/-- A regular expression starts no comment. -/
theorem regex_noComment (regex : Regex) (rest : Text) :
    (regex.body ++ rest).head? ≠ some (.scalar '/') ∧
      (regex.body ++ rest).head? ≠ some (.scalar '*') := by
  obtain ⟨first, others, flags, clean, noComment, points⟩ := regex
  have clean := clean first List.mem_cons_self
  cases first with
  | group units => simp [Regex.body, RegexPiece.text]
  | unit written =>
    cases written with
    | escaped point => simp [Regex.body, RegexPiece.text, Written.text]
    | plain point =>
      simp only [RegexPiece.Clean, Written.Avoids, List.mem_cons, List.not_mem_nil, or_false,
        not_or] at clean
      have noStar : point ≠ .scalar '*' := fun star => noComment (by rw [star])
      simp [Regex.body, RegexPiece.text, Written.text, clean, noStar]

/-- A token is no gap. -/
theorem solid_spelled {spelled : Spelled} (apart : spelled.Apart rest) :
    Solid (spelled.raw ++ rest) := by
  cases spelled with
  | word word =>
    obtain ⟨text, nonempty, points⟩ := word
    cases text with
    | nil => exact absurd rfl nonempty
    | cons first more =>
      obtain ⟨named, bare⟩ := points first List.mem_cons_self
      obtain ⟨_, _, _, _, noSlash⟩ := name_point_apart named
      exact solid_cons bare fun slash => absurd slash noSlash
  | string quote content =>
    cases quote with
    | single => exact solid_cons (by decide) fun slash => absurd slash (by decide)
    | double => exact solid_cons (by decide) fun slash => absurd slash (by decide)
  | regex regex => exact solid_cons (by decide) fun _ => regex_noComment regex rest
  | template starts content substitutes =>
    cases starts with
    | true => exact solid_cons (by decide) fun slash => absurd slash (by decide)
    | false => exact solid_cons (by decide) fun slash => absurd slash (by decide)
  | mark mark =>
    cases mark with
    | slash => exact solid_cons (by decide) fun _ => apart rfl
    | _ => exact solid_cons (by decide) fun slash => absurd slash (by decide)

/-- The end of a text is solid. -/
theorem solid_nil : Solid [] := by
  refine ⟨?_, ?_, ?_⟩
  · intro point rest same
    cases same
  · intro rest same
    cases same
  · intro rest same
    cases same

/-- Behind a gap up to the end of a text there is no lexeme. -/
theorem lexemesFrom_nil {state : LexerState} {text gap : Text}
    (skipped : readGap .blank text = .ok (gap, [])) :
    lexemesFrom state text = .ok ([], gap) := by
  rw [lexemesFrom]
  split <;> simp_all

/-- The lexemes of a text that starts with a gap and a token. -/
theorem lexemesFrom_cons {state : LexerState} {text gap more : Text} {first : CodePoint}
    {lexeme : Lexeme} (skipped : readGap .blank text = .ok (gap, first :: more))
    (found : lexemeAt state gap first more = .ok lexeme) :
    lexemesFrom state text =
      (lexemesFrom lexeme.state lexeme.rest).map fun read => (lexeme :: read.1, read.2) := by
  rw [lexemesFrom]
  split
  · rename_i fault
    rw [skipped] at fault
    cases fault
  · rename_i ended
    rw [skipped] at ended
    cases ended
  · rename_i next
    rw [skipped] at next
    cases next
    split
    · rename_i fault
      rw [found] at fault
      cases fault
    · rename_i other
      rw [found] at other
      cases other
      rfl

/-- The lexeme of a token is the lexeme of this token. -/
theorem token_lexeme (state : LexerState) (gap : Text) (spelled : Spelled) (rest : Text) :
    (spelled.lexeme state gap rest).token = spelled.token := by
  cases spelled <;> rfl

/-- Rendered tokens are read as they are written. -/
theorem lexemes_of_rendering {tokens : List Spelled} {text : Text}
    (rendering : Rendering tokens text) {state : LexerState} (fits : Fits state tokens) :
    ∃ lexemes gap, lexemesFrom state text = .ok (lexemes, gap) ∧
      lexemes.map Lexeme.token = tokens.map Spelled.token := by
  induction rendering generalizing state with
  | nil spacing =>
    have skipped := readGap_spacing spacing solid_nil
    rw [List.append_nil] at skipped
    exact ⟨[], spacing.text, lexemesFrom_nil skipped, rfl⟩
  | @cons others text spacing spelled apart _ tail =>
    obtain ⟨here, behind⟩ := fits
    obtain ⟨lexemes, gap, read, same⟩ := tail behind
    obtain ⟨first, more, raw, found⟩ := isRead_of_fits state spacing.text here apart
    have skipped := readGap_spacing spacing (solid_spelled apart)
    rw [← List.append_assoc, raw, List.cons_append] at skipped
    refine ⟨spelled.lexeme state spacing.text text :: lexemes, gap, ?_, ?_⟩
    · rw [raw, lexemesFrom_cons skipped found]
      change (lexemesFrom (spelled.after state) text).map _ = _
      rw [read]
      rfl
    · rw [List.map_cons, List.map_cons, same, token_lexeme]

/-- A token without its place. -/
def Token.unplaced (token : Token) : Token := { token with offset := 0 }

/-- The tokens of lexemes are those of each of them. -/
theorem unplaced_tokensFrom (offset : Nat) (lexemes : List Lexeme) :
    (tokensFrom offset lexemes).map Token.unplaced = lexemes.map Lexeme.token := by
  induction lexemes generalizing offset with
  | nil => rfl
  | cons lexeme rest tail =>
    rw [tokensFrom, List.map_cons, List.map_cons, tail]
    rfl

/-- A gap starts with no number sign. -/
theorem head_spacing (spacing : Spacing) {rest : Text}
    (behind : rest.head? ≠ some (.scalar '#')) :
    (spacing.text ++ rest).head? ≠ some (.scalar '#') := by
  obtain ⟨fillers, clean⟩ := spacing
  cases fillers with
  | nil => exact behind
  | cons filler fillers =>
    have first := clean filler List.mem_cons_self
    cases filler with
    | blank point =>
      have white : Text.isBlank point = true := first
      intro sign
      have same : point = .scalar '#' := by simpa [Spacing.text, Filler.text] using sign
      subst same
      exact absurd white (by decide)
    | line text => simp [Spacing.text, Filler.text]
    | block text => simp [Spacing.text, Filler.text]

/-- A token starts with no number sign. -/
theorem head_spelled (spelled : Spelled) (rest : Text) :
    (spelled.raw ++ rest).head? ≠ some (.scalar '#') := by
  cases spelled with
  | word word =>
    obtain ⟨text, nonempty, points⟩ := word
    cases text with
    | nil => exact absurd rfl nonempty
    | cons first more =>
      intro sign
      have same : first = .scalar '#' := by simpa [Spelled.raw] using sign
      subst same
      exact absurd (points _ List.mem_cons_self).1 (by decide)
  | string quote content => cases quote <;> simp [Spelled.raw, Quote.point]
  | regex regex => simp [Spelled.raw]
  | template starts content substitutes => cases starts <;> simp [Spelled.raw]
  | mark mark => cases mark <;> simp [Spelled.raw, Mark.char]

/-- Rendered tokens name no interpreter. -/
theorem interpreterLine_of_rendering {tokens : List Spelled} {text : Text}
    (rendering : Rendering tokens text) : interpreterLine text = ([], text) := by
  have head : text.head? ≠ some (.scalar '#') := by
    cases rendering with
    | nil spacing =>
      have nothing : ([] : Text).head? ≠ some (.scalar '#') := by simp
      have only := head_spacing spacing nothing
      rw [List.append_nil] at only
      exact only
    | cons spacing spelled _ _ =>
      rw [List.append_assoc]
      exact head_spacing spacing (head_spelled spelled _)
  have noLine : Text.startsWith "#!" text = false := by
    cases text with
    | nil => rfl
    | cons first rest =>
      have other : first ≠ .scalar '#' := fun sign => head (by rw [sign]; rfl)
      change (CodePoint.scalar '#' == first && _) = false
      rw [beq_eq_false_iff_ne.mpr other.symm, Bool.false_and]
  rw [interpreterLine, noLine]
  rfl

/-- **Rendered tokens.** Tokens that are rendered with blanks and comments between them are read
as they are written, if each of them fits. -/
theorem tokens_of_rendering {spelled : List Spelled} {text : Text}
    (rendering : Rendering spelled text) (fits : Fits .start spelled) :
    ∃ read, tokens text = .ok read ∧ read.map Token.unplaced = spelled.map Spelled.token := by
  obtain ⟨lexemes, gap, found, same⟩ := lexemes_of_rendering rendering fits
  refine ⟨tokensFrom 0 lexemes, ?_, ?_⟩
  · rw [tokens, interpreterLine_of_rendering rendering]
    simp only [found]
    rfl
  · rw [unplaced_tokensFrom, same]

end SiteBuild.Script
