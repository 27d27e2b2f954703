import Mathlib.Control.Monad.Basic
import SiteBuild.Proofs.Cuts

/-!
# Slashes

A slash opens a regular expression or divides, and which of both it does is decided by the token
before it. Code is given as symbols, each slash with its meaning, and is written with blanks between
the symbols. A regular expression is told if an operand is expected behind the token before it, a
division if none is, or if no regular expression could be read from there on. Main statement: the
symbols are read as they are meant exactly if each slash is told (`tokens_of_symbols_iff`).
-/
namespace SiteBuild.Script

/-! ## Symbols -/

/-- A name, a number or a punctuator without slashes. -/
structure Plain where
  /-- What is written. -/
  text : Text
  /-- It is not empty. -/
  nonempty : text ≠ []
  /-- Nothing in it is blank, or starts a literal or a comment. -/
  points : ∀ point ∈ text, Text.isBlank point = false ∧
    point ∉ [CodePoint.scalar '\x27', .scalar '\x22', .scalar '\x60', .scalar '/']
  /-- It starts no line that names an interpreter. -/
  noLine : Text.startsWith "#!" text = false

/-- A symbol of code, each slash with its meaning. -/
inductive Symbol where
  /-- A name, a number or a punctuator without slashes. -/
  | plain (name : Plain)
  /-- A string literal. -/
  | string (quote : Quote) (content : Quoted quote)
  /-- A part of a template literal; it starts the literal or ends a substitution, and it starts a
  substitution or ends the literal. -/
  | template (starts : Bool) (content : TemplateText) (substitutes : Bool)
  /-- A regular expression. -/
  | regex (regex : Regex)
  /-- A division, of a value that is assigned or not. -/
  | division (assigns : Bool)

/-- The tokens of names and marks that stand one behind the other. -/
def plainTokens : Text → List Token
  | [] => []
  | point :: rest =>
    if isNamePoint point then
      ⟨.name, point :: rest.takeWhile isNamePoint, 0⟩ :: plainTokens (rest.dropWhile isNamePoint)
    else ⟨.mark, [point], 0⟩ :: plainTokens rest
  termination_by text => text.length
  decreasing_by
    · simpa using Nat.lt_succ_of_le (List.dropWhile_sublist isNamePoint).length_le
    · simp

/-- What an assignment adds to the slash of a division. -/
def assigned (assigns : Bool) : Text := if assigns then [.scalar '='] else []

namespace Symbol

/-- The characters of a symbol. -/
def text : Symbol → Text
  | .plain name => name.text
  | .string quote content => (Spelled.string quote content).raw
  | .template starts content substitutes => (Spelled.template starts content substitutes).raw
  | .regex pattern => (Spelled.regex pattern).raw
  | .division assigns => .scalar '/' :: assigned assigns

/-- The tokens that a symbol is meant to be: a regular expression is one token of its own kind, and
the slash of a division is a mark. -/
def tokens : Symbol → List Token
  | .plain name => plainTokens name.text
  | .string quote content => [(Spelled.string quote content).token]
  | .template starts content substitutes => [(Spelled.template starts content substitutes).token]
  | .regex pattern => [(Spelled.regex pattern).token]
  | .division assigns => ⟨.mark, [.scalar '/'], 0⟩ :: plainTokens (assigned assigns)

end Symbol

/-- The text of symbols with a blank between two of them. -/
def written : List Symbol → Text
  | [] => []
  | [symbol] => symbol.text
  | symbol :: second :: rest => symbol.text ++ .scalar ' ' :: written (second :: rest)

/-! ## Nesting -/

/-- The braces that are open behind a character, the inner ones first, if it ends no
substitution. -/
def nestPoint (braces : List Bool) (point : CodePoint) : Option (List Bool) :=
  if point == '\x7b' then some (false :: braces)
  else if point == '\x7d' then if braces.head? = some true then none else some (braces.drop 1)
  else some braces

/-- The braces that are open behind a symbol, if it stands where it can stand: a part of a template
literal that ends a substitution inside one, and a closing brace elsewhere. -/
def Symbol.nest (braces : List Bool) : Symbol → Option (List Bool)
  | .plain name => name.text.foldlM nestPoint braces
  | .template starts _ substitutes =>
    if starts = true ∨ braces.head? = some true then
      let outer := if starts then braces else braces.drop 1
      some (if substitutes then true :: outer else outer)
    else none
  | _ => some braces

/-- Whether the braces and the template literals of symbols are nested, inside of open braces. -/
def IsNested (braces : List Bool) (symbols : List Symbol) : Prop :=
  (symbols.foldlM Symbol.nest braces).isSome = true

instance (braces : List Bool) (symbols : List Symbol) : Decidable (IsNested braces symbols) :=
  inferInstanceAs (Decidable (_ = true))

/-! ## Slashes that are told -/

/-- Whether an operand is expected behind a token: behind a keyword that needs one, and behind a
mark that closes no parenthesis and no bracket. -/
def Token.expectsOperand (token : Token) : Bool :=
  match token.kind with
  | .name => operandKeywords.contains token.value
  | .mark => !token.isMark ')' && !token.isMark ']'
  | _ => false

/-- Whether an operand is expected behind tokens: the last of them decides. -/
def operandBehind (before : Bool) (tokens : List Token) : Bool :=
  tokens.foldl (fun _ token => token.expectsOperand) before

/-- Whether an operand is expected behind a symbol: behind a part of a template literal that starts
a substitution, and behind other symbols as behind their tokens. -/
def Symbol.expectsOperand : Symbol → Bool
  | .template _ _ substitutes => substitutes
  | symbol => operandBehind false symbol.tokens

/-- Whether a text goes on with what is left of a regular expression behind its slash. -/
def ClosesRegex (text : Text) : Prop :=
  ∃ (pieces : List RegexPiece) (rest : Text), (∀ piece ∈ pieces, piece.Clean) ∧
    text = pieces.flatMap RegexPiece.text ++ .scalar '/' :: rest

/-- Whether a symbol is told from the other meaning of its slash, by whether an operand is expected
before it and by the text behind it. -/
def Symbol.IsTold (operandNext : Bool) (behind : Text) : Symbol → Prop
  | .regex _ => operandNext = true
  | .division assigns => operandNext = false ∨ ¬ClosesRegex (assigned assigns ++ behind)
  | _ => True

/-- The text behind a symbol in front of others. -/
def writtenBehind : List Symbol → Text
  | [] => []
  | rest => .scalar ' ' :: written rest

/-- Whether all slashes are told, the first symbol by whether an operand is expected before it. -/
def Told (operandNext : Bool) : List Symbol → Prop
  | [] => True
  | symbol :: rest =>
    symbol.IsTold operandNext (writtenBehind rest) ∧ Told symbol.expectsOperand rest

/-! ## Regular expressions that could be read -/

/-- A piece in front of what closes a regular expression. -/
theorem ClosesRegex.cons (piece : RegexPiece) (clean : piece.Clean) {text : Text}
    (closes : ClosesRegex text) : ClosesRegex (piece.text ++ text) := by
  obtain ⟨pieces, rest, all, rfl⟩ := closes
  exact ⟨piece :: pieces, rest, List.forall_mem_cons.mpr ⟨clean, all⟩, by simp⟩

/-- Whether a text goes on with what is left of a class, and of a regular expression behind it. -/
def ClosesClass (text : Text) : Prop :=
  ∃ (units : List Written) (rest : Text),
    (∀ unit ∈ units, unit.Avoids [.scalar '\\', .scalar '\n', .scalar ']']) ∧
      text = spell units ++ .scalar ']' :: rest ∧ ClosesRegex rest

/-- A character in front of what closes a class. -/
theorem ClosesClass.cons (unit : Written)
    (clean : unit.Avoids [.scalar '\\', .scalar '\n', .scalar ']']) {text : Text}
    (closes : ClosesClass text) : ClosesClass (unit.text ++ text) := by
  obtain ⟨units, rest, all, rfl, behind⟩ := closes
  refine ⟨unit :: units, rest, List.forall_mem_cons.mpr ⟨clean, all⟩, ?_, behind⟩
  rw [spell_cons, List.append_assoc]

/-- A class in front of what closes a regular expression. -/
theorem ClosesClass.closesRegex {text : Text} (closes : ClosesClass text) :
    ClosesRegex (.scalar '[' :: text) := by
  obtain ⟨units, rest, clean, rfl, behind⟩ := closes
  have whole := behind.cons (.group units) clean
  rwa [RegexPiece.text, List.cons_append, List.append_assoc, List.singleton_append] at whole

/-- What is read as a regular expression closes one. -/
theorem closes_of_readRegexBody? (inClass : Bool) (text : Text)
    (read : (readRegexBody? inClass text).isSome = true) :
    if inClass then ClosesClass text else ClosesRegex text := by
  -- Cases as the reading goes: the end of the text or of the line, a backslash, a slash, the rest.
  fun_induction readRegexBody? inClass text with
  | case1 => cases read
  | case2 => cases read
  | case3 inClass point rest tail =>
    have closes := tail (by simpa using read)
    cases inClass with
    | true => exact ClosesClass.cons (Written.escaped point) trivial closes
    | false => exact ClosesRegex.cons (.unit (.escaped point)) trivial closes
  | case4 => cases read
  | case5 rest tail =>
    exact ClosesClass.cons (.plain '/') (by decide) (tail (by simpa using read))
  | case6 inClass rest outside =>
    rw [if_neg outside]
    exact ⟨[], rest, by simp, rfl⟩
  | case7 inClass point rest noEnd noEscape sameLine noSlash tail =>
    have solid : point ≠ .scalar '\\' := by
      cases rest with
      | nil => exact fun backslash => noEnd backslash rfl
      | cons second rest => exact fun backslash => noEscape second rest backslash rfl
    have closes := tail (by simpa using read)
    cases inClass with
    | true =>
      by_cases closing : point = .scalar ']'
      · subst closing
        exact ⟨[], rest, by simp, rfl, by simpa using closes⟩
      · refine ClosesClass.cons (.plain point) ?_ (by simpa [closing] using closes)
        simpa [Written.Avoids] using ⟨solid, sameLine, closing⟩
    | false =>
      by_cases opening : point = .scalar '['
      · subst opening
        exact ClosesClass.closesRegex (by simpa using closes)
      · refine ClosesRegex.cons (.unit (.plain point)) ?_ (by simpa [opening] using closes)
        simpa [RegexPiece.Clean, Written.Avoids] using ⟨solid, sameLine, noSlash, opening⟩

/-- What could be read as a regular expression is what closes one. -/
theorem readRegexBody?_isSome_iff (text : Text) :
    (readRegexBody? false text).isSome = true ↔ ClosesRegex text := by
  refine ⟨closes_of_readRegexBody? false text, ?_⟩
  rintro ⟨pieces, rest, clean, rfl⟩
  induction pieces with
  | nil =>
    change (readRegexBody? false (.scalar '/' :: rest)).isSome = true
    rw [readRegexBody?]
    rfl
  | cons piece pieces tail =>
    obtain ⟨first, others⟩ := List.forall_mem_cons.mp clean
    rw [List.flatMap_cons, List.append_assoc, readRegexBody?_piece first, Option.isSome_map]
    exact tail others

/-! ## Single symbols -/

/-- Whether what stands behind a symbol is nothing or a blank. -/
def IsApart (text : Text) : Prop := text = [] ∨ ∃ rest, text = .scalar ' ' :: rest

/-- What is apart does not go on with a name. -/
theorem IsApart.not_goesOn {text : Text} (apart : IsApart text) : ¬GoesOn text := by
  rcases apart with rfl | ⟨rest, rfl⟩
  · decide
  · exact (by decide : ¬isNamePoint (.scalar ' ') = true)

/-- The points of a name leave the open braces as they are. -/
theorem foldlM_nestPoint_name {name : Text} (points : ∀ point ∈ name, isNamePoint point = true)
    (braces : List Bool) : name.foldlM nestPoint braces = some braces := by
  induction name with
  | nil => rfl
  | cons point name tail =>
    obtain ⟨named, others⟩ := List.forall_mem_cons.mp points
    have here : nestPoint braces point = some braces := by
      have opening : point ≠ .scalar '\x7b' := by
        rintro rfl
        exact absurd named (by decide)
      have closing : point ≠ .scalar '\x7d' := by
        rintro rfl
        exact absurd named (by decide)
      simp [nestPoint, opening, closing]
    rw [List.foldlM_cons, here]
    exact tail others

/-- A mark that is cut off leaves those braces open that are open behind it. -/
theorem state_markLexeme {braces inside : List Bool} {mark : CodePoint}
    (nested : nestPoint braces mark = some inside) (rest : Text) :
    (markLexeme [] mark braces rest).state =
      ⟨inside, Token.expectsOperand ⟨.mark, [mark], 0⟩⟩ := by
  have operand : (mark != ')' && mark != ']') = Token.expectsOperand ⟨.mark, [mark], 0⟩ := by
    simp [Token.expectsOperand, Token.isMark, bne]
  rw [markLexeme, operand]
  unfold nestPoint at nested
  grind

/-- Names and marks that stand one behind the other are cut off the text behind them. -/
theorem cut_plainTokens {text : Text}
    (points : ∀ point ∈ text, Text.isBlank point = false ∧
      point ∉ [CodePoint.scalar '\x27', .scalar '\x22', .scalar '\x60', .scalar '/'])
    {state : LexerState} {braces : List Bool}
    (nested : text.foldlM nestPoint state.braces = some braces) {rest : Text}
    (apart : ¬GoesOn rest) :
    cut state (text ++ rest) =
      (cut ⟨braces, operandBehind state.operandNext (plainTokens text)⟩ rest).map
        (plainTokens text ++ ·) := by
  fun_induction plainTokens text generalizing state with
  | case1 =>
    cases nested
    change cut state rest = (cut state rest).map _
    cases cut state rest <;> rfl
  | case2 point more named tail =>
    obtain ⟨⟨bare, -⟩, others⟩ := List.forall_mem_cons.mp points
    have whole : ∀ other ∈ point :: more.takeWhile isNamePoint, isNamePoint other = true :=
      List.forall_mem_cons.mpr ⟨named, List.all_eq_true.mp List.all_takeWhile⟩
    have split : point :: more =
        point :: more.takeWhile isNamePoint ++ more.dropWhile isNamePoint := by
      rw [List.cons_append, List.takeWhile_append_dropWhile]
    rw [split, List.foldlM_append, foldlM_nestPoint_name whole] at nested
    have behind := @tail
      (fun other member => others other ((List.dropWhile_suffix isNamePoint).subset member))
      ⟨state.braces, operandKeywords.contains (point :: more.takeWhile isNamePoint)⟩ nested
    rw [split, List.append_assoc, List.cons_append,
      cut_name state bare whole (not_goesOn_dropWhile more apart), behind, map_cons_map]
    rfl
  | case3 point more noName tail =>
    obtain ⟨⟨bare, quiet⟩, others⟩ := List.forall_mem_cons.mp points
    rw [List.foldlM_cons] at nested
    obtain ⟨inside, here, behind⟩ := Option.bind_eq_some_iff.mp nested
    have outside : point = .scalar '\x7d' → state.braces.head? ≠ some true := by
      rintro rfl ends
      simp [nestPoint, ends] at here
    rw [List.cons_append, cut_point state bare quiet (by simpa using noName) outside,
      state_markLexeme here, @tail others ⟨inside, _⟩ behind, map_cons_map]
    rfl

/-- A slash in front of what makes no comment of it divides, if no operand is expected or no regular
expression can be read behind it. -/
theorem cut_divides {state : LexerState} {rest : Text}
    (noComment : rest.head? ≠ some (.scalar '/') ∧ rest.head? ≠ some (.scalar '*'))
    (divides : state.operandNext = false ∨ readRegexBody? false rest = none) :
    cut state (.scalar '/' :: rest) =
      (cut ⟨state.braces, true⟩ rest).map (⟨.mark, [.scalar '/'], 0⟩ :: ·) := by
  have found : lexemeAt state [] (.scalar '/') rest =
      .ok (markLexeme [] (.scalar '/') state.braces rest) := by
    have noRegex : (if CodePoint.scalar '/' == '/' && state.operandNext then
        readRegexBody? false rest else none) = none := by
      rcases divides with divides | divides <;> simp [divides]
    simp only [lexemeAt, noRegex]
    rfl
  rw [cut_eq, readGap_solid (solid_cons (by decide) fun _ => noComment)]
  simp only [found]
  rfl

/-- A slash opens a regular expression where an operand is expected and one can be read. -/
theorem cut_opens {state : LexerState} {rest : Text}
    (noComment : rest.head? ≠ some (.scalar '/') ∧ rest.head? ≠ some (.scalar '*'))
    (operand : state.operandNext = true) (closes : ClosesRegex rest) :
    ∃ body behind, cut state (.scalar '/' :: rest) =
      (cut ⟨state.braces, false⟩ behind).map (⟨.regex, .scalar '/' :: body, 0⟩ :: ·) := by
  obtain ⟨⟨body, behind⟩, read⟩ := Option.isSome_iff_exists.mp
    ((readRegexBody?_isSome_iff rest).mpr closes)
  refine ⟨body, behind, ?_⟩
  rw [cut_eq, readGap_solid (solid_cons (by decide) fun _ => noComment)]
  simp only [lexemeAt, operand, read]
  rfl

namespace Symbol

/-- A division makes no comment of its slash. -/
theorem division_noComment (assigns : Bool) {rest : Text} (apart : IsApart rest) :
    (assigned assigns ++ rest).head? ≠ some (.scalar '/') ∧
      (assigned assigns ++ rest).head? ≠ some (.scalar '*') := by
  rcases apart with rfl | ⟨rest, rfl⟩ <;> cases assigns <;> simp [assigned]

/-- A symbol that is told is cut off as it is meant. -/
theorem cut_of_isTold {symbol : Symbol} {operandNext : Bool} {braces inside : List Bool}
    (nested : symbol.nest braces = some inside) {rest : Text} (apart : IsApart rest)
    (told : symbol.IsTold operandNext rest) :
    cut ⟨braces, operandNext⟩ (symbol.text ++ rest) =
      (cut ⟨inside, symbol.expectsOperand⟩ rest).map (symbol.tokens ++ ·) := by
  cases symbol with
  | plain name =>
    obtain ⟨text, nonempty, points, noLine⟩ := name
    have last : operandBehind operandNext (plainTokens text) =
        operandBehind false (plainTokens text) := by
      cases text with
      | nil => exact absurd rfl nonempty
      | cons point text =>
        rw [plainTokens]
        split <;> rfl
    refine (@cut_plainTokens text points ⟨braces, operandNext⟩ inside nested rest
      apart.not_goesOn).trans ?_
    rw [last]
    rfl
  | string quote content =>
    cases nested
    exact @cut_spelled _ (.string quote content) _ trivial trivial
  | template starts content substitutes =>
    simp only [nest] at nested
    split at nested
    · rename_i place
      cases nested
      exact @cut_spelled ⟨braces, operandNext⟩ (.template starts content substitutes) rest place
        trivial
    · cases nested
  | regex pattern =>
    cases nested
    exact @cut_spelled ⟨braces, operandNext⟩ (.regex pattern) rest told apart.not_goesOn
  | division assigns =>
    cases nested
    have noRegex : operandNext = false ∨
        readRegexBody? false (assigned assigns ++ rest) = none := by
      refine told.imp_right fun open_ => ?_
      rwa [← readRegexBody?_isSome_iff, Option.not_isSome_iff_eq_none] at open_
    have points : ∀ point ∈ assigned assigns, Text.isBlank point = false ∧
        point ∉ [CodePoint.scalar '\x27', .scalar '\x22', .scalar '\x60', .scalar '/'] := by
      cases assigns <;> decide
    have level : (assigned assigns).foldlM nestPoint braces = some braces := by
      cases assigns <;> rfl
    have behind := @cut_plainTokens _ points ⟨braces, true⟩ braces level rest apart.not_goesOn
    rw [text, List.cons_append, cut_divides (division_noComment assigns apart) noRegex, behind,
      map_cons_map]
    rfl

/-- A symbol that is not told is not cut off as it is meant. -/
theorem cut_ne_of_not_isTold {symbol : Symbol} {operandNext : Bool} {braces : List Bool}
    {rest : Text} (apart : IsApart rest)
    (untold : ¬symbol.IsTold operandNext rest) (others : List Token) :
    cut ⟨braces, operandNext⟩ (symbol.text ++ rest) ≠ .ok (symbol.tokens ++ others) := by
  cases symbol with
  | regex pattern =>
    have divides : operandNext = false := by simpa [IsTold] using untold
    change cut ⟨braces, operandNext⟩ (.scalar '/' :: (pattern.body ++ rest)) ≠ _
    rw [cut_divides (regex_noComment pattern rest) (.inl divides)]
    cases cut _ (pattern.body ++ rest) <;> simp [Except.map, tokens, Spelled.token]
  | division assigns =>
    obtain ⟨operand, closes⟩ : operandNext = true ∧ ClosesRegex (assigned assigns ++ rest) := by
      simpa [IsTold] using untold
    obtain ⟨body, behind, opened⟩ := @cut_opens ⟨braces, operandNext⟩ _
      (division_noComment assigns apart) operand closes
    rw [text, List.cons_append, opened]
    cases cut _ behind <;> simp [Except.map, tokens]
  | _ => exact absurd trivial untold

end Symbol

/-! ## All symbols -/

/-- The text of symbols is that of the first one and what is behind it. -/
theorem written_cons (symbol : Symbol) (rest : List Symbol) :
    written (symbol :: rest) = symbol.text ++ writtenBehind rest := by
  cases rest with
  | nil => simp [written, writtenBehind]
  | cons second rest => rfl

/-- What is behind a symbol is apart. -/
theorem isApart_writtenBehind (rest : List Symbol) : IsApart (writtenBehind rest) := by
  cases rest with
  | nil => exact .inl rfl
  | cons second rest => exact .inr ⟨_, rfl⟩

/-- The blank behind a symbol makes no difference. -/
theorem cut_writtenBehind (state : LexerState) (rest : List Symbol) :
    cut state (writtenBehind rest) = cut state (written rest) := by
  cases rest with
  | nil => rfl
  | cons second rest => exact cut_blank state (by decide) _

/-- Symbols are cut off as they are meant exactly if all slashes are told. -/
theorem cut_written_iff (symbols : List Symbol) {braces : List Bool} {operandNext : Bool}
    (nested : IsNested braces symbols) :
    cut ⟨braces, operandNext⟩ (written symbols) = .ok (symbols.flatMap Symbol.tokens) ↔
      Told operandNext symbols := by
  induction symbols generalizing braces operandNext with
  | nil => exact iff_of_true (cut_nil _) trivial
  | cons symbol rest tail =>
    obtain ⟨_, whole⟩ := Option.isSome_iff_exists.mp nested
    rw [List.foldlM_cons] at whole
    obtain ⟨inside, here, behind⟩ := Option.bind_eq_some_iff.mp whole
    have apart := isApart_writtenBehind rest
    rw [written_cons, List.flatMap_cons, Told]
    by_cases told : symbol.IsTold operandNext (writtenBehind rest)
    · have others := @tail inside symbol.expectsOperand (Option.isSome_iff_exists.mpr ⟨_, behind⟩)
      rw [Symbol.cut_of_isTold here apart told, cut_writtenBehind, ← others, and_iff_right told]
      cases cut _ (written rest) <;> simp [Except.map]
    · exact iff_of_false (Symbol.cut_ne_of_not_isTold apart told _) fun all => told all.1

/-- Symbols name no interpreter. -/
theorem startsWith_written (symbols : List Symbol) :
    Text.startsWith "#!" (written symbols) = false := by
  cases symbols with
  | nil => rfl
  | cons symbol rest =>
    rw [written_cons]
    cases symbol with
    | plain name =>
      obtain ⟨text, nonempty, points, noLine⟩ := name
      match text, nonempty, noLine with
      | [point], _, _ =>
        rcases isApart_writtenBehind rest with same | ⟨behind, same⟩ <;> rw [same]
        · exact (Bool.and_false _ :)
        · exact (Bool.and_false _ :)
      | first :: second :: more, _, noLine => exact noLine
    | string quote content => cases quote <;> rfl
    | template starts content substitutes => cases starts <;> rfl
    | regex pattern => rfl
    | division assigns => rfl

/-- **Slashes.** Nested symbols with a blank between two of them are read as they are meant, each
regular expression as one token and the slash of each division as a mark, exactly if all slashes are
told; and then the imports are those that the symbols name. -/
theorem tokens_of_symbols_iff (symbols : List Symbol) (nested : IsNested [] symbols) :
    ((tokens (written symbols)).map (List.map Token.unplaced) =
        .ok (symbols.flatMap Symbol.tokens) ↔ Told true symbols) ∧
      (Told true symbols →
        imports (written symbols) =
          .ok (sourcesFrom false (symbols.flatMap Symbol.tokens)).eraseDups) := by
  have noLine := startsWith_written symbols
  have whole := @cut_written_iff symbols [] true nested
  refine ⟨(tokens_eq_ok_iff_cut noLine _).trans whole, fun told => ?_⟩
  exact (imports_of_cut noLine (whole.mpr told)).2

/-- A division behind a name, and a regular expression with a quote behind a parenthesis in a
substitution. -/
theorem tokens_of_symbols_template :
    ∃ symbols : List Symbol, IsNested [] symbols ∧ Told true symbols ∧
      written symbols = "\x60a$\x7b b / ( /[/']/g ) \x7d\x60 ; import './m'" ∧
      (tokens (written symbols)).map (List.map Token.unplaced) =
        .ok (symbols.flatMap Symbol.tokens) ∧
      imports (written symbols) = .ok ["./m"] := by
  let pattern : Regex :=
    ⟨.group [.plain '/', .plain '\x27'], [], "g", by decide, by decide, by decide⟩
  let symbols : List Symbol := [
    .template true ⟨[.plain 'a'], by decide, by decide⟩ true,
    .plain ⟨"b", by decide, by decide, by decide⟩, .division false,
    .plain ⟨"(", by decide, by decide, by decide⟩, .regex pattern,
    .plain ⟨")", by decide, by decide, by decide⟩,
    .template false ⟨[], by decide, by decide⟩ false,
    .plain ⟨";", by decide, by decide, by decide⟩,
    .plain ⟨"import", by decide, by decide, by decide⟩,
    .string .single ⟨(Text.ofString "./m").map .plain, by decide⟩]
  have nested : IsNested [] symbols := by decide
  have told : Told true symbols := by
    refine ⟨trivial, trivial, .inl ?_, trivial, ?_, trivial, trivial, trivial, trivial, trivial,
      trivial⟩
    · decide +kernel
    · change Symbol.expectsOperand _ = true
      decide +kernel
  obtain ⟨whole, sources⟩ := tokens_of_symbols_iff symbols nested
  refine ⟨symbols, nested, told, by decide, whole.mpr told, (sources told).trans ?_⟩
  decide +kernel

/-- A division behind an increment is read as a regular expression, and what is divided by is not
imported. -/
theorem imports_behind_increment :
    ∃ symbols : List Symbol, IsNested [] symbols ∧
      written symbols = "n ++ / import ( 'a' ) / 2" ∧
      sourcesFrom false (symbols.flatMap Symbol.tokens) = [("a" : Text)] ∧
      imports (written symbols) = .ok [] := by
  refine ⟨[.plain ⟨"n", by decide, by decide, by decide⟩,
    .plain ⟨"++", by decide, by decide, by decide⟩, .division false,
    .plain ⟨"import", by decide, by decide, by decide⟩,
    .plain ⟨"(", by decide, by decide, by decide⟩,
    .string .single ⟨(Text.ofString "a").map .plain, by decide⟩,
    .plain ⟨")", by decide, by decide, by decide⟩, .division false,
    .plain ⟨"2", by decide, by decide, by decide⟩], by decide, by decide, ?_, ?_⟩
  · decide +kernel
  · decide +kernel

end SiteBuild.Script
