import SiteBuild.Proofs.LineEnds

/-!
# File encodings

The same module code may be saved with two characters at the end of each line, or with a byte order
mark in front. The first does not change what is read of it, unless a string or a regular expression
runs over a line; the second is read as a part of the first word, so that a keyword there is lost.
Main statement: where the imports are the same, and which are lost (`imports_of_encodings`).
-/
namespace SiteBuild.Script

/-! ## Byte order marks -/

/-- The mark that editors put at the start of a file. -/
def byteOrderMark : CodePoint := .scalar '\ufeff'

/-- The name at the start of a text, without the blanks before it. -/
def firstWord (text : Text) : Text := (text.takeWhile isNamePoint).dropWhile Text.isBlank

/-- Whether a regular expression stands at the start of a text, or behind a first word that needs an
operand. -/
def StartsWithRegex (text : Text) : Prop :=
  (firstWord text = [] ∨ operandKeywords.contains (firstWord text) = true) ∧
    ∃ more, behindGap? .blank (text.dropWhile isNamePoint) = some (.scalar '/' :: more) ∧
      ClosesRegex more

/-- Blanks before a text make no difference to its tokens. -/
theorem cut_blanks (state : LexerState) {blanks : Text}
    (blank : ∀ point ∈ blanks, Text.isBlank point = true) (rest : Text) :
    cut state (blanks ++ rest) = cut state rest := by
  induction blanks with
  | nil => rfl
  | cons point blanks tail =>
    obtain ⟨here, others⟩ := List.forall_mem_cons.mp blank
    rw [List.cons_append, cut_blank state here, tail others]

/-- A name of all the points that stand there is cut off what is behind it. -/
theorem cut_wholeName (state : LexerState) {first : CodePoint}
    (bare : Text.isBlank first = false) (named : isNamePoint first = true) (text : Text) :
    cut state (first :: text) =
      (cut ⟨state.braces, operandKeywords.contains (first :: text.takeWhile isNamePoint)⟩
        (text.dropWhile isNamePoint)).map
          (⟨.name, first :: text.takeWhile isNamePoint, 0⟩ :: ·) := by
  have points : ∀ point ∈ first :: text.takeWhile isNamePoint, isNamePoint point = true :=
    List.forall_mem_cons.mpr ⟨named, List.all_eq_true.mp List.all_takeWhile⟩
  have apart : ¬GoesOn (text.dropWhile isNamePoint ++ []) :=
    not_goesOn_dropWhile text (by decide)
  rw [List.append_nil] at apart
  have found := cut_name state bare points apart
  rwa [List.takeWhile_append_dropWhile] at found

/-- A first word is cut off what is behind it. -/
theorem cut_firstWord (text : Text) (named : firstWord text ≠ []) :
    cut .start text =
      (cut ⟨[], operandKeywords.contains (firstWord text)⟩ (text.dropWhile isNamePoint)).map
        (⟨.name, firstWord text, 0⟩ :: ·) := by
  obtain ⟨first, more, word⟩ := List.exists_cons_of_ne_nil named
  have points : ∀ point ∈ first :: more, isNamePoint point = true := fun point member =>
    List.all_eq_true.mp List.all_takeWhile point
      ((List.dropWhile_suffix _).subset (by rwa [← word, firstWord] at member))
  have bare : Text.isBlank first = false := by
    have here := List.head?_dropWhile_not Text.isBlank (text.takeWhile isNamePoint)
    rw [← firstWord, word] at here
    simpa using here
  have split : (text.takeWhile isNamePoint).takeWhile Text.isBlank ++
      (first :: (more ++ text.dropWhile isNamePoint)) = text := by
    rw [← List.cons_append, ← word, firstWord, ← List.append_assoc,
      List.takeWhile_append_dropWhile, List.takeWhile_append_dropWhile]
  have apart : ¬GoesOn (text.dropWhile isNamePoint ++ []) :=
    not_goesOn_dropWhile text (by decide)
  rw [List.append_nil] at apart
  have blank : ∀ point ∈ (text.takeWhile isNamePoint).takeWhile Text.isBlank,
      Text.isBlank point = true := List.all_eq_true.mp List.all_takeWhile
  have skipped := cut_blanks .start blank (first :: (more ++ text.dropWhile isNamePoint))
  rw [split] at skipped
  rw [word]
  exact skipped.trans (cut_name .start bare points apart)

/-- Where no word is first, there are blanks at most. -/
theorem cut_firstWord_nil (text : Text) (unnamed : firstWord text = []) :
    cut .start text = cut .start (text.dropWhile isNamePoint) := by
  have split := List.takeWhile_append_dropWhile (p := Text.isBlank)
    (l := text.takeWhile isNamePoint)
  rw [← firstWord, unnamed, List.append_nil] at split
  have blank : ∀ point ∈ text.takeWhile isNamePoint, Text.isBlank point = true := by
    rw [← split]
    exact List.all_eq_true.mp List.all_takeWhile
  have skipped := cut_blanks .start blank (text.dropWhile isNamePoint)
  rwa [List.takeWhile_append_dropWhile] at skipped

/-- A byte order mark becomes a part of the name behind it. -/
theorem cut_byteOrderMark (text : Text) :
    cut .start (byteOrderMark :: text) =
      (cut ⟨[], false⟩ (text.dropWhile isNamePoint)).map
        (⟨.name, byteOrderMark :: text.takeWhile isNamePoint, 0⟩ :: ·) := by
  have unmarked : ∀ keyword ∈ operandKeywords, keyword.head? ≠ some byteOrderMark := by decide
  have noOperand :
      operandKeywords.contains (byteOrderMark :: text.takeWhile isNamePoint) = false :=
    Bool.eq_false_iff.mpr fun member => unmarked _ (List.contains_iff_mem.mp member) rfl
  rw [cut_wholeName .start (by decide) (by decide), noOperand]
  rfl

/-- Where no slash opens a regular expression, it makes no difference whether an operand is
expected. -/
theorem cut_operand_of_divides {text : Text}
    (divides : ∀ more, behindGap? .blank text = some (.scalar '/' :: more) → ¬ClosesRegex more)
    (braces : List Bool) (operand other : Bool) :
    cut ⟨braces, operand⟩ text = cut ⟨braces, other⟩ text := by
  unfold behindGap? at divides
  cases skipped : readGap .blank text with
  | error left => rw [cut_eq, cut_eq ⟨braces, other⟩, skipped]
  | ok read =>
    obtain ⟨gap, rest⟩ := read
    cases rest with
    | nil => rw [cut_eq, cut_eq ⟨braces, other⟩, skipped]
    | cons first more =>
      by_cases slash : first = .scalar '/'
      · subst slash
        have noRegex : readRegexBody? false more = none := by
          rw [← Option.not_isSome_iff_eq_none, readRegexBody?_isSome_iff]
          exact divides more (by rw [skipped]; rfl)
        have same : lexemeAt ⟨braces, operand⟩ [] (.scalar '/') more =
            lexemeAt ⟨braces, other⟩ [] (.scalar '/') more := by
          simp [lexemeAt, noRegex]
        rw [cut_eq, cut_eq ⟨braces, other⟩, skipped]
        simp only [same]
      · exact cut_operand skipped slash braces operand other

/-- Behind a first word there are the same tokens, with a byte order mark or without. -/
theorem cut_behind_firstWord {code : Text} (divides : ¬StartsWithRegex code) (operand : Bool)
    (expects : operand = true →
      firstWord code = [] ∨ operandKeywords.contains (firstWord code) = true) :
    cut ⟨[], operand⟩ (code.dropWhile isNamePoint) =
      cut ⟨[], false⟩ (code.dropWhile isNamePoint) := by
  cases operand with
  | false => rfl
  | true =>
    refine cut_operand_of_divides (fun more skipped closes => divides ?_) [] true false
    exact ⟨expects rfl, more, skipped, closes⟩

/-- A name that is no keyword of declarations names no sources. -/
theorem sourcesFrom_name {name : Text} (plain : isDeclarationKeyword name = false)
    (rest : List Token) :
    sourcesFrom false (⟨.name, name, 0⟩ :: rest) = sourcesFrom false rest := by
  obtain ⟨noImport, noExport⟩ := Bool.or_eq_false_iff.mp plain
  have noPoint : Token.isMark ⟨.name, name, 0⟩ '.' = false := rfl
  rw [sourcesFrom, noPoint]
  simp [Token.isName, noImport, noExport]

/-- Module code with a byte order mark has the same imports, if it starts with no keyword of
declarations; else it has those behind the first word. -/
theorem imports_byteOrderMark {code : Text} (noLine : Text.startsWith "#!" code = false)
    (divides : ¬StartsWithRegex code) :
    (imports (byteOrderMark :: code)).toOption =
      if isDeclarationKeyword (firstWord code) then
        (tokens code).toOption.map fun read => (sourcesFrom false (read.drop 1)).eraseDups
      else (imports code).toOption := by
  have whole : interpreterLine code = ([], code) := by
    rw [interpreterLine, noLine]
    rfl
  have marked : (imports (byteOrderMark :: code)).toOption =
      (cut ⟨[], false⟩ (code.dropWhile isNamePoint)).toOption.map fun read =>
        (sourcesFrom false read).eraseDups := by
    have unnamed : interpreterLine (byteOrderMark :: code) = ([], byteOrderMark :: code) := rfl
    have plain : isDeclarationKeyword (byteOrderMark :: code.takeWhile isNamePoint) = false := rfl
    rw [toOption_imports, unnamed, cut_byteOrderMark]
    cases cut ⟨[], false⟩ (code.dropWhile isNamePoint) with
    | error fault => rfl
    | ok read => exact congrArg (some ·.eraseDups) (sourcesFrom_name plain read)
  rw [marked]
  by_cases unnamed : firstWord code = []
  · have same := cut_behind_firstWord divides true fun _ => .inl unnamed
    rw [unnamed, if_neg (by decide), toOption_imports, whole, cut_firstWord_nil code unnamed,
      LexerState.start, same]
  · have same := cut_behind_firstWord divides (operandKeywords.contains (firstWord code)) .inr
    have found := cut_firstWord code unnamed
    rw [same] at found
    split
    · rw [toOption_sources, whole, found]
      cases cut ⟨[], false⟩ (code.dropWhile isNamePoint) <;> rfl
    · rename_i plain
      rw [toOption_imports, whole, found]
      cases cut ⟨[], false⟩ (code.dropWhile isNamePoint) with
      | error fault => rfl
      | ok read =>
        exact congrArg (some ·.eraseDups) (sourcesFrom_name (by simpa using plain) read).symm

/-! ## Imports -/

/-- Whether a literal of a kind runs over a line of module code. -/
def RunsOver (kind : TokenKind) (code : Text) : Prop :=
  ∃ lexeme, IsLexemeOf .start (interpreterLine code).2 lexeme ∧ lexeme.RunsOver ∧
    lexeme.kind = kind

/-- The lexemes of a text that can be read are the first one and those of the text behind it. -/
theorem readable_lexemes {state : LexerState} {text more : Text} {point : CodePoint}
    {lexeme : Lexeme} (skipped : behindGap? .blank text = some (point :: more))
    (found : lexemeAt state [] point more = .ok lexeme) {lexemes : List Lexeme} {last : Text}
    (readable : lexemesFrom state text = .ok (lexemes, last)) :
    ∃ gap others, lexemesFrom lexeme.state lexeme.rest = .ok (others, last) ∧
      lexemes = { lexeme with gap } :: others := by
  unfold behindGap? at skipped
  cases read : readGap .blank text with
  | error left =>
    rw [read] at skipped
    cases skipped
  | ok both =>
    obtain ⟨gap, rest⟩ := both
    rw [read] at skipped
    cases skipped
    have here := lexemeAt_gap state gap point more
    rw [found] at here
    rw [lexemesFrom_cons read here] at readable
    simp only at readable
    cases behind : lexemesFrom lexeme.state lexeme.rest with
    | error fault =>
      rw [behind] at readable
      cases readable
    | ok others =>
      rw [behind] at readable
      cases readable
      exact ⟨gap, others.1, rfl, rfl⟩

/-- What is read off a text that can be read is among its lexemes. -/
theorem IsLexemeOf.mem {state : LexerState} {text : Text} {lexeme : Lexeme}
    (isLexeme : IsLexemeOf state text lexeme) {lexemes : List Lexeme} {last : Text}
    (readable : lexemesFrom state text = .ok (lexemes, last)) :
    ∃ gap, { lexeme with gap } ∈ lexemes := by
  induction isLexeme generalizing lexemes last with
  | first skipped found =>
    obtain ⟨gap, others, -, rfl⟩ := readable_lexemes skipped found readable
    exact ⟨gap, List.mem_cons_self⟩
  | behind skipped found rest tail =>
    obtain ⟨gap, others, behind, rfl⟩ := readable_lexemes skipped found readable
    exact (tail behind).imp fun gap member => List.mem_cons_of_mem _ member

/-- Code whose lexemes stay within their lines has no literal that runs over one. -/
theorem not_runsOver {code : Text}
    (within : (lexemesFrom .start (interpreterLine code).2).toOption.any fun read =>
      read.1.all fun lexeme => !decide lexeme.RunsOver) (kind : TokenKind) :
    ¬RunsOver kind code := by
  rintro ⟨lexeme, isLexeme, runsOver, -⟩
  cases readable : lexemesFrom .start (interpreterLine code).2 with
  | error fault => simp [readable, Except.toOption] at within
  | ok read =>
    obtain ⟨gap, member⟩ := isLexeme.mem readable
    rw [readable] at within
    have here := List.all_eq_true.mp within _ member
    rw [Bool.not_eq_true', decide_eq_false_iff_not] at here
    exact here runsOver

/-- Where neither strings nor regular expressions run over a line, no literal does. -/
theorem within_of_not_runsOver {code : Text} (noString : ¬RunsOver .string code)
    (noRegex : ¬RunsOver .regex code) (lexeme : Lexeme)
    (isLexeme : IsLexemeOf .start (interpreterLine code).2 lexeme) : ¬lexeme.RunsOver :=
  fun runsOver => runsOver.1.elim (fun string => noString ⟨lexeme, isLexeme, runsOver, string⟩)
    fun regex => noRegex ⟨lexeme, isLexeme, runsOver, regex⟩

/-- Code with carriage returns has the same tokens exactly if no literal runs over a line. -/
theorem tokens_withReturns_iff {code : Text} {read : List Token}
    (readable : tokens code = .ok read) :
    (tokens (withReturns code)).toOption.map (List.map Token.unplaced) =
        some ((read.map Token.unplaced).map Token.withReturns) ↔
      ¬RunsOver .string code ∧ ¬RunsOver .regex code := by
  have whole := toOption_tokens code
  rw [readable] at whole
  have found : cut .start (interpreterLine code).2 = .ok (read.map Token.unplaced) := by
    cases cutOff : cut .start (interpreterLine code).2 with
    | error fault => simp [cutOff, Except.toOption] at whole
    | ok other => exact congrArg _ (by simpa [cutOff, Except.toOption] using whole.symm)
  rw [toOption_tokens, cut_interpreterLine_withReturns]
  constructor
  · intro same
    constructor <;> rintro ⟨lexeme, isLexeme, runsOver, -⟩ <;>
      exact cut?_withReturns_ne isLexeme runsOver found same
  · rintro ⟨noString, noRegex⟩
    rw [cut?_withReturns_of_within _ _ (within_of_not_runsOver noString noRegex), found]
    rfl

/-- **File encodings.** Module code whose lines end with carriage returns and line feeds has the
same tokens as with line feeds alone exactly if no string and no regular expression runs over a
line. If no regular expression does, it has the same imports, or cannot be read like the other, if
no string does either, and cannot be read if one does. Module code with a byte order mark has the
same imports if it starts with no keyword of declarations, and else only those behind that keyword,
as long as no regular expression stands first. -/
theorem imports_of_encodings (code : Text) :
    (∀ read, tokens code = .ok read →
      ((tokens (withReturns code)).toOption.map (List.map Token.unplaced) =
          some ((read.map Token.unplaced).map Token.withReturns) ↔
        ¬RunsOver .string code ∧ ¬RunsOver .regex code)) ∧
      (¬RunsOver .regex code →
        (¬RunsOver .string code →
          (imports (withReturns code)).toOption = (imports code).toOption) ∧
        (RunsOver .string code → (imports (withReturns code)).toOption = none)) ∧
      (Text.startsWith "#!" code = false → ¬StartsWithRegex code →
        (imports (byteOrderMark :: code)).toOption =
          if isDeclarationKeyword (firstWord code) then
            (tokens code).toOption.map fun read => (sourcesFrom false (read.drop 1)).eraseDups
          else (imports code).toOption) := by
  refine ⟨fun _ => tokens_withReturns_iff, fun noRegex => ⟨fun noString => ?_, ?_⟩,
    imports_byteOrderMark⟩
  · rw [toOption_imports, toOption_imports, cut_interpreterLine_withReturns,
      cut?_withReturns_of_within _ _ (within_of_not_runsOver noString noRegex)]
    cases cut .start (interpreterLine code).2 with
    | error fault => rfl
    | ok read =>
      exact congrArg (some ·.eraseDups) (Token.keepsSources_withReturns.sourcesFrom_map false read)
  · rintro ⟨lexeme, isLexeme, runsOver, -⟩
    have strings (other : Lexeme) (isOther : IsLexemeOf .start (interpreterLine code).2 other)
        (runs : other.RunsOver) : other.kind = .string :=
      runs.1.resolve_right fun regex => noRegex ⟨other, isOther, runs, regex⟩
    rw [toOption_imports, cut_interpreterLine_withReturns,
      cut?_withReturns_eq_none isLexeme runsOver strings]
    rfl

/-- Two lines with a string in them, and a comment over a line. -/
theorem imports_of_encodings_comment :
    let code : Text := "let n = '1'; /*\n*/\nimport './m';"
    ¬RunsOver .string code ∧ ¬RunsOver .regex code ∧ Text.startsWith "#!" code = false ∧
      ¬StartsWithRegex code ∧
      withReturns code = "let n = '1'; /*\r\n*/\r\nimport './m';" ∧
      (imports (withReturns code)).toOption = some [("./m" : Text)] ∧
      (imports (byteOrderMark :: code)).toOption = some [("./m" : Text)] := by
  intro code
  have within (kind : TokenKind) : ¬RunsOver kind code := not_runsOver (by decide +kernel) kind
  have noLine : Text.startsWith "#!" code = false := by decide
  have divides : ¬StartsWithRegex code := by
    rintro ⟨unnamed | keyword, -⟩
    · exact absurd unnamed (by decide)
    · exact absurd keyword (by decide)
  obtain ⟨-, lines, marked⟩ := imports_of_encodings code
  refine ⟨within .string, within .regex, noLine, divides, by decide, ?_, ?_⟩
  · exact ((lines (within .regex)).1 (within .string)).trans (by decide +kernel)
  · exact (marked noLine divides).trans (by decide +kernel)

/-- Behind a byte order mark the first import is lost, and a string that runs over a line has no end
with carriage returns. -/
theorem imports_lost_by_encodings :
    imports "import './m';" = .ok ["./m"] ∧
      imports (byteOrderMark :: "import './m';") = .ok [] ∧
      imports "import 'a\\\nb';" = .ok ["ab"] ∧
      (imports (withReturns "import 'a\\\nb';")).toOption = none := by
  decide +kernel

end SiteBuild.Script
