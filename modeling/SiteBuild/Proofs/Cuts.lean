import SiteBuild.Proofs.ModuleImports

/-!
# Cutting off tokens

The tokens of a text without their places, and what cuts the first of them off: a gap, a token that
fits, tokens with a blank behind each of them. Main statement: what is read off a text are the
sources among the tokens that are cut off it (`imports_of_cut`).
-/
namespace SiteBuild.Script

/-! ## Tokens of a text -/

/-- The tokens of a text that is read in a state, without their places. -/
def cut (state : LexerState) (text : Text) : Except (Unterminated × Nat) (List Token) :=
  (lexemesFrom state text).map fun read => read.1.map Lexeme.token

/-- The gap before a token makes no difference to it. -/
theorem lexemeAt_gap (state : LexerState) (gap : Text) (first : CodePoint) (text : Text) :
    lexemeAt state gap first text =
      (lexemeAt state [] first text).map fun lexeme => { lexeme with gap } := by
  unfold lexemeAt
  split
  · unfold stringLexeme
    cases readStringBody? first text <;> rfl
  split
  · unfold templateLexeme
    cases readTemplatePart? text <;> rfl
  split
  · unfold templateLexeme
    cases readTemplatePart? text <;> rfl
  · cases if first == '/' && state.operandNext then readRegexBody? false text else none with
    | some body => rfl
    | none =>
      simp only
      split <;> rfl

/-- A text whose first token has no end has no lexemes. -/
theorem lexemesFrom_error {state : LexerState} {text gap more : Text} {first : CodePoint}
    {fault : Unterminated × Nat} (skipped : readGap .blank text = .ok (gap, first :: more))
    (found : lexemeAt state gap first more = .error fault) :
    lexemesFrom state text = .error fault := by
  rw [lexemesFrom]
  split
  · rename_i other
    rw [skipped] at other
    cases other
  · rename_i ended
    rw [skipped] at ended
    cases ended
  · rename_i next
    rw [skipped] at next
    cases next
    split
    · rename_i other
      rw [found] at other
      cases other
      rfl
    · rename_i other
      rw [found] at other
      cases other

/-- The tokens of a text are the first one and those of the text behind it. -/
theorem cut_eq (state : LexerState) (text : Text) :
    cut state text =
      match readGap .blank text with
      | .error left => .error (.comment, left)
      | .ok (_, []) => .ok []
      | .ok (_, first :: more) =>
        match lexemeAt state [] first more with
        | .error fault => .error fault
        | .ok lexeme => (cut lexeme.state lexeme.rest).map (lexeme.token :: ·) := by
  unfold cut
  cases skipped : readGap .blank text with
  | error left =>
    rw [lexemesFrom]
    split <;> simp_all [Except.map]
  | ok read =>
    obtain ⟨gap, more⟩ := read
    cases more with
    | nil => rw [lexemesFrom_nil skipped]; rfl
    | cons first more =>
      simp only
      have gapless := lexemeAt_gap state gap first more
      cases found : lexemeAt state [] first more with
      | error fault =>
        rw [found] at gapless
        rw [lexemesFrom_error skipped gapless]
        rfl
      | ok lexeme =>
        rw [found] at gapless
        rw [lexemesFrom_cons skipped gapless]
        cases behind : lexemesFrom lexeme.state lexeme.rest <;> simp only [Except.map, behind]
        rfl

/-- A blank before a text makes no difference to its tokens. -/
theorem cut_blank (state : LexerState) {point : CodePoint} (blank : Text.isBlank point = true)
    (rest : Text) : cut state (point :: rest) = cut state rest := by
  have skipped := @readGap_filler (.blank point) blank rest
  rw [cut_eq, cut_eq state rest]
  change readGap .blank (point :: rest) = _ at skipped
  rw [skipped]
  cases readGap .blank rest with
  | error left => rfl
  | ok read =>
    obtain ⟨gap, more⟩ := read
    cases more <;> rfl

/-- A token that fits is cut off the text behind it. -/
theorem cut_spelled {state : LexerState} {spelled : Spelled} {rest : Text}
    (fits : spelled.FitsIn state) (apart : spelled.Apart rest) :
    cut state (spelled.raw ++ rest) =
      (cut (spelled.after state) rest).map (spelled.token :: ·) := by
  obtain ⟨first, more, raw, found⟩ := isRead_of_fits state [] fits apart
  have skipped := readGap_solid (solid_spelled apart)
  rw [raw, List.cons_append] at skipped ⊢
  rw [cut_eq, skipped]
  simp only [found, token_lexeme]
  rfl

/-- A point that is neither blank nor a slash begins no gap. -/
theorem readGap_point {point : CodePoint} (bare : Text.isBlank point = false)
    (noSlash : point ≠ .scalar '/') (rest : Text) :
    readGap .blank (point :: rest) = .ok ([], point :: rest) :=
  readGap_solid (solid_cons bare fun slash => absurd slash noSlash)

/-- Whether an operand is expected makes no difference to a text whose first token starts with no
slash. -/
theorem cut_operand {text gap more : Text} {first : CodePoint}
    (skipped : readGap .blank text = .ok (gap, first :: more)) (noSlash : first ≠ .scalar '/')
    (braces : List Bool) (operand other : Bool) :
    cut ⟨braces, operand⟩ text = cut ⟨braces, other⟩ text := by
  have same : lexemeAt ⟨braces, operand⟩ [] first more =
      lexemeAt ⟨braces, other⟩ [] first more := by
    have divides : (first == .scalar '/') = false := beq_eq_false_iff_ne.mpr noSlash
    simp only [lexemeAt, divides, Bool.false_and]
  rw [cut_eq, cut_eq ⟨braces, other⟩, skipped]
  simp only [same]

/-- A name is cut off the text behind it. -/
theorem cut_name (state : LexerState) {first : CodePoint} {more rest : Text}
    (bare : Text.isBlank first = false) (points : ∀ point ∈ first :: more, isNamePoint point)
    (apart : ¬GoesOn rest) :
    cut state (first :: (more ++ rest)) =
      (cut ⟨state.braces, operandKeywords.contains (first :: more)⟩ rest).map
        (⟨.name, first :: more, 0⟩ :: ·) := by
  obtain ⟨named, others⟩ := List.forall_mem_cons.mp points
  obtain ⟨single, double, backtick, brace, slash⟩ := name_point_apart named
  have found : lexemeAt state [] first (more ++ rest) =
      .ok (nameLexeme [] first state.braces (more ++ rest)) := by
    simp [lexemeAt, single, double, backtick, brace, slash, named]
  rw [cut_eq, readGap_point bare slash]
  simp only [found, nameLexeme, takeWhile_name others apart, dropWhile_name others apart]
  rfl

/-- A mark that begins nothing else is cut off the text behind it. -/
theorem cut_point (state : LexerState) {mark : CodePoint} (bare : Text.isBlank mark = false)
    (plain : mark ∉ [CodePoint.scalar '\x27', .scalar '\x22', .scalar '\x60', .scalar '/'])
    (noName : isNamePoint mark = false)
    (outside : mark = .scalar '\x7d' → state.braces.head? ≠ some true) (rest : Text) :
    cut state (mark :: rest) =
      (cut (markLexeme [] mark state.braces rest).state rest).map (⟨.mark, [mark], 0⟩ :: ·) := by
  simp only [List.mem_cons, List.not_mem_nil, or_false, not_or] at plain
  obtain ⟨single, double, backtick, slash⟩ := plain
  have found : lexemeAt state [] mark rest = .ok (markLexeme [] mark state.braces rest) := by
    by_cases closing : mark = .scalar '\x7d'
    · have here := outside closing
      subst closing
      simp [lexemeAt, here, noName]
    · simp [lexemeAt, single, double, backtick, slash, closing, noName]
  rw [cut_eq, readGap_point bare slash]
  simp only [found]
  rfl

/-- Tokens with a blank behind each of them. -/
def spaced (tokens : List Spelled) : Text := tokens.flatMap fun spelled => spelled.raw ++ " "

/-- A token in front of those that are cut off. -/
theorem map_cons_map {ε : Type} (first : Token) (tokens : List Token)
    (found : Except ε (List Token)) :
    (found.map (tokens ++ ·)).map (first :: ·) = found.map (first :: tokens ++ ·) := by
  cases found <;> rfl

/-- Tokens with a blank behind each of them are cut off the text behind them. -/
theorem cut_spaced {tokens : List Spelled} {state : LexerState} (fits : Fits state tokens)
    (rest : Text) :
    cut state (spaced tokens ++ rest) =
      (cut (tokens.foldl Spelled.after state) rest).map (tokens.map Spelled.token ++ ·) := by
  induction tokens generalizing state with
  | nil =>
    change cut state rest = (cut state rest).map _
    cases cut state rest <;> rfl
  | cons spelled tokens tail =>
    obtain ⟨here, behind⟩ := fits
    have apart : spelled.Apart (.scalar ' ' :: (spaced tokens ++ rest)) := by
      cases spelled with
      | word word => exact (by decide : ¬isNamePoint (.scalar ' ') = true)
      | regex regex => exact (by decide : ¬isNamePoint (.scalar ' ') = true)
      | mark mark => simp [Spelled.Apart]
      | _ => trivial
    have whole : spaced (spelled :: tokens) ++ rest =
        spelled.raw ++ .scalar ' ' :: (spaced tokens ++ rest) := by
      have blank : Text.ofString " " = [.scalar ' '] := rfl
      simp [spaced, blank]
    rw [whole, cut_spelled here apart, cut_blank _ (by decide), tail behind, map_cons_map]
    rfl

/-- Nothing is cut off the end of a text. -/
theorem cut_nil (state : LexerState) : cut state [] = .ok [] := by
  rw [cut_eq]
  rfl

/-- Tokens with a blank behind each of them are cut up to the end. -/
theorem cut_spaced_end {tokens : List Spelled} {state : LexerState} (fits : Fits state tokens) :
    cut state (spaced tokens) = .ok (tokens.map Spelled.token) := by
  have found := cut_spaced fits []
  rwa [List.append_nil, cut_nil, Except.map, List.append_nil] at found

/-! ## Imports of a text -/

/-- The tokens of module code are those behind its first line, if that names an interpreter. -/
theorem toOption_tokens (code : Text) :
    (tokens code).toOption.map (List.map Token.unplaced) =
      (cut .start (interpreterLine code).2).toOption := by
  rw [tokens, cut]
  simp only
  cases lexemesFrom .start (interpreterLine code).2 with
  | error fault => rfl
  | ok read =>
    simp only [Except.map, Except.toOption, Option.map_some]
    rw [unplaced_tokensFrom]

/-- What is read of a text that names no interpreter are the tokens that are cut off it. -/
theorem tokens_eq_ok_iff_cut {code : Text} (noLine : Text.startsWith "#!" code = false)
    (read : List Token) :
    (tokens code).map (List.map Token.unplaced) = .ok read ↔ cut .start code = .ok read := by
  have whole : interpreterLine code = ([], code) := by
    rw [interpreterLine, noLine]
    rfl
  rw [tokens, whole, cut]
  cases lexemes : lexemesFrom .start code with
  | error fault => simp [lexemes, Except.map]
  | ok lexed => simp [lexemes, Except.map, unplaced_tokensFrom]

/-- The imports of a text are the sources among its tokens, if it names no interpreter. -/
theorem imports_of_cut {code : Text} {read : List Token}
    (noLine : Text.startsWith "#!" code = false) (found : cut .start code = .ok read) :
    (∃ placed, tokens code = .ok placed) ∧
      imports code = .ok (sourcesFrom false read).eraseDups := by
  have same := (tokens_eq_ok_iff_cut noLine read).mpr found
  cases placed : tokens code with
  | error fault =>
    rw [placed] at same
    cases same
  | ok tokens =>
    rw [placed] at same
    cases same
    rw [imports, placed, sourcesFrom_unplaced]
    exact ⟨⟨tokens, rfl⟩, rfl⟩

/-- A text that cannot be cut has no imports. -/
theorem imports_ne_ok_of_cut {code : Text} {fault : Unterminated × Nat}
    (noLine : Text.startsWith "#!" code = false) (failed : cut .start code = .error fault)
    (sources : List Text) : imports code ≠ .ok sources := by
  intro found
  cases read : tokens code with
  | error fault =>
    rw [imports, read] at found
    cases found
  | ok placed =>
    have whole := (tokens_eq_ok_iff_cut noLine (placed.map Token.unplaced)).mp (by rw [read]; rfl)
    rw [failed] at whole
    cases whole

end SiteBuild.Script
