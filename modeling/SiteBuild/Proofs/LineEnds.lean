import SiteBuild.Proofs.Slashes

/-!
# Line ends

The tokens of a text in which a carriage return stands before each line feed. Each reader decides by
itself what ends a line, and each goes on behind the two characters as behind the one, but those of
strings and regular expressions that run over a line. Main statements: the tokens are the same if no
literal does (`cut?_withReturns_of_within`), they are not the same if one does
(`cut?_withReturns_ne`), and a string that does has no end (`cut?_withReturns_eq_none`).
-/
namespace SiteBuild.Script

/-! ## Carriage returns -/

/-- A text with a carriage return in front of each line feed. -/
def withReturns : Text → Text
  | [] => []
  | point :: rest =>
    if point = .scalar '\n' then .scalar '\r' :: .scalar '\n' :: withReturns rest
    else point :: withReturns rest

/-- A line feed gets a carriage return in front of it. -/
theorem withReturns_feed (rest : Text) :
    withReturns (.scalar '\n' :: rest) = .scalar '\r' :: .scalar '\n' :: withReturns rest := by
  rw [withReturns, if_pos rfl]

/-- Other characters stay. -/
theorem withReturns_cons {point : CodePoint} (other : point ≠ .scalar '\n') (rest : Text) :
    withReturns (point :: rest) = point :: withReturns rest := by
  rw [withReturns, if_neg other]

/-- What a text starts with, carriage returns apart, stays. -/
theorem head?_withReturns {point : CodePoint} (other : point ≠ .scalar '\r')
    (feed : point ≠ .scalar '\n') (text : Text) :
    (withReturns text).head? = some point ↔ text.head? = some point := by
  cases text with
  | nil => rfl
  | cons first rest =>
    by_cases same : first = .scalar '\n'
    · subst same
      simp [withReturns_feed, Ne.symm other, Ne.symm feed]
    · simp [withReturns_cons same]

/-- A text without line feeds stays as it is. -/
theorem withReturns_of_not_mem {text : Text} (single : .scalar '\n' ∉ text) :
    withReturns text = text := by
  induction text with
  | nil => rfl
  | cons point rest tail =>
    obtain ⟨here, behind⟩ := not_or.mp (List.mem_cons.not.mp single)
    rw [withReturns_cons (Ne.symm here), tail behind]

/-- The name at the start of a text stays. -/
theorem takeWhile_withReturns (text : Text) :
    (withReturns text).takeWhile isNamePoint = text.takeWhile isNamePoint := by
  induction text with
  | nil => rfl
  | cons point rest tail =>
    by_cases feed : point = .scalar '\n'
    · subst feed
      rfl
    · rw [withReturns_cons feed, List.takeWhile_cons, List.takeWhile_cons, tail]

/-- So does the text behind that name. -/
theorem dropWhile_withReturns (text : Text) :
    (withReturns text).dropWhile isNamePoint = withReturns (text.dropWhile isNamePoint) := by
  induction text with
  | nil => rfl
  | cons point rest tail =>
    by_cases feed : point = .scalar '\n'
    · subst feed
      rfl
    · rw [withReturns_cons feed, List.dropWhile_cons, List.dropWhile_cons, tail,
        apply_ite withReturns, withReturns_cons feed]

/-! ## Gaps and literals -/

/-- A text that starts with a token starts with the same one. -/
theorem Solid.withReturns {text : Text} (solid : Solid text) : Solid (withReturns text) := by
  cases text with
  | nil => exact solid
  | cons point rest =>
    obtain ⟨bare, noLine, noBlock⟩ := solid
    have here := bare point rest rfl
    have feed : point ≠ .scalar '\n' := by
      rintro rfl
      exact absurd here (by decide)
    rw [withReturns_cons feed]
    refine solid_cons here fun slash => ?_
    rw [Ne, Ne, head?_withReturns (by decide) (by decide),
      head?_withReturns (by decide) (by decide)]
    constructor <;> intro next <;> obtain ⟨more, rfl⟩ := List.head?_eq_some_iff.mp next
    · exact noLine more (by rw [slash])
    · exact noBlock more (by rw [slash])

/-- The text behind a gap. -/
def behindGap? (mode : Gap) (text : Text) : Option Text :=
  ((readGap mode text).map Prod.snd).toOption

/-- The text behind a gap that starts with other characters. -/
theorem behindGap?_map (front : Text) (mode : Gap) (text : Text) :
    (((readGap mode text).map fun read => (front ++ read.1, read.2)).map Prod.snd).toOption =
      behindGap? mode text := by
  rw [behindGap?]
  cases readGap mode text <;> rfl

/-- Two slashes begin a comment up to the end of the line. -/
theorem behindGap?_slashes (rest : Text) :
    behindGap? .blank (.scalar '/' :: .scalar '/' :: rest) = behindGap? .line rest :=
  behindGap?_map [.scalar '/', .scalar '/'] .line rest

/-- A slash and a star begin a comment with an end of its own. -/
theorem behindGap?_star (rest : Text) :
    behindGap? .blank (.scalar '/' :: .scalar '*' :: rest) =
      behindGap? (.block (rest.length + 2)) rest :=
  behindGap?_map [.scalar '/', .scalar '*'] (.block (rest.length + 2)) rest

/-- The end of a line ends a comment. -/
theorem behindGap?_feed (rest : Text) :
    behindGap? .line (.scalar '\n' :: rest) = behindGap? .blank rest :=
  behindGap?_map [.scalar '\n'] .blank rest

/-- A star and a slash end a comment. -/
theorem behindGap?_end (left : Nat) (rest : Text) :
    behindGap? (.block left) (.scalar '*' :: .scalar '/' :: rest) = behindGap? .blank rest :=
  behindGap?_map [.scalar '*', .scalar '/'] .blank rest

/-- A gap in the same mode, where a comment may have started somewhere else. -/
def Gap.startedAt (left : Nat) : Gap → Gap
  | .block _ => .block left
  | mode => mode

/-- A comment goes on up to the end of its line. -/
theorem behindGap?_line {point : CodePoint} (sameLine : point ≠ .scalar '\n') (rest : Text) :
    behindGap? .line (point :: rest) = behindGap? .line rest := by
  rw [behindGap?, readGap]
  · exact behindGap?_map [point] .line rest
  · exact fun feed => absurd feed sameLine

/-- A comment with an end of its own goes on up to there. -/
theorem behindGap?_block (left : Nat) {point : CodePoint} {rest : Text}
    (goesOn : point = .scalar '*' → rest.head? ≠ some (.scalar '/')) :
    behindGap? (.block left) (point :: rest) = behindGap? (.block left) rest := by
  rw [behindGap?, readGap]
  · exact behindGap?_map [point] (.block left) rest
  · exact fun _ star slash => goesOn star (by rw [slash]; rfl)

/-- Blanks are skipped. -/
theorem behindGap?_blank {point : CodePoint} (blank : Text.isBlank point = true) (rest : Text) :
    behindGap? .blank (point :: rest) = behindGap? .blank rest := by
  have skipped := @readGap_filler (.blank point) blank rest
  change readGap .blank (point :: rest) = _ at skipped
  rw [behindGap?, skipped]
  exact behindGap?_map [point] .blank rest

/-- A text that starts with a token is behind no gap. -/
theorem behindGap?_solid {text : Text} (solid : Solid text) :
    behindGap? .blank text = some text := by
  rw [behindGap?, readGap_solid solid]
  rfl

/-- What starts with neither a blank nor a comment starts with a token. -/
theorem solid_of_cases {point : CodePoint} {rest : Text} (bare : ¬Text.isBlank point = true)
    (noLine : ∀ more, point = .scalar '/' → rest = .scalar '/' :: more → False)
    (noBlock : ∀ more, point = .scalar '/' → rest = .scalar '*' :: more → False) :
    Solid (point :: rest) := by
  refine solid_cons (by simpa using bare) fun slash => ⟨fun next => ?_, fun next => ?_⟩
  · obtain ⟨more, rfl⟩ := List.head?_eq_some_iff.mp next
    exact noLine more slash rfl
  · obtain ⟨more, rfl⟩ := List.head?_eq_some_iff.mp next
    exact noBlock more slash rfl

/-- A star that does not end a comment is in front of no slash. -/
theorem head_of_goesOn {point : CodePoint} {rest : Text}
    (goesOn : ∀ more, point = .scalar '*' → rest = .scalar '/' :: more → False)
    (star : point = .scalar '*') : rest.head? ≠ some (.scalar '/') := by
  intro slash
  obtain ⟨more, rfl⟩ := List.head?_eq_some_iff.mp slash
  exact goesOn more star rfl

/-- Behind a gap there is the same text, with carriage returns or without. -/
theorem behindGap?_withReturns (mode : Gap) (left : Nat) (text : Text) :
    behindGap? (mode.startedAt left) (withReturns text) =
      (behindGap? mode text).map withReturns := by
  fun_induction readGap mode text generalizing left with
  | case1 place => rfl
  | case2 mode noBlock =>
    cases mode with
    | block place => exact absurd rfl (noBlock place)
    | _ => rfl
  | case3 rest tail =>
    rw [behindGap?_slashes, ← tail left]
    exact behindGap?_slashes (withReturns rest)
  | case4 rest tail =>
    rw [behindGap?_star, ← tail ((withReturns rest).length + 2)]
    exact behindGap?_star (withReturns rest)
  | case5 point rest noLine noBlock blank tail =>
    rw [behindGap?_blank blank, ← tail left]
    by_cases feed : point = .scalar '\n'
    · subst feed
      rw [withReturns_feed]
      exact (behindGap?_blank (by decide) _).trans (behindGap?_blank blank _)
    · rw [withReturns_cons feed]
      exact behindGap?_blank blank _
  | case6 point rest noLine noBlock bare =>
    have solid := solid_of_cases bare noLine noBlock
    rw [behindGap?_solid solid]
    exact behindGap?_solid solid.withReturns
  | case7 rest tail =>
    rw [withReturns_feed, behindGap?_feed, ← tail left]
    exact (behindGap?_line (by decide) _).trans (behindGap?_feed (withReturns rest))
  | case8 point rest inside tail =>
    have sameLine : point ≠ .scalar '\n' := inside
    rw [withReturns_cons sameLine, behindGap?_line sameLine, ← tail left]
    exact behindGap?_line sameLine _
  | case9 place rest tail =>
    rw [behindGap?_end, ← tail left]
    exact behindGap?_end left (withReturns rest)
  | case10 place point rest goesOn tail =>
    have open_ := head_of_goesOn goesOn
    rw [behindGap?_block place open_, ← tail left]
    by_cases feed : point = .scalar '\n'
    · subst feed
      rw [withReturns_feed]
      refine (behindGap?_block left ?_).trans (behindGap?_block left ?_)
      · simp
      · simp
    · rw [withReturns_cons feed]
      refine behindGap?_block left fun star => ?_
      rw [Ne, head?_withReturns (by decide) (by decide)]
      exact open_ star

/-- What neither ends a text as a backslash nor escapes what is behind it is no backslash. -/
theorem ne_backslash {point : CodePoint} {rest : Text}
    (noEnd : point = .scalar '\\' → rest = [] → False)
    (noEscape : ∀ second more, point = .scalar '\\' → rest = second :: more → False) :
    point ≠ .scalar '\\' := by
  intro backslash
  cases rest with
  | nil => exact noEnd backslash rfl
  | cons second more => exact noEscape second more backslash rfl

/-- A string literal is the same one, unless it runs over a line: then its second line has no
beginning. -/
theorem readStringBody?_withReturns (quote : Quote) (text : Text) :
    readStringBody? quote.point (withReturns text) =
      (readStringBody? quote.point text).bind fun literal =>
        if .scalar '\n' ∈ literal.raw then none
        else some { literal with rest := withReturns literal.rest } := by
  have feed : quote.point ≠ .scalar '\n' := by cases quote <;> decide
  have carriage : quote.point ≠ .scalar '\r' := by cases quote <;> decide
  have broken (rest : Text) : readStringBody? quote.point (.scalar '\n' :: rest) = none := by
    cases quote <;> rfl
  fun_induction readStringBody? quote.point text with
  | case1 => rfl
  | case2 => rfl
  | case3 point rest tail =>
    rw [withReturns_cons (by decide)]
    by_cases escaped : point = .scalar '\n'
    · subst escaped
      rw [withReturns_feed, readStringBody?_escaped, broken]
      cases readStringBody? quote.point rest <;> simp [Literal.prepend]
    · rw [withReturns_cons escaped, readStringBody?_escaped, tail]
      cases readStringBody? quote.point rest with
      | none => rfl
      | some literal =>
        by_cases crosses : .scalar '\n' ∈ literal.raw <;>
          simp [Literal.prepend, crosses, Ne.symm escaped]
  | case4 point rest _ _ same =>
    obtain rfl : point = quote.point := eq_of_beq same
    rw [withReturns_cons feed, readStringBody?_quote]
    simp [Ne.symm feed]
  | case5 point rest _ _ _ same =>
    obtain rfl : point = .scalar '\n' := eq_of_beq same
    rw [withReturns_feed, readStringBody?_plain (by simp [Ne.symm carriage]), broken]
    rfl
  | case6 point rest noEnd noEscape other sameLine tail =>
    have here : point ≠ .scalar '\n' := by simpa using sameLine
    have solid := ne_backslash noEnd noEscape
    have clean : point ∉ [quote.point, .scalar '\\', .scalar '\n'] := by
      simpa [here, solid] using other
    rw [withReturns_cons here, readStringBody?_plain clean, tail]
    cases readStringBody? quote.point rest with
    | none => rfl
    | some literal =>
      by_cases crosses : .scalar '\n' ∈ literal.raw <;>
        simp [Literal.prepend, crosses, Ne.symm here]

/-- A part of a template literal is the same one, with carriage returns in it. -/
theorem readTemplatePart?_withReturns (text : Text) :
    readTemplatePart? (withReturns text) =
      (readTemplatePart? text).map fun part =>
        (withReturns part.1, part.2.1, withReturns part.2.2) := by
  fun_induction readTemplatePart? text with
  | case1 => rfl
  | case2 => rfl
  | case3 point rest tail =>
    rw [withReturns_cons (by decide)]
    by_cases feed : point = .scalar '\n'
    · subst feed
      rw [withReturns_feed, readTemplatePart?, readTemplatePart?_plain (by decide) _ (by simp),
        tail]
      cases readTemplatePart? rest <;> rfl
    · rw [withReturns_cons feed, readTemplatePart?, tail]
      cases readTemplatePart? rest with
      | none => rfl
      | some part =>
        simp [withReturns_cons, feed]
  | case4 rest =>
    rw [withReturns_cons (by decide), readTemplatePart?]
    rfl
  | case5 rest =>
    rw [withReturns_cons (by decide), withReturns_cons (by decide), readTemplatePart?]
    rfl
  | case6 point rest noEnd noEscape noTick noOpening tail =>
    have solid := ne_backslash noEnd noEscape
    have clean : point ∉ [CodePoint.scalar '\\', .scalar '\x60'] := by
      simpa [solid] using noTick
    have closed : point = .scalar '$' → rest.head? ≠ some (.scalar '\x7b') := by
      intro dollar brace
      obtain ⟨more, rfl⟩ := List.head?_eq_some_iff.mp brace
      exact noOpening more dollar rfl
    by_cases feed : point = .scalar '\n'
    · subst feed
      rw [withReturns_feed, readTemplatePart?_plain (by decide) _ (by simp),
        readTemplatePart?_plain (by decide) _ (by simp), tail]
      cases readTemplatePart? rest <;> rfl
    · have closed' : point = .scalar '$' →
          (withReturns rest).head? ≠ some (.scalar '\x7b') := fun dollar => by
        rw [Ne, head?_withReturns (by decide) (by decide)]
        exact closed dollar
      rw [withReturns_cons feed, readTemplatePart?_plain clean _ closed', tail]
      cases readTemplatePart? rest with
      | none => rfl
      | some part => simp [withReturns_cons feed]

/-- A regular expression is the same one, unless it runs over a line: then its slash divides. -/
theorem readRegexBody?_withReturns (inClass : Bool) (text : Text) :
    readRegexBody? inClass (withReturns text) =
      (readRegexBody? inClass text).bind fun body =>
        if .scalar '\n' ∈ body.1 then none else some (body.1, withReturns body.2) := by
  fun_induction readRegexBody? inClass text with
  | case1 => rfl
  | case2 => rfl
  | case3 inClass point rest tail =>
    rw [withReturns_cons (by decide)]
    by_cases feed : point = .scalar '\n'
    · subst feed
      rw [withReturns_feed, readRegexBody?, readRegexBody?]
      cases readRegexBody? inClass rest <;> simp
    · rw [withReturns_cons feed, readRegexBody?, tail]
      cases readRegexBody? inClass rest with
      | none => rfl
      | some body => by_cases crosses : .scalar '\n' ∈ body.1 <;> simp [crosses, Ne.symm feed]
  | case4 inClass rest =>
    rw [withReturns_feed, readRegexBody?_plain inClass (by decide), readRegexBody?]
    rfl
  | case5 rest tail =>
    rw [withReturns_cons (by decide), readRegexBody?, if_pos rfl, tail]
    cases readRegexBody? true rest with
    | none => rfl
    | some body => by_cases crosses : .scalar '\n' ∈ body.1 <;> simp [crosses]
  | case6 inClass rest outside =>
    have single : .scalar '\n' ∉ rest.takeWhile isNamePoint := fun member =>
      absurd (List.all_eq_true.mp List.all_takeWhile _ member) (by decide)
    rw [withReturns_cons (by decide), readRegexBody?, if_neg outside, takeWhile_withReturns,
      dropWhile_withReturns]
    simp [single]
  | case7 inClass point rest noEnd noEscape sameLine noSlash tail =>
    have solid := ne_backslash noEnd noEscape
    have clean : point ∉ [CodePoint.scalar '\\', .scalar '\n', .scalar '/'] := by
      simpa [solid] using ⟨sameLine, noSlash⟩
    rw [withReturns_cons sameLine, readRegexBody?_plain inClass clean, tail]
    cases readRegexBody? _ rest with
    | none => rfl
    | some body =>
      by_cases crosses : .scalar '\n' ∈ body.1 <;> simp [crosses, Ne.symm sameLine]

/-! ## Tokens -/

/-- A token of a text as a token of the text with carriage returns: they stay out of all but the
parts of template literals. -/
def Token.withReturns (token : Token) : Token :=
  { token with
    value := if token.kind = .template then Script.withReturns token.value else token.value }

/-- Carriage returns change no sources. -/
theorem Token.keepsSources_withReturns : KeepsSources Token.withReturns where
  kind _ := rfl
  value _ other := if_neg other

/-- A lexeme of a text as a lexeme of the text with carriage returns. -/
def Lexeme.withReturns (lexeme : Lexeme) : Lexeme :=
  { lexeme with
    value := lexeme.token.withReturns.value
    raw := Script.withReturns lexeme.raw
    rest := Script.withReturns lexeme.rest }

/-- The token of a lexeme with carriage returns. -/
theorem Lexeme.token_withReturns (lexeme : Lexeme) :
    lexeme.withReturns.token = lexeme.token.withReturns :=
  rfl

/-- Whether a lexeme is a string or a regular expression that runs over a line. -/
def Lexeme.RunsOver (lexeme : Lexeme) : Prop :=
  (lexeme.kind = .string ∨ lexeme.kind = .regex) ∧ .scalar '\n' ∈ lexeme.raw

instance (lexeme : Lexeme) : Decidable lexeme.RunsOver :=
  inferInstanceAs (Decidable (_ ∧ _))

/-- What a lexeme becomes with carriage returns: a string that runs over a line has no end, and a
regular expression that does is no more than its slash. -/
def Lexeme.returned? (lexeme slash : Lexeme) : Option Lexeme :=
  if ¬lexeme.RunsOver then some lexeme.withReturns
  else if lexeme.kind = .string then none
  else some slash

/-- What stays within its line becomes itself. -/
theorem Lexeme.returned?_of_within {lexeme : Lexeme} (within : ¬lexeme.RunsOver)
    (slash : Lexeme) : lexeme.returned? slash = some lexeme.withReturns :=
  if_pos within

/-- A string literal is the same token, unless it runs over a line. -/
theorem stringLexeme_withReturns (quote : Quote) (braces : List Bool) (text : Text)
    (slash : Lexeme) :
    (stringLexeme [] quote.point braces (withReturns text)).toOption =
      (stringLexeme [] quote.point braces text).toOption.bind (·.returned? slash) := by
  have feed : quote.point ≠ .scalar '\n' := by cases quote <;> decide
  rw [stringLexeme, stringLexeme, readStringBody?_withReturns]
  cases readStringBody? quote.point text with
  | none => rfl
  | some literal =>
    by_cases crosses : .scalar '\n' ∈ literal.raw
    · simp [crosses, Except.toOption, Lexeme.returned?, Lexeme.RunsOver]
    · simp [crosses, Ne.symm feed, Except.toOption, Lexeme.returned?, Lexeme.RunsOver,
        Lexeme.withReturns, withReturns_of_not_mem, Lexeme.token, Token.withReturns]

/-- A part of a template literal is the same token. -/
theorem templateLexeme_withReturns {opening : CodePoint} (feed : opening ≠ .scalar '\n')
    (braces : List Bool) (text : Text) (slash : Lexeme) :
    (templateLexeme [] opening braces (withReturns text)).toOption =
      (templateLexeme [] opening braces text).toOption.bind (·.returned? slash) := by
  rw [templateLexeme, templateLexeme, readTemplatePart?_withReturns]
  cases readTemplatePart? text with
  | none => rfl
  | some part =>
    simp [Except.toOption, Lexeme.returned?, Lexeme.RunsOver, Lexeme.withReturns, Lexeme.token,
      Token.withReturns, withReturns_cons feed]

/-- A name is the same token. -/
theorem nameLexeme_withReturns {first : CodePoint} (feed : first ≠ .scalar '\n')
    (braces : List Bool) (text : Text) :
    nameLexeme [] first braces (withReturns text) =
      (nameLexeme [] first braces text).withReturns := by
  have single : .scalar '\n' ∉ text.takeWhile isNamePoint := fun member =>
    absurd (List.all_eq_true.mp List.all_takeWhile _ member) (by decide)
  simp [nameLexeme, takeWhile_withReturns, dropWhile_withReturns, Lexeme.withReturns,
    Lexeme.token, Token.withReturns, withReturns_of_not_mem, Ne.symm feed, single]

/-- The token at the start of a text with carriage returns is the same one as without, unless it
runs over a line: then a string literal has no end, and the slash of a regular expression is a
mark. -/
theorem lexemeAt_withReturns (state : LexerState) {first : CodePoint}
    (feed : first ≠ .scalar '\n') (more : Text) :
    (lexemeAt state [] first (withReturns more)).toOption =
      (lexemeAt state [] first more).toOption.bind
        (·.returned? (markLexeme [] first state.braces (withReturns more))) := by
  unfold lexemeAt
  split
  · rename_i quoted
    obtain ⟨quote, rfl⟩ : ∃ quote : Quote, first = quote.point := by
      rcases Bool.or_eq_true_iff.mp quoted with same | same
      · exact ⟨.single, eq_of_beq same⟩
      · exact ⟨.double, eq_of_beq same⟩
    exact stringLexeme_withReturns quote state.braces more _
  split
  · exact templateLexeme_withReturns feed state.braces more _
  split
  · exact templateLexeme_withReturns feed (state.braces.drop 1) more _
  · have plain :
        (if isNamePoint first then .ok (nameLexeme [] first state.braces (withReturns more))
          else .ok (markLexeme [] first state.braces (withReturns more)) :
            Except (Unterminated × Nat) Lexeme).toOption =
        (if isNamePoint first then .ok (nameLexeme [] first state.braces more)
          else .ok (markLexeme [] first state.braces more) :
            Except (Unterminated × Nat) Lexeme).toOption.bind
          (·.returned? (markLexeme [] first state.braces (withReturns more))) := by
      split
      · rw [nameLexeme_withReturns feed]
        rfl
      · simp [Except.toOption, Lexeme.returned?, Lexeme.RunsOver, markLexeme,
          Lexeme.withReturns, Lexeme.token, Token.withReturns, withReturns_cons feed,
          withReturns_of_not_mem]
    simp only
    by_cases opens : (first == .scalar '/' && state.operandNext) = true
    · rw [if_pos opens, if_pos opens, readRegexBody?_withReturns]
      cases readRegexBody? false more with
      | none => exact plain
      | some body =>
        have noName : isNamePoint first = false := by
          rw [eq_of_beq (Bool.and_eq_true_iff.mp opens).1]
          decide
        by_cases crosses : .scalar '\n' ∈ body.1
        · simp [crosses, Except.toOption, Lexeme.returned?, Lexeme.RunsOver, noName]
        · simp [crosses, Ne.symm feed, Except.toOption, Lexeme.returned?, Lexeme.RunsOver,
            Lexeme.withReturns, withReturns_of_not_mem, Lexeme.token, Token.withReturns]
    · rw [if_neg opens, if_neg opens]
      exact plain

/-! ## Whole texts -/

/-- Whether a lexeme, without the gap before it, is read off a text: at its start, or behind
another one. -/
inductive IsLexemeOf : LexerState → Text → Lexeme → Prop where
  /-- The first lexeme. -/
  | first {state : LexerState} {text more : Text} {point : CodePoint} {lexeme : Lexeme}
    (skipped : behindGap? .blank text = some (point :: more))
    (found : lexemeAt state [] point more = .ok lexeme) : IsLexemeOf state text lexeme
  /-- A lexeme behind the first one. -/
  | behind {state : LexerState} {text more : Text} {point : CodePoint} {lexeme later : Lexeme}
    (skipped : behindGap? .blank text = some (point :: more))
    (found : lexemeAt state [] point more = .ok lexeme)
    (rest : IsLexemeOf lexeme.state lexeme.rest later) : IsLexemeOf state text later

/-- What is behind a gap does not start with a blank. -/
theorem isBlank_of_behindGap? {mode : Gap} {text more : Text} {point : CodePoint}
    (skipped : behindGap? mode text = some (point :: more)) : Text.isBlank point = false := by
  fun_induction readGap mode text with
  | case1 => cases skipped
  | case2 mode noBlock =>
    cases mode with
    | block left => exact absurd rfl (noBlock left)
    | _ => cases skipped
  | case3 rest tail => exact tail ((behindGap?_slashes rest).symm.trans skipped)
  | case4 rest tail => exact tail ((behindGap?_star rest).symm.trans skipped)
  | case5 first rest _ _ blank tail =>
    exact tail ((behindGap?_blank blank rest).symm.trans skipped)
  | case6 first rest noLine noBlock bare =>
    rw [behindGap?_solid (solid_of_cases bare noLine noBlock)] at skipped
    cases skipped
    simpa using bare
  | case7 rest tail => exact tail ((behindGap?_feed rest).symm.trans skipped)
  | case8 first rest sameLine tail =>
    exact tail ((behindGap?_line sameLine rest).symm.trans skipped)
  | case9 left rest tail => exact tail ((behindGap?_end left rest).symm.trans skipped)
  | case10 left first rest goesOn tail =>
    exact tail ((behindGap?_block left (head_of_goesOn goesOn)).symm.trans skipped)

/-- The tokens of a text, if it can be read, are the first one and those of the text behind it. -/
theorem cut?_eq (state : LexerState) (text : Text) :
    (cut state text).toOption =
      match behindGap? .blank text with
      | none => none
      | some [] => some []
      | some (point :: more) =>
        (lexemeAt state [] point more).toOption.bind fun lexeme =>
          (cut lexeme.state lexeme.rest).toOption.map (lexeme.token :: ·) := by
  rw [cut_eq, behindGap?]
  cases readGap .blank text with
  | error left => rfl
  | ok read =>
    obtain ⟨gap, rest⟩ := read
    cases rest with
    | nil => rfl
    | cons point more =>
      simp only [Except.map, Except.toOption]
      cases lexemeAt state [] point more with
      | error fault => rfl
      | ok lexeme =>
        simp only [Option.bind_some]
        cases cut lexeme.state lexeme.rest <;> rfl

/-- What is behind the first token of a text is shorter than the text. -/
theorem length_rest_lt {state : LexerState} {text more : Text} {point : CodePoint}
    {lexeme : Lexeme} (skipped : behindGap? .blank text = some (point :: more))
    (found : lexemeAt state [] point more = .ok lexeme) :
    lexeme.rest.length < text.length := by
  unfold behindGap? at skipped
  cases read : readGap .blank text with
  | error left =>
    rw [read] at skipped
    cases skipped
  | ok both =>
    obtain ⟨gap, rest⟩ := both
    rw [read] at skipped
    cases skipped
    have shorter := length_rest_of_lexemeAt found
    rw [← append_of_readGap read, List.length_append, List.length_cons]
    omega

variable {state : LexerState} {text more : Text} {point : CodePoint} {lexeme : Lexeme}

/-- The tokens of a text with carriage returns are what becomes of the first one, and those of the
text behind it. -/
theorem cut?_withReturns (skipped : behindGap? .blank text = some (point :: more))
    (found : lexemeAt state [] point more = .ok lexeme) :
    (cut state (withReturns text)).toOption =
      (lexeme.returned? (markLexeme [] point state.braces (withReturns more))).bind fun first =>
        (cut first.state first.rest).toOption.map (first.token :: ·) := by
  have feed : point ≠ .scalar '\n' := by
    rintro rfl
    exact absurd (isBlank_of_behindGap? skipped) (by decide)
  have behind := behindGap?_withReturns .blank 0 text
  rw [skipped, Option.map_some, withReturns_cons feed] at behind
  rw [cut?_eq, show behindGap? .blank (withReturns text) = _ from behind]
  simp only [lexemeAt_withReturns state feed, found]
  rfl

/-- A text with carriage returns in which no token begins is cut into the same tokens. -/
theorem cut?_withReturns_of_none
    (none : ∀ point more, behindGap? .blank text = some (point :: more) →
      (lexemeAt state [] point more).toOption = none) :
    (cut state (withReturns text)).toOption = (cut state text).toOption := by
  have behind : behindGap? .blank (withReturns text) = _ := behindGap?_withReturns .blank 0 text
  rw [cut?_eq, cut?_eq state text, behind]
  rcases skipped : behindGap? .blank text with _ | _ | ⟨point, more⟩
  · rfl
  · rfl
  · have failed := none point more skipped
    have feed : point ≠ .scalar '\n' := by
      rintro rfl
      exact absurd (isBlank_of_behindGap? skipped) (by decide)
    simp only [Option.map_some, withReturns_cons feed, lexemeAt_withReturns state feed, failed]
    rfl

/-- Where no literal runs over a line, the tokens are the same. -/
theorem cut?_withReturns_of_within (text : Text) (state : LexerState)
    (within : ∀ lexeme, IsLexemeOf state text lexeme → ¬lexeme.RunsOver) :
    (cut state (withReturns text)).toOption =
      (cut state text).toOption.map (List.map Token.withReturns) := by
  rcases skipped : behindGap? .blank text with _ | _ | ⟨point, more⟩
  · rw [cut?_withReturns_of_none (by simp [skipped]), cut?_eq, skipped]
    rfl
  · rw [cut?_withReturns_of_none (by simp [skipped]), cut?_eq, skipped]
    rfl
  · cases found : lexemeAt state [] point more with
    | error fault =>
      rw [cut?_withReturns_of_none (by simp [skipped, found, Except.toOption]), cut?_eq, skipped]
      simp [found, Except.toOption]
    | ok lexeme =>
      have shorter := length_rest_lt skipped found
      have tail := cut?_withReturns_of_within lexeme.rest lexeme.state fun later behind =>
        within later (.behind skipped found behind)
      rw [cut?_withReturns skipped found,
        Lexeme.returned?_of_within (within lexeme (.first skipped found)), cut?_eq state text,
        skipped]
      simp only [found, Option.bind_some]
      change (cut lexeme.state (withReturns lexeme.rest)).toOption.map _ = _
      rw [tail]
      simp [Except.toOption, Function.comp_def, Lexeme.token_withReturns]
termination_by text.length

/-- A first literal that runs over a line is not the same token. -/
theorem cut?_withReturns_ne_of_first (skipped : behindGap? .blank text = some (point :: more))
    (found : lexemeAt state [] point more = .ok lexeme) (runsOver : lexeme.RunsOver)
    (others : List Token) :
    (cut state (withReturns text)).toOption ≠ some (lexeme.token.withReturns :: others) := by
  rw [cut?_withReturns skipped found, Lexeme.returned?, if_neg (not_not_intro runsOver)]
  split
  · exact nofun
  · -- The slash of the regular expression is a mark by itself.
    rename_i noString
    have regex : lexeme.kind = .regex := runsOver.1.resolve_left noString
    intro same
    obtain ⟨rest, -, both⟩ := Option.map_eq_some_iff.mp same
    have kinds := congrArg Token.kind (List.cons.inj both).1
    rw [Token.withReturns, Lexeme.token, Lexeme.token, regex] at kinds
    cases kinds

/-- The first token of a text that can be read. -/
theorem readable_rest (skipped : behindGap? .blank text = some (point :: more))
    (found : lexemeAt state [] point more = .ok lexeme) {read : List Token}
    (readable : cut state text = .ok read) :
    ∃ others, cut lexeme.state lexeme.rest = .ok others ∧ read = lexeme.token :: others := by
  have whole := cut?_eq state text
  rw [readable, skipped] at whole
  simp only [found, Except.toOption, Option.bind_some] at whole
  cases rest : cut lexeme.state lexeme.rest with
  | error fault => simp [rest] at whole
  | ok others => exact ⟨others, rfl, by simpa [rest] using whole⟩

/-- Where a literal runs over a line, the tokens are not the same. -/
theorem cut?_withReturns_ne (isLexeme : IsLexemeOf state text lexeme) (runsOver : lexeme.RunsOver)
    {read : List Token} (readable : cut state text = .ok read) :
    (cut state (withReturns text)).toOption ≠ some (read.map Token.withReturns) := by
  induction isLexeme generalizing read with
  | first skipped found =>
    obtain ⟨others, -, rfl⟩ := readable_rest skipped found readable
    exact cut?_withReturns_ne_of_first skipped found runsOver _
  | @behind state text more point first later skipped found rest tail =>
    obtain ⟨others, readableRest, rfl⟩ := readable_rest skipped found readable
    by_cases before : first.RunsOver
    · exact cut?_withReturns_ne_of_first skipped found before _
    · rw [cut?_withReturns skipped found, Lexeme.returned?_of_within before]
      intro same
      obtain ⟨behind, found', both⟩ := Option.map_eq_some_iff.mp same
      rw [List.map_cons, List.cons.injEq] at both
      exact tail runsOver readableRest (found'.trans (congrArg some both.2))

/-- Where a string runs over a line and no regular expression does, the text cannot be read. -/
theorem cut?_withReturns_eq_none (isLexeme : IsLexemeOf state text lexeme)
    (runsOver : lexeme.RunsOver)
    (noRegex : ∀ other, IsLexemeOf state text other → other.RunsOver → other.kind = .string) :
    (cut state (withReturns text)).toOption = none := by
  induction isLexeme with
  | first skipped found =>
    rw [cut?_withReturns skipped found, Lexeme.returned?, if_neg (not_not_intro runsOver),
      if_pos (noRegex _ (.first skipped found) runsOver)]
    rfl
  | @behind state text more point first later skipped found rest tail =>
    rw [cut?_withReturns skipped found]
    by_cases before : first.RunsOver
    · rw [Lexeme.returned?, if_neg (not_not_intro before),
        if_pos (noRegex _ (.first skipped found) before)]
      rfl
    · have behind := tail runsOver fun other isOther =>
        noRegex other (.behind skipped found isOther)
      rw [Lexeme.returned?_of_within before]
      change (cut first.state (withReturns first.rest)).toOption.map _ = none
      rw [behind]
      rfl

/-! ## Module code -/

/-- The sources among the tokens of module code, or among those behind the first ones, do not depend
on their places. -/
theorem toOption_sources (code : Text) (skipped : Nat) :
    ((tokens code).toOption.map fun read => (sourcesFrom false (read.drop skipped)).eraseDups) =
      (cut .start (interpreterLine code).2).toOption.map fun read =>
        (sourcesFrom false (read.drop skipped)).eraseDups := by
  rw [← toOption_tokens]
  cases tokens code with
  | error fault => rfl
  | ok read =>
    simp only [Except.toOption, Option.map_some]
    rw [← List.map_drop, sourcesFrom_unplaced]

/-- The imports of module code are the sources among its tokens. -/
theorem toOption_imports (code : Text) :
    (imports code).toOption =
      (cut .start (interpreterLine code).2).toOption.map fun read =>
        (sourcesFrom false read).eraseDups := by
  refine Eq.trans ?_ (toOption_sources code 0)
  rw [imports]
  cases tokens code <;> rfl

/-- Carriage returns change no start that holds neither them nor line feeds. -/
theorem startsWith_withReturns {start : Text} (carriage : .scalar '\r' ∉ start)
    (feed : .scalar '\n' ∉ start) (text : Text) :
    Text.startsWith start (withReturns text) = Text.startsWith start text := by
  induction start generalizing text with
  | nil => simp [Text.startsWith]
  | cons point start tail =>
    obtain ⟨noCarriage, carriages⟩ := not_or.mp (List.mem_cons.not.mp carriage)
    obtain ⟨noFeed, feeds⟩ := not_or.mp (List.mem_cons.not.mp feed)
    cases text with
    | nil => rfl
    | cons first rest =>
      by_cases same : first = .scalar '\n'
      · subst same
        rw [withReturns_feed, Text.startsWith, Text.startsWith, List.isPrefixOf, List.isPrefixOf,
          beq_eq_false_iff_ne.mpr (Ne.symm noCarriage), beq_eq_false_iff_ne.mpr (Ne.symm noFeed)]
        rfl
      · have behind := tail carriages feeds rest
        rw [Text.startsWith] at behind
        rw [withReturns_cons same, Text.startsWith, List.isPrefixOf, behind]
        rfl

/-- From the end of its first line on, a text with carriage returns is cut into the same tokens as
with one more in front. -/
theorem cut_startingAt_withReturns (state : LexerState) (text : Text) :
    cut state (Text.startingAt '\n' (withReturns text)) =
      cut state (withReturns (Text.startingAt '\n' text)) := by
  induction text with
  | nil => rfl
  | cons point rest tail =>
    by_cases feed : point = .scalar '\n'
    · subst feed
      rw [withReturns_feed, Text.startingAt, Text.startingAt,
        List.dropWhile_cons_of_pos (by decide), List.dropWhile_cons_of_neg (by decide),
        List.dropWhile_cons_of_neg (by decide), withReturns_feed,
        cut_blank state (by decide : Text.isBlank (.scalar '\r') = true)]
    · have goesOn : (point != .scalar '\n') = true := bne_iff_ne.mpr feed
      rw [withReturns_cons feed, Text.startingAt, Text.startingAt,
        List.dropWhile_cons_of_pos (by exact goesOn), List.dropWhile_cons_of_pos (by exact goesOn)]
      exact tail

/-- Behind the line that names an interpreter there are the same tokens as without it. -/
theorem cut_interpreterLine_withReturns (state : LexerState) (code : Text) :
    cut state (interpreterLine (withReturns code)).2 =
      cut state (withReturns (interpreterLine code).2) := by
  rw [interpreterLine, interpreterLine, startsWith_withReturns (by decide) (by decide)]
  split
  · exact cut_startingAt_withReturns state code
  · rfl

end SiteBuild.Script
