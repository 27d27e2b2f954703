import SiteBuild.Proofs.LineEnds

/-!
# Where tokens stand

Tokens are handed out one after the other, until the code ends or a part of it turns out to have no
end; those in front of such a part have been handed out by then. Each of them ends somewhere, and
what is between them are gaps. Main statement: gaps and tokens cover the code, so that no character
is passed over or read twice (`tokens_lossless`).
-/
namespace SiteBuild.Script

/-! ## Gaps -/

/-- Whether a text is blanks and comments, behind which a comment can go on up to the end of the
code. -/
def IsLastGap (text : Text) : Prop :=
  ∃ spacing : Spacing, text = spacing.text ∨
    ∃ comment : Text, .scalar '\n' ∉ comment ∧
      text = spacing.text ++ .scalar '/' :: .scalar '/' :: comment

/-- Whether a gap is one in front of a text; in front of nothing it can be the last one. -/
def IsGapBefore (rest gap : Text) : Prop :=
  (∃ spacing : Spacing, gap = spacing.text) ∨ rest = [] ∧ IsLastGap gap

/-- A gap in front of a text is the last one, if the text is empty. -/
theorem IsGapBefore.isLastGap {gap : Text} (before : IsGapBefore [] gap) : IsLastGap gap := by
  obtain ⟨spacing, rfl⟩ | ⟨-, last⟩ := before
  · exact ⟨spacing, .inl rfl⟩
  · exact last

/-- A gap in front of a token is blanks and comments. -/
theorem IsGapBefore.exists_spacing {gap more : Text} {first : CodePoint}
    (before : IsGapBefore (first :: more) gap) : ∃ spacing : Spacing, gap = spacing.text :=
  before.resolve_right nofun

/-- A blank or a comment in front of a gap. -/
theorem IsGapBefore.cons (filler : Filler) (clean : filler.Clean) {rest gap : Text}
    (before : IsGapBefore rest gap) : IsGapBefore rest (filler.text ++ gap) := by
  have longer (spacing : Spacing) :
      ∃ other : Spacing, other.text = filler.text ++ spacing.text :=
    ⟨⟨filler :: spacing.fillers, List.forall_mem_cons.mpr ⟨clean, spacing.clean⟩⟩, rfl⟩
  obtain ⟨spacing, rfl⟩ | ⟨ended, spacing, rfl | ⟨comment, single, rfl⟩⟩ := before
  · exact .inl ((longer spacing).imp fun _ => Eq.symm)
  · exact .inl ((longer spacing).imp fun _ => Eq.symm)
  · obtain ⟨other, text⟩ := longer spacing
    exact .inr ⟨ended, other, .inr ⟨comment, single, by rw [text, List.append_assoc]⟩⟩

/-- What is read of a gap from somewhere in it on, in front of a text: in a comment, its end comes
first. -/
def Gap.IsEnding (rest gap : Text) : Gap → Prop
  | .blank => IsGapBefore rest gap
  | .line =>
    (∃ comment more, .scalar '\n' ∉ comment ∧ gap = comment ++ .scalar '\n' :: more ∧
      IsGapBefore rest more) ∨ rest = [] ∧ .scalar '\n' ∉ gap
  | .block _ =>
    ∃ comment more, ¬[CodePoint.scalar '*', .scalar '/'] <:+: comment ∧
      gap = comment ++ .scalar '*' :: .scalar '/' :: more ∧ IsGapBefore rest more

/-- What is read of a gap behind some characters. -/
theorem exists_of_readGap_map (front : Text) {gap rest : Text} {read : Except Nat (Text × Text)}
    (found : read.map (fun read => (front ++ read.1, read.2)) = .ok (gap, rest)) :
    ∃ more, read = .ok (more, rest) ∧ gap = front ++ more := by
  cases read with
  | error left => cases found
  | ok read =>
    cases found
    exact ⟨read.1, rfl, rfl⟩

/-- What is read as a gap is one. -/
theorem isEnding_of_readGap {mode : Gap} {text gap rest : Text}
    (found : readGap mode text = .ok (gap, rest)) : mode.IsEnding rest gap := by
  fun_induction readGap mode text generalizing gap rest with
  | case1 => cases found
  | case2 mode noBlock =>
    cases found
    cases mode with
    | blank => exact .inl ⟨⟨[], List.forall_mem_nil _⟩, rfl⟩
    | line => exact .inr ⟨rfl, List.not_mem_nil⟩
    | block left => exact absurd rfl (noBlock left)
  | case3 text tail =>
    obtain ⟨more, read, rfl⟩ := exists_of_readGap_map [.scalar '/', .scalar '/'] found
    obtain ⟨comment, behind, single, rfl, before⟩ | ⟨ended, single⟩ := tail read
    · have line := before.cons (.line comment) single
      rwa [Filler.text, List.cons_append, List.cons_append, List.append_assoc] at line
    · exact .inr ⟨ended, ⟨[], List.forall_mem_nil _⟩, .inr ⟨more, single, rfl⟩⟩
  | case4 text tail =>
    obtain ⟨more, read, rfl⟩ := exists_of_readGap_map [.scalar '/', .scalar '*'] found
    obtain ⟨comment, behind, open_, rfl, before⟩ := tail read
    have block := before.cons (.block comment) open_
    rwa [Filler.text, List.cons_append, List.cons_append, List.append_assoc] at block
  | case5 point text noLine noBlock blank tail =>
    obtain ⟨more, read, rfl⟩ := exists_of_readGap_map [point] found
    exact (tail read).cons (.blank point) blank
  | case6 point text noLine noBlock bare =>
    cases found
    exact .inl ⟨⟨[], List.forall_mem_nil _⟩, rfl⟩
  | case7 text tail =>
    obtain ⟨more, read, rfl⟩ := exists_of_readGap_map [.scalar '\n'] found
    exact .inl ⟨[], more, List.not_mem_nil, rfl, tail read⟩
  | case8 point text inside tail =>
    obtain ⟨more, read, rfl⟩ := exists_of_readGap_map [point] found
    have sameLine {comment : Text} (single : .scalar '\n' ∉ comment) :
        .scalar '\n' ∉ point :: comment :=
      List.not_mem_cons_of_ne_of_not_mem (fun feed => inside feed.symm) single
    obtain ⟨comment, behind, single, rfl, before⟩ | ⟨ended, single⟩ := tail read
    · exact .inl ⟨point :: comment, behind, sameLine single, rfl, before⟩
    · exact .inr ⟨ended, sameLine single⟩
  | case9 left text tail =>
    obtain ⟨more, read, rfl⟩ := exists_of_readGap_map [.scalar '*', .scalar '/'] found
    exact ⟨[], more, by simp, rfl, tail read⟩
  | case10 left point text goesOn tail =>
    obtain ⟨more, read, rfl⟩ := exists_of_readGap_map [point] found
    obtain ⟨comment, behind, open_, rfl, before⟩ := tail read
    refine ⟨point :: comment, behind, fun closed => ?_, rfl, before⟩
    obtain ⟨others, same⟩ | inside := List.infix_cons_iff.mp closed
    · -- The end of the comment would have been read here.
      obtain ⟨rfl, rfl⟩ := List.cons.inj same
      exact goesOn _ rfl (append_of_readGap read).symm
    · exact open_ inside

/-! ## How tokens are written -/

/-- Whether a token is written as a text: a string as its characters between two quotes, of which
the second is the first one that is not escaped, and any other token as what it denotes. -/
def Token.IsWrittenAs (token : Token) (raw : Text) : Prop :=
  (token.kind ≠ .string → raw = token.value) ∧
    (token.kind = .string → ∃ (quote : Quote) (literal : Quoted quote),
      raw = quote.point :: (spell literal.units ++ [quote.point]) ∧
        token.value = literal.units.flatMap Written.value)

/-- What is read of a string literal are characters up to the quote that ends it. -/
theorem exists_quoted_of_readStringBody? {quote : Quote} {text : Text} {literal : Literal}
    (found : readStringBody? quote.point text = some literal) :
    ∃ quoted : Quoted quote, literal.raw = spell quoted.units ++ [quote.point] ∧
      literal.value = quoted.units.flatMap Written.value := by
  have behind (unit : Written) (avoids : unit.Avoids [quote.point, .scalar '\\', .scalar '\n'])
      {read : Literal} (rest : ∃ quoted : Quoted quote,
        read.raw = spell quoted.units ++ [quote.point] ∧
          read.value = quoted.units.flatMap Written.value) :
      ∃ quoted : Quoted quote,
        (read.prepend unit.value unit.text).raw = spell quoted.units ++ [quote.point] ∧
          (read.prepend unit.value unit.text).value = quoted.units.flatMap Written.value := by
    obtain ⟨⟨units, clean⟩, raw, value⟩ := rest
    refine ⟨⟨unit :: units, List.forall_mem_cons.mpr ⟨avoids, clean⟩⟩, ?_, ?_⟩
    · rw [Literal.prepend, raw, spell_cons, List.append_assoc]
    · rw [Literal.prepend, value, List.flatMap_cons]
  fun_induction readStringBody? quote.point text generalizing literal with
  | case1 => cases found
  | case2 => cases found
  | case3 point rest tail =>
    obtain ⟨read, here, rfl⟩ := Option.map_eq_some_iff.mp found
    exact behind (.escaped point) trivial (tail here)
  | case4 point rest _ _ same =>
    cases found
    obtain rfl : point = quote.point := eq_of_beq same
    exact ⟨⟨[], List.forall_mem_nil _⟩, rfl, rfl⟩
  | case5 => cases found
  | case6 point rest noEnd noEscape other sameLine tail =>
    obtain ⟨read, here, rfl⟩ := Option.map_eq_some_iff.mp found
    have solid := ne_backslash noEnd noEscape
    have clean : point ∉ [quote.point, .scalar '\\', .scalar '\n'] := by
      simpa [solid] using ⟨by simpa using other, by simpa using sameLine⟩
    exact behind (.plain point) clean (tail here)

/-- Whether a lexeme is a gap and a token, which is written as it is read. -/
structure Lexeme.IsSound (lexeme : Lexeme) : Prop where
  spacing : ∃ spacing : Spacing, lexeme.gap = spacing.text
  filled : lexeme.raw ≠ []
  written (offset : Nat) : Token.IsWrittenAs ⟨lexeme.kind, lexeme.value, offset⟩ lexeme.raw

/-- A token that is no string and is read as it stands is written as it is read. -/
theorem Lexeme.isSound_verbatim {lexeme : Lexeme}
    (spacing : ∃ spacing : Spacing, lexeme.gap = spacing.text) (filled : lexeme.raw ≠ [])
    (other : lexeme.kind ≠ .string) (same : lexeme.raw = lexeme.value) : lexeme.IsSound :=
  ⟨spacing, filled, fun _ => ⟨fun _ => same, fun string => absurd string other⟩⟩

/-- The first token behind a gap is written as it is read. -/
theorem isSound_of_lexemeAt {state : LexerState} {gap more : Text} {first : CodePoint}
    {lexeme : Lexeme} (spacing : ∃ spacing : Spacing, gap = spacing.text)
    (found : lexemeAt state gap first more = .ok lexeme) : lexeme.IsSound := by
  have template (opening : CodePoint) (braces : List Bool)
      (part : templateLexeme gap opening braces more = .ok lexeme) : lexeme.IsSound := by
    unfold templateLexeme at part
    split at part
    · cases part
    · cases part
      exact Lexeme.isSound_verbatim spacing nofun nofun rfl
  unfold lexemeAt at found
  split at found
  · rename_i quoted
    obtain ⟨quote, rfl⟩ : ∃ quote : Quote, first = quote.point := by
      rcases Bool.or_eq_true_iff.mp quoted with same | same
      · exact ⟨.single, eq_of_beq same⟩
      · exact ⟨.double, eq_of_beq same⟩
    unfold stringLexeme at found
    split at found
    · cases found
    · rename_i literal read
      cases found
      obtain ⟨characters, raw, value⟩ := exists_quoted_of_readStringBody? read
      exact ⟨spacing, nofun, fun _ => ⟨fun other => absurd rfl other,
        fun _ => ⟨quote, characters, congrArg (quote.point :: ·) raw, value⟩⟩⟩
  split at found
  · exact template _ _ found
  split at found
  · exact template _ _ found
  simp only at found
  split at found
  · cases found
    exact Lexeme.isSound_verbatim spacing nofun nofun rfl
  split at found
  · cases found
    exact Lexeme.isSound_verbatim spacing nofun nofun rfl
  · cases found
    exact Lexeme.isSound_verbatim spacing nofun nofun rfl

/-- The gap in front of a token is the one that was read. -/
theorem gap_of_lexemeAt {state : LexerState} {gap more : Text} {first : CodePoint}
    {lexeme : Lexeme} (found : lexemeAt state gap first more = .ok lexeme) : lexeme.gap = gap := by
  rw [lexemeAt_gap] at found
  cases read : lexemeAt state [] first more with
  | error fault =>
    rw [read] at found
    cases found
  | ok other =>
    rw [read] at found
    cases found
    rfl

/-- A token without an end starts where it is looked for. -/
theorem left_of_lexemeAt {state : LexerState} {gap more : Text} {first : CodePoint}
    {fault : Unterminated × Nat} (failed : lexemeAt state gap first more = .error fault) :
    fault.2 = more.length + 1 := by
  unfold lexemeAt stringLexeme templateLexeme at failed
  grind

/-! ## What is handed out -/

/-- The lexemes that are read off a text one after the other, and what ends them: a part of the text
without an end, told as `lexemesFrom` does, or the gap behind the last of them. -/
def handedOut (state : LexerState) (text : Text) :
    List Lexeme × Except (Unterminated × Nat) Text :=
  match _ : readGap .blank text with
  | .error left => ([], .error (.comment, left))
  | .ok (gap, []) => ([], .ok gap)
  | .ok (gap, first :: more) =>
    match _ : lexemeAt state gap first more with
    | .error fault => ([], .error fault)
    | .ok lexeme =>
      let behind := handedOut lexeme.state lexeme.rest
      (lexeme :: behind.1, behind.2)
  termination_by text.length
  decreasing_by
    have whole := append_of_readGap ‹_›
    have shorter := length_rest_of_lexemeAt ‹_›
    rw [← whole, List.length_append, List.length_cons]
    omega

/-- The lexemes of a text are those that are handed out, if nothing in it has no end. -/
theorem lexemesFrom_eq_handedOut (state : LexerState) (text : Text) :
    lexemesFrom state text =
      (handedOut state text).2.map fun last => ((handedOut state text).1, last) := by
  fun_induction handedOut state text with
  | case1 state text left skipped =>
    rw [lexemesFrom]
    split <;> simp_all [Except.map]
  | case2 state text gap skipped => exact lexemesFrom_nil skipped
  | case3 state text gap first more skipped fault found => exact lexemesFrom_error skipped found
  | case4 state text gap first more skipped lexeme found behind tail =>
    rw [lexemesFrom_cons skipped found, tail]
    change _ = behind.2.map fun last => (lexeme :: behind.1, last)
    cases behind.2 <;> rfl

/-- What lexemes are written with, gaps included. -/
def lexed (lexemes : List Lexeme) : Text :=
  lexemes.flatMap fun lexeme => lexeme.gap ++ lexeme.raw

/-- One lexeme in front of others. -/
theorem lexed_cons (lexeme : Lexeme) (others : List Lexeme) :
    lexed (lexeme :: others) = lexeme.gap ++ (lexeme.raw ++ lexed others) := by
  rw [lexed, List.flatMap_cons, List.append_assoc]
  rfl

/-- What fails behind some characters fails without them. -/
theorem eq_error_of_map {ε α β : Type} {f : α → β} {read : Except ε α} {fault : ε}
    (failed : read.map f = .error fault) : read = .error fault := by
  cases read with
  | error other =>
    cases failed
    rfl
  | ok read => cases failed

/-- A comment without an end starts in the text, unless the text is in it from the start. -/
theorem left_of_readGap {mode : Gap} {text : Text} {left : Nat}
    (failed : readGap mode text = .error left) :
    mode = .block left ∨ 0 < left ∧ left ≤ text.length := by
  fun_induction readGap mode text with
  | case1 => exact .inl (congrArg Gap.block (Except.error.inj failed))
  | case4 text tail =>
    -- The place of the comment that starts here is told, or that of a later one.
    rcases tail (eq_error_of_map failed) with same | inside
    · obtain rfl := Gap.block.inj same
      exact .inr ⟨Nat.succ_pos _, Nat.le_refl _⟩
    · simp only [List.length_cons]
      omega
  | _ => grind [eq_error_of_map]

/-- What is handed out is written at the start of the text. Behind it is the gap that ends the text,
or what is without an end starts there. -/
theorem exists_rest_of_handedOut (state : LexerState) (text : Text) :
    ∃ rest, lexed (handedOut state text).1 ++ rest = text ∧
      match (handedOut state text).2 with
      | .error (_, left) => 0 < left ∧ left ≤ rest.length
      | .ok last => rest = last ∧ IsLastGap last := by
  fun_induction handedOut state text with
  | case1 state text left skipped =>
    exact ⟨text, rfl, (left_of_readGap skipped).resolve_left nofun⟩
  | case2 state text gap skipped =>
    refine ⟨text, rfl, ?_⟩
    have whole := append_of_readGap skipped
    rw [List.append_nil] at whole
    exact ⟨whole.symm, IsGapBefore.isLastGap (isEnding_of_readGap skipped)⟩
  | case3 state text gap first more skipped fault found =>
    refine ⟨text, rfl, ?_⟩
    have start := left_of_lexemeAt found
    have whole := congrArg List.length (append_of_readGap skipped)
    rw [List.length_append, List.length_cons] at whole
    change 0 < fault.2 ∧ fault.2 ≤ text.length
    omega
  | case4 state text gap first more skipped lexeme found behind tail =>
    obtain ⟨rest, whole, last⟩ := tail
    obtain ⟨others, raw, text'⟩ := append_of_lexemeAt found
    refine ⟨rest, ?_, last⟩
    change lexed (lexeme :: behind.1) ++ rest = text
    rw [← append_of_readGap skipped, ← text', ← whole, lexed_cons, gap_of_lexemeAt found, raw]
    simp [behind]

/-- What is handed out is written as it is read. -/
theorem isSound_of_mem_handedOut (state : LexerState) (text : Text) :
    ∀ lexeme ∈ (handedOut state text).1, lexeme.IsSound := by
  fun_induction handedOut state text with
  | case1 => exact nofun
  | case2 => exact nofun
  | case3 => exact nofun
  | case4 state text gap first more skipped lexeme found behind tail =>
    exact List.forall_mem_cons.mpr ⟨isSound_of_lexemeAt
      (IsGapBefore.exists_spacing (isEnding_of_readGap skipped)) found, tail⟩

/-! ## Spans -/

/-- A token and the place where it ends. -/
structure Span where
  /-- The token. -/
  token : Token
  /-- The number of characters up to its end. -/
  stop : Nat

/-- The place where a token starts. -/
def Span.start (span : Span) : Nat := span.token.offset

/-- The spans of lexemes, the first of which stands behind a number of characters. -/
def spansFrom (offset : Nat) : List Lexeme → List Span
  | [] => []
  | lexeme :: rest =>
    let start := offset + lexeme.gap.length
    let stop := start + lexeme.raw.length
    ⟨⟨lexeme.kind, lexeme.value, start⟩, stop⟩ :: spansFrom stop rest

/-- The places where the gaps in front of spans start and end, the first of which starts
at a place. -/
def gapsFrom (place : Nat) : List Span → List (Nat × Nat)
  | [] => []
  | span :: rest => (place, span.start) :: gapsFrom span.stop rest

/-- The place behind spans, or another one if there are none. -/
def endFrom (place : Nat) : List Span → Nat
  | [] => place
  | span :: rest => endFrom span.stop rest

/-- The tokens of the spans are the tokens of the lexemes. -/
theorem map_token_spansFrom (offset : Nat) (lexemes : List Lexeme) :
    (spansFrom offset lexemes).map Span.token = tokensFrom offset lexemes := by
  induction lexemes generalizing offset with
  | nil => rfl
  | cons lexeme rest tail => rw [spansFrom, tokensFrom, List.map_cons, tail]

/-- Spans end where what the lexemes are written with ends. -/
theorem endFrom_spansFrom (offset : Nat) (lexemes : List Lexeme) :
    endFrom offset (spansFrom offset lexemes) = offset + (lexed lexemes).length := by
  induction lexemes generalizing offset with
  | nil => rfl
  | cons lexeme rest tail =>
    rw [spansFrom, endFrom, tail, lexed_cons]
    simp only [List.length_append]
    omega

/-- Whether spans cover a text from a place on, gaps apart. -/
structure Covers (code : Text) (place : Nat) (spans : List Span) : Prop where
  /-- Each of them holds a character at least, and ends in the text. -/
  filled : ∀ span ∈ spans, place ≤ span.start ∧ span.start < span.stop ∧ span.stop ≤ code.length
  /-- They stand one behind the other. -/
  ordered : spans.Pairwise fun first second => first.stop ≤ second.start
  /-- In each of them its token is written. -/
  written : ∀ span ∈ spans, span.token.IsWrittenAs (code.extract span.start span.stop)
  /-- What is between them are blanks and comments. -/
  spacing : ∀ gap ∈ gapsFrom place spans, ∃ spacing : Spacing,
    code.extract gap.1 gap.2 = spacing.text

/-- A span in front of those that cover the text behind it. -/
theorem Covers.cons {code : Text} {place : Nat} {span : Span} {spans : List Span}
    (filled : place ≤ span.start ∧ span.start < span.stop ∧ span.stop ≤ code.length)
    (written : span.token.IsWrittenAs (code.extract span.start span.stop))
    (spacing : ∃ spacing : Spacing, code.extract place span.start = spacing.text)
    (behind : Covers code span.stop spans) : Covers code place (span :: spans) where
  filled := List.forall_mem_cons.mpr ⟨filled, fun other member => by
    have inside := behind.filled other member
    omega⟩
  ordered := List.pairwise_cons.mpr
    ⟨fun other member => (behind.filled other member).1, behind.ordered⟩
  written := List.forall_mem_cons.mpr ⟨written, behind.written⟩
  spacing := List.forall_mem_cons.mpr ⟨spacing, behind.spacing⟩

/-- What stands in a text behind some characters. -/
theorem extract_append (front middle rest : Text) :
    (front ++ (middle ++ rest)).extract front.length (front.length + middle.length) = middle := by
  simp [List.extract_eq_take_drop]

/-- The spans of what is written in a text cover it. -/
theorem covers_spansFrom (front : Text) {lexemes : List Lexeme}
    (sound : ∀ lexeme ∈ lexemes, lexeme.IsSound) (rest : Text) :
    Covers (front ++ (lexed lexemes ++ rest)) front.length (spansFrom front.length lexemes) := by
  induction lexemes generalizing front with
  | nil => exact ⟨nofun, .nil, nofun, nofun⟩
  | cons lexeme others tail =>
    obtain ⟨⟨⟨spacing, gap⟩, filled, raw⟩, behind⟩ := List.forall_mem_cons.mp sound
    have some : 0 < lexeme.raw.length := List.length_pos_iff.mpr filled
    have covered := tail (front ++ lexeme.gap ++ lexeme.raw) behind
    have place : (front ++ lexeme.gap ++ lexeme.raw).length =
        front.length + lexeme.gap.length + lexeme.raw.length := by
      rw [List.length_append, List.length_append]
    have whole : front ++ lexeme.gap ++ lexeme.raw ++ (lexed others ++ rest) =
        front ++ (lexed (lexeme :: others) ++ rest) := by simp [lexed_cons]
    rw [place, whole] at covered
    have inside : front.length + lexeme.gap.length + lexeme.raw.length ≤
        (front ++ (lexed (lexeme :: others) ++ rest)).length := by
      rw [← whole, List.length_append, place]
      omega
    refine .cons ⟨Nat.le_add_right .., Nat.lt_add_of_pos_right some, inside⟩ ?_ ⟨spacing, ?_⟩
      covered
    · have here := extract_append (front ++ lexeme.gap) lexeme.raw (lexed others ++ rest)
      rw [← List.append_assoc, whole, List.length_append] at here
      change Token.IsWrittenAs _ (List.extract _ (front.length + lexeme.gap.length)
        (front.length + lexeme.gap.length + lexeme.raw.length))
      rw [here]
      exact raw _
    · have here := extract_append front lexeme.gap (lexeme.raw ++ (lexed others ++ rest))
      rw [← List.append_assoc, ← List.append_assoc, whole] at here
      exact here.trans gap

/-- Each lexeme takes a character at least. -/
theorem length_le_length_lexed {lexemes : List Lexeme}
    (sound : ∀ lexeme ∈ lexemes, lexeme.IsSound) : lexemes.length ≤ (lexed lexemes).length := by
  induction lexemes with
  | nil => exact Nat.le_refl 0
  | cons lexeme others tail =>
    obtain ⟨here, behind⟩ := List.forall_mem_cons.mp sound
    have some : 0 < lexeme.raw.length := List.length_pos_iff.mpr here.filled
    have rest := tail behind
    rw [lexed_cons, List.length_append, List.length_append, List.length_cons]
    omega

/-- There are as many spans as lexemes. -/
theorem length_spansFrom (offset : Nat) (lexemes : List Lexeme) :
    (spansFrom offset lexemes).length = lexemes.length := by
  induction lexemes generalizing offset with
  | nil => rfl
  | cons lexeme others tail => rw [spansFrom, List.length_cons, List.length_cons, tail]

/-! ## Module code -/

/-- The tokens that module code hands out one after the other, and what ends them, if it is not the
end of the code. -/
def tokensUntil (code : Text) : List Token × Option ScanError :=
  let (line, body) := interpreterLine code
  let handed := handedOut .start body
  (tokensFrom line.length handed.1,
    match handed.2 with
    | .error (part, left) => some ⟨part, line.length + body.length - left⟩
    | .ok _ => none)

/-- The tokens of module code are those that it hands out, if nothing in it has no end. -/
theorem tokens_eq_tokensUntil (code : Text) :
    tokens code =
      match tokensUntil code with
      | (_, some error) => .error error
      | (read, none) => .ok read := by
  rw [tokens, tokensUntil]
  simp only [lexemesFrom_eq_handedOut]
  cases (handedOut .start (interpreterLine code).2).2 <;> rfl

/-- Whether a text is the line at the start of module code that names an interpreter, up to its
end, or empty if there is none. -/
def IsInterpreterLine (code line : Text) : Prop :=
  if Text.startsWith "#!" code then
    .scalar '\n' ∉ line ∧ ∃ body, code = line ++ body ∧ ∀ point ∈ body.head?, point = .scalar '\n'
  else line = []

/-- The line that names an interpreter ends in front of the first line feed. -/
theorem isInterpreterLine_interpreterLine (code : Text) :
    IsInterpreterLine code (interpreterLine code).1 := by
  unfold IsInterpreterLine interpreterLine
  split
  · refine ⟨fun feed => ?_, Text.startingAt '\n' code, List.takeWhile_append_dropWhile.symm, ?_⟩
    · exact Text.not_mem_before _ _ feed
    · intro point first
      have noFeed := List.head?_dropWhile_not (· != .scalar '\n') code
      rw [Text.startingAt] at first
      rw [Option.mem_def.mp first] at noFeed
      simpa using noFeed
  · rfl

/-- The line that names an interpreter is at the start of the code. -/
theorem append_interpreterLine (code : Text) :
    (interpreterLine code).1 ++ (interpreterLine code).2 = code := by
  unfold interpreterLine
  split
  · exact List.takeWhile_append_dropWhile
  · rfl

/-- **Nothing is skipped or read twice.** Module code hands out one token for each of its characters
at most, behind the line that names an interpreter, if there is one. Each token stands in the code
as it is written, one behind the other, and between them are blanks and comments. Then either a
comment or a literal turns out to have no end, or all tokens have been handed out, and behind them
are blanks and comments. -/
theorem tokens_lossless (code : Text) :
    ∃ (line : Text) (spans : List Span), IsInterpreterLine code line ∧
      (tokensUntil code).1 = spans.map Span.token ∧ spans.length ≤ code.length ∧
      Covers code line.length spans ∧
      ((∃ error, (tokensUntil code).2 = some error ∧ tokens code = .error error ∧
          endFrom line.length spans ≤ error.offset ∧ error.offset < code.length) ∨
        (tokensUntil code).2 = none ∧ tokens code = .ok (spans.map Span.token) ∧
          IsLastGap (code.drop (endFrom line.length spans))) := by
  have whole := append_interpreterLine code
  have first := isInterpreterLine_interpreterLine code
  have read := tokens_eq_tokensUntil code
  rw [tokensUntil] at read ⊢
  generalize interpreterLine code = opening at whole first read ⊢
  obtain ⟨line, body⟩ := opening
  obtain ⟨rest, text, ending⟩ := exists_rest_of_handedOut .start body
  have sound := isSound_of_mem_handedOut .start body
  simp only at whole first read ⊢
  generalize handedOut .start body = handed at text ending sound read ⊢
  obtain ⟨lexemes, ended⟩ := handed
  obtain rfl : line ++ (lexed lexemes ++ rest) = code := text ▸ whole
  have stop := endFrom_spansFrom line.length lexemes
  have many : lexemes.length ≤ (lexed lexemes).length := length_le_length_lexed sound
  refine ⟨line, spansFrom line.length lexemes, first, (map_token_spansFrom ..).symm, ?_,
    covers_spansFrom line sound rest, ?_⟩
  · rw [length_spansFrom, List.length_append, List.length_append]
    omega
  rw [map_token_spansFrom, stop]
  cases ended with
  | error fault =>
    obtain ⟨some, inside⟩ := ending
    refine .inl ⟨_, rfl, read, ?_⟩
    have length := congrArg List.length text
    simp only [List.length_append] at length ⊢
    omega
  | ok last =>
    obtain ⟨rfl, last⟩ := ending
    refine .inr ⟨rfl, read, ?_⟩
    rw [← List.append_assoc, ← List.length_append, List.drop_left]
    exact last

end SiteBuild.Script
