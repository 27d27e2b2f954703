import SiteBuild.Script.Lexer

/-!
# Spelled literals

How names, literals and what stands between them are written, and that each of them is read as it
is written, whatever is behind it. A literal is written in characters that stand for themselves or
are escaped; which of them have to be escaped depends on the literal.
-/
namespace SiteBuild.Script

/-! ## Written characters -/

/-- A character of a literal as it is written. -/
inductive Written where
  /-- The character itself. -/
  | plain (point : CodePoint)
  /-- The character behind a backslash. -/
  | escaped (point : CodePoint)
  deriving DecidableEq, Repr

namespace Written

/-- What is written. -/
def text : Written → Text
  | .plain point => [point]
  | .escaped point => [.scalar '\\', point]

/-- What it stands for in a string literal. -/
def value : Written → Text
  | .plain point => [point]
  | .escaped point => if point == '\n' then [] else [point]

/-- Whether a character is escaped or none of the given. -/
def Avoids (points : List CodePoint) : Written → Prop
  | .plain point => point ∉ points
  | .escaped _ => True

instance (points : List CodePoint) : (unit : Written) → Decidable (unit.Avoids points)
  | .plain point => inferInstanceAs (Decidable (point ∉ points))
  | .escaped _ => inferInstanceAs (Decidable True)

end Written

/-- The text of written characters. -/
def spell (units : List Written) : Text := units.flatMap Written.text

/-- The text of written characters, one by one. -/
theorem spell_cons (unit : Written) (units : List Written) :
    spell (unit :: units) = unit.text ++ spell units :=
  rfl

/-- Characters that stand for themselves are written as they are. -/
theorem spell_map_plain (text : Text) : spell (text.map .plain) = text := by
  simp [spell, List.flatMap_map, Written.text]

/-- Characters that stand for themselves are read as they are. -/
theorem flatMap_value_plain (text : Text) :
    (text.map Written.plain).flatMap Written.value = text := by
  simp [List.flatMap_map, Written.value]

/-! ## String literals -/

/-- The quotes of string literals. -/
inductive Quote where
  /-- The single quote. -/
  | single
  /-- The double quote. -/
  | double
  deriving DecidableEq, Repr

/-- The character of a quote. -/
def Quote.point : Quote → CodePoint
  | .single => .scalar '\x27'
  | .double => .scalar '\x22'

/-- What is written between quotes. -/
structure Quoted (quote : Quote) where
  /-- The characters. -/
  units : List Written
  /-- The quote, backslashes and line feeds are escaped. -/
  clean : ∀ unit ∈ units, unit.Avoids [quote.point, .scalar '\\', .scalar '\n']

/-- No quote is a backslash. -/
theorem Quote.point_ne_backslash (quote : Quote) : quote.point ≠ .scalar '\\' := by
  cases quote <;> decide

/-- A character that stands for itself is read as such. -/
theorem readStringBody?_plain {quote point : CodePoint}
    (clean : point ∉ [quote, .scalar '\\', .scalar '\n']) (rest : Text) :
    readStringBody? quote (point :: rest) =
      (readStringBody? quote rest).map (.prepend [point] [point]) := by
  simp only [List.mem_cons, List.not_mem_nil, or_false, not_or] at clean
  obtain ⟨inside, solid, sameLine⟩ := clean
  rw [readStringBody?]
  · simp [inside, sameLine]
  · intro backslash
    exact absurd backslash solid
  · intro _ _ backslash
    exact absurd backslash solid

/-- An escaped character is read as such. -/
theorem readStringBody?_escaped (quote point : CodePoint) (rest : Text) :
    readStringBody? quote (.scalar '\\' :: point :: rest) =
      (readStringBody? quote rest).map
        (.prepend (if point == '\n' then [] else [point]) [.scalar '\\', point]) := by
  rw [readStringBody?]

/-- Characters at the start of what is written in a string literal are read as such. -/
theorem readStringBody?_append {quote : Quote} (units : List Written)
    (clean : ∀ unit ∈ units, unit.Avoids [quote.point, .scalar '\\', .scalar '\n'])
    (rest : Text) :
    readStringBody? quote.point (spell units ++ rest) =
      (readStringBody? quote.point rest).map
        (.prepend (units.flatMap Written.value) (spell units)) := by
  induction units with
  | nil =>
    change readStringBody? quote.point rest = _
    cases readStringBody? quote.point rest <;> rfl
  | cons unit units tail =>
    have others := tail fun other member => clean other (List.mem_cons_of_mem unit member)
    have first := clean unit List.mem_cons_self
    cases unit with
    | plain point =>
      rw [spell_cons, List.append_assoc, Written.text, List.singleton_append,
        readStringBody?_plain first, others]
      cases readStringBody? quote.point rest <;> simp [Literal.prepend, Written.value]
    | escaped point =>
      rw [spell_cons, List.append_assoc, Written.text]
      change readStringBody? quote.point (.scalar '\\' :: point :: (spell units ++ rest)) = _
      rw [readStringBody?_escaped, others]
      cases readStringBody? quote.point rest <;> simp [Literal.prepend, Written.value]

/-- The quote of a string literal ends it. -/
theorem readStringBody?_quote (quote : Quote) (rest : Text) :
    readStringBody? quote.point (quote.point :: rest) = some ⟨[], [quote.point], rest⟩ := by
  have solid := quote.point_ne_backslash
  rw [readStringBody?]
  · simp
  · intro backslash
    exact absurd backslash solid
  · intro _ _ backslash
    exact absurd backslash solid

/-- A string literal is read as it is written. -/
theorem readStringBody?_spell {quote : Quote} (units : List Written)
    (clean : ∀ unit ∈ units, unit.Avoids [quote.point, .scalar '\\', .scalar '\n'])
    (rest : Text) :
    readStringBody? quote.point (spell units ++ quote.point :: rest) =
      some ⟨units.flatMap Written.value, spell units ++ [quote.point], rest⟩ := by
  rw [readStringBody?_append units clean, readStringBody?_quote]
  simp [Literal.prepend]

/-! ## Template literals -/

/-- What is written in a template literal between its ends and its substitutions. -/
structure TemplateText where
  /-- The characters. -/
  units : List Written
  /-- Backslashes and backticks are escaped. -/
  clean : ∀ unit ∈ units, unit.Avoids [.scalar '\\', .scalar '\x60']
  /-- So is the dollar or the brace where they stand together. -/
  closed : ¬[Written.plain (.scalar '$'), .plain (.scalar '\x7b')] <:+: units

/-- What stands behind the text of a template literal: the start of a substitution or the
closing backtick. -/
def templateEnd (substitutes : Bool) : Text :=
  if substitutes then [.scalar '$', .scalar '\x7b'] else [.scalar '\x60']

/-- A character that starts nothing else is read as template text. -/
theorem readTemplatePart?_plain {point : CodePoint}
    (clean : point ∉ [CodePoint.scalar '\\', .scalar '\x60']) (rest : Text)
    (closed : point = .scalar '$' → rest.head? ≠ some (.scalar '\x7b')) :
    readTemplatePart? (point :: rest) =
      (readTemplatePart? rest).map fun part => (point :: part.1, part.2) := by
  simp only [List.mem_cons, List.not_mem_nil, or_false, not_or] at clean
  obtain ⟨solid, inside⟩ := clean
  rw [readTemplatePart?]
  · intro backslash
    exact absurd backslash solid
  · intro _ _ backslash
    exact absurd backslash solid
  · intro backtick
    exact absurd backtick inside
  · intro _ dollar brace
    exact closed dollar (by rw [brace]; rfl)

/-- Behind a dollar that stands for itself there is no brace. -/
theorem head_after_dollar {units : List Written}
    (closed : ¬[Written.plain (.scalar '$'), .plain (.scalar '\x7b')] <:+:
      .plain (.scalar '$') :: units) (substitutes : Bool) (rest : Text) :
    (spell units ++ templateEnd substitutes ++ rest).head? ≠ some (.scalar '\x7b') := by
  cases units with
  | nil => cases substitutes <;> simp [spell, templateEnd]
  | cons unit units =>
    cases unit with
    | escaped point => simp [spell_cons, Written.text]
    | plain point =>
      intro brace
      have same : point = .scalar '\x7b' := by simpa [spell_cons, Written.text] using brace
      subst same
      exact closed ⟨[], units, rfl⟩

/-- Template text is read as it is written. -/
theorem readTemplatePart?_spell (units : List Written)
    (clean : ∀ unit ∈ units, unit.Avoids [.scalar '\\', .scalar '\x60'])
    (closed : ¬[Written.plain (.scalar '$'), .plain (.scalar '\x7b')] <:+: units)
    (substitutes : Bool) (rest : Text) :
    readTemplatePart? (spell units ++ templateEnd substitutes ++ rest) =
      some (spell units ++ templateEnd substitutes, substitutes, rest) := by
  induction units with
  | nil =>
    cases substitutes with
    | true =>
      change readTemplatePart? (.scalar '$' :: .scalar '\x7b' :: rest) = _
      rw [readTemplatePart?]
      rfl
    | false =>
      change readTemplatePart? (.scalar '\x60' :: rest) = _
      rw [readTemplatePart?]
      rfl
  | cons unit units tail =>
    have others := tail (fun other member => clean other (List.mem_cons_of_mem unit member))
      (fun inside => closed (inside.trans (List.suffix_cons unit units).isInfix))
    have first := clean unit List.mem_cons_self
    cases unit with
    | plain point =>
      rw [spell_cons, List.append_assoc, List.append_assoc, Written.text, List.singleton_append,
        ← List.append_assoc, readTemplatePart?_plain first, others]
      · rfl
      · intro dollar
        subst dollar
        exact head_after_dollar closed substitutes rest
    | escaped point =>
      change readTemplatePart?
        (.scalar '\\' :: point :: (spell units ++ templateEnd substitutes ++ rest)) = _
      rw [readTemplatePart?, others]
      rfl

/-! ## Regular expressions -/

/-- A piece of a regular expression. -/
inductive RegexPiece where
  /-- A character. -/
  | unit (written : Written)
  /-- A class in brackets. -/
  | group (units : List Written)
  deriving DecidableEq, Repr

namespace RegexPiece

/-- What is written. -/
def text : RegexPiece → Text
  | .unit written => written.text
  | .group units => .scalar '[' :: (spell units ++ [.scalar ']'])

/-- Whether all characters are escaped that have to be: a slash does not have to be in a class. -/
def Clean : RegexPiece → Prop
  | .unit written =>
    written.Avoids [.scalar '\\', .scalar '\n', .scalar '/', .scalar '[']
  | .group units =>
    ∀ unit ∈ units, unit.Avoids [.scalar '\\', .scalar '\n', .scalar ']']

instance : (piece : RegexPiece) → Decidable piece.Clean
  | .unit written => inferInstanceAs (Decidable (written.Avoids _))
  | .group units => inferInstanceAs (Decidable (∀ unit ∈ units, unit.Avoids _))

end RegexPiece

/-- A regular expression as it is written. -/
structure Regex where
  /-- The first piece. -/
  first : RegexPiece
  /-- The other pieces. -/
  others : List RegexPiece
  /-- The flags. -/
  flags : Text
  /-- All characters are escaped that have to be. -/
  clean : ∀ piece ∈ first :: others, piece.Clean
  /-- The first piece makes no comment of the slash. -/
  noComment : first ≠ .unit (.plain (.scalar '*'))
  /-- Flags are like names. -/
  flagPoints : ∀ point ∈ flags, isNamePoint point

/-- What is written behind the first slash of a regular expression. -/
def Regex.body (regex : Regex) : Text :=
  (regex.first :: regex.others).flatMap RegexPiece.text ++ .scalar '/' :: regex.flags

/-- Whether a text goes on with part of a name. -/
def GoesOn (text : Text) : Prop := text.head?.any isNamePoint = true

instance (text : Text) : Decidable (GoesOn text) :=
  inferInstanceAs (Decidable (text.head?.any isNamePoint = true))

/-- A text that does not go on with a name has none of its points at the start. -/
theorem takeWhile_eq_nil {rest : Text} (apart : ¬GoesOn rest) :
    rest.takeWhile isNamePoint = [] := by
  cases rest with
  | nil => rfl
  | cons point rest =>
    have other : ¬isNamePoint point = true := fun named => apart named
    rw [List.takeWhile_cons, if_neg other]

/-- The points of a name at the start of a text are those of the name, if the text behind does
not go on with it. -/
theorem takeWhile_name {name rest : Text} (points : ∀ point ∈ name, isNamePoint point)
    (apart : ¬GoesOn rest) : (name ++ rest).takeWhile isNamePoint = name := by
  rw [List.takeWhile_append_of_pos points, takeWhile_eq_nil apart, List.append_nil]

/-- What is behind the points of a name at the start of a text is what is behind the name. -/
theorem dropWhile_name {name rest : Text} (points : ∀ point ∈ name, isNamePoint point)
    (apart : ¬GoesOn rest) : (name ++ rest).dropWhile isNamePoint = rest := by
  rw [List.dropWhile_append_of_pos points]
  have whole : rest.takeWhile isNamePoint ++ rest.dropWhile isNamePoint = rest :=
    List.takeWhile_append_dropWhile
  rw [takeWhile_eq_nil apart] at whole
  exact whole

/-- Behind the points of a name at the start of a text none of them is left. -/
theorem not_goesOn_dropWhile (text : Text) {rest : Text} (apart : ¬GoesOn rest) :
    ¬GoesOn (text.dropWhile isNamePoint ++ rest) := by
  cases left : text.dropWhile isNamePoint with
  | nil => exact apart
  | cons point more =>
    have noName := List.head?_dropWhile_not isNamePoint text
    rw [left] at noName
    simpa [GoesOn] using noName

/-- A character that stands for itself is read as part of a regular expression. -/
theorem readRegexBody?_plain (inClass : Bool) {point : CodePoint}
    (clean : point ∉ [CodePoint.scalar '\\', .scalar '\n', .scalar '/']) (rest : Text) :
    readRegexBody? inClass (point :: rest) =
      (readRegexBody? (if inClass then point != ']' else point == '[') rest).map fun body =>
        (point :: body.1, body.2) := by
  simp only [List.mem_cons, List.not_mem_nil, or_false, not_or] at clean
  obtain ⟨solid, sameLine, inside⟩ := clean
  rw [readRegexBody?]
  · intro backslash
    exact absurd backslash solid
  · intro _ _ backslash
    exact absurd backslash solid
  · intro lineFeed
    exact absurd lineFeed sameLine
  · intro slash
    exact absurd slash inside

/-- What is written in a class is read up to its closing bracket. -/
theorem readRegexBody?_class (units : List Written)
    (clean : ∀ unit ∈ units, unit.Avoids [.scalar '\\', .scalar '\n', .scalar ']'])
    (rest : Text) :
    readRegexBody? true (spell units ++ .scalar ']' :: rest) =
      (readRegexBody? false rest).map fun body =>
        (spell units ++ .scalar ']' :: body.1, body.2) := by
  induction units with
  | nil => exact readRegexBody?_plain true (by decide) rest
  | cons unit units tail =>
    have others := tail fun other member => clean other (List.mem_cons_of_mem unit member)
    have first := clean unit List.mem_cons_self
    cases unit with
    | escaped point =>
      change readRegexBody? true (.scalar '\\' :: point :: (spell units ++ .scalar ']' :: rest)) = _
      rw [readRegexBody?, others, Option.map_map]
      rfl
    | plain point =>
      simp only [Written.Avoids, List.mem_cons, List.not_mem_nil, or_false, not_or] at first
      obtain ⟨solid, sameLine, inside⟩ := first
      rw [spell_cons, List.append_assoc, Written.text, List.singleton_append]
      by_cases slash : point = .scalar '/'
      · subst slash
        rw [readRegexBody?, if_pos rfl, others, Option.map_map]
        rfl
      · have goesOn : (point != .scalar ']') = true := by simp [inside]
        rw [readRegexBody?_plain true (by simp [solid, sameLine, slash]), if_pos rfl, goesOn,
          others, Option.map_map]
        rfl

/-- A piece of a regular expression is read as it is written. -/
theorem readRegexBody?_piece {piece : RegexPiece} (clean : piece.Clean) (rest : Text) :
    readRegexBody? false (piece.text ++ rest) =
      (readRegexBody? false rest).map fun body => (piece.text ++ body.1, body.2) := by
  cases piece with
  | unit written =>
    cases written with
    | escaped point =>
      change readRegexBody? false (.scalar '\\' :: point :: rest) = _
      rw [readRegexBody?]
      rfl
    | plain point =>
      simp only [RegexPiece.Clean, Written.Avoids, List.mem_cons, List.not_mem_nil, or_false,
        not_or] at clean
      obtain ⟨solid, sameLine, inside, open_⟩ := clean
      have outside : (point == .scalar '[') = false := by simp [open_]
      change readRegexBody? false (point :: rest) = _
      rw [readRegexBody?_plain false (by simp [solid, sameLine, inside]), if_neg (by simp),
        outside]
      rfl
  | group units =>
    change readRegexBody? false (.scalar '[' :: (spell units ++ [.scalar ']'] ++ rest)) = _
    rw [readRegexBody?_plain false (by decide), if_neg (by simp), List.append_assoc,
      List.singleton_append]
    change (readRegexBody? true _).map _ = _
    rw [readRegexBody?_class units clean, Option.map_map]
    simp [Function.comp_def, RegexPiece.text]

/-- A regular expression is read as it is written, up to the flags. -/
theorem readRegexBody?_pieces (pieces : List RegexPiece) (clean : ∀ piece ∈ pieces, piece.Clean)
    {flags rest : Text} (points : ∀ point ∈ flags, isNamePoint point) (apart : ¬GoesOn rest) :
    readRegexBody? false (pieces.flatMap RegexPiece.text ++ .scalar '/' :: (flags ++ rest)) =
      some (pieces.flatMap RegexPiece.text ++ .scalar '/' :: flags, rest) := by
  induction pieces with
  | nil =>
    change readRegexBody? false (.scalar '/' :: (flags ++ rest)) = _
    rw [readRegexBody?, if_neg (by simp), takeWhile_name points apart,
      dropWhile_name points apart]
    rfl
  | cons piece pieces tail =>
    have others := tail fun other member => clean other (List.mem_cons_of_mem piece member)
    rw [List.flatMap_cons, List.append_assoc, readRegexBody?_piece (clean piece List.mem_cons_self),
      others, Option.map_some, List.append_assoc]

/-! ## Gaps -/

/-- What can stand between tokens. -/
inductive Filler where
  /-- A blank. -/
  | blank (point : CodePoint)
  /-- A comment up to the end of its line. -/
  | line (text : Text)
  /-- A comment between a slash with a star and a star with a slash. -/
  | block (text : Text)
  deriving DecidableEq, Repr

namespace Filler

/-- What is written. -/
def text : Filler → Text
  | .blank point => [point]
  | .line text => .scalar '/' :: .scalar '/' :: (text ++ [.scalar '\n'])
  | .block text => .scalar '/' :: .scalar '*' :: (text ++ [.scalar '*', .scalar '/'])

/-- Whether it is what it is meant to be, and a comment ends nowhere but at its end. -/
def Clean : Filler → Prop
  | .blank point => Text.isBlank point
  | .line text => .scalar '\n' ∉ text
  | .block text => ¬[CodePoint.scalar '*', .scalar '/'] <:+: text

instance : (filler : Filler) → Decidable filler.Clean
  | .blank point => inferInstanceAs (Decidable (Text.isBlank point = true))
  | .line text => inferInstanceAs (Decidable (.scalar '\n' ∉ text))
  | .block text =>
    inferInstanceAs (Decidable (¬[CodePoint.scalar '*', .scalar '/'] <:+: text))

end Filler

/-- Blanks and comments, one after the other. -/
structure Spacing where
  /-- The blanks and comments. -/
  fillers : List Filler
  /-- Each of them is what it is meant to be. -/
  clean : ∀ filler ∈ fillers, filler.Clean

/-- What is written. -/
def Spacing.text (spacing : Spacing) : Text := spacing.fillers.flatMap Filler.text

/-- Whether a text is empty or starts with a token. -/
def Solid (text : Text) : Prop :=
  (∀ point rest, text = point :: rest → Text.isBlank point = false) ∧
    (∀ rest, text ≠ .scalar '/' :: .scalar '/' :: rest) ∧
    ∀ rest, text ≠ .scalar '/' :: .scalar '*' :: rest

/-- What starts with a token starts with no gap. -/
theorem readGap_solid {text : Text} (solid : Solid text) :
    readGap .blank text = .ok ([], text) := by
  obtain ⟨bare, noLine, noBlock⟩ := solid
  cases text with
  | nil => rfl
  | cons point rest =>
    rw [readGap]
    · rw [bare point rest rfl]
      rfl
    · intro others slash slashes
      exact noLine others (by rw [slash, slashes])
    · intro others slash stars
      exact noBlock others (by rw [slash, stars])

/-- A comment up to the end of its line is read as it is written. -/
theorem readGap_line (text : Text) (clean : CodePoint.scalar '\n' ∉ text) (rest : Text) :
    readGap .line (text ++ .scalar '\n' :: rest) =
      (readGap .blank rest).map fun read => (text ++ .scalar '\n' :: read.1, read.2) := by
  induction text with
  | nil =>
    change readGap .line (.scalar '\n' :: rest) = _
    rw [readGap]
    rfl
  | cons point text tail =>
    simp only [List.mem_cons, not_or] at clean
    obtain ⟨sameLine, others⟩ := clean
    rw [List.cons_append, readGap, tail others]
    · cases readGap .blank rest <;> rfl
    · intro lineFeed
      exact absurd lineFeed.symm sameLine

/-- A comment between a slash with a star and a star with a slash is read as it is written. -/
theorem readGap_block (left : Nat) (text : Text)
    (clean : ¬[CodePoint.scalar '*', .scalar '/'] <:+: text) (rest : Text) :
    readGap (.block left) (text ++ .scalar '*' :: .scalar '/' :: rest) =
      (readGap .blank rest).map fun read =>
        (text ++ .scalar '*' :: .scalar '/' :: read.1, read.2) := by
  induction text with
  | nil =>
    change readGap (.block left) (.scalar '*' :: .scalar '/' :: rest) = _
    rw [readGap]
    rfl
  | cons point text tail =>
    have others := tail fun inside => clean (inside.trans (List.suffix_cons point text).isInfix)
    rw [List.cons_append, readGap, others]
    · cases readGap .blank rest <;> rfl
    · intro more star slash
      subst star
      cases text with
      | nil => simp at slash
      | cons second text =>
        have same : second = .scalar '/' := by simpa using congrArg List.head? slash
        subst same
        exact clean ⟨[], text, rfl⟩

/-- Blanks and comments in front of a gap are read as they are written. -/
theorem readGap_filler {filler : Filler} (clean : filler.Clean) (rest : Text) :
    readGap .blank (filler.text ++ rest) =
      (readGap .blank rest).map fun read => (filler.text ++ read.1, read.2) := by
  cases filler with
  | blank point =>
    have white : Text.isBlank point = true := clean
    have noSlash : point ≠ .scalar '/' := by
      intro slash
      subst slash
      exact absurd white (by decide)
    change readGap .blank (point :: rest) = _
    rw [readGap, if_pos white]
    · rfl
    · intro _ slash
      exact absurd slash noSlash
    · intro _ slash
      exact absurd slash noSlash
  | line text =>
    change readGap .blank (.scalar '/' :: .scalar '/' :: (text ++ [.scalar '\n'] ++ rest)) = _
    rw [readGap, List.append_assoc, List.singleton_append, readGap_line text clean]
    cases readGap .blank rest <;> simp [Except.map, Filler.text]
  | block text =>
    change readGap .blank
      (.scalar '/' :: .scalar '*' :: (text ++ [.scalar '*', .scalar '/'] ++ rest)) = _
    rw [readGap, List.append_assoc]
    change (readGap _ (text ++ .scalar '*' :: .scalar '/' :: rest)).map _ = _
    rw [readGap_block _ text clean]
    cases readGap .blank rest <;> simp [Except.map, Filler.text]

/-- A gap is read as it is written. -/
theorem readGap_spacing (spacing : Spacing) {rest : Text} (solid : Solid rest) :
    readGap .blank (spacing.text ++ rest) = .ok (spacing.text, rest) := by
  obtain ⟨fillers, clean⟩ := spacing
  simp only [Spacing.text]
  induction fillers with
  | nil => exact readGap_solid solid
  | cons filler fillers tail =>
    have others := tail fun other member => clean other (List.mem_cons_of_mem filler member)
    rw [List.flatMap_cons, List.append_assoc, readGap_filler (clean filler List.mem_cons_self),
      others]
    rfl

end SiteBuild.Script
