import Mathlib.Algebra.Order.BigOperators.Group.List
import Mathlib.Algebra.Order.Group.Nat
import SiteBuild.Json.Reader
import SiteBuild.Proofs.Cuts

/-!
# What string literals denote

A string literal is made of characters that stand for themselves, characters behind a backslash,
numbers of code points, and line breaks behind a backslash that stand for nothing. What is read of
it takes every backslash away and leaves what is behind it, so that a literal is read as what it
denotes exactly where nothing else has to be done. Main statement: when the import of a literal
names what the literal denotes (`imports_of_literal_iff`).
-/
namespace SiteBuild.Script

/-- The line breaks of scripts. -/
inductive LineBreak where
  /-- A line feed. -/
  | feed
  /-- A carriage return. -/
  | carriage
  /-- A carriage return and a line feed. -/
  | carriageFeed
  /-- The line separator. -/
  | line
  /-- The paragraph separator. -/
  | paragraph
  deriving DecidableEq, Repr

/-- The characters of a line break. -/
def LineBreak.text : LineBreak → Text
  | .feed => [.scalar '\n']
  | .carriage => [.scalar '\r']
  | .carriageFeed => [.scalar '\r', .scalar '\n']
  | .line => [.scalar '\u2028']
  | .paragraph => [.scalar '\u2029']

/-- The characters that end a line. -/
def lineEnds : List CodePoint :=
  [.scalar '\n', .scalar '\r', .scalar '\u2028', .scalar '\u2029']

/-- The characters behind a backslash that begin something else than an escape of one character:
the number of a code point, or a digit that may not be escaped. -/
def numberMarks : List CodePoint :=
  [.scalar 'x', .scalar 'u', .scalar '1', .scalar '2', .scalar '3', .scalar '4', .scalar '5',
    .scalar '6', .scalar '7', .scalar '8', .scalar '9']

/-- The number that hexadecimal digits write. -/
def hexNumber (digits : Text) : Nat :=
  digits.foldl (fun number digit => number * 16 + (Json.hexDigit? digit).getD 0) 0

/-- Whether a code point is a hexadecimal digit. -/
def IsHexDigit (point : CodePoint) : Prop := (Json.hexDigit? point).isSome = true

instance (point : CodePoint) : Decidable (IsHexDigit point) :=
  inferInstanceAs (Decidable (_ = true))

/-- What a letter behind a backslash denotes. -/
def escapedLetter : CodePoint → CodePoint
  | .scalar 'b' => .scalar '\x08'
  | .scalar 't' => .scalar '\t'
  | .scalar 'n' => .scalar '\n'
  | .scalar 'v' => .scalar '\x0b'
  | .scalar 'f' => .scalar '\x0c'
  | .scalar 'r' => .scalar '\r'
  | .scalar '0' => .scalar '\x00'
  | point => point

/-- A part of a string literal. -/
inductive LiteralPart where
  /-- A character by itself. -/
  | bare (point : CodePoint)
  /-- A character behind a backslash. -/
  | escaped (point : CodePoint)
  /-- A code point by two hexadecimal digits. -/
  | byte (digits : Text)
  /-- A code point by four hexadecimal digits. -/
  | unit (digits : Text)
  /-- A code point by hexadecimal digits in braces. -/
  | braced (digits : Text)
  /-- A line break behind a backslash. -/
  | continuation (ending : LineBreak)
  deriving DecidableEq, Repr

namespace LiteralPart

/-- The characters of a part. -/
def text : LiteralPart → Text
  | .bare point => [point]
  | .escaped point => [.scalar '\\', point]
  | .byte digits => .scalar '\\' :: .scalar 'x' :: digits
  | .unit digits => .scalar '\\' :: .scalar 'u' :: digits
  | .braced digits => .scalar '\\' :: .scalar 'u' :: .scalar '\x7b' :: (digits ++ [.scalar '\x7d'])
  | .continuation ending => .scalar '\\' :: ending.text

/-- What a part denotes: one character, or nothing. The number of a surrogate denotes that one. -/
def value : LiteralPart → Text
  | .bare point => [point]
  | .escaped point => [escapedLetter point]
  | .byte digits => [.ofUnit (hexNumber digits)]
  | .unit digits => [.ofUnit (hexNumber digits)]
  | .braced digits => [.ofUnit (hexNumber digits)]
  | .continuation _ => []

/-- Whether a part can stand in a literal with the given quote. -/
def Fits (quote : Quote) : LiteralPart → Prop
  | .bare point => point ∉ [quote.point, .scalar '\\', .scalar '\n', .scalar '\r']
  | .escaped point => point ∉ lineEnds ∧ point ∉ numberMarks
  | .byte digits => digits.length = 2 ∧ ∀ digit ∈ digits, IsHexDigit digit
  | .unit digits => digits.length = 4 ∧ ∀ digit ∈ digits, IsHexDigit digit
  | .braced digits =>
    digits ≠ [] ∧ hexNumber digits < 0x110000 ∧ ∀ digit ∈ digits, IsHexDigit digit
  | .continuation _ => True

instance (quote : Quote) : (part : LiteralPart) → Decidable (part.Fits quote)
  | .bare _ => inferInstanceAs (Decidable (_ ∉ _))
  | .escaped _ => inferInstanceAs (Decidable (_ ∧ _))
  | .byte _ => inferInstanceAs (Decidable (_ ∧ _))
  | .unit _ => inferInstanceAs (Decidable (_ ∧ _))
  | .braced _ => inferInstanceAs (Decidable (_ ∧ _))
  | .continuation _ => inferInstanceAs (Decidable True)

/-- Whether a part denotes what is left of it without its backslash: a character that stands for
itself, escaped or not, or a line feed that stands for nothing. -/
def isVerbatim : LiteralPart → Bool
  | .bare _ => true
  | .escaped point => escapedLetter point == point
  | .continuation .feed => true
  | _ => false

end LiteralPart

/-- A string literal. -/
structure StringLiteral where
  /-- Its quote. -/
  quote : Quote
  /-- What is between the quotes. -/
  parts : List LiteralPart
  /-- All of it can stand there. -/
  fits : ∀ part ∈ parts, part.Fits quote

namespace StringLiteral

/-- The characters of a literal. -/
def text (literal : StringLiteral) : Text :=
  literal.quote.point :: (literal.parts.flatMap LiteralPart.text ++ [literal.quote.point])

/-- What a literal denotes. -/
def value (literal : StringLiteral) : Text := literal.parts.flatMap LiteralPart.value

end StringLiteral

/-! ## What is read -/

namespace LiteralPart

/-- A part as it is read: a backslash escapes the character behind it and nothing more. -/
def units : LiteralPart → List Written
  | .bare point => [.plain point]
  | .escaped point => [.escaped point]
  | .byte digits => .escaped (.scalar 'x') :: digits.map .plain
  | .unit digits => .escaped (.scalar 'u') :: digits.map .plain
  | .braced digits =>
    .escaped (.scalar 'u') :: .plain (.scalar '\x7b') ::
      (digits.map .plain ++ [.plain (.scalar '\x7d')])
  | .continuation .feed => [.escaped (.scalar '\n')]
  | .continuation .carriage => [.escaped (.scalar '\r')]
  | .continuation .carriageFeed => [.escaped (.scalar '\r'), .plain (.scalar '\n')]
  | .continuation .line => [.escaped (.scalar '\u2028')]
  | .continuation .paragraph => [.escaped (.scalar '\u2029')]

/-- What is read of a part: what is left of it without its backslash. -/
def taken : LiteralPart → Text
  | .bare point => [point]
  | .escaped point => [point]
  | .byte digits => .scalar 'x' :: digits
  | .unit digits => .scalar 'u' :: digits
  | .braced digits => .scalar 'u' :: .scalar '\x7b' :: (digits ++ [.scalar '\x7d'])
  | .continuation .feed => []
  | .continuation ending => ending.text

/-- The characters of a part that are read make up what is read of it. -/
theorem flatMap_units {quote : Quote} {part : LiteralPart} (fits : part.Fits quote) :
    part.units.flatMap Written.value = part.taken := by
  have digits_read := flatMap_value_plain
  cases part with
  | escaped point =>
    have sameLine : point ≠ .scalar '\n' := fun same => fits.1 (by simp [lineEnds, same])
    simp [units, Written.value, taken, sameLine]
  | continuation ending => cases ending <;> rfl
  | _ => simp [units, Written.value, taken, digits_read]

/-- A part as it is read is written with the same characters. -/
theorem spell_units (part : LiteralPart) : spell part.units = part.text := by
  have spelled := spell_map_plain
  simp only [spell] at spelled ⊢
  cases part with
  | continuation ending => cases ending <;> rfl
  | _ => simp [units, text, Written.text, spelled]

/-- Hexadecimal digits are neither quotes nor backslashes nor line feeds. -/
theorem clean_digits {quote : Quote} {digits : Text} (hex : ∀ digit ∈ digits, IsHexDigit digit) :
    ∀ unit ∈ digits.map Written.plain,
      unit.Avoids [quote.point, .scalar '\\', .scalar '\n'] := by
  intro unit member
  obtain ⟨digit, inside, rfl⟩ := List.mem_map.mp member
  have number := hex digit inside
  simp only [Written.Avoids, List.mem_cons, List.not_mem_nil, or_false, not_or]
  refine ⟨?_, ?_, ?_⟩
  · rintro rfl
    cases quote <;> exact absurd number (by decide)
  · rintro rfl
    exact absurd number (by decide)
  · rintro rfl
    exact absurd number (by decide)

/-- A part that is no line break of two characters is read to its end. -/
theorem clean_units {quote : Quote} {part : LiteralPart} (fits : part.Fits quote)
    (whole : part ≠ .continuation .carriageFeed) :
    ∀ unit ∈ part.units, unit.Avoids [quote.point, .scalar '\\', .scalar '\n'] := by
  cases part with
  | bare point =>
    simp only [Fits, List.mem_cons, List.not_mem_nil, or_false, not_or] at fits
    simp [units, Written.Avoids, fits]
  | escaped point => simp [units, Written.Avoids]
  | byte digits => exact List.forall_mem_cons.mpr ⟨trivial, clean_digits fits.2⟩
  | unit digits => exact List.forall_mem_cons.mpr ⟨trivial, clean_digits fits.2⟩
  | braced digits =>
    simp only [units, List.forall_mem_cons, List.forall_mem_append]
    refine ⟨trivial, ?_, clean_digits fits.2.2, ?_, by simp⟩
    · cases quote <;> decide
    · cases quote <;> decide
  | continuation ending =>
    cases ending with
    | carriageFeed => exact absurd rfl whole
    | _ => exact List.forall_mem_cons.mpr ⟨trivial, by simp⟩

end LiteralPart

/-- A literal is read to its end if no line break of two characters stands in it; the second one
has no backslash. -/
theorem readStringBody?_parts {quote : Quote} {parts : List LiteralPart}
    (fits : ∀ part ∈ parts, part.Fits quote) (rest : Text) :
    readStringBody? quote.point (parts.flatMap LiteralPart.text ++ quote.point :: rest) =
      if .continuation .carriageFeed ∈ parts then none
      else some ⟨parts.flatMap LiteralPart.taken,
        parts.flatMap LiteralPart.text ++ [quote.point], rest⟩ := by
  induction parts with
  | nil => simp [readStringBody?_quote]
  | cons part parts tail =>
    obtain ⟨first, others⟩ := List.forall_mem_cons.mp fits
    rw [List.flatMap_cons, List.append_assoc]
    by_cases broken : part = .continuation .carriageFeed
    · subst broken
      change readStringBody? quote.point (.scalar '\\' :: .scalar '\r' :: .scalar '\n' :: _) = _
      rw [readStringBody?_escaped, if_pos List.mem_cons_self]
      cases quote <;> rfl
    · rw [← part.spell_units, readStringBody?_append part.units (part.clean_units first broken),
        tail others]
      by_cases later : .continuation .carriageFeed ∈ parts
      · rw [if_pos later, if_pos (List.mem_cons_of_mem part later)]
        rfl
      · rw [if_neg later, if_neg (by simp [later, Ne.symm broken])]
        simp [Literal.prepend, LiteralPart.flatMap_units first]

/-- A string literal at the start of a text is cut off what is behind it, or ends the cutting. -/
theorem cut_quote (state : LexerState) (quote : Quote) (text : Text) :
    cut state (quote.point :: text) =
      match readStringBody? quote.point text with
      | none => .error (.string, text.length + 1)
      | some literal =>
        (cut ⟨state.braces, false⟩ literal.rest).map (⟨.string, literal.value, 0⟩ :: ·) := by
  have bare : Text.isBlank quote.point = false := by cases quote <;> decide
  have noSlash : quote.point ≠ .scalar '/' := by cases quote <;> decide
  have quoted : (quote.point == .scalar '\x27' || quote.point == .scalar '\x22') = true := by
    cases quote <;> rfl
  rw [cut_eq, readGap_point bare noSlash]
  simp only [lexemeAt, if_pos quoted, stringLexeme]
  cases readStringBody? quote.point text <;> rfl

namespace StringLiteral

/-- What is read of a literal. -/
def taken (literal : StringLiteral) : Text := literal.parts.flatMap LiteralPart.taken

/-- A literal is cut off what is behind it as what is read of it. -/
theorem cut_text (literal : StringLiteral)
    (whole : .continuation .carriageFeed ∉ literal.parts) (state : LexerState) (rest : Text) :
    cut state (literal.text ++ rest) =
      (cut ⟨state.braces, false⟩ rest).map (⟨.string, literal.taken, 0⟩ :: ·) := by
  rw [text, List.cons_append, List.append_assoc, List.singleton_append, cut_quote,
    readStringBody?_parts literal.fits, if_neg whole]
  rfl

/-- A literal with a line break of two characters has no end. -/
theorem cut_text_broken (literal : StringLiteral)
    (broken : .continuation .carriageFeed ∈ literal.parts) (state : LexerState) (rest : Text) :
    ∃ fault, cut state (literal.text ++ rest) = .error fault := by
  rw [text, List.cons_append, List.append_assoc, List.singleton_append, cut_quote,
    readStringBody?_parts literal.fits, if_pos broken]
  exact ⟨_, rfl⟩

end StringLiteral

/-! ## What is read and what is denoted -/

namespace LiteralPart

/-- What is read of a part is as long as what it denotes, or longer. -/
theorem length_value_le (part : LiteralPart) : part.value.length ≤ part.taken.length := by
  cases part <;> simp [value, taken]

/-- What is read of a part is what it denotes exactly if it is verbatim. -/
theorem value_eq_taken_iff {quote : Quote} {part : LiteralPart} (fits : part.Fits quote) :
    part.value = part.taken ↔ part.isVerbatim = true := by
  cases part with
  | bare point => simp [value, taken, isVerbatim]
  | escaped point => simp [value, taken, isVerbatim]
  | byte digits =>
    have some : digits ≠ [] := List.ne_nil_of_length_pos (by simp [fits.1])
    simp [value, taken, isVerbatim, some.symm]
  | unit digits =>
    have some : digits ≠ [] := List.ne_nil_of_length_pos (by simp [fits.1])
    simp [value, taken, isVerbatim, some.symm]
  | braced digits => simp [value, taken, isVerbatim]
  | continuation ending => cases ending <;> decide

end LiteralPart

/-- Two texts for each item, none of the first longer than the second: they are the same one by one
if they are the same put together. -/
theorem eq_of_flatMap_eq {α β : Type} {items : List α} {first second : α → List β}
    (shorter : ∀ item ∈ items, (first item).length ≤ (second item).length)
    (same : items.flatMap first = items.flatMap second) :
    ∀ item ∈ items, first item = second item := by
  induction items with
  | nil => simp
  | cons item items tail =>
    obtain ⟨here, others⟩ := List.forall_mem_cons.mp shorter
    rw [List.flatMap_cons, List.flatMap_cons] at same
    have behind : (items.flatMap first).length ≤ (items.flatMap second).length := by
      rw [List.length_flatMap, List.length_flatMap]
      exact List.sum_le_sum others
    have lengths := congrArg List.length same
    rw [List.length_append, List.length_append] at lengths
    obtain ⟨head, rest⟩ := List.append_inj same (by omega)
    exact List.forall_mem_cons.mpr ⟨head, tail others rest⟩

/-- What is read of a literal is what it denotes exactly if all of it is verbatim. -/
theorem StringLiteral.value_eq_taken_iff (literal : StringLiteral) :
    literal.value = literal.taken ↔ ∀ part ∈ literal.parts, part.isVerbatim = true := by
  constructor
  · intro same part member
    have each := eq_of_flatMap_eq (fun part _ => part.length_value_le) same part member
    exact (LiteralPart.value_eq_taken_iff (literal.fits part member)).mp each
  · intro verbatim
    refine List.flatMap_congr fun part member => ?_
    exact (LiteralPart.value_eq_taken_iff (literal.fits part member)).mpr (verbatim part member)

/-! ## Imports of literals -/

/-- The ways to import what a literal denotes. -/
inductive Importing where
  /-- For its effects. -/
  | effects
  /-- Its default, under a name. -/
  | usual (name : Identifier)
  /-- All of it, to export it again. -/
  | reexport
  /-- When the code runs. -/
  | call

namespace Importing

/-- The tokens before the literal. -/
def before : Importing → List Spelled
  | .effects => [.word importWord]
  | .usual name => [.word importWord, name.spelled, .word fromWord]
  | .reexport => [.word exportWord, .mark .star, .word fromWord]
  | .call => [.word importWord, .mark .left]

/-- The tokens behind the literal. -/
def behind : Importing → List Spelled
  | .call => [.mark .right, .mark .semicolon]
  | _ => [.mark .semicolon]

/-- The code that imports what a literal denotes. -/
def code (importing : Importing) (literal : StringLiteral) : Text :=
  spaced importing.before ++ (literal.text ++ spaced importing.behind)

variable (importing : Importing) (literal : StringLiteral)

/-- The code names no interpreter. -/
theorem startsWith_code : Text.startsWith "#!" (importing.code literal) = false := by
  cases importing <;> rfl

/-- The tokens of the code are those before the literal and what is cut off from there on. -/
theorem cut_code :
    ∃ state, cut .start (importing.code literal) =
      (cut state (literal.text ++ spaced importing.behind)).map
        (importing.before.map Spelled.token ++ ·) := by
  have fits : Fits .start importing.before := by
    cases importing <;> simp [before, Fits, Spelled.FitsIn, Identifier.spelled]
  exact ⟨_, cut_spaced fits _⟩

/-- What is read of a literal is the one source that the tokens name. -/
theorem sources_code (value : Text) :
    sourcesFrom false (importing.before.map Spelled.token ++
      ⟨.string, value, 0⟩ :: importing.behind.map Spelled.token) = [value] := by
  cases importing with
  | usual name =>
    let rest : List Token := ⟨.name, "from", 0⟩ :: ⟨.string, value, 0⟩ :: [⟨.mark, ";", 0⟩]
    have clause : clauseSource? false (name.spelled.token :: rest) = some value := by
      rw [Identifier.spelled, Spelled.token, clauseSource?_name, name.noDeclaration]
      simp only [Bool.and_eq_true, beq_iff_eq, reduceCtorEq, and_false, if_false, Bool.or_false]
      rfl
    have quiet : name.spelled.token.isName "import" = false ∧
        name.spelled.token.isName "export" = false :=
      Bool.or_eq_false_iff.mp name.noDeclaration
    change (clauseSource? false (name.spelled.token :: rest)).toList ++
      sourcesFrom false (name.spelled.token :: rest) = [value]
    rw [clause, sourcesFrom, quiet.1, quiet.2]
    rfl
  | _ => rfl

/-- The code imports what is read of the literal, if that is read to its end. -/
theorem imports_code (whole : .continuation .carriageFeed ∉ literal.parts) :
    imports (importing.code literal) = .ok [literal.taken] := by
  have fits (state : LexerState) : Fits state importing.behind := by
    cases importing <;> simp [behind, Fits, Spelled.FitsIn]
  obtain ⟨state, found⟩ := importing.cut_code literal
  rw [literal.cut_text whole, cut_spaced_end (fits _)] at found
  rw [(imports_of_cut (importing.startsWith_code literal) found).2, importing.sources_code]
  rfl

end Importing

/-- **Imports of literals.** The import of a literal names what the literal denotes exactly if
every part of it is verbatim: a character by itself, an escaped character that stands for itself,
or a line feed behind a backslash. -/
theorem imports_of_literal_iff (importing : Importing) (literal : StringLiteral) :
    imports (importing.code literal) = .ok [literal.value] ↔
      ∀ part ∈ literal.parts, part.isVerbatim = true := by
  by_cases broken : .continuation .carriageFeed ∈ literal.parts
  · obtain ⟨state, found⟩ := importing.cut_code literal
    obtain ⟨fault, failed⟩ := literal.cut_text_broken broken state (spaced importing.behind)
    rw [failed] at found
    refine iff_of_false (imports_ne_ok_of_cut (importing.startsWith_code literal) found _) ?_
    exact fun verbatim => absurd (verbatim _ broken) (by decide)
  · rw [importing.imports_code literal broken, ← literal.value_eq_taken_iff]
    simp [eq_comm]

/-- A letter by its number is not imported as the letter. -/
theorem imports_of_literal_number :
    ∃ literal : StringLiteral, literal.text = "'\\x61'" ∧ literal.value = "a" ∧
      imports (Importing.effects.code literal) = .ok ["x61"] :=
  ⟨⟨.single, [.byte "61"], by decide⟩, by decide, by decide, by decide +kernel⟩

end SiteBuild.Script
