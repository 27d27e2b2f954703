import SiteBuild.Proofs.BoundNames
import SiteBuild.Proofs.Slashes

/-!
# Generated lines

Code that is put together of names, marks, blanks and strings is cut part by part: what is cut off
one part does not depend on the others, if no part runs into the next one. So a line that declares
something is cut into its declaration, and lines are cut into theirs, one below the other
(`IsCutInto.unlines`).
-/
namespace SiteBuild.Script

/-! ## Code that is cut part by part -/

/-- Whether a text can be a name; every identifier can. -/
structure IsWord (text : Text) : Prop where
  nonempty : text ≠ []
  points : ∀ point ∈ text, isNamePoint point = true ∧ Text.isBlank point = false

/-- A word with more points of names behind it is a word. -/
theorem IsWord.append {first second : Text} (here : IsWord first)
    (points : ∀ point ∈ second, isNamePoint point = true ∧ Text.isBlank point = false) :
    IsWord (first ++ second) :=
  ⟨by simp [here.nonempty], List.forall_mem_append.mpr ⟨here.points, points⟩⟩

instance (text : Text) : Decidable (IsWord text) :=
  decidable_of_iff (text ≠ [] ∧ ∀ point ∈ text, isNamePoint point = true ∧
    Text.isBlank point = false) ⟨fun both => ⟨both.1, both.2⟩, fun word => ⟨word.1, word.2⟩⟩

/-- Whether a text stands for itself between single quotes. -/
def IsBare (text : Text) : Prop :=
  ∀ point ∈ text, point ∉ [CodePoint.scalar '\x27', .scalar '\\', .scalar '\n']

instance (text : Text) : Decidable (IsBare text) :=
  inferInstanceAs (Decidable (∀ point ∈ text, _))

/-- Points of names stand for themselves. -/
theorem isBare_of_named {text : Text} (named : ∀ point ∈ text, isNamePoint point = true) :
    IsBare text := by
  intro point member escaped
  have known := named point member
  simp only [List.mem_cons, List.not_mem_nil, or_false] at escaped
  rcases escaped with rfl | rfl | rfl <;> exact absurd known (by decide)

theorem IsWord.isBare {name : Text} (isWord : IsWord name) : IsBare name :=
  isBare_of_named fun point member => (isWord.points point member).1

/-- Whether a character is a mark wherever it stands: it is no blank, no point of a name, and begins
no literal and no comment. -/
def isMarkPoint (char : Char) : Bool :=
  !Text.isBlank (.scalar char) && !isNamePoint (.scalar char) &&
    decide (.scalar char ∉ [CodePoint.scalar '\x27', .scalar '\x22', .scalar '\x60', .scalar '/'])

/-- Whether a text in front of others is cut into tokens, with the braces that are open before it
and behind it. -/
def IsCutInto (outer : List Bool) (text : Text) (tokens : List Token) (inner : List Bool) :
    Prop :=
  ∀ operand rest, ¬GoesOn rest →
    cut ⟨outer, operand⟩ (text ++ rest) =
      (cut ⟨inner, operandBehind operand tokens⟩ rest).map (tokens ++ ·)

/-- What starts with a character that stands in no name does not go on with one. -/
theorem not_goesOn_cons {point : CodePoint} (outside : isNamePoint point = false) (rest : Text) :
    ¬GoesOn (point :: rest) := by
  simp [GoesOn, outside]

namespace IsCutInto

variable {outer between inner : List Bool} {first second : Text} {front back : List Token}

/-- Nothing is cut into no tokens. -/
theorem nil : IsCutInto outer [] [] outer := by
  intro operand rest _
  change cut ⟨outer, operand⟩ rest = (cut ⟨outer, operand⟩ rest).map _
  cases cut ⟨outer, operand⟩ rest <;> rfl

/-- A text behind another one that does not run into it. -/
theorem append (here : IsCutInto outer first front between)
    (behind : IsCutInto between second back inner) (apart : ¬GoesOn second) :
    IsCutInto outer (first ++ second) (front ++ back) inner := by
  intro operand rest noName
  have together : ¬GoesOn (second ++ rest) := by
    cases second with
    | nil => exact noName
    | cons point more => exact apart
  rw [List.append_assoc, here operand _ together, behind _ rest noName, operandBehind,
    operandBehind, operandBehind, List.foldl_append]
  cases cut _ rest <;> simp [Except.map]

/-- The text and the tokens may be spelled in another way. -/
theorem congr (whole : IsCutInto outer first front inner) (text : first = second)
    (tokens : front = back) : IsCutInto outer second back inner :=
  text ▸ tokens ▸ whole

/-- A blank before a text. -/
theorem blank {point : CodePoint} (isBlank : Text.isBlank point = true)
    (behind : IsCutInto outer first front inner) :
    IsCutInto outer (point :: first) front inner := by
  intro operand rest noName
  rw [List.cons_append, cut_blank _ isBlank, behind operand rest noName]

/-- A word is a name. -/
theorem word {name : Text} (isWord : IsWord name) :
    IsCutInto outer name [nameToken name] outer := by
  intro operand rest noName
  obtain ⟨nonempty, points⟩ := isWord
  cases name with
  | nil => exact absurd rfl nonempty
  | cons point more =>
    rw [List.cons_append, cut_name _ (points point List.mem_cons_self).2
      (fun other member => (points other member).1) noName]
    rfl

/-- A text that stands for itself between single quotes is a string. -/
theorem string {value : Text} (bare : IsBare value) :
    IsCutInto outer (.scalar '\x27' :: (value ++ [.scalar '\x27'])) [stringToken value] outer := by
  intro operand rest _
  have units : ∀ unit ∈ value.map Written.plain,
      unit.Avoids [Quote.single.point, .scalar '\\', .scalar '\n'] :=
    List.forall_mem_map.mpr bare
  have found : cut ⟨outer, operand⟩ (Quote.single.point :: (spell (value.map .plain) ++
      [Quote.single.point]) ++ rest) = (cut ⟨outer, false⟩ rest).map
        (stringToken ((value.map Written.plain).flatMap Written.value) :: ·) :=
    @cut_spelled _ (.string .single ⟨value.map .plain, units⟩) rest trivial trivial
  rwa [spell_map_plain, flatMap_value_plain] at found

/-- A blank in front of a text. -/
theorem spaced (behind : IsCutInto outer first front inner) :
    IsCutInto outer (.scalar ' ' :: first) front inner :=
  behind.blank (by decide)

/-- A text, a blank and another text. -/
theorem gap (here : IsCutInto outer first front between)
    (behind : IsCutInto between second back inner) :
    IsCutInto outer (first ++ .scalar ' ' :: second) (front ++ back) inner :=
  here.append behind.spaced (not_goesOn_cons rfl _)

/-- A text on the line below another one. -/
theorem below (here : IsCutInto outer first front between)
    (behind : IsCutInto between second back inner) :
    IsCutInto outer (first ++ .scalar '\n' :: second) (front ++ back) inner :=
  here.append (behind.blank (by decide)) (not_goesOn_cons rfl _)

/-- A point that is a mark, in front of a text. -/
theorem point {char : Char} (plain : isMarkPoint char = true)
    (nested : nestPoint outer (.scalar char) = some between)
    (behind : IsCutInto between first front inner) :
    IsCutInto outer (.scalar char :: first) (markToken char :: front) inner := by
  intro operand rest noName
  simp only [isMarkPoint, Bool.and_eq_true, Bool.not_eq_true', decide_eq_true_eq] at plain
  obtain ⟨⟨bare, noPoint⟩, quiet⟩ := plain
  have outside : CodePoint.scalar char = .scalar '\x7d' → outer.head? ≠ some true := by
    intro closing ends
    simp [nestPoint, closing, ends] at nested
  rw [List.cons_append, cut_point _ bare quiet noPoint outside, state_markLexeme nested,
    behind _ rest noName, map_cons_map]
  rfl

/-- A mark in front of a text. -/
theorem mark (char : Char) (plain : isMarkPoint char = true) (flat : char ∉ ['\x7b', '\x7d'])
    (behind : IsCutInto outer first front inner) :
    IsCutInto outer (.scalar char :: first) (markToken char :: front) inner := by
  refine point plain ?_ behind
  simp only [List.mem_cons, List.not_mem_nil, or_false, not_or] at flat
  simp [nestPoint, flat]

/-- An opening brace in front of a text. -/
theorem opened (behind : IsCutInto (false :: outer) first front inner) :
    IsCutInto outer (.scalar '\x7b' :: first) (markToken '\x7b' :: front) inner :=
  point rfl rfl behind

/-- A closing brace in front of a text. -/
theorem closed (behind : IsCutInto outer first front inner) :
    IsCutInto (false :: outer) (.scalar '\x7d' :: first) (markToken '\x7d' :: front) inner :=
  point rfl rfl behind

/-- A statement is ended by a semicolon. -/
theorem ended (whole : IsCutInto outer first front inner) :
    IsCutInto outer (first ++ [.scalar ';']) (front ++ [markToken ';']) inner :=
  whole.append (mark ';' rfl (by decide) nil) (by decide)

/-- Words with commas between them are a list of names. -/
theorem names {names : List Text} (some : names ≠ []) (words : ∀ name ∈ names, IsWord name) :
    IsCutInto outer (Text.join ", " names) (Declared.listTokens names) outer := by
  induction names with
  | nil => exact absurd rfl some
  | cons name names tail =>
    obtain ⟨here, others⟩ := List.forall_mem_cons.mp words
    cases names with
    | nil =>
      have only : Text.join ", " [name] = name := by simp [Text.join]
      rw [only]
      exact word here
    | cons second more =>
      have separator : Text.ofString ", " = [.scalar ',', .scalar ' '] := rfl
      have split : Text.join ", " (name :: second :: more) =
          name ++ .scalar ',' :: .scalar ' ' :: Text.join ", " (second :: more) := by
        simp [Text.join, separator]
      have behind := tail (List.cons_ne_nil second more) others
      rw [split]
      exact (word here).append (mark ',' rfl (by decide) behind.spaced)
        (not_goesOn_cons rfl _)

/-- A text that is cut is cut up to its end. -/
theorem cut_start (whole : IsCutInto [] first front []) : cut .start first = .ok front := by
  have found := whole true [] (by decide)
  rwa [List.append_nil, cut_nil, Except.map, List.append_nil] at found

/-- Lines each of which is a declaration are the declarations, one below the other. -/
theorem unlines {lines : List Text} {all : List Declared}
    (each : List.Forall₂ (fun line declared => IsCutInto [] line declared.tokens []) lines all) :
    IsCutInto [] (Text.unlines lines) (all.flatMap Declared.tokens) [] := by
  induction each with
  | nil => exact nil
  | @cons line declared lines all here others tail =>
    rw [List.flatMap_cons]
    cases lines with
    | nil =>
      cases others
      rw [Text.unlines_singleton, List.flatMap_nil, List.append_nil]
      exact here
    | cons second more =>
      rw [Text.unlines_cons_cons]
      exact here.below tail

end IsCutInto

/-! ## Lines -/

namespace IsCutInto

variable {name value source : Text} {names : List Text} {read : List Token}

/-- The call that gives a component its values. -/
theorem props : IsCutInto [] "$props()" propsCall [] :=
  (word (by decide : IsWord "$props")).append
    (mark '(' rfl (by decide) (mark ')' rfl (by decide) nil)) (by decide)

/-- A value under a name on a line. -/
theorem named (isWord : IsWord name) (bound : IsCutInto [] value read []) :
    IsCutInto [] ("let " ++ name ++ " = " ++ value ++ ";")
      (Declared.named name read).tokens [] := by
  have equals := mark '=' rfl (by decide) bound.ended.spaced
  have whole := (word (by decide : IsWord "let")).gap ((word isWord).gap equals)
  refine whole.congr ?_ (by simp [Declared.tokens, Declared.body])
  simp only [List.append_assoc]
  rfl

/-- Fields of a value under their own names on a line. -/
theorem fields (some : names ≠ []) (words : ∀ name ∈ names, IsWord name)
    (bound : IsCutInto [] value read []) :
    IsCutInto [] ("let \x7b " ++ Text.join ", " names ++ " \x7d = " ++ value ++ ";")
      (Declared.fields names read).tokens [] := by
  have equals := mark '=' rfl (by decide) bound.ended.spaced
  have inside := (IsCutInto.names some words).gap equals.spaced.closed
  have whole := (word (by decide : IsWord "let")).gap inside.spaced.opened
  refine whole.congr ?_ (by simp [Declared.tokens, Declared.body])
  simp only [List.append_assoc]
  rfl

/-- Where names come from, up to the end of the line. -/
theorem origin (bare : IsBare source) :
    IsCutInto [] ("from '" ++ source ++ "';")
      [nameToken "from", stringToken source, markToken ';'] [] := by
  have file : IsCutInto [] (.scalar '\x27' :: (source ++ [.scalar '\x27']))
      [stringToken source] [] := string bare
  refine ((word (by decide : IsWord "from")).gap file.ended).congr ?_ rfl
  simp only [List.append_assoc, List.cons_append]
  rfl

/-- The default of a module under a name on a line. -/
theorem imported (isWord : IsWord name) (bare : IsBare source) :
    IsCutInto [] ("import " ++ name ++ " from '" ++ source ++ "';")
      (Declared.imported name source).tokens [] := by
  have whole := (word (by decide : IsWord "import")).gap ((word isWord).gap (origin bare))
  refine whole.congr ?_ rfl
  simp only [List.append_assoc]
  rfl

/-- A field of an object. -/
theorem fieldOf (isWord : IsWord name) (bare : IsBare value) :
    IsCutInto [] (name ++ "['" ++ value ++ "']") (fieldOf name value) [] := by
  have behind : IsCutInto [] [.scalar ']'] [markToken ']'] [] := mark ']' rfl (by decide) nil
  have key := (string bare).append behind (by decide)
  have whole := (word isWord).append (mark '[' rfl (by decide) key) (not_goesOn_cons rfl _)
  refine whole.congr ?_ rfl
  simp only [List.append_assoc, List.cons_append]
  rfl

/-- Names that are handed on from a module, on a line. -/
theorem exported (some : names ≠ []) (words : ∀ name ∈ names, IsWord name) (bare : IsBare source) :
    IsCutInto [] ("export \x7b " ++ Text.join ", " names ++ " \x7d from '" ++ source ++ "';")
      (exportTokens names source) [] := by
  have inside := (IsCutInto.names some words).gap (origin bare).spaced.closed
  have whole := (word (by decide : IsWord "export")).gap inside.spaced.opened
  refine whole.congr ?_ (by simp [exportTokens])
  simp only [List.append_assoc]
  rfl

end IsCutInto

/-! ## Scripts on lines of their own -/

/-- The tokens of module code, without their places. -/
def readTokens? (code : Text) : Option (List Token) :=
  (tokens code).toOption.map (List.map Token.unplaced)

/-- Code on lines of its own is cut like the code. -/
theorem IsCutInto.cut_ownLines {text : Text} {read : List Token}
    (whole : IsCutInto [] text read []) : cut .start (Text.ownLines text) = .ok read := by
  have feed (state : LexerState) : cut state [.scalar '\n'] = .ok [] :=
    (cut_blank state (by decide) []).trans (cut_nil state)
  have found := whole true [.scalar '\n'] (not_goesOn_cons rfl _)
  rw [feed, Except.map, List.append_nil] at found
  rw [Text.ownLines, cut_blank _ (by decide)]
  exact found

/-- Code behind lines that end a statement is cut as if it stood alone. -/
theorem IsCutInto.cut_ownLines_append {front behind : Text} {read : List Token}
    (whole : IsCutInto [] front read []) (ended : operandBehind true read = true) :
    cut .start (Text.ownLines (front ++ .scalar '\n' :: behind)) =
      (cut .start (Text.ownLines behind)).map (read ++ ·) := by
  have found := whole true (Text.ownLines behind) (not_goesOn_cons rfl _)
  rw [ended] at found
  rw [Text.ownLines, cut_blank _ (by decide), List.append_assoc]
  exact found

/-- A statement ends with a mark behind which an operand is expected. -/
theorem operandBehind_tokens (declared : Declared) (before : Bool) :
    operandBehind before declared.tokens = true := by
  rw [operandBehind, Declared.tokens, List.foldl_append]
  rfl

/-- What is cut off code on lines of its own is read. -/
theorem readTokens?_ownLines (text : Text) :
    readTokens? (Text.ownLines text) = (cut .start (Text.ownLines text)).toOption := by
  rw [readTokens?, toOption_tokens]
  rfl

end SiteBuild.Script
