import SiteBuild.Proofs.Rendering

/-!
# The imports of rendered modules

A module is a sequence of statements: imports, exports, and constants whose values are nested to
any depth. A value may hold text that looks like an import in strings, templates, regular
expressions and comments. Main statement: what is read off the rendered text of a module are the
sources that its statements name, each once, in order (`imports_of_rendering`).
-/
namespace SiteBuild.Script

/-! ## Modules -/

/-- A name that is no keyword: it starts no declaration, and no operand is expected behind it. -/
structure Identifier extends Word where
  /-- It starts no declaration. -/
  noDeclaration : isDeclarationKeyword text = false
  /-- No operand is expected behind it. -/
  noOperand : operandKeywords.contains text = false

/-- The source of an import or an export. -/
structure Source where
  /-- The quote it is written with. -/
  quote : Quote
  /-- The source itself. -/
  text : Text
  /-- It holds no quotes, backslashes or line feeds. -/
  clean : ∀ point ∈ text,
    point ∉ [CodePoint.scalar '\x27', .scalar '\x22', .scalar '\\', .scalar '\n']

/-- A name in braces, maybe under another one. -/
structure Entry where
  /-- The name. -/
  name : Identifier
  /-- The other name. -/
  other : Option Identifier

/-- What an import names besides its source. -/
inductive Clause where
  /-- The default. -/
  | usual (name : Identifier)
  /-- Everything, under one name. -/
  | all (name : Identifier)
  /-- Names in braces. -/
  | braces (entries : List Entry)
  /-- The default, and names in braces. -/
  | both (name : Identifier) (entries : List Entry)

mutual
/-- A value. -/
inductive Value where
  /-- An identifier, divided by others or not. -/
  | quotient (first : Identifier) (others : List Identifier)
  /-- A string literal. -/
  | string (quote : Quote) (content : Quoted quote)
  /-- A regular expression. -/
  | regex (regex : Regex)
  /-- A template literal. -/
  | template (content : TemplateText) (tail : TemplateTail)
  /-- An object with one field. -/
  | object (key : Identifier) (value : Value)
  /-- A value in parentheses. -/
  | parens (inner : Value)
  /-- A dynamic import. -/
  | call (source : Source)

/-- What comes behind some text of a template literal. -/
inductive TemplateTail where
  /-- Its end. -/
  | done
  /-- A substitution, more text, and what comes behind that. -/
  | substitution (inner : Value) (content : TemplateText) (tail : TemplateTail)
end

/-- Whether a value is a regular expression. -/
def Value.isRegex : Value → Bool
  | .regex _ => true
  | _ => false

/-- Whether a substitution comes. -/
def TemplateTail.substitutes : TemplateTail → Bool
  | .done => false
  | .substitution _ _ _ => true

/-- A statement of a module. -/
inductive Statement where
  /-- An import of a module for its effects. -/
  | importOnly (source : Source)
  /-- An import of names. -/
  | importFrom (clause : Clause) (source : Source)
  /-- An export of names of another module. -/
  | exportFrom (entries : List Entry) (source : Source)
  /-- An export of all names of another module. -/
  | exportAll (source : Source)
  /-- An export of all names of another module, under one name. -/
  | exportAllAs (name : Identifier) (source : Source)
  /-- An export of names of this module. -/
  | exportNames (entries : List Entry)
  /-- A constant. -/
  | constant (name : Identifier) (value : Value)
  /-- The default export; a slash directly behind its keyword would divide. -/
  | exportDefault (value : Value) (noRegex : value.isRegex = false)

/-! ## Their tokens -/

/-- The word that starts an import. -/
def importWord : Word := ⟨"import", by decide, by decide⟩

/-- The word that starts an export. -/
def exportWord : Word := ⟨"export", by decide, by decide⟩

/-- The word before a source. -/
def fromWord : Word := ⟨"from", by decide, by decide⟩

/-- The word before another name. -/
def asWord : Word := ⟨"as", by decide, by decide⟩

/-- The word that starts a constant. -/
def constWord : Word := ⟨"const", by decide, by decide⟩

/-- The word before a default export. -/
def defaultWord : Word := ⟨"default", by decide, by decide⟩

/-- An identifier as a token. -/
def Identifier.spelled (name : Identifier) : Spelled := .word name.toWord

/-- A source as it is written between its quotes. -/
def Source.quoted (source : Source) : Quoted source.quote where
  units := source.text.map .plain
  clean unit member := by
    obtain ⟨point, inside, rfl⟩ := List.mem_map.mp member
    have clean := source.clean point inside
    cases source.quote <;> simp_all [Written.Avoids, Quote.point]

/-- A source as a token. -/
def Source.spelled (source : Source) : Spelled := .string source.quote source.quoted

/-- The tokens of a name in braces. -/
def Entry.spelled (entry : Entry) : List Spelled :=
  match entry.other with
  | none => [entry.name.spelled]
  | some other => [entry.name.spelled, .word asWord, other.spelled]

/-- The tokens of names with commas between them. -/
def spellEntries : List Entry → List Spelled
  | [] => []
  | [entry] => entry.spelled
  | entry :: second :: rest => entry.spelled ++ .mark .comma :: spellEntries (second :: rest)

/-- The tokens of names in braces. -/
def spellBraces (entries : List Entry) : List Spelled :=
  .mark .opening :: (spellEntries entries ++ [.mark .closing])

/-- The tokens of what an import names. -/
def Clause.spelled : Clause → List Spelled
  | .usual name => [name.spelled]
  | .all name => [.mark .star, .word asWord, name.spelled]
  | .braces entries => spellBraces entries
  | .both name entries => name.spelled :: .mark .comma :: spellBraces entries

mutual
/-- The tokens of a value. -/
def Value.spelled : Value → List Spelled
  | .quotient first others =>
    first.spelled :: others.flatMap fun other => [.mark .slash, other.spelled]
  | .string quote content => [.string quote content]
  | .regex regex => [.regex regex]
  | .template content tail => .template true content tail.substitutes :: tail.spelled
  | .object key value =>
    .mark .opening :: key.spelled :: .mark .colon :: (value.spelled ++ [.mark .closing])
  | .parens inner => .mark .left :: (inner.spelled ++ [.mark .right])
  | .call source => [.word importWord, .mark .left, source.spelled, .mark .right]

/-- The tokens of what comes behind some text of a template literal. -/
def TemplateTail.spelled : TemplateTail → List Spelled
  | .done => []
  | .substitution inner content tail =>
    inner.spelled ++ .template false content tail.substitutes :: tail.spelled
end

/-- The tokens of a statement up to the semicolon at its end. -/
def Statement.body : Statement → List Spelled
  | .importOnly source => [.word importWord, source.spelled]
  | .importFrom clause source =>
    .word importWord :: (clause.spelled ++ [.word fromWord, source.spelled])
  | .exportFrom entries source =>
    .word exportWord :: (spellBraces entries ++ [.word fromWord, source.spelled])
  | .exportAll source => [.word exportWord, .mark .star, .word fromWord, source.spelled]
  | .exportAllAs name source =>
    [.word exportWord, .mark .star, .word asWord, name.spelled, .word fromWord, source.spelled]
  | .exportNames entries => .word exportWord :: spellBraces entries
  | .constant name value =>
    .word constWord :: name.spelled :: .mark .equals :: value.spelled
  | .exportDefault value _ => .word exportWord :: .word defaultWord :: value.spelled

/-- The tokens of a statement. -/
def Statement.spelled (statement : Statement) : List Spelled :=
  statement.body ++ [.mark .semicolon]

/-! ## Their sources -/

mutual
/-- The sources that a value names, in order. -/
def Value.sources : Value → List Text
  | .quotient _ _ => []
  | .string _ _ => []
  | .regex _ => []
  | .template _ tail => tail.sources
  | .object _ value => value.sources
  | .parens inner => inner.sources
  | .call source => [source.text]

/-- The sources that a template literal names behind some of its text, in order. -/
def TemplateTail.sources : TemplateTail → List Text
  | .done => []
  | .substitution inner _ tail => inner.sources ++ tail.sources
end

/-- The sources that a statement names, in order. -/
def Statement.sources : Statement → List Text
  | .importOnly source => [source.text]
  | .importFrom _ source => [source.text]
  | .exportFrom _ source => [source.text]
  | .exportAll source => [source.text]
  | .exportAllAs _ source => [source.text]
  | .exportNames _ => []
  | .constant _ value => value.sources
  | .exportDefault value _ => value.sources

/-! ## Tokens that fit -/

/-- Names with commas between them fit anywhere. -/
theorem fits_entries (entries : List Entry) {state : LexerState} {rest : List Spelled}
    (behind : ∀ operandNext, Fits ⟨state.braces, operandNext⟩ rest) :
    Fits state (spellEntries entries ++ rest) := by
  have fits_entry (entry : Entry) {state : LexerState} {rest : List Spelled}
      (behind : ∀ operandNext, Fits ⟨state.braces, operandNext⟩ rest) :
      Fits state (entry.spelled ++ rest) := by
    obtain ⟨name, other⟩ := entry
    cases other with
    | none => exact ⟨trivial, behind _⟩
    | some other => exact ⟨trivial, trivial, trivial, behind _⟩
  fun_induction spellEntries entries generalizing state with
  | case1 => exact behind _
  | case2 entry => exact fits_entry entry behind
  | case3 entry second rest tail =>
    rw [List.append_assoc]
    refine fits_entry entry fun operandNext => ⟨trivial, ?_⟩
    exact tail behind

/-- Names in braces fit anywhere. -/
theorem fits_braces (entries : List Entry) {state : LexerState} {rest : List Spelled}
    (behind : ∀ operandNext, Fits ⟨state.braces, operandNext⟩ rest) :
    Fits state (spellBraces entries ++ rest) := by
  rw [spellBraces, List.cons_append, List.append_assoc]
  refine ⟨trivial, fits_entries entries fun operandNext => ⟨?_, behind _⟩⟩
  simp [Spelled.FitsIn, Spelled.after]

/-- An identifier fits anywhere, and a slash behind it divides. -/
theorem fits_identifier (name : Identifier) {state : LexerState} {rest : List Spelled}
    (behind : Fits ⟨state.braces, false⟩ rest) : Fits state (name.spelled :: rest) := by
  refine ⟨trivial, ?_⟩
  have left : name.spelled.after state = ⟨state.braces, false⟩ := by
    simp only [Identifier.spelled, Spelled.after, name.noOperand]
  rw [left]
  exact behind

/-- Divisors fit behind an identifier. -/
theorem fits_divisors (others : List Identifier) {braces : List Bool} {rest : List Spelled}
    (behind : ∀ operandNext, Fits ⟨braces, operandNext⟩ rest) :
    Fits ⟨braces, false⟩
      (others.flatMap (fun other => [.mark .slash, other.spelled]) ++ rest) := by
  induction others with
  | nil => exact behind false
  | cons other others tail =>
    rw [List.flatMap_cons, List.append_assoc]
    exact ⟨rfl, fits_identifier other tail⟩

mutual
/-- A value fits where an operand is expected, and if it is no regular expression elsewhere; it
leaves the open braces as they are. -/
theorem Value.fits (value : Value) {state : LexerState} {rest : List Spelled}
    (place : value.isRegex = true → state.operandNext = true)
    (behind : ∀ operandNext, Fits ⟨state.braces, operandNext⟩ rest) :
    Fits state (value.spelled ++ rest) := by
  cases value with
  | quotient first others =>
    exact fits_identifier first (fits_divisors others behind)
  | string quote content => exact ⟨trivial, behind false⟩
  | regex regex => exact ⟨place rfl, behind false⟩
  | template content tail =>
    exact ⟨.inl rfl, tail.fits behind⟩
  | object key value =>
    rw [Value.spelled, List.cons_append, List.cons_append, List.cons_append, List.append_assoc]
    refine ⟨trivial, fits_identifier key ⟨trivial, ?_⟩⟩
    refine value.fits (fun _ => rfl) fun operandNext => ⟨?_, behind true⟩
    simp [Spelled.FitsIn, Spelled.after]
  | parens inner =>
    rw [Value.spelled, List.cons_append, List.append_assoc]
    exact ⟨trivial, inner.fits (fun _ => rfl) fun operandNext => ⟨trivial, behind false⟩⟩
  | call source => exact ⟨trivial, trivial, trivial, trivial, behind false⟩

/-- What comes behind some text of a template literal fits behind that text. -/
theorem TemplateTail.fits (tail : TemplateTail) {braces : List Bool} {rest : List Spelled}
    (behind : ∀ operandNext, Fits ⟨braces, operandNext⟩ rest) :
    Fits ⟨if tail.substitutes then true :: braces else braces, tail.substitutes⟩
      (tail.spelled ++ rest) := by
  cases tail with
  | done => exact behind false
  | substitution inner content tail =>
    rw [TemplateTail.spelled, List.append_assoc]
    exact inner.fits (fun _ => rfl) fun operandNext => ⟨.inr rfl, tail.fits behind⟩
end

/-- A statement fits at the start of a module and behind another statement. -/
theorem Statement.fits (statement : Statement) {rest : List Spelled} (behind : Fits .start rest) :
    Fits .start (statement.spelled ++ rest) := by
  have ended (operandNext : Bool) :
      Fits ⟨LexerState.start.braces, operandNext⟩ (.mark .semicolon :: rest) :=
    ⟨trivial, behind⟩
  rw [Statement.spelled, List.append_assoc]
  change Fits .start (statement.body ++ .mark .semicolon :: rest)
  cases statement with
  | importOnly source => exact ⟨trivial, trivial, ended false⟩
  | importFrom clause source =>
    rw [Statement.body, List.cons_append, List.append_assoc]
    refine ⟨trivial, ?_⟩
    have source_fits (operandNext : Bool) :
        Fits ⟨LexerState.start.braces, operandNext⟩
          (.word fromWord :: source.spelled :: .mark .semicolon :: rest) :=
      ⟨trivial, trivial, ended false⟩
    cases clause with
    | usual name => exact ⟨trivial, source_fits _⟩
    | all name => exact ⟨trivial, trivial, trivial, source_fits _⟩
    | braces entries => exact fits_braces entries source_fits
    | both name entries => exact ⟨trivial, trivial, fits_braces entries source_fits⟩
  | exportFrom entries source =>
    rw [Statement.body, List.cons_append, List.append_assoc]
    exact ⟨trivial, fits_braces entries fun _ => ⟨trivial, trivial, ended false⟩⟩
  | exportAll source => exact ⟨trivial, trivial, trivial, trivial, ended false⟩
  | exportAllAs name source =>
    exact ⟨trivial, trivial, trivial, trivial, trivial, trivial, ended false⟩
  | exportNames entries => exact ⟨trivial, fits_braces entries ended⟩
  | constant name value =>
    exact ⟨trivial, trivial, trivial, value.fits (fun _ => rfl) ended⟩
  | exportDefault value noRegex =>
    refine ⟨trivial, trivial, value.fits (fun regex => ?_) ended⟩
    rw [noRegex] at regex
    cases regex

/-- The statements of a module fit one after the other. -/
theorem fits_statements (statements : List Statement) :
    Fits .start (statements.flatMap Statement.spelled) := by
  induction statements with
  | nil => trivial
  | cons statement rest tail =>
    rw [List.flatMap_cons]
    exact statement.fits tail

/-! ## Sources that are read off -/

/-- Whether a change of tokens keeps their kinds, and what they denote except for parts of
templates. -/
structure KeepsSources (change : Token → Token) : Prop where
  kind : ∀ token, (change token).kind = token.kind
  value : ∀ token, token.kind ≠ .template → (change token).value = token.value

/-- The source of a clause that goes on with a name. -/
theorem clauseSource?_name (closed : Bool) (value : Text) (offset : Nat) (second : Token)
    (rest : List Token) :
    clauseSource? closed (⟨.name, value, offset⟩ :: second :: rest) =
      if value == "from" && second.kind == .string then some second.value
      else if closed || isDeclarationKeyword value then none
      else clauseSource? closed (second :: rest) := by
  obtain ⟨kind, source, place⟩ := second
  rw [clauseSource?]
  cases kind <;> cases value == ("from" : Text) <;> rfl

/-- The source of a dynamic import is a string in front of one of two marks. -/
theorem callSource?_cons (token behind : Token) (rest : List Token) :
    callSource? (token :: behind :: rest) =
      if token.kind == .string && (behind.isMark ')' || behind.isMark ',') then some token.value
      else none := by
  obtain ⟨kind, value, offset⟩ := token
  cases kind <;> rfl

/-- A dynamic import has something behind its source. -/
theorem callSource?_singleton (token : Token) : callSource? [token] = none := by
  obtain ⟨kind, value, offset⟩ := token
  cases kind <;> rfl

namespace KeepsSources

variable {change : Token → Token} (keeps : KeepsSources change)
include keeps

/-- A mark is the same mark. -/
theorem isMark_eq (token : Token) (mark : Char) :
    (change token).isMark mark = token.isMark mark := by
  rw [Token.isMark, Token.isMark, keeps.kind]
  cases known : token.kind with
  | template => rfl
  | _ => rw [keeps.value token (by simp [known])]

/-- A name is the same name. -/
theorem isName_eq (token : Token) (name : Text) :
    (change token).isName name = token.isName name := by
  rw [Token.isName, Token.isName, keeps.kind]
  cases known : token.kind with
  | template => rfl
  | _ => rw [keeps.value token (by simp [known])]

/-- The source of a clause is the same source. -/
theorem clauseSource?_map (closed : Bool) (tokens : List Token) :
    clauseSource? closed (tokens.map change) = clauseSource? closed tokens := by
  induction tokens generalizing closed with
  | nil => rfl
  | cons token rest tail =>
    have kind := keeps.kind token
    have value := keeps.value token
    obtain ⟨known, written, offset⟩ := token
    generalize changed : change ⟨known, written, offset⟩ = other at kind value
    obtain ⟨_, written', offset'⟩ := other
    cases kind
    rw [List.map_cons, changed]
    cases known with
    | name =>
      obtain rfl : written' = written := value (by simp)
      cases rest with
      | nil => rfl
      | cons second rest =>
        have others := tail closed
        rw [List.map_cons] at others ⊢
        rw [clauseSource?_name, clauseSource?_name, keeps.kind, others]
        cases ahead : second.kind with
        | string => rw [keeps.value second (by simp [ahead])]
        | _ => simp
    | mark =>
      obtain rfl : written' = written := value (by simp)
      simp only [clauseSource?, Token.isMark, tail]
      rfl
    | _ => rfl

/-- The source of a dynamic import is the same source. -/
theorem callSource?_map (tokens : List Token) :
    callSource? (tokens.map change) = callSource? tokens := by
  match tokens with
  | [] => rfl
  | [token] =>
    rw [List.map_singleton, callSource?_singleton, callSource?_singleton]
  | token :: behind :: rest =>
    rw [List.map_cons, List.map_cons, callSource?_cons, callSource?_cons, keeps.kind,
      keeps.isMark_eq, keeps.isMark_eq]
    cases known : token.kind with
    | string => rw [keeps.value token (by simp [known])]
    | _ => rfl

/-- The source of an import is the same source. -/
theorem importSource?_map (tokens : List Token) :
    importSource? (tokens.map change) = importSource? tokens := by
  cases tokens with
  | nil => rfl
  | cons token rest =>
    have clause := keeps.clauseSource?_map false (token :: rest)
    rw [List.map_cons] at clause ⊢
    rw [importSource?, importSource?, keeps.kind, keeps.isMark_eq, keeps.isMark_eq,
      keeps.isMark_eq, keeps.callSource?_map, clause]
    cases known : token.kind with
    | string => simp only [keeps.value token (by simp [known])]
    | _ => rfl

/-- The source of an export is the same source. -/
theorem exportSource?_map (tokens : List Token) :
    exportSource? (tokens.map change) = exportSource? tokens := by
  cases tokens with
  | nil => rfl
  | cons token rest =>
    have clause := keeps.clauseSource?_map false (token :: rest)
    rw [List.map_cons] at clause ⊢
    rw [exportSource?, exportSource?, keeps.isMark_eq, keeps.isMark_eq, clause]

/-- The sources that tokens name are the same. -/
theorem sourcesFrom_map (member : Bool) (tokens : List Token) :
    sourcesFrom member (tokens.map change) = sourcesFrom member tokens := by
  induction tokens generalizing member with
  | nil => rfl
  | cons token rest tail =>
    rw [List.map_cons, sourcesFrom, sourcesFrom, keeps.importSource?_map,
      keeps.exportSource?_map, keeps.isName_eq, keeps.isName_eq, keeps.isMark_eq, tail]

end KeepsSources

/-- The sources that tokens name do not depend on their places. -/
theorem sourcesFrom_unplaced (member : Bool) (tokens : List Token) :
    sourcesFrom member (tokens.map Token.unplaced) = sourcesFrom member tokens :=
  have keeps : KeepsSources Token.unplaced := ⟨fun _ => rfl, fun _ _ => rfl⟩
  keeps.sourcesFrom_map member tokens

/-- The source of a clause of spelled tokens. -/
def clauseOf? (closed : Bool) (tokens : List Spelled) : Option Text :=
  clauseSource? closed (tokens.map Spelled.token)

/-- The sources that spelled tokens name. -/
def sourcesOf (tokens : List Spelled) : List Text :=
  sourcesFrom false (tokens.map Spelled.token)

/-- Whether a token is a string literal. -/
def Spelled.isString : Spelled → Bool
  | .string _ _ => true
  | _ => false

/-- A source denotes itself. -/
theorem Source.token_spelled (source : Source) :
    source.spelled.token = ⟨.string, source.text, 0⟩ := by
  simp only [Source.spelled, Spelled.token, Source.quoted, flatMap_value_plain]

/-- The source of a clause stands behind the word for it. -/
theorem clauseOf?_source (closed : Bool) (source : Source) (rest : List Spelled) :
    clauseOf? closed (.word fromWord :: source.spelled :: rest) = some source.text := by
  rw [clauseOf?, List.map_cons, List.map_cons, source.token_spelled]
  rfl

/-- A name is passed over if it begins no declaration and is not the word before a source. -/
theorem clauseOf?_word {word : Word} (plain : isDeclarationKeyword word.text = false)
    {next : Spelled} (other : word.text ≠ "from" ∨ next.isString = false) (rest : List Spelled) :
    clauseOf? false (.word word :: next :: rest) = clauseOf? false (next :: rest) := by
  have noSource : (word.text == "from" && next.token.kind == .string) = false := by
    rcases other with other | other
    · rw [beq_eq_false_iff_ne.mpr other, Bool.false_and]
    · cases next with
      | string quote content => cases other
      | _ => rw [Bool.and_eq_false_iff]; exact .inr rfl
  rw [clauseOf?, List.map_cons, List.map_cons, Spelled.token, clauseSource?_name, noSource,
    Bool.false_or, plain]
  rfl

/-- An identifier that no string follows is passed over. -/
theorem clauseOf?_name (name : Identifier) (next : Spelled) (other : next.isString = false)
    (rest : List Spelled) :
    clauseOf? false (name.spelled :: next :: rest) = clauseOf? false (next :: rest) :=
  clauseOf?_word name.noDeclaration (.inr other) rest

/-- The word before another name is passed over with it. -/
theorem clauseOf?_as (name : Identifier) (next : Spelled) (other : next.isString = false)
    (rest : List Spelled) :
    clauseOf? false (.word asWord :: name.spelled :: next :: rest) =
      clauseOf? false (next :: rest) := by
  have word : clauseOf? false (.word asWord :: name.spelled :: next :: rest) =
      clauseOf? false (name.spelled :: next :: rest) :=
    clauseOf?_word (by decide) (.inr rfl) (next :: rest)
  rw [word]
  exact clauseOf?_name name next other rest

/-- A name in braces is passed over. -/
theorem clauseOf?_entry (entry : Entry) (next : Spelled) (other : next.isString = false)
    (rest : List Spelled) :
    clauseOf? false (entry.spelled ++ next :: rest) = clauseOf? false (next :: rest) := by
  obtain ⟨name, second⟩ := entry
  cases second with
  | none => exact clauseOf?_name name next other rest
  | some second =>
    have first := clauseOf?_name name (.word asWord) rfl (second.spelled :: next :: rest)
    exact first.trans (clauseOf?_as second next other rest)

/-- Names with commas between them are passed over up to the closing brace. -/
theorem clauseOf?_entries (entries : List Entry) (rest : List Spelled) :
    clauseOf? false (spellEntries entries ++ .mark .closing :: rest) = clauseOf? true rest := by
  fun_induction spellEntries entries with
  | case1 => rfl
  | case2 entry => exact clauseOf?_entry entry (.mark .closing) rfl rest
  | case3 entry second others tail =>
    rw [List.append_assoc, List.cons_append, clauseOf?_entry entry (.mark .comma) rfl]
    exact tail

/-- Names in braces are passed over. -/
theorem clauseOf?_braces (entries : List Entry) (rest : List Spelled) :
    clauseOf? false (spellBraces entries ++ rest) = clauseOf? true rest := by
  rw [spellBraces, List.cons_append, List.append_assoc]
  exact clauseOf?_entries entries rest

/-- The source of an import clause is the one behind it. -/
theorem clauseOf?_clause (clause : Clause) (source : Source) (rest : List Spelled) :
    clauseOf? false (clause.spelled ++ .word fromWord :: source.spelled :: rest) =
      some source.text := by
  let behind := .word fromWord :: source.spelled :: rest
  cases clause with
  | usual name =>
    have named := clauseOf?_name name (.word fromWord) rfl (source.spelled :: rest)
    exact named.trans (clauseOf?_source false source rest)
  | all name =>
    have named := clauseOf?_as name (.word fromWord) rfl (source.spelled :: rest)
    exact named.trans (clauseOf?_source false source rest)
  | braces entries =>
    exact (clauseOf?_braces entries behind).trans (clauseOf?_source true source rest)
  | both name entries =>
    have named := clauseOf?_name name (.mark .comma) rfl (spellBraces entries ++ behind)
    have listed := clauseOf?_braces entries behind
    exact (named.trans listed).trans (clauseOf?_source true source rest)

/-! ## Sources of values -/

/-- Whether a token starts no declaration. -/
def Spelled.Quiet : Spelled → Prop
  | .word name => isDeclarationKeyword name.text = false
  | _ => True

/-- No token is a point. -/
theorem noPoint (spelled : Spelled) : spelled.token.isMark '.' = false := by
  cases spelled with
  | mark sign => cases sign <;> rfl
  | _ => rfl

/-- A token that starts no declaration names no source. -/
theorem sourcesOf_quiet (spelled : Spelled) (quiet : spelled.Quiet) (rest : List Spelled) :
    sourcesOf (spelled :: rest) = sourcesOf rest := by
  have noDeclaration : spelled.token.isName "import" = false ∧
      spelled.token.isName "export" = false := by
    cases spelled with
    | word name =>
      have apart : (name.text == "import" || name.text == "export") = false := quiet
      exact Bool.or_eq_false_iff.mp apart
    | _ => exact ⟨rfl, rfl⟩
  obtain ⟨noImport, noExport⟩ := noDeclaration
  rw [sourcesOf, List.map_cons, sourcesFrom, noPoint, noImport, noExport]
  rfl

/-- Tokens that start no declaration name no source. -/
theorem sourcesOf_allQuiet {tokens : List Spelled} (quiet : ∀ spelled ∈ tokens, spelled.Quiet)
    (rest : List Spelled) : sourcesOf (tokens ++ rest) = sourcesOf rest := by
  induction tokens with
  | nil => rfl
  | cons spelled others tail =>
    rw [List.cons_append, sourcesOf_quiet spelled (quiet spelled List.mem_cons_self)]
    exact tail fun other member => quiet other (List.mem_cons_of_mem spelled member)

/-- An import names a source, and what is behind its keyword may name more. -/
theorem sourcesOf_import (rest : List Spelled) :
    sourcesOf (.word importWord :: rest) =
      (importSource? (rest.map Spelled.token)).toList ++ sourcesOf rest :=
  rfl

/-- An export may name a source, and what is behind its keyword may name more. -/
theorem sourcesOf_export (rest : List Spelled) :
    sourcesOf (.word exportWord :: rest) =
      (exportSource? (rest.map Spelled.token)).toList ++ sourcesOf rest :=
  rfl

mutual
/-- What is read off a value are the sources that it names. -/
theorem Value.sourcesOf_spelled (value : Value) (rest : List Spelled) :
    sourcesOf (value.spelled ++ rest) = value.sources ++ sourcesOf rest := by
  cases value with
  | quotient first others =>
    refine (sourcesOf_quiet first.spelled first.noDeclaration _).trans ?_
    refine sourcesOf_allQuiet ?_ rest
    intro spelled member
    obtain ⟨other, _, inside⟩ := List.mem_flatMap.mp member
    rcases List.mem_cons.mp inside with rfl | inside
    · trivial
    · cases List.mem_singleton.mp inside
      exact other.noDeclaration
  | string quote content => exact sourcesOf_quiet (.string quote content) trivial rest
  | regex regex => exact sourcesOf_quiet (.regex regex) trivial rest
  | template content tail =>
    rw [Value.spelled, List.cons_append, sourcesOf_quiet (.template _ _ _) trivial]
    exact tail.sourcesOf_spelled rest
  | object key value =>
    rw [Value.spelled, List.cons_append, List.cons_append, List.cons_append, List.append_assoc,
      sourcesOf_quiet (.mark .opening) trivial, sourcesOf_quiet key.spelled key.noDeclaration,
      sourcesOf_quiet (.mark .colon) trivial, value.sourcesOf_spelled, List.singleton_append,
      sourcesOf_quiet (.mark .closing) trivial, Value.sources]
  | parens inner =>
    rw [Value.spelled, List.cons_append, List.append_assoc, sourcesOf_quiet (.mark .left) trivial,
      inner.sourcesOf_spelled, List.singleton_append, sourcesOf_quiet (.mark .right) trivial,
      Value.sources]
  | call source =>
    have found : importSource?
        ((.mark .left :: source.spelled :: .mark .right :: rest).map Spelled.token) =
          some source.text := by
      rw [List.map_cons, List.map_cons, source.token_spelled]
      rfl
    change sourcesOf (.word importWord :: .mark .left :: source.spelled :: .mark .right :: rest) = _
    rw [sourcesOf_import, found, sourcesOf_quiet (.mark .left) trivial,
      sourcesOf_quiet source.spelled trivial, sourcesOf_quiet (.mark .right) trivial]
    rfl

/-- What is read off what comes behind some text of a template literal are the sources that it
names. -/
theorem TemplateTail.sourcesOf_spelled (tail : TemplateTail) (rest : List Spelled) :
    sourcesOf (tail.spelled ++ rest) = tail.sources ++ sourcesOf rest := by
  cases tail with
  | done => rfl
  | substitution inner content tail =>
    rw [TemplateTail.spelled, List.append_assoc, inner.sourcesOf_spelled, List.cons_append,
      sourcesOf_quiet (.template _ _ _) trivial, tail.sourcesOf_spelled, ← List.append_assoc,
      TemplateTail.sources]
end

/-! ## Sources of statements -/

/-- Names in braces start no declaration. -/
theorem quiet_braces (entries : List Entry) : ∀ spelled ∈ spellBraces entries, spelled.Quiet := by
  have quiet_entry (entry : Entry) : ∀ spelled ∈ entry.spelled, spelled.Quiet := by
    obtain ⟨name, second⟩ := entry
    intro spelled member
    cases second with
    | none =>
      cases List.mem_singleton.mp member
      exact name.noDeclaration
    | some second =>
      simp only [Entry.spelled, List.mem_cons, List.not_mem_nil, or_false] at member
      rcases member with rfl | rfl | rfl
      · exact name.noDeclaration
      · exact (by decide : isDeclarationKeyword asWord.text = false)
      · exact second.noDeclaration
  have quiet_entries : ∀ spelled ∈ spellEntries entries, spelled.Quiet := by
    fun_induction spellEntries entries with
    | case1 => simp
    | case2 entry => exact quiet_entry entry
    | case3 entry second others tail =>
      intro spelled member
      rcases List.mem_append.mp member with first | behind
      · exact quiet_entry entry spelled first
      · rcases List.mem_cons.mp behind with rfl | later
        · trivial
        · exact tail spelled later
  intro spelled member
  rcases List.mem_cons.mp member with rfl | inside
  · trivial
  · rcases List.mem_append.mp inside with listed | last
    · exact quiet_entries spelled listed
    · cases List.mem_singleton.mp last
      trivial

/-- What an import names besides its source starts no declaration. -/
theorem quiet_clause (clause : Clause) : ∀ spelled ∈ clause.spelled, spelled.Quiet := by
  intro spelled member
  cases clause with
  | usual name =>
    cases List.mem_singleton.mp member
    exact name.noDeclaration
  | all name =>
    simp only [Clause.spelled, List.mem_cons, List.not_mem_nil, or_false] at member
    rcases member with rfl | rfl | rfl
    · trivial
    · exact (by decide : isDeclarationKeyword asWord.text = false)
    · exact name.noDeclaration
  | braces entries => exact quiet_braces entries spelled member
  | both name entries =>
    simp only [Clause.spelled, List.mem_cons] at member
    rcases member with rfl | rfl | listed
    · exact name.noDeclaration
    · trivial
    · exact quiet_braces entries spelled listed

/-- A source behind its word names nothing by itself. -/
theorem sourcesOf_source (source : Source) (rest : List Spelled) :
    sourcesOf (.word fromWord :: source.spelled :: rest) = sourcesOf rest := by
  rw [sourcesOf_quiet (.word fromWord) (by decide : isDeclarationKeyword fromWord.text = false),
    sourcesOf_quiet source.spelled trivial]

/-- What is read off a statement are the sources that it names. -/
theorem Statement.sourcesOf_spelled (statement : Statement) (rest : List Spelled) :
    sourcesOf (statement.spelled ++ rest) = statement.sources ++ sourcesOf rest := by
  have ended : sourcesOf (.mark .semicolon :: rest) = sourcesOf rest :=
    sourcesOf_quiet (.mark .semicolon) trivial rest
  rw [Statement.spelled, List.append_assoc, List.singleton_append]
  have closes : clauseOf? true (.mark .semicolon :: rest) = none := rfl
  generalize Spelled.mark .semicolon :: rest = behind at ended closes
  cases statement with
  | importOnly source =>
    change sourcesOf (.word importWord :: source.spelled :: behind) = _
    rw [sourcesOf_import, sourcesOf_quiet source.spelled trivial, ended, List.map_cons,
      source.token_spelled]
    rfl
  | importFrom clause source =>
    have found : importSource? ((clause.spelled ++ .word fromWord :: source.spelled ::
        behind).map Spelled.token) = some source.text := by
      rw [← clauseOf?_clause clause source behind]
      cases clause <;> rfl
    rw [Statement.body, List.cons_append, List.append_assoc, sourcesOf_import]
    change (importSource? ((clause.spelled ++ .word fromWord :: source.spelled ::
      behind).map Spelled.token)).toList ++
        sourcesOf (clause.spelled ++ .word fromWord :: source.spelled :: behind) = _
    rw [found, sourcesOf_allQuiet (quiet_clause clause), sourcesOf_source, ended]
    rfl
  | exportFrom entries source =>
    have found : exportSource? ((spellBraces entries ++ .word fromWord :: source.spelled ::
        behind).map Spelled.token) = some source.text :=
      (clauseOf?_braces entries _).trans (clauseOf?_source true source behind)
    rw [Statement.body, List.cons_append, List.append_assoc, sourcesOf_export]
    change (exportSource? ((spellBraces entries ++ .word fromWord :: source.spelled ::
      behind).map Spelled.token)).toList ++
        sourcesOf (spellBraces entries ++ .word fromWord :: source.spelled :: behind) = _
    rw [found, sourcesOf_allQuiet (quiet_braces entries), sourcesOf_source, ended]
    rfl
  | exportAll source =>
    have found : exportSource? ((.mark .star :: .word fromWord :: source.spelled ::
        behind).map Spelled.token) = some source.text :=
      clauseOf?_source false source behind
    change sourcesOf (.word exportWord :: .mark .star :: .word fromWord :: source.spelled ::
      behind) = _
    rw [sourcesOf_export, found, sourcesOf_quiet (.mark .star) trivial, sourcesOf_source, ended]
    rfl
  | exportAllAs name source =>
    have found : exportSource? ((.mark .star :: .word asWord :: name.spelled :: .word fromWord ::
        source.spelled :: behind).map Spelled.token) = some source.text :=
      (clauseOf?_as name (.word fromWord) rfl _).trans (clauseOf?_source false source behind)
    change sourcesOf (.word exportWord :: .mark .star :: .word asWord :: name.spelled ::
      .word fromWord :: source.spelled :: behind) = _
    rw [sourcesOf_export, found, sourcesOf_quiet (.mark .star) trivial,
      sourcesOf_quiet (.word asWord) (by decide : isDeclarationKeyword asWord.text = false),
      sourcesOf_quiet name.spelled name.noDeclaration, sourcesOf_source, ended]
    rfl
  | exportNames entries =>
    have found : exportSource? ((spellBraces entries ++ behind).map Spelled.token) = none :=
      (clauseOf?_braces entries behind).trans closes
    change sourcesOf (.word exportWord :: (spellBraces entries ++ behind)) = _
    rw [sourcesOf_export, found, sourcesOf_allQuiet (quiet_braces entries), ended]
    rfl
  | constant name value =>
    rw [Statement.body, List.cons_append, List.cons_append, List.cons_append,
      sourcesOf_quiet (.word constWord) (by decide : isDeclarationKeyword constWord.text = false),
      sourcesOf_quiet name.spelled name.noDeclaration, sourcesOf_quiet (.mark .equals) trivial,
      value.sourcesOf_spelled, ended, Statement.sources]
  | exportDefault value noRegex =>
    rw [Statement.body, List.cons_append, List.cons_append, sourcesOf_export,
      sourcesOf_quiet (.word defaultWord)
        (by decide : isDeclarationKeyword defaultWord.text = false),
      value.sourcesOf_spelled, ended, Statement.sources]
    rfl

/-- What is read off the statements of a module are the sources that they name. -/
theorem sourcesOf_statements (statements : List Statement) :
    sourcesOf (statements.flatMap Statement.spelled) = statements.flatMap Statement.sources := by
  induction statements with
  | nil => rfl
  | cons statement rest tail =>
    rw [List.flatMap_cons, statement.sourcesOf_spelled, tail, List.flatMap_cons]

/-- **The imports of a module.** Whatever blanks and comments stand between the tokens of a
module, and whatever text its literals hold, the imports that are read off it are the sources that
its statements name, each once, in order of first appearance. -/
theorem imports_of_rendering (statements : List Statement) (text : Text)
    (rendering : Rendering (statements.flatMap Statement.spelled) text) :
    imports text = .ok (statements.flatMap Statement.sources).eraseDups := by
  obtain ⟨read, found, same⟩ := tokens_of_rendering rendering (fits_statements statements)
  have sources : sourcesFrom false read = statements.flatMap Statement.sources := by
    rw [← sourcesFrom_unplaced, same]
    exact sourcesOf_statements statements
  rw [imports, found]
  change Except.ok (sourcesFrom false read).eraseDups = _
  rw [sources]

/-- A module with a comment that looks like an import, and a dynamic import of what it has imported
before. -/
theorem imports_of_rendering_comment :
    ∃ statements : List Statement, Rendering (statements.flatMap Statement.spelled)
        "import 'a'; // import 'b'\nexport default import('a');" ∧
      imports "import 'a'; // import 'b'\nexport default import('a');" = .ok ["a"] := by
  let source : Source := ⟨.single, "a", by decide⟩
  let statements : List Statement := [.importOnly source, .exportDefault (.call source) rfl]
  let close : Spacing := ⟨[], by decide⟩
  let blank : Spacing := ⟨[.blank ' '], by decide⟩
  let comment : Spacing := ⟨[.blank ' ', .line " import 'b'"], by decide⟩
  obtain ⟨text, rendering, same⟩ : ∃ text, Rendering (statements.flatMap Statement.spelled) text ∧
      text = ("import 'a'; // import 'b'\nexport default import('a');" : Text) := by
    refine ⟨_,
      .cons close (.word importWord) (by decide) <|
      .cons blank source.spelled (by decide) <|
      .cons close (.mark .semicolon) (by decide) <|
      .cons comment (.word exportWord) (by decide) <|
      .cons blank (.word defaultWord) (by decide) <|
      .cons blank (.word importWord) (by decide) <|
      .cons close (.mark .left) (by decide) <|
      .cons close source.spelled (by decide) <|
      .cons close (.mark .right) (by decide) <|
      .cons close (.mark .semicolon) (by decide) <|
      .nil close, ?_⟩
    decide
  rw [← same]
  exact ⟨statements, rendering, imports_of_rendering statements text rendering⟩

end SiteBuild.Script
