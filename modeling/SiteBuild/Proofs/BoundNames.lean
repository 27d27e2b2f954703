import SiteBuild.Proofs.FrameRows
import SiteBuild.Proofs.ModuleImports

/-!
# Names that scripts bind

What a script declares is read off its tokens, statement by statement: a module that is imported
under a name, a value under a name, and names that are taken from a value. Main statements: the
declarations that code is put together of are those that are read off its tokens again
(`declarations_tokens`), and they name the sources that they import (`sourcesFrom_flatMap_tokens`).
-/
namespace SiteBuild.Script

/-! ## Declarations -/

/-- The token of a name. -/
def nameToken (name : Text) : Token := ⟨.name, name, 0⟩

/-- The token of a mark. -/
def markToken (mark : Char) : Token := ⟨.mark, [.scalar mark], 0⟩

/-- The token of a string. -/
def stringToken (value : Text) : Token := ⟨.string, value, 0⟩

/-- A declaration of a script. -/
inductive Declared where
  /-- The default of a module under a name. -/
  | imported (name source : Text)
  /-- A value under a name. -/
  | named (name : Text) (value : List Token)
  /-- Fields of a value under their own names. -/
  | fields (names : List Text) (value : List Token)

namespace Declared

/-- The names that a declaration binds. -/
def names : Declared → List Text
  | .imported name _ => [name]
  | .named name _ => [name]
  | .fields names _ => names

/-- The tokens of names with commas between them. -/
def listTokens : List Text → List Token
  | [] => []
  | [name] => [nameToken name]
  | name :: second :: rest => nameToken name :: markToken ',' :: listTokens (second :: rest)

/-- The tokens of a declaration up to the semicolon that ends it. -/
def body : Declared → List Token
  | .imported name source =>
    [nameToken "import", nameToken name, nameToken "from", stringToken source]
  | .named name value => nameToken "let" :: nameToken name :: markToken '=' :: value
  | .fields names value =>
    nameToken "let" :: markToken '\x7b' ::
      (listTokens names ++ markToken '\x7d' :: markToken '=' :: value)

/-- The tokens of a declaration. -/
def tokens (declared : Declared) : List Token := declared.body ++ [markToken ';']

/-- The names up to a closing brace, with commas between them, and the tokens behind it. -/
def readNames? : List Token → Option (List Text × List Token)
  | ⟨.name, name, _⟩ :: behind :: rest =>
    if behind.isMark '\x7d' then some ([name], rest)
    else if behind.isMark ',' then (readNames? rest).map fun read => (name :: read.1, read.2)
    else none
  | _ => none

/-- The declaration of fields, from behind its opening brace. -/
def readFields? (tokens : List Token) : Option Declared :=
  match readNames? tokens with
  | some (names, equals :: value) =>
    if equals.isMark '=' then some (.fields names value) else none
  | _ => none

/-- The declaration that a statement is, if it is one. -/
def read? : List Token → Option Declared
  | ⟨.name, keyword, _⟩ :: ⟨.name, name, _⟩ :: third :: rest =>
    if keyword == "let" && third.isMark '=' then some (.named name rest)
    else if keyword == "import" && third.isName "from" then
      match rest with
      | [⟨.string, source, _⟩] => some (.imported name source)
      | _ => none
    else none
  | ⟨.name, keyword, _⟩ :: opening :: rest =>
    if keyword == "let" && opening.isMark '\x7b' then readFields? rest else none
  | _ => none

end Declared

/-- The declarations among statements that end with semicolons. -/
def declarations (tokens : List Token) : List Declared :=
  (Text.splitAt (markToken ';') tokens).filterMap Declared.read?

/-- The names that a script binds. -/
def boundNames (tokens : List Token) : List Text := (declarations tokens).flatMap Declared.names

/-- The tokens of the call that gives a component its values. -/
def propsCall : List Token := [nameToken "$props", markToken '(', markToken ')']

/-- The names that a declaration takes from the values of the component. -/
def Declared.taken : Declared → List Text
  | .fields names value => if value = propsCall then names else []
  | _ => []

/-- The names that a script takes from the values of the component. -/
def takenNames (tokens : List Token) : List Text := (declarations tokens).flatMap Declared.taken

/-- The tokens that read a field of an object, by the name of the field in brackets. -/
def fieldOf (object field : Text) : List Token :=
  [nameToken object, markToken '[', stringToken field, markToken ']']

/-- The fields of an object that a declaration reads. -/
def Declared.read (object : Text) : Declared → List Text
  | .named _ [first, opening, field, closing] =>
    if [first, opening, field, closing] = fieldOf object field.value then [field.value] else []
  | _ => []

/-- The fields of an object that a script reads. -/
def readFields (object : Text) (tokens : List Token) : List Text :=
  (declarations tokens).flatMap (Declared.read object)

/-! ## Declarations that are read -/

namespace Declared

/-- Names in braces are read. -/
theorem readNames?_listTokens {names : List Text} (some : names ≠ []) (rest : List Token) :
    readNames? (listTokens names ++ markToken '\x7d' :: rest) = .some (names, rest) := by
  induction names with
  | nil => exact absurd rfl some
  | cons name names tail =>
    cases names with
    | nil => rfl
    | cons second more =>
      have behind := tail (List.cons_ne_nil second more)
      change (readNames? (listTokens (second :: more) ++ markToken '\x7d' :: rest)).map _ = _
      rw [behind]
      rfl

/-- Whether a declaration binds one name at least, and nothing in it ends it. -/
structure IsWhole (declared : Declared) : Prop where
  names : declared.names ≠ []
  body : markToken ';' ∉ declared.body

/-- No list of names holds the end of a declaration. -/
theorem not_mem_listTokens (names : List Text) : markToken ';' ∉ listTokens names := by
  induction names with
  | nil => simp [listTokens]
  | cons name names tail =>
    cases names with
    | nil => simp [listTokens, markToken, nameToken]
    | cons second more =>
      have comma : markToken ';' ≠ markToken ',' := by decide
      have word : markToken ';' ≠ nameToken name := by simp [markToken, nameToken]
      simp [listTokens, tail, comma, word]

/-- An import is whole. -/
theorem isWhole_imported (name source : Text) : (imported name source).IsWhole :=
  ⟨by simp [names], by simp [body, markToken, nameToken, stringToken]⟩

/-- A value under a name is whole if the value does not end it. -/
theorem isWhole_named (name : Text) {value : List Token} (ends : markToken ';' ∉ value) :
    (named name value).IsWhole := by
  have equals : markToken ';' ≠ markToken '=' := by decide
  have word (text : Text) : markToken ';' ≠ nameToken text := by simp [markToken, nameToken]
  exact ⟨by simp [names], by simp [body, ends, equals, word]⟩

/-- Fields of a value are whole if there are some and the value does not end them. -/
theorem isWhole_fields {names : List Text} (some : names ≠ []) {value : List Token}
    (ends : markToken ';' ∉ value) : (fields names value).IsWhole := by
  have equals : markToken ';' ≠ markToken '=' := by decide
  have opening : markToken ';' ≠ markToken '\x7b' := by decide
  have closing : markToken ';' ≠ markToken '\x7d' := by decide
  have word : markToken ';' ≠ nameToken "let" := by decide
  exact ⟨some, by simp [body, ends, equals, opening, closing, word, not_mem_listTokens]⟩

/-- A declaration is read as it is put together. -/
theorem read?_body {declared : Declared} (named : declared.names ≠ []) :
    read? declared.body = some declared := by
  cases declared with
  | imported name source => rfl
  | named name value => rfl
  | fields names value =>
    have inside : readNames? (listTokens names ++ markToken '\x7d' :: markToken '=' :: value) =
        some (names, markToken '=' :: value) := readNames?_listTokens named _
    change readFields? (listTokens names ++ markToken '\x7d' :: markToken '=' :: value) = _
    rw [readFields?, inside]
    rfl

end Declared

/-- The declarations that tokens are put together of are read off them, in front of others. -/
theorem declarations_append {all : List Declared} (whole : ∀ declared ∈ all, declared.IsWhole)
    (rest : List Token) :
    declarations (all.flatMap Declared.tokens ++ rest) = all ++ declarations rest := by
  induction all with
  | nil => rfl
  | cons declared all tail =>
    obtain ⟨here, others⟩ := List.forall_mem_cons.mp whole
    rw [List.flatMap_cons, Declared.tokens, List.append_assoc, List.append_assoc,
      List.singleton_append, declarations, Text.splitAt_append here.body, List.filterMap_cons,
      Declared.read?_body here.names]
    exact congrArg _ (tail others)

/-- The declarations that tokens are put together of are those that are read off them. -/
theorem declarations_tokens {all : List Declared}
    (whole : ∀ declared ∈ all, declared.IsWhole) :
    declarations (all.flatMap Declared.tokens) = all := by
  have read := declarations_append whole []
  rwa [List.append_nil, show declarations [] = [] from rfl, List.append_nil] at read

/-! ## Sources of declarations -/

/-- Whether a token is neither a keyword of a dependency nor a point. -/
def isQuiet (token : Token) : Bool :=
  !token.isName "import" && !token.isName "export" && !token.isMark '.'

/-- A name that is no keyword of a dependency is quiet. -/
theorem isQuiet_nameToken {name : Text} (plain : isDeclarationKeyword name = false) :
    isQuiet (nameToken name) = true := by
  obtain ⟨noImport, noExport⟩ := Bool.or_eq_false_iff.mp plain
  simp [isQuiet, nameToken, Token.isName, Token.isMark, noImport, noExport]

/-- A quiet token names no source. -/
theorem sourcesFrom_cons {token : Token} (quiet : isQuiet token = true) (member : Bool)
    (rest : List Token) : sourcesFrom member (token :: rest) = sourcesFrom false rest := by
  simp only [isQuiet, Bool.and_eq_true, Bool.not_eq_true'] at quiet
  obtain ⟨⟨noImport, noExport⟩, noPoint⟩ := quiet
  rw [sourcesFrom, noPoint, noImport, noExport]
  cases member <;> rfl

/-- Quiet tokens name no sources in front of others. -/
theorem sourcesFrom_append {tokens : List Token} (quiet : ∀ token ∈ tokens, isQuiet token = true)
    (rest : List Token) : sourcesFrom false (tokens ++ rest) = sourcesFrom false rest := by
  induction tokens with
  | nil => rfl
  | cons token tokens tail =>
    obtain ⟨here, others⟩ := List.forall_mem_cons.mp quiet
    rw [List.cons_append, sourcesFrom_cons here, tail others]

/-- No name does in front of a mark that stands behind bound names. -/
theorem sourcesFrom_name_mark (name : Text) {mark : Char} (inside : mark ∈ [',', '\x7d', '='])
    (rest : List Token) :
    sourcesFrom false (nameToken name :: markToken mark :: rest) = sourcesFrom false rest := by
  have known : importSource? (markToken mark :: rest) = none ∧
      exportSource? (markToken mark :: rest) = none ∧ isQuiet (markToken mark) = true := by
    simp only [List.mem_cons, List.not_mem_nil, or_false] at inside
    rcases inside with rfl | rfl | rfl <;> exact ⟨rfl, rfl, rfl⟩
  obtain ⟨noImport, noExport, quiet⟩ := known
  have behind := sourcesFrom_cons quiet false rest
  rw [sourcesFrom, noImport, noExport, show (nameToken name).isMark '.' = false from rfl, behind]
  split <;> simp

namespace Declared

/-- Bound names and the brace behind them name no sources. -/
theorem sourcesFrom_listTokens {names : List Text} (some : names ≠ []) (rest : List Token) :
    sourcesFrom false (listTokens names ++ markToken '\x7d' :: rest) = sourcesFrom false rest := by
  induction names with
  | nil => exact absurd rfl some
  | cons name names tail =>
    cases names with
    | nil => exact sourcesFrom_name_mark name (by decide) rest
    | cons second more =>
      rw [← tail (List.cons_ne_nil second more)]
      exact sourcesFrom_name_mark name (by decide) _

/-- The sources that a declaration names. -/
def sources : Declared → List Text
  | .imported _ source => [source]
  | _ => []

/-- Whether only an import names a source: what stands behind a declaration's names is quiet, and
so is the name of an import. -/
def IsCalm : Declared → Prop
  | .imported name _ => isDeclarationKeyword name = false
  | .named _ value => ∀ token ∈ value, isQuiet token = true
  | .fields _ value => ∀ token ∈ value, isQuiet token = true

/-- An import names its source. -/
theorem sourcesFrom_imported {name : Text} (plain : isDeclarationKeyword name = false)
    (source : Text) (rest : List Token) :
    sourcesFrom false ((imported name source).body ++ rest) = source :: sourcesFrom false rest := by
  have noString : ((nameToken "from").kind == TokenKind.string) = false := rfl
  have found : importSource? (nameToken name :: nameToken "from" :: stringToken source :: rest) =
      some source := by
    rw [importSource?, nameToken, clauseSource?_name, plain, noString, Bool.and_false]
    rfl
  have noPoint : (nameToken "import").isMark '.' = false := rfl
  change sourcesFrom false (nameToken "import" :: nameToken name :: nameToken "from" ::
    stringToken source :: rest) = _
  rw [sourcesFrom, noPoint, sourcesFrom_cons (isQuiet_nameToken plain),
    sourcesFrom_cons (by decide), sourcesFrom_cons rfl]
  exact congrArg (fun source? => Option.toList source? ++ sourcesFrom false rest) found

/-- The sources of a declaration in front of other tokens. -/
theorem sourcesFrom_tokens {declared : Declared} (calm : declared.IsCalm)
    (named : declared.names ≠ []) (rest : List Token) :
    sourcesFrom false (declared.tokens ++ rest) =
      declared.sources ++ sourcesFrom false rest := by
  have ended : sourcesFrom false (markToken ';' :: rest) = sourcesFrom false rest :=
    sourcesFrom_cons rfl false rest
  rw [tokens, List.append_assoc, List.singleton_append, ← ended]
  cases declared with
  | imported name source => exact sourcesFrom_imported calm source _
  | named name value =>
    have quiet : ∀ token ∈ value, isQuiet token = true := calm
    change sourcesFrom false (nameToken "let" :: nameToken name :: markToken '=' ::
      (value ++ markToken ';' :: rest)) = _
    rw [sourcesFrom_cons (by decide), sourcesFrom_name_mark name (by decide),
      sourcesFrom_append quiet]
    rfl
  | fields names value =>
    have quiet : ∀ token ∈ value, isQuiet token = true := calm
    have all : names ≠ [] := named
    rw [body, List.cons_append, sourcesFrom_cons (by decide), List.cons_append,
      sourcesFrom_cons rfl, List.append_assoc, List.cons_append, sourcesFrom_listTokens all,
      List.cons_append, sourcesFrom_cons rfl, sourcesFrom_append quiet]
    rfl

/-- The sources of declarations. -/
theorem sourcesFrom_flatMap_tokens {all : List Declared}
    (calm : ∀ declared ∈ all, declared.IsCalm ∧ declared.names ≠ []) :
    sourcesFrom false (all.flatMap tokens) = all.flatMap sources := by
  induction all with
  | nil => rfl
  | cons declared all tail =>
    obtain ⟨here, others⟩ := List.forall_mem_cons.mp calm
    rw [List.flatMap_cons, List.flatMap_cons, sourcesFrom_tokens here.1 here.2, tail others]

end Declared

/-- The field that a declaration reads. -/
theorem Declared.read_fieldOf (name object field : Text) :
    (named name (Script.fieldOf object field)).read object = [field] :=
  if_pos rfl

/-- Nothing in a field of an object ends a statement. -/
theorem not_mem_fieldOf (object field : Text) : markToken ';' ∉ fieldOf object field := by
  have opening : markToken ';' ≠ markToken '[' := by decide
  have closing : markToken ';' ≠ markToken ']' := by decide
  have apart : markToken ';' ≠ nameToken object ∧ markToken ';' ≠ stringToken field := by
    simp [markToken, nameToken, stringToken]
  simp [fieldOf, opening, closing, apart]

/-- A field of an object names no source. -/
theorem isQuiet_fieldOf {object : Text} (quiet : isQuiet (nameToken object) = true)
    (field : Text) : ∀ token ∈ fieldOf object field, isQuiet token = true := by
  simp only [fieldOf, List.forall_mem_cons, List.not_mem_nil, false_imp_iff, implies_true]
  exact ⟨quiet, rfl, rfl, rfl, trivial⟩

/-! ## Names that are handed on -/

/-- The tokens of names that are handed on from a module. -/
def exportTokens (names : List Text) (source : Text) : List Token :=
  nameToken "export" :: markToken '\x7b' :: (Declared.listTokens names ++
    [markToken '\x7d', nameToken "from", stringToken source, markToken ';'])

/-- The source of a list of names stands behind it. -/
theorem clauseSource?_listTokens {names : List Text} (some : names ≠ [])
    (plain : ∀ name ∈ names, isDeclarationKeyword name = false) (source : Text)
    (rest : List Token) :
    clauseSource? false (Declared.listTokens names ++ markToken '\x7d' :: nameToken "from" ::
      stringToken source :: rest) = .some source := by
  have noString (mark : Char) : ((markToken mark).kind == TokenKind.string) = false := rfl
  induction names with
  | nil => exact absurd rfl some
  | cons name names tail =>
    obtain ⟨here, others⟩ := List.forall_mem_cons.mp plain
    cases names with
    | nil =>
      change clauseSource? false (nameToken name :: markToken '\x7d' :: _) = _
      rw [nameToken, clauseSource?_name, here, noString, Bool.and_false]
      rfl
    | cons second more =>
      rw [← tail (List.cons_ne_nil second more) others]
      change clauseSource? false (nameToken name :: markToken ',' :: _) = _
      rw [nameToken, clauseSource?_name, here, noString, Bool.and_false]
      rfl

/-- Names that are handed on from a module name it, if none of them is a keyword of a dependency. -/
theorem sourcesFrom_exportTokens {names : List Text} (some : names ≠ [])
    (plain : ∀ name ∈ names, isDeclarationKeyword name = false) (source : Text)
    (rest : List Token) :
    sourcesFrom false (exportTokens names source ++ rest) = source :: sourcesFrom false rest := by
  have found := clauseSource?_listTokens some plain source (markToken ';' :: rest)
  have noPoint : (nameToken "export").isMark '.' = false := rfl
  have behind : sourcesFrom false (markToken '\x7b' :: (Declared.listTokens names ++
      markToken '\x7d' :: nameToken "from" :: stringToken source :: markToken ';' :: rest)) =
      sourcesFrom false rest := by
    rw [sourcesFrom_cons rfl, Declared.sourcesFrom_listTokens some, sourcesFrom_cons (by decide),
      sourcesFrom_cons rfl, sourcesFrom_cons rfl]
  have whole : exportTokens names source ++ rest = nameToken "export" :: markToken '\x7b' ::
      (Declared.listTokens names ++ markToken '\x7d' :: nameToken "from" :: stringToken source ::
        markToken ';' :: rest) := by
    simp [exportTokens]
  rw [whole, sourcesFrom, noPoint, behind]
  exact congrArg (fun source? => Option.toList source? ++ sourcesFrom false rest) found

end SiteBuild.Script
