import SiteBuild.Proofs.StringLiterals

/-!
# Declarations with a source

The imports of a module and its exports from other modules: a default, everything under a name, or
names in braces, each under another name or not, and attributes behind the source. The names that
another module exports are any words, or strings. The search for the source of a declaration is
given up at a string and at a word that begins declarations, and the word `import` begins another
search if a word follows. Main statement: the imports of a list of declarations are the sources of
those that are seen (`imports_of_declarations`).
-/
namespace SiteBuild.Script

/-! ## Declarations -/

/-- A name that a module can give to what it imports. -/
structure Binding extends Word where
  /-- It starts no declaration. -/
  noDeclaration : isDeclarationKeyword text = false

/-- A name that a module exports something under. -/
inductive ExportName where
  /-- A word. -/
  | word (name : Word)
  /-- A string. -/
  | string (quote : Quote) (content : Quoted quote)

/-- A name in braces, maybe under another one. -/
structure Listed where
  /-- The name. -/
  name : ExportName
  /-- The other name. -/
  other : Option ExportName

/-- A name that is imported in braces. -/
inductive ImportEntry where
  /-- Under the same name. -/
  | same (name : Binding)
  /-- Under another name. -/
  | renamed (name : ExportName) (other : Binding)

/-- What stands in braces: items with a comma behind each of them, and maybe one without. -/
structure Braced (α : Type) where
  /-- The items with a comma. -/
  items : List α
  /-- The item without one. -/
  last : Option α

/-- What an import names besides its source. -/
inductive ImportClause where
  /-- The default. -/
  | usual (name : Binding)
  /-- Everything, under one name. -/
  | all (name : Binding)
  /-- Names in braces. -/
  | names (entries : Braced ImportEntry)
  /-- The default, and everything under one name. -/
  | usualAndAll (name other : Binding)
  /-- The default, and names in braces. -/
  | usualAndNames (name : Binding) (entries : Braced ImportEntry)

/-- What a declaration names before its source. -/
inductive Head where
  /-- An import of a module for its effects. -/
  | effects
  /-- An import of names. -/
  | imports (clause : ImportClause)
  /-- An export of everything. -/
  | exportAll
  /-- An export of everything, under one name. -/
  | exportAllAs (name : ExportName)
  /-- An export of names. -/
  | exports (entries : Braced Listed)

/-- The address of a module, as a literal that is read as what it denotes. -/
structure Address extends StringLiteral where
  /-- All of it is verbatim. -/
  verbatim : ∀ part ∈ parts, part.isVerbatim = true

/-- An attribute of an import. -/
structure ImportAttribute where
  /-- Its key. -/
  key : ExportName
  /-- The quote of its value. -/
  quote : Quote
  /-- Its value. -/
  value : Quoted quote

/-- A declaration with a source. -/
structure Declaration where
  /-- What it names before its source. -/
  head : Head
  /-- Its source. -/
  address : Address
  /-- Its attributes. -/
  attributes : Option (Braced ImportAttribute)
  /-- Whether a semicolon ends it. -/
  semicolon : Bool

/-! ## Their tokens -/

/-- The word before attributes. -/
def withWord : Word := ⟨"with", by decide, by decide⟩

/-- The token of a name. -/
def ExportName.spelled : ExportName → Spelled
  | .word name => .word name
  | .string quote content => .string quote content

/-- The tokens of a name in braces. -/
def Listed.spelled (listed : Listed) : List Spelled :=
  match listed.other with
  | none => [listed.name.spelled]
  | some other => [listed.name.spelled, .word asWord, other.spelled]

/-- An imported name in braces, as what is listed. -/
def ImportEntry.listed : ImportEntry → Listed
  | .same name => ⟨.word name.toWord, none⟩
  | .renamed name other => ⟨name, some (.word other.toWord)⟩

/-- The tokens of what stands in braces. -/
def Braced.spelled {α : Type} (spell : α → List Spelled) (braced : Braced α) : List Spelled :=
  .mark .opening ::
    (braced.items.flatMap (fun item => spell item ++ [.mark .comma]) ++
      (braced.last.toList.flatMap spell ++ [.mark .closing]))

/-- The tokens of what an import names. -/
def ImportClause.spelled : ImportClause → List Spelled
  | .usual name => [.word name.toWord]
  | .all name => [.mark .star, .word asWord, .word name.toWord]
  | .names entries => entries.spelled fun entry => entry.listed.spelled
  | .usualAndAll name other =>
    [.word name.toWord, .mark .comma, .mark .star, .word asWord, .word other.toWord]
  | .usualAndNames name entries =>
    .word name.toWord :: .mark .comma :: entries.spelled fun entry => entry.listed.spelled

/-- The tokens of a declaration before its source. -/
def Head.spelled : Head → List Spelled
  | .effects => [.word importWord]
  | .imports clause => .word importWord :: (clause.spelled ++ [.word fromWord])
  | .exportAll => [.word exportWord, .mark .star, .word fromWord]
  | .exportAllAs name =>
    [.word exportWord, .mark .star, .word asWord, name.spelled, .word fromWord]
  | .exports entries =>
    .word exportWord :: (entries.spelled Listed.spelled ++ [.word fromWord])

/-- The token of an address. -/
def Address.spelled (address : Address) : Spelled :=
  .string address.quote
    { units := address.parts.flatMap LiteralPart.units
      clean := by
        intro unit member
        obtain ⟨part, inside, here⟩ := List.mem_flatMap.mp member
        refine part.clean_units (address.fits part inside) ?_ unit here
        rintro rfl
        exact absurd (address.verbatim _ inside) (by decide) }

/-- The tokens of an attribute. -/
def ImportAttribute.spelled (item : ImportAttribute) : List Spelled :=
  [item.key.spelled, .mark .colon, .string item.quote item.value]

/-- The tokens of a declaration behind its source. -/
def Declaration.behind (declaration : Declaration) : List Spelled :=
  (match declaration.attributes with
    | none => []
    | some attributes => .word withWord :: attributes.spelled ImportAttribute.spelled) ++
    if declaration.semicolon then [.mark .semicolon] else []

/-- The tokens of a declaration. -/
def Declaration.spelled (declaration : Declaration) : List Spelled :=
  declaration.head.spelled ++ declaration.address.spelled :: declaration.behind

/-! ## Declarations that are seen -/

/-- Whether a search goes on behind a name: a string ends it, and so does a word that begins
declarations, but the word `import` begins another search if a word follows. -/
def ExportName.keeps (searching followed : Bool) : ExportName → Bool
  | .string _ _ => false
  | .word name =>
    if name.text == "import" then followed
    else if name.text == "export" then false
    else searching

/-- The names that are listed, and whether a word follows each of them. -/
def Listed.names (listed : Listed) : List (ExportName × Bool) :=
  (listed.name, listed.other.isSome) :: (listed.other.map (·, false)).toList

/-- The items in braces. -/
def Braced.toList {α : Type} (braced : Braced α) : List α := braced.items ++ braced.last.toList

/-- The names that another module exports, and whether a word follows each of them. -/
def Head.names : Head → List (ExportName × Bool)
  | .imports (.names entries) => entries.toList.flatMap fun entry => entry.listed.names
  | .imports (.usualAndNames _ entries) => entries.toList.flatMap fun entry => entry.listed.names
  | .exportAllAs name => [(name, true)]
  | .exports entries => entries.toList.flatMap Listed.names
  | _ => []

/-- Whether a search that goes on in front of names goes on behind them. -/
def keepsBehind (searching : Bool) (names : List (ExportName × Bool)) : Bool :=
  names.foldl (fun searching name => name.1.keeps searching name.2) searching

/-- Whether the source of a declaration is found. -/
def Declaration.isSeen (declaration : Declaration) : Bool :=
  keepsBehind true declaration.head.names

/-- Whether a name is a word that begins no declaration. -/
def ExportName.isPlain : ExportName → Bool
  | .string _ _ => false
  | .word name => !isDeclarationKeyword name.text

/-! ## Tokens that fit -/

/-- Whether a token fits everywhere and leaves the open braces as they are. -/
def Spelled.isFlat : Spelled → Bool
  | .word _ => true
  | .string _ _ => true
  | .mark sign => sign ∉ [Mark.opening, .closing, .slash]
  | _ => false

/-- Flat tokens fit everywhere. -/
theorem fits_flat {tokens : List Spelled} (flat : ∀ spelled ∈ tokens, spelled.isFlat = true)
    {state : LexerState} {rest : List Spelled}
    (behind : ∀ operandNext, Fits ⟨state.braces, operandNext⟩ rest) :
    Fits state (tokens ++ rest) := by
  induction tokens generalizing state with
  | nil => exact behind state.operandNext
  | cons spelled tokens tail =>
    obtain ⟨first, others⟩ := List.forall_mem_cons.mp flat
    cases spelled with
    | word name => exact ⟨trivial, tail others behind⟩
    | string quote content => exact ⟨trivial, tail others behind⟩
    | mark sign => cases sign <;> first | exact ⟨trivial, tail others behind⟩ | cases first
    | _ => cases first

/-- The tokens of a name are flat. -/
theorem ExportName.isFlat_spelled (name : ExportName) : name.spelled.isFlat = true := by
  cases name <;> rfl

/-- The tokens of what is listed are flat. -/
theorem Listed.isFlat_spelled (listed : Listed) :
    ∀ spelled ∈ listed.spelled, spelled.isFlat = true := by
  obtain ⟨name, other⟩ := listed
  cases other with
  | none => simp [spelled, name.isFlat_spelled]
  | some other =>
    have word : (Spelled.word asWord).isFlat = true := rfl
    simp [spelled, name.isFlat_spelled, other.isFlat_spelled, word]

/-- What stands in braces fits everywhere if its items are flat. -/
theorem Braced.fits {α : Type} {spell : α → List Spelled}
    (flat : ∀ item, ∀ spelled ∈ spell item, spelled.isFlat = true) (braced : Braced α)
    {state : LexerState} {rest : List Spelled}
    (behind : ∀ operandNext, Fits ⟨state.braces, operandNext⟩ rest) :
    Fits state (braced.spelled spell ++ rest) := by
  have inner : ∀ spelled ∈ braced.items.flatMap (fun item => spell item ++ [.mark .comma]) ++
      braced.last.toList.flatMap spell, spelled.isFlat = true := by
    simp only [List.forall_mem_append, List.forall_mem_flatMap, List.forall_mem_singleton]
    exact ⟨fun item _ => ⟨flat item, rfl⟩, fun item _ => flat item⟩
  rw [Braced.spelled, ← List.append_assoc, List.cons_append, List.append_assoc]
  refine ⟨trivial, fits_flat inner fun operandNext => ⟨?_, behind _⟩⟩
  simp [Spelled.FitsIn, Spelled.after]

/-- What an import names fits everywhere. -/
theorem ImportClause.fits (clause : ImportClause) {state : LexerState} {rest : List Spelled}
    (behind : ∀ operandNext, Fits ⟨state.braces, operandNext⟩ rest) :
    Fits state (clause.spelled ++ rest) := by
  have entries_flat (entry : ImportEntry) := entry.listed.isFlat_spelled
  cases clause with
  | usual name => exact ⟨trivial, behind _⟩
  | all name => exact ⟨trivial, trivial, trivial, behind _⟩
  | names entries => exact entries.fits entries_flat behind
  | usualAndAll name other => exact ⟨trivial, trivial, trivial, trivial, trivial, behind _⟩
  | usualAndNames name entries =>
    exact ⟨trivial, trivial, entries.fits entries_flat behind⟩

/-- What a declaration names before its source fits everywhere. -/
theorem Head.fits (head : Head) {state : LexerState} {rest : List Spelled}
    (behind : ∀ operandNext, Fits ⟨state.braces, operandNext⟩ rest) :
    Fits state (head.spelled ++ rest) := by
  cases head with
  | effects => exact ⟨trivial, behind _⟩
  | imports clause =>
    rw [spelled, List.cons_append, List.append_assoc]
    exact ⟨trivial, clause.fits fun _ => ⟨trivial, behind _⟩⟩
  | exportAll => exact ⟨trivial, trivial, trivial, behind _⟩
  | exportAllAs name =>
    have flat : ∀ spelled ∈ Head.spelled (.exportAllAs name), spelled.isFlat = true := by
      simp only [spelled, List.forall_mem_cons, List.not_mem_nil, false_implies, implies_true]
      exact ⟨rfl, rfl, rfl, name.isFlat_spelled, rfl, trivial⟩
    exact fits_flat flat behind
  | exports entries =>
    rw [spelled, List.cons_append, List.append_assoc]
    exact ⟨trivial, entries.fits Listed.isFlat_spelled fun _ => ⟨trivial, behind _⟩⟩

/-- What is behind the source of a declaration fits everywhere. -/
theorem Declaration.fits_behind (declaration : Declaration) {state : LexerState}
    {rest : List Spelled} (behind : ∀ operandNext, Fits ⟨state.braces, operandNext⟩ rest) :
    Fits state (declaration.behind ++ rest) := by
  obtain ⟨head, address, attributes, semicolon⟩ := declaration
  have ended (operandNext : Bool) : Fits ⟨state.braces, operandNext⟩
      ((if semicolon then [.mark .semicolon] else []) ++ rest) := by
    cases semicolon with
    | true => exact ⟨trivial, behind _⟩
    | false => exact behind _
  cases attributes with
  | none => exact ended state.operandNext
  | some attributes =>
    have items_flat (item : ImportAttribute) :
        ∀ spelled ∈ item.spelled, spelled.isFlat = true := by
      simp only [ImportAttribute.spelled, List.forall_mem_cons, List.not_mem_nil, false_implies,
        implies_true]
      exact ⟨item.key.isFlat_spelled, rfl, rfl, trivial⟩
    rw [Declaration.behind, List.append_assoc]
    exact ⟨trivial, attributes.fits items_flat ended⟩

/-- A declaration fits everywhere. -/
theorem Declaration.fits (declaration : Declaration) {state : LexerState} {rest : List Spelled}
    (behind : ∀ operandNext, Fits ⟨state.braces, operandNext⟩ rest) :
    Fits state (declaration.spelled ++ rest) := by
  rw [spelled, List.append_assoc]
  exact declaration.head.fits fun _ => ⟨trivial, declaration.fits_behind behind⟩

/-- Declarations fit one after the other. -/
theorem fits_declarations (declarations : List Declaration) {state : LexerState} :
    Fits state (declarations.flatMap Declaration.spelled) := by
  induction declarations generalizing state with
  | nil => trivial
  | cons declaration others tail =>
    rw [List.flatMap_cons]
    exact declaration.fits fun _ => tail

/-! ## Sources that are seen -/

/-- The sources that tokens name, and before them the one that a search finds among them, if there
is a search. -/
def sight (searching : Bool) (tokens : List Spelled) : List Text :=
  (if searching then (clauseOf? false tokens).toList else []) ++ sourcesOf tokens

/-- What is passed over names no source and ends no search. -/
theorem sight_of_pass (spelled : Spelled) {rest : List Spelled} (quiet : spelled.Quiet)
    (pass : clauseOf? false (spelled :: rest) = clauseOf? false rest) (searching : Bool) :
    sight searching (spelled :: rest) = sight searching rest := by
  rw [sight, sight, pass, sourcesOf_quiet spelled quiet]

/-- A word that begins no declaration is passed over, if it is not the word before a source. -/
theorem sight_word {word : Word} (plain : isDeclarationKeyword word.text = false) {next : Spelled}
    (other : word.text ≠ "from" ∨ next.isString = false) (rest : List Spelled)
    (searching : Bool) :
    sight searching (.word word :: next :: rest) = sight searching (next :: rest) :=
  sight_of_pass (.word word) plain (clauseOf?_word plain other rest) searching

/-- What can stand behind a name in a declaration. -/
inductive Follows : Spelled → Prop where
  /-- A word. -/
  | word (word : Word) : Follows (.word word)
  /-- A comma. -/
  | comma : Follows (.mark .comma)
  /-- A closing brace. -/
  | closing : Follows (.mark .closing)

/-- Whether a token is a word. -/
def Spelled.isWord : Spelled → Bool
  | .word _ => true
  | _ => false

/-- A word is known by its text. -/
theorem Word.eq_of_text {first : Word} (second : Word) (same : first.text = second.text) :
    first = second := by
  cases first
  cases second
  cases same
  rfl

/-- Behind a name a search goes on, ends or begins. -/
theorem sight_name (name : ExportName) {next : Spelled} (follows : Follows next)
    (rest : List Spelled) (searching : Bool) :
    sight searching (name.spelled :: next :: rest) =
      sight (name.keeps searching next.isWord) (next :: rest) := by
  -- A search that ends leaves the sources that the tokens behind the name name.
  have ended {spelled : Spelled} (none : clauseOf? false (spelled :: next :: rest) = none) :
      sight searching (spelled :: next :: rest) = sourcesOf (spelled :: next :: rest) := by
    rw [sight, none]
    cases searching <;> rfl
  cases name with
  | string quote content =>
    rw [ExportName.spelled, ended rfl, sourcesOf_quiet (.string quote content) trivial]
    rfl
  | word word =>
    rw [ExportName.spelled, ExportName.keeps]
    by_cases imports : word.text = "import"
    · cases Word.eq_of_text importWord imports
      rw [ended (by cases follows <;> rfl), sourcesOf_import]
      cases follows <;> rfl
    by_cases exports : word.text = "export"
    · cases Word.eq_of_text exportWord exports
      rw [ended (by cases follows <;> rfl), sourcesOf_export]
      cases follows <;> rfl
    · have noString : next.isString = false := by cases follows <;> rfl
      have plain : isDeclarationKeyword word.text = false := by
        simp [isDeclarationKeyword, imports, exports]
      rw [sight_word plain (.inr noString)]
      simp [imports, exports]

/-- The names that are listed decide whether a search goes on behind them. -/
theorem sight_listed (listed : Listed) {next : Spelled} (follows : Follows next)
    (noWord : next.isWord = false) (rest : List Spelled) (searching : Bool) :
    sight searching (listed.spelled ++ next :: rest) =
      sight (keepsBehind searching listed.names) (next :: rest) := by
  obtain ⟨name, other⟩ := listed
  cases other with
  | none =>
    rw [Listed.spelled, List.singleton_append, sight_name name follows, noWord]
    rfl
  | some other =>
    change sight searching (name.spelled :: .word asWord :: other.spelled :: next :: rest) = _
    rw [sight_name name (.word asWord), sight_word (by decide) (.inl (by decide)),
      sight_name other follows, noWord]
    rfl

/-- A mark that can stand in front of names is passed over. -/
theorem sight_mark (sign : Mark) (inside : sign ∈ [Mark.comma, .opening, .star])
    (rest : List Spelled) (searching : Bool) :
    sight searching (.mark sign :: rest) = sight searching rest := by
  have pass : clauseOf? false (.mark sign :: rest) = clauseOf? false rest := by
    cases sign <;> first | rfl | exact absurd inside (by decide)
  exact sight_of_pass (.mark sign) trivial pass searching

/-- The names of an item decide whether a search goes on behind the comma. -/
theorem sight_items {α : Type} (listed : α → Listed) (items : List α) (rest : List Spelled)
    (searching : Bool) :
    sight searching
        (items.flatMap (fun item => (listed item).spelled ++ [.mark .comma]) ++ rest) =
      sight (keepsBehind searching (items.flatMap fun item => (listed item).names)) rest := by
  induction items generalizing searching with
  | nil => rfl
  | cons item items tail =>
    rw [List.flatMap_cons, List.flatMap_cons, List.append_assoc, List.append_assoc,
      List.singleton_append, sight_listed (listed item) .comma rfl, sight_mark _ (by decide), tail,
      keepsBehind, keepsBehind, keepsBehind, List.foldl_append]

/-- The names in braces decide whether a search goes on in front of the closing brace. -/
theorem sight_braced {α : Type} (listed : α → Listed) (braced : Braced α) (rest : List Spelled)
    (searching : Bool) :
    sight searching (braced.spelled (fun item => (listed item).spelled) ++ rest) =
      sight (keepsBehind searching (braced.toList.flatMap fun item => (listed item).names))
        (.mark .closing :: rest) := by
  obtain ⟨items, last⟩ := braced
  rw [Braced.spelled, List.cons_append, sight_mark _ (by decide), List.append_assoc, sight_items,
    List.append_assoc, Braced.toList, List.flatMap_append, keepsBehind, keepsBehind,
    List.foldl_append]
  cases last with
  | none => rfl
  | some item =>
    simp only [Option.toList, List.flatMap_singleton, List.singleton_append]
    rw [sight_listed (listed item) .closing rfl]
    rfl

/-- An address is read as what it denotes. -/
theorem Address.token_spelled (address : Address) :
    address.spelled.token = ⟨.string, address.value, 0⟩ := by
  have read : (address.parts.flatMap LiteralPart.units).flatMap Written.value = address.taken := by
    rw [List.flatMap_assoc]
    exact List.flatMap_congr fun part member => part.flatMap_units (address.fits part member)
  rw [Address.spelled, Spelled.token, read, address.value_eq_taken_iff.mpr address.verbatim]

/-- A search finds the source behind the word for it. -/
theorem sight_source (address : Address) (rest : List Spelled) (searching : Bool) :
    sight searching (.word fromWord :: address.spelled :: rest) =
      (if searching then [address.value] else []) ++ sourcesOf rest := by
  have found : clauseOf? false (.word fromWord :: address.spelled :: rest) =
      some address.value := by
    rw [clauseOf?, List.map_cons, List.map_cons, address.token_spelled]
    rfl
  rw [sight, found, sourcesOf_quiet (.word fromWord) (by decide : isDeclarationKeyword _ = false),
    sourcesOf_quiet address.spelled trivial]
  rfl

/-- A search finds the source behind a closing brace and the word for it. -/
theorem sight_closing (address : Address) (rest : List Spelled) (searching : Bool) :
    sight searching (.mark .closing :: .word fromWord :: address.spelled :: rest) =
      (if searching then [address.value] else []) ++ sourcesOf rest := by
  have found : clauseOf? false (.mark .closing :: .word fromWord :: address.spelled :: rest) =
      some address.value := by
    rw [clauseOf?, List.map_cons, List.map_cons, List.map_cons, address.token_spelled]
    rfl
  rw [sight, found, sourcesOf_quiet (.mark .closing) trivial,
    sourcesOf_quiet (.word fromWord) (by decide : isDeclarationKeyword _ = false),
    sourcesOf_quiet address.spelled trivial]
  rfl

/-- What an import names decides whether its source is found. -/
theorem sight_clause (clause : ImportClause) (address : Address) (rest : List Spelled) :
    sight true (clause.spelled ++ .word fromWord :: address.spelled :: rest) =
      (if keepsBehind true (Head.imports clause).names then [address.value] else []) ++
        sourcesOf rest := by
  let behind := .word fromWord :: address.spelled :: rest
  cases clause with
  | usual name =>
    change sight true (.word name.toWord :: behind) = _
    rw [sight_word name.noDeclaration (.inr rfl), sight_source]
    rfl
  | all name =>
    change sight true (.mark .star :: .word asWord :: .word name.toWord :: behind) = _
    rw [sight_mark _ (by decide), sight_word (by decide) (.inr rfl),
      sight_word name.noDeclaration (.inr rfl), sight_source]
    rfl
  | names entries =>
    exact (sight_braced ImportEntry.listed entries behind true).trans (sight_closing address rest _)
  | usualAndAll name other =>
    change sight true (.word name.toWord :: .mark .comma :: .mark .star :: .word asWord ::
      .word other.toWord :: behind) = _
    rw [sight_word name.noDeclaration (.inr rfl), sight_mark _ (by decide),
      sight_mark _ (by decide), sight_word (by decide) (.inr rfl),
      sight_word other.noDeclaration (.inr rfl), sight_source]
    rfl
  | usualAndNames name entries =>
    change sight true (.word name.toWord :: .mark .comma :: (entries.spelled _ ++ behind)) = _
    rw [sight_word name.noDeclaration (.inr rfl), sight_mark _ (by decide)]
    exact (sight_braced ImportEntry.listed entries behind true).trans (sight_closing address rest _)

/-- What a declaration names decides whether its source is found. -/
theorem sourcesOf_head (head : Head) (address : Address) (rest : List Spelled) :
    sourcesOf (head.spelled ++ address.spelled :: rest) =
      (if keepsBehind true head.names then [address.value] else []) ++ sourcesOf rest := by
  cases head with
  | effects =>
    change sourcesOf (.word importWord :: address.spelled :: rest) = _
    rw [sourcesOf_import, sourcesOf_quiet address.spelled trivial, List.map_cons,
      address.token_spelled]
    rfl
  | imports clause =>
    rw [← sight_clause clause address rest, Head.spelled, List.cons_append, List.append_assoc,
      sourcesOf_import]
    cases clause <;> rfl
  | exportAll =>
    have starred := sight_mark .star (by decide)
      (.word fromWord :: address.spelled :: rest) true
    rw [sight_source] at starred
    exact starred
  | exportAllAs name =>
    have starred := sight_mark .star (by decide)
      (.word asWord :: name.spelled :: .word fromWord :: address.spelled :: rest) true
    rw [sight_word (by decide) (.inl (by decide)), sight_name name (.word fromWord),
      sight_source] at starred
    exact starred
  | exports entries =>
    have listed := sight_braced id entries (.word fromWord :: address.spelled :: rest) true
    rw [sight_closing] at listed
    rw [Head.spelled, List.cons_append, List.append_assoc, sourcesOf_export]
    exact listed

/-- An attribute names no source, whatever its key is. -/
theorem ImportAttribute.sourcesOf_spelled (item : ImportAttribute) (rest : List Spelled) :
    sourcesOf (item.spelled ++ rest) = sourcesOf rest := by
  obtain ⟨key, quote, value⟩ := item
  have behind : sourcesOf (.mark .colon :: .string quote value :: rest) = sourcesOf rest := by
    rw [sourcesOf_quiet (.mark .colon) trivial, sourcesOf_quiet (.string quote value) trivial]
  change sourcesOf (key.spelled :: .mark .colon :: .string quote value :: rest) = _
  rw [← behind]
  cases key with
  | string quote content => exact sourcesOf_quiet (.string quote content) trivial _
  | word word =>
    rw [ExportName.spelled]
    by_cases imports : word.text = "import"
    · cases Word.eq_of_text importWord imports
      rw [sourcesOf_import]
      rfl
    by_cases exports : word.text = "export"
    · cases Word.eq_of_text exportWord exports
      rw [sourcesOf_export]
      rfl
    · exact sourcesOf_quiet (.word word) (by simp [Spelled.Quiet, isDeclarationKeyword, imports,
        exports]) _

/-- What is behind the source of a declaration names no source. -/
theorem Declaration.sourcesOf_behind (declaration : Declaration) (rest : List Spelled) :
    sourcesOf (declaration.behind ++ rest) = sourcesOf rest := by
  obtain ⟨head, address, attributes, semicolon⟩ := declaration
  have ended : sourcesOf ((if semicolon then [.mark .semicolon] else []) ++ rest) =
      sourcesOf rest := by
    cases semicolon with
    | true => exact sourcesOf_quiet (.mark .semicolon) trivial rest
    | false => rfl
  have items_quiet (items : List ImportAttribute) (rest : List Spelled) :
      sourcesOf (items.flatMap (fun item => item.spelled ++ [.mark .comma]) ++ rest) =
        sourcesOf rest := by
    induction items with
    | nil => rfl
    | cons item items tail =>
      rw [List.flatMap_cons, List.append_assoc, List.append_assoc, item.sourcesOf_spelled,
        List.singleton_append, sourcesOf_quiet (.mark .comma) trivial, tail]
  cases attributes with
  | none => exact ended
  | some attributes =>
    obtain ⟨items, last⟩ := attributes
    rw [Declaration.behind, List.append_assoc, List.cons_append,
      sourcesOf_quiet (.word withWord) (by decide : isDeclarationKeyword _ = false), Braced.spelled,
      List.cons_append, sourcesOf_quiet (.mark .opening) trivial, List.append_assoc, items_quiet]
    cases last with
    | none => exact (sourcesOf_quiet (.mark .closing) trivial _).trans ended
    | some item =>
      simp only [Option.toList, List.flatMap_singleton]
      rw [List.append_assoc, item.sourcesOf_spelled]
      exact (sourcesOf_quiet (.mark .closing) trivial _).trans ended

/-- The sources of declarations that are seen are those that their tokens name. -/
theorem sourcesOf_declarations (declarations : List Declaration) :
    sourcesOf (declarations.flatMap Declaration.spelled) =
      (declarations.filter Declaration.isSeen).map fun declaration =>
        declaration.address.value := by
  induction declarations with
  | nil => rfl
  | cons declaration others tail =>
    rw [List.flatMap_cons, Declaration.spelled, List.append_assoc, List.cons_append,
      sourcesOf_head, declaration.sourcesOf_behind, tail, List.filter_cons]
    cases seen : keepsBehind true declaration.head.names <;> simp [Declaration.isSeen, seen]

/-- A search goes on behind words that begin no declaration. -/
theorem keepsBehind_of_plain {names : List (ExportName × Bool)}
    (plain : ∀ name ∈ names, name.1.isPlain = true) (searching : Bool) :
    keepsBehind searching names = searching := by
  induction names with
  | nil => rfl
  | cons name names tail =>
    obtain ⟨first, others⟩ := List.forall_mem_cons.mp plain
    have kept : name.1.keeps searching name.2 = searching := by
      obtain ⟨name, followed⟩ := name
      cases name with
      | string quote content => cases first
      | word word =>
        simp only [ExportName.isPlain, isDeclarationKeyword, Bool.not_eq_true',
          Bool.or_eq_false_iff] at first
        simp [ExportName.keeps, first]
    rw [keepsBehind, List.foldl_cons, kept]
    exact tail others

/-- **The imports of declarations.** Whatever blanks and comments stand between the tokens, the
imports of a list of declarations are the sources of those that are seen, each once, in order; so
none is missed where the names of other modules are words that begin no declarations. -/
theorem imports_of_declarations (declarations : List Declaration) (text : Text)
    (rendering : Rendering (declarations.flatMap Declaration.spelled) text) :
    imports text = .ok ((declarations.filter Declaration.isSeen).map fun declaration =>
        declaration.address.value).eraseDups ∧
      ((∀ declaration ∈ declarations, ∀ name ∈ declaration.head.names, name.1.isPlain = true) →
        imports text = .ok (declarations.map fun declaration =>
          declaration.address.value).eraseDups) := by
  obtain ⟨read, found, same⟩ := tokens_of_rendering rendering (fits_declarations declarations)
  have sources : sourcesFrom false read = (declarations.filter Declaration.isSeen).map
      fun declaration => declaration.address.value := by
    rw [← sourcesFrom_unplaced, same]
    exact sourcesOf_declarations declarations
  have seen : imports text = .ok ((declarations.filter Declaration.isSeen).map
      fun declaration => declaration.address.value).eraseDups := by
    rw [imports, found, ← sources]
    rfl
  refine ⟨seen, fun plain => ?_⟩
  have all : declarations.filter Declaration.isSeen = declarations :=
    List.filter_eq_self.mpr fun declaration member =>
      keepsBehind_of_plain (plain declaration member) true
  rw [seen, all]

/-- The address with a text in single quotes in which nothing has to be escaped. -/
def Address.ofClean (text : Text) (clean : ∀ point ∈ text, (LiteralPart.bare point).Fits .single) :
    Address where
  quote := .single
  parts := text.map .bare
  fits := by simpa using clean
  verbatim := by simp [LiteralPart.isVerbatim]

/-- An import of a name that is a keyword, with an attribute, and an export of everything under a
keyword, without a semicolon between them. -/
theorem imports_of_declarations_keywords :
    ∃ (declarations : List Declaration) (text : Text),
      text = "import\x7bimport as a,from\x7dfrom'./a' with \x7btype:'json'\x7d\n" ++
        "export*as default from'./b';" ∧
      Rendering (declarations.flatMap Declaration.spelled) text ∧
      imports text = .ok ["./a", "./b"] := by
  let a : Binding := ⟨⟨"a", by decide, by decide⟩, by decide⟩
  let named : Binding := ⟨fromWord, by decide⟩
  let typeWord : Word := ⟨"type", by decide, by decide⟩
  let json : Quoted .single := ⟨(Text.ofString "json").map .plain, by decide⟩
  let first : Declaration := {
    head := .imports (.names ⟨[.renamed (.word importWord) a], some (.same named)⟩)
    address := .ofClean "./a" (by decide)
    attributes := some ⟨[], some ⟨.word typeWord, .single, json⟩⟩
    semicolon := false }
  let second : Declaration := {
    head := .exportAllAs (.word defaultWord)
    address := .ofClean "./b" (by decide)
    attributes := none
    semicolon := true }
  let close : Spacing := ⟨[], by decide⟩
  let blank : Spacing := ⟨[.blank ' '], by decide⟩
  let feed : Spacing := ⟨[.blank '\n'], by decide⟩
  have rendering := Rendering.cons close (.word importWord) (by decide) <|
    .cons close (.mark .opening) (by decide) <|
    .cons close (.word importWord) (by decide) <|
    .cons blank (.word asWord) (by decide) <|
    .cons blank (.word a.toWord) (by decide) <|
    .cons close (.mark .comma) (by decide) <|
    .cons close (.word fromWord) (by decide) <|
    .cons close (.mark .closing) (by decide) <|
    .cons close (.word fromWord) (by decide) <|
    .cons close first.address.spelled (by decide) <|
    .cons blank (.word withWord) (by decide) <|
    .cons blank (.mark .opening) (by decide) <|
    .cons close (.word typeWord) (by decide) <|
    .cons close (.mark .colon) (by decide) <|
    .cons close (.string .single json) (by decide) <|
    .cons close (.mark .closing) (by decide) <|
    .cons feed (.word exportWord) (by decide) <|
    .cons close (.mark .star) (by decide) <|
    .cons close (.word asWord) (by decide) <|
    .cons blank (.word defaultWord) (by decide) <|
    .cons blank (.word fromWord) (by decide) <|
    .cons close second.address.spelled (by decide) <|
    .cons close (.mark .semicolon) (by decide) <| .nil close
  exact ⟨[first, second], _, by decide, rendering,
    (imports_of_declarations [first, second] _ rendering).1⟩

/-- An import of a name that is a string is missed. -/
theorem imports_of_string_name :
    ∃ (declaration : Declaration) (text : Text), text = "import\x7b'a-b' as c\x7dfrom'./m';" ∧
      Rendering declaration.spelled text ∧ declaration.address.value = "./m" ∧
      imports text = .ok [] := by
  let c : Binding := ⟨⟨"c", by decide, by decide⟩, by decide⟩
  let name : Quoted .single := ⟨(Text.ofString "a-b").map .plain, by decide⟩
  let declaration : Declaration := {
    head := .imports (.names ⟨[], some (.renamed (.string .single name) c)⟩)
    address := .ofClean "./m" (by decide)
    attributes := none
    semicolon := true }
  let close : Spacing := ⟨[], by decide⟩
  let blank : Spacing := ⟨[.blank ' '], by decide⟩
  have rendering := Rendering.cons close (.word importWord) (by decide) <|
    .cons close (.mark .opening) (by decide) <|
    .cons close (.string .single name) (by decide) <|
    .cons blank (.word asWord) (by decide) <|
    .cons blank (.word c.toWord) (by decide) <|
    .cons close (.mark .closing) (by decide) <|
    .cons close (.word fromWord) (by decide) <|
    .cons close declaration.address.spelled (by decide) <|
    .cons close (.mark .semicolon) (by decide) <| .nil close
  exact ⟨declaration, _, by decide, rendering, by decide, by decide +kernel⟩

end SiteBuild.Script
