import SiteBuild.Proofs.LoneSurrogates
import SiteBuild.Proofs.Steps
import SiteBuild.Site.Document

/-!
# Import maps

What a published page is given in the browser. The bindings of the import map are those of the
site with its collections named (`browserBindings_eq`), and each address holds the text of its
module (`sourceOfDataUrl?_of_dataUrl`). An import map is made unless a string of the site holds a
lone surrogate. Main statement: `importMap_hydrates`.
-/
namespace SiteBuild.Site

open Text

/-! ## Addresses -/

/-- The text of the module that an address holds. -/
def sourceOfDataUrl? (url : Text) : Option Text :=
  if dataHeader.isPrefixOf url then Url.unescaped? (url.drop dataHeader.length) else none

/-- An address is the header and the escaped text. -/
theorem dataUrl_eq_ok_iff {source url : Text} :
    dataUrl source = .ok url ↔
      ∃ escaped, Url.escaped dataMarks source = .ok escaped ∧ url = dataHeader ++ escaped := by
  rw [dataUrl]
  cases Url.escaped dataMarks source <;> simp [Except.map, eq_comm]

/-- **Addresses are read back.** The address of a text holds the text. -/
theorem sourceOfDataUrl?_of_dataUrl {source url : Text} (made : dataUrl source = .ok url) :
    sourceOfDataUrl? url = some source := by
  obtain ⟨escaped, done, rfl⟩ := dataUrl_eq_ok_iff.mp made
  have header : dataHeader.isPrefixOf (dataHeader ++ escaped) = true :=
    List.isPrefixOf_iff_prefix.mpr (List.prefix_append _ _)
  rw [sourceOfDataUrl?, if_pos header, List.drop_left]
  exact Url.unescaped?_of_escaped (by decide) done

/-- A text has an address exactly if it is made of characters. -/
theorem exists_dataUrl_iff {source : Text} :
    (∃ url, dataUrl source = .ok url) ↔ source.Encodable := by
  constructor
  · rintro ⟨url, made⟩
    obtain ⟨escaped, done, -⟩ := dataUrl_eq_ok_iff.mp made
    exact Url.encodable_of_escaped done
  · intro encodable
    obtain ⟨escaped, done⟩ := Url.exists_escaped dataMarks encodable
    exact ⟨_, dataUrl_eq_ok_iff.mpr ⟨escaped, done, rfl⟩⟩

/-- What an address holds behind its header: letters, digits, a few marks and escapes. -/
theorem isEscaped_of_dataUrl {source url : Text} (made : dataUrl source = .ok url) :
    ∃ escaped, url = dataHeader ++ escaped ∧ Url.IsEscaped dataMarks.toList escaped := by
  obtain ⟨escaped, done, rfl⟩ := dataUrl_eq_ok_iff.mp made
  exact ⟨escaped, rfl, Url.isEscaped_of_escaped (by simp [dataMarks]) done⟩

/-! ## The bindings of the browser -/

/-- The names of collections are keys, each once. -/
theorem collectionKeys_texts (names : List Text) :
    collectionKeys (names.map .str) = .ok (names.eraseDups.map .text) := by
  have keys : (names.map Json.str).mapM Json.asKey = .ok (names.map Key.text) := by
    induction names with
    | nil => rfl
    | cons name rest tail => rw [List.map_cons, List.mapM_cons, tail]; rfl
  rw [collectionKeys, keys, ← Key.eraseDupsBy_map_text]
  rfl

/-- Collections that are named only are empty. -/
theorem collectionsOf_empty (keys : List Key) :
    Bindings.collectionsOf (keys.map fun key => (key, .arr [])) =
      .ok (keys.map fun key => (key, {})) := by
  induction keys with
  | nil => rfl
  | cons key rest tail =>
    rw [Bindings.collectionsOf] at tail ⊢
    rw [List.map_cons, List.mapM_cons, tail]
    rfl

/-- The id of a project is read back from a request for it. -/
theorem projectIdOf_str (id : Text) : Bindings.projectIdOf [("project_id", .str id)] = id := by
  cases id <;> rfl

/-- Bindings whose collections are named and empty. -/
def named (bindings : Bindings) (names : List Text) : Bindings :=
  { bindings with data := names.eraseDups.map fun name => (.text name, {}) }

/-- **One set of bindings.** The browser is given the bindings of the site, with the collections
by their names. -/
theorem browserBindings_eq {config : Config} {names : List Text}
    (strings : config.collections = names.map .str) :
    browserBindings config = config.bindings.map fun bindings => named bindings names := by
  have empty := collectionsOf_empty (names.eraseDups.map .text)
  rw [List.map_map] at empty
  rw [browserBindings, Config.bindings, strings]
  cases config.designValues with
  | error cause => rfl
  | ok design =>
    simp only [collectionKeys_texts, List.map_map, projectIdOf_str, bind, Except.bind, pure,
      Except.pure, Except.map]
    rw [empty, List.map_map]
    rfl

/-! ## The modules of the browser -/

/-- The strings that the modules of the browser are written with. -/
def writtenTexts (bindings : Bindings) (names : List Text) : List Text :=
  bindings.projectId :: (names ++ ((Json.obj bindings.content.toRecord).texts ++
    (Json.obj bindings.design.toRecord).texts))

section Modules

variable (bindings : Bindings) (names : List Text)

/-- The collections of the browser are the names, each once. -/
theorem clientModule_named_data :
    (named bindings names).clientModule .data =
      Bindings.clientDataModule bindings.projectId (names.eraseDups.map .text) := by
  simp [Bindings.clientModule, named, Bindings.collectionNames, Function.comp_def]

/-- A module of values has the lone surrogates of their strings. -/
theorem lone_valueModule (fields : Fields) :
    lone (Bindings.valueModule fields) = (Json.obj fields.toRecord).texts.flatMap lone := by
  simp [Bindings.valueModule, Script.lone_literal]

/-- The module of the host has the lone surrogates of the project's id. -/
theorem lone_siteModule (id : Text) : lone (Bindings.siteModule id) = lone id := by
  simp [Bindings.siteModule, Bindings.assetPath, Bindings.proxyPath, Script.lone_literal,
    Json.texts]

/-- The module of the host's functions has the lone surrogates of the project's id. -/
theorem lone_clientBackendModule (id : Text) :
    lone (Bindings.clientBackendModule id) = lone id := by
  simp [Bindings.clientBackendModule, Bindings.backendPath, Script.lone_literal, Json.texts]

/-- The module of the collections has the lone surrogates of the project's id and of the names. -/
theorem lone_clientDataModule (id : Text) :
    lone (Bindings.clientDataModule id (names.map .text)) = lone id ++ names.flatMap lone := by
  have keys : (names.map Key.text).map Key.toJson = names.map Json.str := by simp [Key.toJson]
  have path : lone Bindings.dataPath = [] := lone_ofString _
  have function : lone Bindings.collectionFunction = [] := lone_ofString _
  simp only [Bindings.clientDataModule, lone_unlines, List.flatMap_cons, List.flatMap_nil,
    lone_append, lone_ofString, path, function, Script.lone_literal, keys, Json.texts,
    Json.itemTexts_map_str, List.nil_append, List.append_nil]

/-- The modules of the browser are made of characters exactly if the strings of the site are. -/
theorem encodable_clientModules_iff :
    (∀ binding, ((named bindings names).clientModule binding).Encodable) ↔
      ∀ text ∈ writtenTexts bindings names, text.Encodable := by
  have each {property : Binding → Prop} : (∀ binding, property binding) ↔
      property .content ∧ property .design ∧ property .data ∧ property .site ∧
        property .backend :=
    ⟨fun all => ⟨all _, all _, all _, all _, all _⟩,
      fun ⟨content, design, data, site, backend⟩ binding => by cases binding <;> assumption⟩
  simp only [each, clientModule_named_data]
  simp only [← lone_eq_nil_iff, Bindings.clientModule, lone_valueModule, lone_siteModule,
    lone_clientBackendModule, lone_clientDataModule, writtenTexts, named,
    List.flatMap_eq_nil_iff, List.append_eq_nil_iff, List.forall_mem_cons,
    List.forall_mem_append, List.mem_eraseDups]
  tauto

end Modules

/-! ## Import maps -/

/-- The entries of the runtime in an import map. -/
def runtimeEntries : List (Text × Text) :=
  [(Builtin.packageName, Builtin.publishedUrl),
    (Builtin.packageName ++ "/", Builtin.publishedUrl ++ "/")]

/-- The entries of an import map: the runtime, and the bindings under their names. -/
def entries (url : Binding → Text) : List (Text × Text) :=
  runtimeEntries ++ Binding.all.map fun binding => (binding.name, url binding)

/-- A binding is found under its name. -/
theorem lookup_entries (url : Binding → Text) (binding : Binding) :
    (entries url).lookup binding.name = some (url binding) := by
  cases binding <;> rfl

/-- The addresses of the modules of the browser are known if each module has one. -/
theorem bindingAddresses_eq_ok_iff {bindings : Bindings} {addresses : List (Text × Text)} :
    bindingAddresses bindings = .ok addresses ↔
      ∃ url : Binding → Text, (∀ binding, dataUrl (bindings.clientModule binding) =
          .ok (url binding)) ∧
        addresses = Binding.all.map fun binding => (binding.name, url binding) := by
  have all (binding : Binding) : binding ∈ Binding.all := by cases binding <;> decide
  rw [bindingAddresses, Bindings.clientModules, mapM_eq_ok_iff, List.forall₂_map_left_iff]
  constructor
  · intro each
    let url (binding : Binding) : Text :=
      (dataUrl (bindings.clientModule binding)).toOption.getD []
    suffices known : (∀ binding ∈ Binding.all,
        dataUrl (bindings.clientModule binding) = .ok (url binding)) ∧
          addresses = Binding.all.map fun binding => (binding.name, url binding) from
      ⟨url, fun binding => known.1 binding (all binding), known.2⟩
    clear all
    generalize Binding.all = items at each ⊢
    induction each with
    | nil => exact ⟨by simp, rfl⟩
    | @cons binding entry _ _ here _ tail =>
      have made : dataUrl (bindings.clientModule binding) = .ok (url binding) := by
        cases done : dataUrl (bindings.clientModule binding) with
        | error run => simp [done, Except.map] at here
        | ok address => simp [url, done, Except.toOption]
      rw [made] at here
      cases here
      exact ⟨List.forall_mem_cons.mpr ⟨made, tail.1⟩, by rw [List.map_cons, tail.2]⟩
  · rintro ⟨url, made, rfl⟩
    rw [List.forall₂_map_right_iff, List.forall₂_same]
    intro binding _
    rw [made]
    rfl

/-- An import map is made of the addresses of the bindings. -/
theorem importMap_eq {config : Config} {bindings : Bindings}
    (browser : browserBindings config = .ok bindings) :
    importMap config =
      match bindingAddresses bindings with
      | .error run => .error (.unencodable run)
      | .ok addresses => .ok (runtimeEntries ++ addresses) := by
  simp only [importMap, browser, Except.mapError, bind, Except.bind]
  cases bindingAddresses bindings <;> rfl

/-- What an import map holds, and for which bindings it is made. -/
theorem importMap_eq_ok_iff {config : Config} {imports : List (Text × Text)} :
    importMap config = .ok imports ↔
      ∃ bindings url, browserBindings config = .ok bindings ∧
        (∀ binding, dataUrl (bindings.clientModule binding) = .ok (url binding)) ∧
        imports = entries url := by
  cases browser : browserBindings config with
  | error cause => simp [importMap, browser, Except.mapError, bind, Except.bind]
  | ok bindings =>
    rw [importMap_eq browser]
    constructor
    · intro made
      cases done : bindingAddresses bindings with
      | error run =>
        rw [done] at made
        cases made
      | ok addresses =>
        obtain ⟨url, each, rfl⟩ := bindingAddresses_eq_ok_iff.mp done
        rw [done] at made
        cases made
        exact ⟨bindings, url, rfl, each, rfl⟩
    · rintro ⟨_, url, same, each, rfl⟩
      cases same
      rw [bindingAddresses_eq_ok_iff.mpr ⟨url, each, rfl⟩]
      rfl

/-- The names in an import map are always the same. -/
theorem keys_of_importMap {config : Config} {imports : List (Text × Text)}
    (made : importMap config = .ok imports) :
    imports.map Prod.fst =
      Builtin.packageName :: (Builtin.packageName ++ "/") :: Binding.all.map Binding.name := by
  obtain ⟨bindings, url, -, -, rfl⟩ := importMap_eq_ok_iff.mp made
  simp [entries, runtimeEntries, Function.comp_def]

/-- Whether an import map gives the browser the modules that a page was rendered with: of values
and of the host the texts of the server render, and collections and functions of the project. -/
structure Hydrates (bindings : Bindings) (names : List Text) (imports : List (Text × Text)) :
    Prop where
  same : ∀ binding ∈ [Binding.content, .design, .site], ∃ source,
    bindings.serverModule? binding.name = some source ∧
      (imports.lookup binding.name).bind sourceOfDataUrl? = some source
  data : (imports.lookup Binding.data.name).bind sourceOfDataUrl? =
    some (Bindings.clientDataModule bindings.projectId (names.eraseDups.map .text))
  backend : (imports.lookup Binding.backend.name).bind sourceOfDataUrl? =
    some (Bindings.clientBackendModule bindings.projectId)

/-- The addresses of the modules of the browser hydrate a page. -/
theorem hydrates_entries {bindings : Bindings} {names : List Text} {url : Binding → Text}
    (made : ∀ binding, dataUrl ((named bindings names).clientModule binding) =
      .ok (url binding)) : Hydrates bindings names (entries url) := by
  have held (binding : Binding) :
      ((entries url).lookup binding.name).bind sourceOfDataUrl? =
        some ((named bindings names).clientModule binding) := by
    rw [lookup_entries, Option.bind_some, sourceOfDataUrl?_of_dataUrl (made binding)]
  refine ⟨fun binding known => ⟨bindings.serverModule binding, ?_, ?_⟩, ?_, held .backend⟩
  · rw [Bindings.serverModule?, Binding.ofName?_name]
    rfl
  · rw [held]
    simp only [List.mem_cons, List.not_mem_nil, or_false] at known
    rcases known with rfl | rfl | rfl <;> rfl
  · rw [held, clientModule_named_data]

/-- There is an import map of a site exactly if its texts have bytes. -/
theorem exists_importMap_iff {config : Config} {names : List Text} {bindings : Bindings}
    (strings : config.collections = names.map .str) (known : config.bindings = .ok bindings) :
    (∃ imports, importMap config = .ok imports) ↔
      ∀ text ∈ writtenTexts bindings names, text.Encodable := by
  have browser := browserBindings_eq strings
  rw [known] at browser
  change _ = Except.ok (named bindings names) at browser
  rw [← encodable_clientModules_iff]
  simp only [importMap_eq_ok_iff, ← exists_dataUrl_iff, browser]
  constructor
  · rintro ⟨imports, _, url, same, made, -⟩
    cases same
    exact fun binding => ⟨url binding, made binding⟩
  · intro each
    choose url made using each
    exact ⟨_, _, url, rfl, made, rfl⟩

/-- **Pages hydrate against the modules they were rendered with.** For a site whose collections
have names: an import map is made exactly if every string of the bindings is made of characters,
it holds the modules of the server render and those of the project, and what hinders it is told as
it is where the bindings are made, or else it is a lone surrogate. Every text of characters has an
address, which holds it and is made of letters, digits, marks and escapes. -/
theorem importMap_hydrates {config : Config} {names : List Text}
    (strings : config.collections = names.map .str) :
    (∀ cause, config.bindings = .error cause → importMap config = .error (.misuse cause)) ∧
      (∀ bindings, config.bindings = .ok bindings →
        ((∃ imports, importMap config = .ok imports) ↔
          ∀ text ∈ writtenTexts bindings names, text.Encodable) ∧
        (∀ imports, importMap config = .ok imports → Hydrates bindings names imports) ∧
        ∀ failure, importMap config = .error failure → ∃ run, failure = .unencodable run) ∧
      ∀ source : Text, source.Encodable → ∃ url, dataUrl source = .ok url ∧
        sourceOfDataUrl? url = some source ∧
        ∃ escaped, url = dataHeader ++ escaped ∧ Url.IsEscaped dataMarks.toList escaped := by
  have browser := browserBindings_eq strings
  refine ⟨fun cause failed => ?_, fun bindings usual => ?_, fun source encodable => ?_⟩
  · rw [importMap, browser, failed]
    rfl
  · rw [usual] at browser
    change _ = Except.ok (named bindings names) at browser
    refine ⟨exists_importMap_iff strings usual, fun imports made => ?_, fun failure failed => ?_⟩
    · obtain ⟨_, url, same, each, rfl⟩ := importMap_eq_ok_iff.mp made
      rw [browser] at same
      cases same
      exact hydrates_entries each
    · rw [importMap_eq browser] at failed
      split at failed
      · rename_i run _
        cases failed
        exact ⟨run, rfl⟩
      · cases failed
  · obtain ⟨url, made⟩ := exists_dataUrl_iff.mpr encodable
    exact ⟨url, made, sourceOfDataUrl?_of_dataUrl made, isEscaped_of_dataUrl made⟩

/-- A site that names a collection twice. -/
theorem importMap_hydrates_two_collections :
    let config : Config := {
      projectId := "p1", content := [("title", .str "</Hello>"), ("tags", .arr [.null, .int 2])]
      design := [{ cssVar := "--accent", value := "red" }]
      collections := [.str "posts", .str "users", .str "posts"] }
    ∃ bindings imports, config.bindings = .ok bindings ∧ importMap config = .ok imports ∧
      Hydrates bindings ["posts", "users", "posts"] imports := by
  intro config
  have strings : config.collections = (["posts", "users", "posts"] : List Text).map .str := rfl
  obtain ⟨-, usual, -⟩ := importMap_hydrates strings
  have bindings : config.bindings = .ok {
      content := config.content, design := [("--accent", .str "red")], projectId := "p1" } := rfl
  obtain ⟨made, hydrates, -⟩ := usual _ bindings
  obtain ⟨imports, done⟩ := made.mpr (by decide +kernel)
  exact ⟨_, imports, bindings, done, hydrates imports done⟩

/-- A lone surrogate in the content of a site: its bindings are made, and no import map is. -/
theorem importMap_of_lone_surrogate :
    let config : Config := { content := [("title", .str [.surrogate 0x3d])] }
    config.collections = ([] : List Text).map .str ∧ (∃ bindings, config.bindings = .ok bindings) ∧
      ¬ ∃ imports, importMap config = .ok imports := by
  intro config
  refine ⟨rfl, ⟨_, rfl⟩, ?_⟩
  have failed : (importMap config).isOk = false := by decide +kernel
  rintro ⟨imports, made⟩
  rw [made] at failed
  cases failed

end SiteBuild.Site
