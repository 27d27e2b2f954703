import SiteBuild.Proofs.ClientBundles
import SiteBuild.Proofs.Externals
import SiteBuild.Proofs.InlineScripts
import SiteBuild.Proofs.LoadedTargets
import SiteBuild.Proofs.PublishedPages
import SiteBuild.Proofs.RoundTrips
import SiteBuild.Proofs.StaticDocuments

/-!
# Hydrated pages

A published page with script code takes over in the browser: the build links a second bundle, and
the document has an import map and a script that starts the bundle. These come together. The bundle
is linked from an entry that hands on the page and what takes over (`linkedFromEntry_of_bundleOf`),
and the import map and the script are in the document exactly if there is a bundle
(`publication_of_renderDocument`), which is read back from the script. Main statement: what comes of
every page, from its text to its document (`publish_outcome`).
-/
namespace SiteBuild

open SiteBuild.Module
open Steps (outcome outcome_bind_eq_ok_iff outcome_decided Succeed)

variable {σ : Type}

/-! ## The entry of a bundle -/

namespace Page

/-- The statement that hands on a name of another module. -/
def handOn (name specifier : Text) : Text :=
  "export \x7b " ++ name ++ " \x7d from '" ++ specifier ++ "';\n"

/-- The entry of a page that takes over: it hands on the page and what takes over. -/
def hydrationEntry : Text := handOn "default" appFile ++ handOn "hydrate" Builtin.packageName

/-- The files of a page of one text that takes over. -/
theorem localFiles_hydrate (source : Text) (head : Head) :
    localFiles (.single (.text source)) head [.str "hydrate"] =
      .ok [(appFile, .text source), (entryFile, .text hydrationEntry)] := by
  have entry : entryModule [.str "hydrate"] = .ok hydrationEntry := rfl
  rw [localFiles, entry]
  rfl

/-- What the entry of a page that takes over imports. -/
theorem imports_hydrationEntry :
    Script.imports hydrationEntry = .ok [appFile, Builtin.packageName] := by
  decide +kernel

end Page

namespace Build

variable {services : Services (StateM σ)} {request : Request} {files : Page.Files}
  {target : Target} {start after : σ} {graph : Graph}

/-- The options that graphs are linked with. -/
def bundleOptions (request : Request) : BundleOptions :=
  { format := .str Options.bundleFormat, sourcemap := .bool request.options.sourcemap }

/-- A bundle is the code with which the linker answers for a collected graph. -/
theorem linked_of_bundleOf {bundle : Text}
    (made : outcome (bundleOf services request files target) start = (.ok bundle, after)) :
    ∃ graph between answer,
      outcome (Graph.collect services.limit (hooks services request files target)
        Page.entryFile) start = (.ok graph, between) ∧
      (services.link (linkPayload graph (bundleOptions request)) between : Id _) =
        (.ok answer, after) ∧
      bundleOfAnswer answer = .ok (.text bundle) := by
  obtain ⟨code, between, bundled, checked⟩ := outcome_bind_eq_ok_iff.mp made
  obtain ⟨graph, middle, collected, linked⟩ := outcome_bind_eq_ok_iff.mp bundled
  obtain ⟨answer, later, answered, told⟩ := outcome_bind_eq_ok_iff.mp linked
  cases known : bundleOfAnswer answer with
  | error failure =>
    rw [known] at told
    cases told
  | ok value =>
    rw [known] at told
    cases told
    rw [outcome_decided, Prod.mk.injEq] at checked
    obtain ⟨encodes, rfl⟩ := checked
    refine ⟨graph, middle, answer, collected, answered, ?_⟩
    cases code with
    | other value => cases encodes
    | text value =>
      obtain ⟨_, read, encodes⟩ := bind_eq_ok_iff.mp encodes
      cases read
      obtain ⟨_, _, same⟩ := bind_eq_ok_iff.mp encodes
      cases same
      exact known

/-- The entry of a collected graph is the entry file as it stands. -/
theorem entry_of_collect (code : Text) (file : files.find? Page.entryFile = some (.text code))
    (collected : outcome (Graph.collect services.limit (hooks services request files target)
      Page.entryFile) start = (.ok graph, after)) :
    graph.entry = Page.entryFile ∧
      ∃ node ∈ graph.modules, node.id = Page.entryFile ∧ node.code = code := by
  obtain ⟨found, _, resolved, walks⟩ := outcome_bind_eq_ok_iff.mp collected
  have entry : (hooks services request files target).resolve Page.entryFile none =
      .ok (.file Page.entryFile) := by
    simp only [hooks, Resolver.resolve_entryFile]
    rfl
  rw [entry, outcome_decided] at resolved
  cases resolved
  obtain ⟨walked, same⟩ := (Graph.Walked.start _ Page.entryFile).of_walk services.limit walks
  obtain ⟨node, member, named⟩ := List.mem_map.mp walked.closed.entry
  have named : node.id = Page.entryFile := named.trans same
  refine ⟨same, node, member, named, ?_⟩
  obtain ⟨loaded, output, before, between, last, load, transform, whole, -⟩ :=
    walked.made node member
  obtain ⟨loader, kept, -, loads, -⟩ := Loader.exists_of_hooks services request files target
  rw [named] at load transform
  have origin : loader.origin Page.entryFile = .text (.text code) := by
    obtain ⟨noIcon, plain⟩ := @Target.not_generated Page.entryFile _ rfl (by decide)
    simp [Loader.origin, noIcon, plain, kept, file]
  rw [loads, loader.load_of_text origin] at load
  cases load
  have plain : isComponent Page.entryFile = false := by decide +kernel
  simp only [hooks, plain, Bool.false_eq_true, ↓reduceIte] at transform
  cases transform
  exact (Textual.text.inj (congrArg Transformed.code whole)).symm

/-- How a bundle that takes over comes about: at the end of a build the linker answers with it for
a graph whose entry hands on the page and, from the runtime, what takes over. -/
inductive LinkedFromEntry (services : Services (StateM σ)) (request : Request) (bundle : Text)
    (after : σ) : Prop
  /-- The graph is collected from the entry and linked. -/
  | linked {files : Page.Files} {graph : Graph} {node : GraphModule} {start between : σ}
    {answer : Json}
    (collected : outcome (Graph.collect services.limit (hooks services request files .hydration)
      Page.entryFile) start = (.ok graph, between))
    (answered : (services.link (linkPayload graph (bundleOptions request)) between : Id _) =
      (.ok answer, after))
    (code : bundleOfAnswer answer = .ok (.text bundle))
    (member : node ∈ graph.modules) (entry : node.id = graph.entry)
    (handsOn : node.code = Page.hydrationEntry)
    (page : ⟨node.id, Page.appFile, .file Page.appFile⟩ ∈ graph.resolutions)
    (runtime : ⟨node.id, Builtin.packageName, .remote Builtin.runtimeUrl⟩ ∈ graph.resolutions)

/-- What a module of a collected graph imports has the target that is resolved. -/
theorem resolution_of_collect {node : GraphModule} {imports : List Text} {specifier : Text}
    {found : Module.Target}
    (collected : outcome (Graph.collect services.limit (hooks services request files target)
      Page.entryFile) start = (.ok graph, after))
    (member : node ∈ graph.modules) (scanned : Script.imports node.code = .ok imports)
    (imported : specifier ∈ imports)
    (resolved : (hooks services request files target).resolve specifier (some node.id) =
      .ok found) : ⟨node.id, specifier, found⟩ ∈ graph.resolutions := by
  obtain ⟨_, _, _, walks⟩ := outcome_bind_eq_ok_iff.mp collected
  obtain ⟨walked, -⟩ := (Graph.Walked.start _ _).of_walk services.limit walks
  obtain rfl : imports = node.imports :=
    Except.ok.inj (scanned.symm.trans (walked.closed.scanned node member))
  have key : (node.id, specifier) ∈ graph.keys := by
    rw [walked.closed.imported, List.mem_flatMap]
    exact ⟨node, member, List.mem_map_of_mem imported⟩
  obtain ⟨resolution, known, same⟩ := List.mem_map.mp key
  obtain ⟨importer, rfl⟩ := Prod.mk.inj same
  have target := walked.resolved resolution known
  rw [importer, resolved] at target
  cases target
  rw [← importer]
  exact known

/-- The bundle of a page of one text that takes over is linked from its entry. -/
theorem linkedFromEntry_of_bundleOf {source bundle : Text}
    (made : outcome (bundleOf services request
      [(Page.appFile, .text source), (Page.entryFile, .text Page.hydrationEntry)] .hydration)
        start = (.ok bundle, after)) : LinkedFromEntry services request bundle after := by
  obtain ⟨graph, between, answer, collected, answered, code⟩ := linked_of_bundleOf made
  obtain ⟨entry, node, member, named, handsOn⟩ :=
    entry_of_collect Page.hydrationEntry rfl collected
  have scanned : Script.imports node.code = .ok [Page.appFile, Builtin.packageName] :=
    handsOn ▸ Page.imports_hydrationEntry
  let files : Page.Files :=
    [(Page.appFile, .text source), (Page.entryFile, .text Page.hydrationEntry)]
  let resolver : Resolver := { hasFile := fun name => (files.find? name).isSome, server := false }
  have page : resolver.resolve Page.appFile (some node.id) = .ok (.file Page.appFile) := by
    have environment : (Page.appFile == Builtin.environmentName) = false := by decide +kernel
    have binding : (Binding.ofName? Page.appFile).isSome = false := by decide +kernel
    have file : resolver.hasFile Page.appFile = true := rfl
    simp [Resolver.resolve, environment, binding, file]
  have runtime : resolver.resolve Builtin.packageName (some node.id) =
      .ok (.remote Builtin.runtimeUrl) := resolver.resolve_runtime false (some node.id) rfl
  exact .linked collected answered code member (named.trans entry.symm) handsOn
    (resolution_of_collect collected member scanned (by simp)
      (congrArg (Except.mapError Failure.badUrl) page))
    (resolution_of_collect collected member scanned (by simp)
      (congrArg (Except.mapError Failure.badUrl) runtime))

end Build

/-! ## Builds of published pages -/

namespace Publish

open Build

variable {limit : Nat} {tools : Tools (StateM σ)}

/-- The bundle for the browser of a page that is built: a page with script code has the one that is
linked from its entry, and any other page has none. -/
theorem bundle_of_build {services : Build.Services (StateM σ)} (documented : services.Documented)
    {source : Text} {bindings : Bindings} {before after : σ} {result : Result}
    (built : (build services (pageRequest source bindings) before : Id _) = (.ok result, after))
    (done : result.error = []) :
    if isInteractive source then
      LinkedFromEntry services (pageRequest source bindings) result.dom after
    else result.dom = [] := by
  rcases build_outcome documented (isPlain_pageRequest source bindings) built with
    ⟨_, message, _, told, made⟩ | ⟨code, all, made⟩ | ⟨_, cause, _, _, made⟩
  · cases made
    exact absurd done told
  · cases made
    cases all with
    | made flattened assembled bundled =>
      cases flattened
      cases interactive : isInteractive source with
      | false => simp [interactive]
      | true =>
        simp only [pageRequest_options, interactive, ↓reduceIte, Page.localFiles_hydrate]
          at assembled
        cases assembled
        simp only [pageRequest_options, interactive, Options.plan, ↓reduceIte] at bundled
        cases bundled with
        | cons _ behind =>
          cases behind with
          | cons here nothing =>
            cases nothing
            simpa [interactive] using linkedFromEntry_of_bundleOf here
  · cases made

end Publish

/-! ## Documents -/

namespace Site

/-- A text is read back from the literal that stands for it. -/
theorem read_literal_str (text : Text) :
    Json.read (Script.literal (.str text)) = .ok (.str text) := by
  rw [Script.literal, Script.escapeEndTags_eq]
  exact Json.read_write Json.shields_shielded (.str (absurd · Bool.false_ne_true))
    (List.forall_mem_nil _)

/-- The element that holds a rendered page. -/
def appElement (body : Text) : Text := "<div id=\"app\">" ++ body ++ "</div>"

/-- A document behind its rendered head: the import map, the rendered page and the script. -/
def behindHead (imports body script : Text) : Text :=
  "\n    " ++ imports ++ "\n</head>\n<body>\n    " ++ appElement body ++ script ++
    "\n</body>\n</html>"

/-- A document is its rendered head and what stands behind it. -/
theorem exists_documentText (parts : DocumentParts) :
    ∃ front, documentText parts =
      front ++ parts.head ++ behindHead parts.imports parts.body parts.script := by
  refine ⟨Text.unlines (linesBeforeStyle parts.title parts.fonts) ++ "\n    " ++ "<style>" ++
    parts.style ++ "</style>\n    ", ?_⟩
  rw [documentText_eq]
  simp only [linesBehindStyle, behindHead, appElement, Text.unlines, Text.join,
    List.intercalate, List.intersperse, List.flatten_cons, List.flatten_nil, List.append_assoc]
  rfl

/-- Whether a text of a site belongs into an address of its document and has no bytes: the name of
a web font or, if the page is to take over in the browser, a text of its bindings. -/
def LacksAddress (config : Config) (takesOver : Prop) : Prop :=
  (∃ run, fontLinks config.design = .error run) ∨
    takesOver ∧ ∃ run, importMap config = .error (.unencodable run)

/-- What a page needs to take over in the browser with a bundle: the import map of its site, and a
script with a literal that stands for the bundle. -/
structure Starts (config : Config) (bundle imports script : Text) : Prop where
  imports : ∃ addresses, importMap config = .ok addresses ∧ imports = importMapElement addresses
  script : ∃ literal, script = scriptStart ++ (beforeCode ++ literal ++ behindCode) ++ scriptEnd ∧
    Json.read literal = .ok (.str bundle)

/-- What comes of a rendered page with a bundle, which takes over in the browser or not. -/
inductive Publication (config : Config) (takesOver : Prop) (head body bundle : Text) :
    Except Failure Text → Prop
  /-- A text has no address. -/
  | unaddressed {run : Text.Unencodable} (lacks : LacksAddress config takesOver) :
    Publication config takesOver head body bundle (.error (.unencodable run))
  /-- There is a document, with an import map and a script if the page takes over. -/
  | document {front imports script : Text} (addressed : ¬LacksAddress config takesOver)
    (imported : imports ≠ [] ↔ takesOver) (started : script ≠ [] ↔ takesOver)
    (starts : takesOver → Starts config bundle imports script) :
    Publication config takesOver head body bundle
      (.ok (front ++ head ++ behindHead imports body script))

variable {config : Config}

/-- The import map of a document, if the page has a bundle. -/
def importsFor (config : Config) (bundle : Text) : Except Failure Text :=
  if bundle.isEmpty then .ok [] else (importMap config).map importMapElement

/-- The script of a document, if the page has a bundle. -/
def scriptFor (bundle : Text) : Text :=
  if bundle.isEmpty then [] else hydrationScript (.str bundle)

/-- A document is made of its import map and of its fonts. -/
theorem renderDocument_of_named {name : Text} (named : config.name = .text name)
    (head body bundle : Text) :
    renderDocument (.text body) config (.text head) (.text bundle) =
      (importsFor config bundle >>= fun imports =>
        ((fontLinks config.design).mapError .unencodable).map fun fonts =>
          documentText {
            title := escapeMarkup name, fonts, style := designCss config.design, head, imports
            body, script := scriptFor bundle }) := by
  unfold renderDocument importsFor
  rw [named]
  cases bundle with
  | nil => cases fontLinks config.design <;> rfl
  | cons point rest => cases importMap config <;> cases fontLinks config.design <;> rfl

/-- The import map of a document is there exactly if the page has a bundle. -/
theorem exists_importsFor (plain : config.IsPlain) {bundle : Text}
    (addressed : ¬LacksAddress config (bundle ≠ [])) : ∃ imports,
      importsFor config bundle = .ok imports ∧ (imports ≠ [] ↔ bundle ≠ []) ∧
      (bundle ≠ [] → Starts config bundle imports (scriptFor bundle)) := by
  cases bundle with
  | nil => exact ⟨[], rfl, by simp, by simp⟩
  | cons point rest =>
    cases made : importMap config with
    | error failure =>
      obtain ⟨run, rfl⟩ := importMap_eq_error plain made
      exact absurd (.inr ⟨List.cons_ne_nil _ _, run, made⟩) addressed
    | ok addresses =>
      have shown : importMapElement addresses ≠ [] := nofun
      refine ⟨importMapElement addresses, by rw [importsFor, made]; rfl, by simp [shown],
        fun _ => ⟨⟨_, made, rfl⟩, _, ?_, read_literal_str _⟩⟩
      exact hydrationScript_eq _

/-- A rendered page is published if no text lacks an address. -/
theorem publication_of_renderDocument (plain : config.IsPlain) (head body bundle : Text) :
    Publication config (bundle ≠ []) head body bundle
      (renderDocument (.text body) config (.text head) (.text bundle)) := by
  obtain ⟨name, named⟩ := plain.name
  by_cases addressed : LacksAddress config (bundle ≠ [])
  · cases made : renderDocument (.text body) config (.text head) (.text bundle) with
    | error failure =>
      obtain ⟨run, rfl, -⟩ := renderDocument_eq_error plain made
      exact .unaddressed addressed
    | ok document =>
      rw [renderDocument_of_named named] at made
      obtain ⟨imports, mapped, made⟩ := bind_eq_ok_iff.mp made
      rcases addressed with ⟨run, unlinked⟩ | ⟨some, run, unmapped⟩
      · rw [unlinked] at made
        cases made
      · rw [importsFor, unmapped, if_neg (by simpa using some)] at mapped
        cases mapped
  · obtain ⟨imports, mapped, imported, starts⟩ := exists_importsFor plain addressed
    obtain ⟨fonts, linked⟩ : ∃ fonts, fontLinks config.design = .ok fonts := by
      cases links : fontLinks config.design with
      | error run => exact absurd (.inl ⟨run, links⟩) addressed
      | ok fonts => exact ⟨fonts, rfl⟩
    have started : scriptFor bundle ≠ [] ↔ bundle ≠ [] := by
      have start : scriptStart ≠ [] := by decide
      cases bundle with
      | nil => simp [scriptFor]
      | cons point rest => simp [scriptFor, hydrationScript_eq, start]
    obtain ⟨front, whole⟩ := exists_documentText {
      title := escapeMarkup name, fonts, style := designCss config.design, head, imports, body
      script := scriptFor bundle }
    rw [renderDocument_of_named named, mapped, linked]
    change Publication _ _ _ _ _ (.ok (documentText _))
    rw [whole]
    exact .document addressed imported started starts

end Site

namespace Publish

open Build

variable {limit : Nat} {tools : Tools (StateM σ)} {config : Site.Config}

/-- Whether nothing can be shown of a page that comes so far: it is not built, not rendered, or
rendered to nothing. -/
def Stage.IsFailure : Stage → Prop
  | .rendered _ body => body = []
  | _ => True

/-- A failed render has a message. -/
theorem ne_nil_of_renderedOfAnswer {answer : Except Failure Json} {message : Text}
    (failed : renderedOfAnswer answer = .error (.render message)) : message ≠ [] := by
  unfold renderedOfAnswer at failed
  split at failed
  · cases failed
    exact nofun
  · simp only at failed
    split at failed
    · cases failed
    · cases failed
      exact nofun
  · cases failed

/-- Where nothing can be shown of a page, the author is told. -/
theorem documentOf_of_isFailure {request : Request} {result : Result} {built after : Session × σ}
    {stage : Stage} (comes : Comes tools request result built stage after)
    (fails : stage.IsFailure) (bundle : Text) :
    ∃ error, documentOf config (stage.payload bundle) = .error (.build error) := by
  cases comes with
  | unbuilt told => exact ⟨_, if_pos (by simpa [Stage.payload] using told)⟩
  | unrendered _ _ failed =>
    have told := ne_nil_of_renderedOfAnswer failed
    exact ⟨_, if_pos (by simpa [Stage.payload] using told)⟩
  | rendered =>
    cases fails
    exact ⟨_, rfl⟩

/-- A rendered page is put into a document. -/
theorem documentOf_rendered (config : Site.Config) {head body bundle : Text} (some : body ≠ []) :
    documentOf config (Stage.payload bundle (.rendered head body)) =
      Site.renderDocument (.text body) config (.text head) (.text bundle) := by
  cases body with
  | nil => exact absurd rfl some
  | cons point rest => rfl

/-- Whether a page takes over in the browser: its text has script code, and there is a bundle. -/
def TakesOver (source : Text) (result : Result) : Prop :=
  isInteractive source = true ∧ result.dom ≠ []

/-- What is published of a page that came to some stage. -/
theorem documentOf_outcome (plain : config.IsPlain) {request : Request} {result : Result}
    {built after : Session × σ} {stage : Stage}
    (comes : Comes tools request result built stage after) (bundle : Text) :
    documentOf config (stage.payload bundle) ≠ .ok [] ∧
    ((∃ error, documentOf config (stage.payload bundle) = .error (.build error)) ↔
      stage.IsFailure) ∧
    ∀ head body, stage = .rendered head body → body ≠ [] →
      Site.Publication config (bundle ≠ []) head body bundle
        (documentOf config (stage.payload bundle)) := by
  by_cases fails : stage.IsFailure
  · obtain ⟨error, told⟩ := @documentOf_of_isFailure _ _ config _ _ _ _ _ comes fails bundle
    rw [told]
    refine ⟨nofun, by simp [fails], ?_⟩
    rintro head body rfl some
    exact absurd fails some
  · cases stage with
    | unbuilt => exact absurd trivial fails
    | unrendered => exact absurd trivial fails
    | rendered head body =>
      rw [documentOf_rendered config fails]
      have publication := Site.publication_of_renderDocument plain head body bundle
      generalize Site.renderDocument (.text body) config (.text head) (.text bundle) = answer
        at publication ⊢
      refine ⟨?_, ?_, ?_⟩
      · cases publication with
        | unaddressed lacks => nofun
        | document => simp [Site.behindHead, Site.appElement, Text.ofString, Text.ofChars]
      · refine ⟨?_, fun empty => absurd empty fails⟩
        rintro ⟨error, rfl⟩
        cases publication
      · rintro _ _ ⟨⟩ _
        exact publication

/-- **Published pages.** With documented tools a page comes to an empty text exactly if it is one.
Otherwise, unless its build points at a column that is too far to the right: it ends in a build
error exactly if it is not built, not rendered, or rendered to nothing. Else its document is
refused exactly if a text has no address, and it holds the rendered page in its app element. It
has the import map and the script exactly if the page takes over, and the bundle of a page with
script code is linked from an entry that hands on the page and what takes over. -/
theorem publish_outcome (limit : Nat) (documented : tools.Documented) (renders : tools.Renders)
    (plain : config.IsPlain) (source : Text) (before : Session × σ) :
    ∃ answer after,
      (inSession.carry (publish (Services.ofTools limit tools) source config) before : Id _) =
        (answer, after) ∧
      (answer = .ok [] ↔ source = []) ∧
      (source ≠ [] → ∃ bindings, config.bindings = .ok bindings ∧
        ((∃ column cause,
          (build (tools.services limit) (pageRequest source bindings) before : Id _) =
            (.error (.misuse cause), after) ∧
          FirstFailure (tools.services limit) (pageRequest source bindings) before column
            (.error cause) after ∧ TooFarRight column cause) ∨
        ∃ result built stage,
          (build (tools.services limit) (pageRequest source bindings) before : Id _) =
            (.ok result, built) ∧
          Comes tools (pageRequest source bindings) result built stage after ∧
          ((∃ error, answer = .error (.build error)) ↔ stage.IsFailure) ∧
          ∀ head body, stage = .rendered head body → body ≠ [] →
            (isInteractive source = true →
              LinkedFromEntry (tools.services limit) (pageRequest source bindings) result.dom
                built) ∧
            Site.Publication config (TakesOver source result) head body result.dom answer)) := by
  obtain ⟨bindings, known⟩ := Site.exists_bindings plain
  by_cases empty : source = []
  · subst empty
    exact ⟨.ok [], before, rfl, by simp, fun some => absurd rfl some⟩
  rcases processed : (inSession.carry (processPage (Services.ofTools limit tools)
    (.single (.text source)) (pageWishes source bindings)) before : Id _) with ⟨payload, after⟩
  refine ⟨_, after, carry_publish empty known processed, ?_⟩
  rcases processPage_outcome documented renders processed with
    ⟨result, built, stage, done, comes, rfl⟩ | ⟨column, cause, built, first, far, rfl⟩
  · obtain ⟨shown, told, published⟩ := documentOf_outcome plain comes result.dom
    refine ⟨⟨fun nothing => absurd nothing shown, fun nothing => absurd nothing empty⟩,
      fun _ => ⟨bindings, known, .inr ⟨result, built, stage, done, comes, told, ?_⟩⟩⟩
    rintro head body rfl some
    have noError : result.error = [] := by cases comes; assumption
    have bundle := bundle_of_build (documented_ofTools documented limit) done noError
    cases interactive : isInteractive source with
    | false =>
      have none : result.dom = [] := by simpa [interactive] using bundle
      have starts : TakesOver source result = (result.dom ≠ []) := by simp [TakesOver, none]
      exact ⟨nofun, starts ▸ published head body rfl some⟩
    | true =>
      have starts : TakesOver source result = (result.dom ≠ []) := by
        simp [TakesOver, interactive]
      exact ⟨fun _ => by simpa [interactive] using bundle, starts ▸ published head body rfl some⟩
  · exact ⟨by simp [empty, bind, Except.bind],
      fun _ => ⟨bindings, known, .inl ⟨column, cause, built, first, far⟩⟩⟩

/-- Tools that answer every call with the same bundle and the same page, and a network with a module
at every address. -/
def mirror : Tools (StateM Unit) where
  run _ := fun _ =>
    (.ok (.obj [("code", .str "export default '</p>';"), ("body", .str "<p>Hi</p>")]), ())
  request _ := fun _ => (.ok { status := 200, text := "export default 1;" }, ())

theorem documented_mirror : mirror.Documented where
  raise call before failure after raised := by cases raised
  report call before fields after report answered reported := by
    cases answered
    cases reported
  request url before failure after raised := by cases raised

theorem renders_mirror : mirror.Renders where
  answer code props before answer after answered := by
    cases answered
    exact ⟨_, rfl, .inl rfl, .inr ⟨_, rfl⟩⟩

/-- What these tools build is rendered. -/
theorem rendered_of_mirror {request : Request} {result : Result} {built after : Session × Unit}
    {stage : Stage} (comes : Comes mirror request result built stage after)
    (noError : result.error = []) : stage = .rendered [] "<p>Hi</p>" := by
  cases comes with
  | unbuilt failed => exact absurd noError failed
  | unrendered _ answered failed =>
    cases answered
    cases failed
  | rendered _ answered shown =>
    cases answered
    cases shown
    rfl

/-- A page with a script takes over in the browser with the bundle that was linked. -/
theorem publish_outcome_script :
    let source : Text := "<script>let n = 1;</script><p>Hi</p>"
    let config : Site.Config := { name := "A", content := [("title", .str "Home")] }
    mirror.Documented ∧ mirror.Renders ∧ config.IsPlain ∧
      ∃ front imports addresses script literal after,
        (inSession.carry (publish (Services.ofTools 9 mirror) source config) ({}, ()) : Id _) =
          (.ok (front ++ Site.behindHead imports "<p>Hi</p>" script), after) ∧
        Site.importMap config = .ok addresses ∧ imports = Site.importMapElement addresses ∧
        script = Site.scriptStart ++ (Site.beforeCode ++ literal ++ Site.behindCode) ++
          Site.scriptEnd ∧
        Json.read literal = .ok (.str "export default '</p>';") := by
  intro source config
  have plain : config.IsPlain := ⟨⟨_, rfl⟩, by simp [config], by simp [config]⟩
  refine ⟨documented_mirror, renders_mirror, plain, ?_⟩
  obtain ⟨answer, after, published, -, outcome⟩ :=
    publish_outcome 9 documented_mirror renders_mirror plain source ({}, ())
  obtain ⟨bindings, known, outcome⟩ := outcome (by decide)
  have linked : ((build (mirror.services 9) (pageRequest source bindings) ({}, ()) : Id _
      ).1.toOption.map fun result => (result.error, result.dom)) =
        some (([] : Text), ("export default '</p>';" : Text)) := by
    cases known
    decide +kernel
  rcases outcome with ⟨column, cause, built, -⟩ |
    ⟨result, built, stage, done, comes, told, shown⟩
  · rw [built] at linked
    cases linked
  · rw [done] at linked
    obtain ⟨noError, bundle⟩ := Prod.mk.inj (Option.some.inj linked)
    have rendered := rendered_of_mirror comes noError
    have takesOver : TakesOver source result := ⟨by decide, by rw [bundle]; nofun⟩
    obtain ⟨-, publication⟩ := shown _ _ rendered (by decide)
    have names : config.collections = ([] : List Text).map .str := rfl
    have mapped : ∃ addresses, Site.importMap config = .ok addresses :=
      (Site.exists_importMap_iff names known).mpr (by cases known; decide +kernel)
    cases publication with
    | unaddressed lacks =>
      rcases lacks with ⟨run, unlinked⟩ | ⟨-, run, unmapped⟩
      · cases unlinked
      · obtain ⟨addresses, mapped⟩ := mapped
        cases mapped.symm.trans unmapped
    | @document front imports script addressed imported started starts =>
      obtain ⟨⟨addresses, mapped, imports⟩, literal, script, read⟩ := starts takesOver
      rw [bundle] at read
      rw [List.append_nil] at published
      exact ⟨front, _, addresses, _, literal, after, published, mapped, imports, script, read⟩

/-- A page is built and rendered, and nothing is published: the name of its web font has a lone
surrogate. -/
theorem publish_font_without_bytes :
    let source : Text := "<p>Hi</p>"
    let config : Site.Config := {
      design := [{ value := [.scalar 'A', .surrogate 0x3d], type := "font" }] }
    mirror.Documented ∧ mirror.Renders ∧ config.IsPlain ∧
      ∃ bindings result built after run, config.bindings = .ok bindings ∧
        (build (mirror.services 9) (pageRequest source bindings) ({}, ()) : Id _) =
          (.ok result, built) ∧
        Comes mirror (pageRequest source bindings) result built (.rendered [] source) after ∧
        (inSession.carry (publish (Services.ofTools 9 mirror) source config) ({}, ()) : Id _) =
          (.error (.unencodable run), after) := by
  intro source config
  have plain : config.IsPlain := ⟨⟨_, rfl⟩, by simp [config, Textual.toJson, Json.asKey],
    by simp [config]⟩
  refine ⟨documented_mirror, renders_mirror, plain, ?_⟩
  obtain ⟨bindings, known⟩ := Site.exists_bindings plain
  have linked : ((build (mirror.services 9) (pageRequest source bindings) ({}, ()) : Id _
      ).1.toOption.map fun result => (result.error, result.dom)) = some ([], []) := by
    cases known
    decide +kernel
  rcases processed : (inSession.carry (processPage (Services.ofTools 9 mirror)
    (.single (.text source)) (pageWishes source bindings)) ({}, ()) : Id _) with ⟨payload, after⟩
  have published := carry_publish (by decide) known processed
  rcases processPage_outcome documented_mirror renders_mirror processed with
    ⟨result, built, stage, done, comes, rfl⟩ | ⟨column, cause, done, -⟩
  · rw [done] at linked
    obtain ⟨noError, bundle⟩ := Prod.mk.inj (Option.some.inj linked)
    obtain rfl := rendered_of_mirror comes noError
    have lacks : Site.LacksAddress config (result.dom ≠ []) := by
      have failed : (Site.fontLinks config.design).isOk = false := by decide +kernel
      cases links : Site.fontLinks config.design with
      | error run => exact .inl ⟨run, links⟩
      | ok fonts =>
        rw [links] at failed
        cases failed
    obtain ⟨-, -, publication⟩ := documentOf_outcome plain comes result.dom
    have publication := publication _ _ rfl (by decide)
    change _ = (documentOf config (Stage.payload result.dom (.rendered [] source)), after)
      at published
    generalize documentOf config (Stage.payload result.dom (.rendered [] source)) = answer
      at publication published
    cases publication with
    | unaddressed => exact ⟨bindings, result, built, after, _, known, done, comes, published⟩
    | document addressed => exact absurd lacks addressed
  · rw [done] at linked
    cases linked

end Publish
end SiteBuild
