import SiteBuild.Proofs.Resolution
import SiteBuild.Build.Run

/-!
# Loading what was resolved

The id of a target tells what kind of target it is (`ofModuleId_moduleId`), so the loader does with
the id what the resolver meant: generated modules and files are at hand, and what is on another
server is fetched (`honours_of_isProper`). Main statement: `loading_undoes_resolution`.
-/
namespace SiteBuild.Module

/-! ## What an id tells -/

namespace Target

/-- The target that an id of the graph stands for. -/
def ofModuleId (id : Text) : Target :=
  if id = Builtin.iconId then .file id
  else if Text.startsWith virtualMark id then .virtual (id.drop virtualMark.length)
  else if Url.isRemote id then .remote id
  else .file id

/-- What begins otherwise than the ids of generated modules is none of them. -/
theorem not_generated {id : Text} {point : CodePoint} (head : id.head? = some point)
    (apart : point ≠ 'v') : id ≠ Builtin.iconId ∧ Text.startsWith virtualMark id = false := by
  cases id with
  | nil => cases head
  | cons first rest =>
    cases head
    constructor
    · rintro same
      exact apart (List.head_eq_of_cons_eq same)
    · have mark : virtualMark = .scalar 'v' :: virtualMark.tail := rfl
      have other : (CodePoint.scalar 'v' == point) = false := by simpa using Ne.symm apart
      rw [mark, Text.startsWith, List.isPrefixOf, other, Bool.false_and]

/-- What is named relative to the page is no absolute address. -/
theorem not_remote {name : Text} (relative : name.head? = some (.scalar '.')) :
    Url.isRemote name = false := by
  cases absolute : Url.isRemote name with
  | false => rfl
  | true =>
    rw [Url.head?_of_isRemote absolute] at relative
    cases relative

/-- The names of generated modules for the browser are names of generated modules for the
server. -/
theorem mem_generatedNames_server {server : Bool} {name : Text}
    (known : name ∈ generatedNames server) : name ∈ generatedNames true := by
  cases server with
  | false => exact List.mem_singleton.mp known ▸ List.mem_cons_self
  | true => exact known

/-- The id of a target that keeps to its kind tells which it is. -/
theorem ofModuleId_moduleId {server : Bool} {target : Target} (proper : target.IsProper server)
    (inner : target.isExternal = false) : ofModuleId target.moduleId = target := by
  cases proper with
  | virtual known =>
    have known := mem_generatedNames_server known
    simp only [generatedNames, Binding.all, List.map_cons, List.map_nil, List.mem_cons,
      List.not_mem_nil, or_false, ↓reduceIte] at known
    rcases known with rfl | rfl | rfl | rfl | rfl | rfl | rfl <;> rfl
  | file relative =>
    obtain ⟨other, plain⟩ := not_generated relative (by decide)
    simp [ofModuleId, moduleId, value, other, plain, not_remote relative]
  | icon => rfl
  | remote absolute =>
    obtain ⟨other, plain⟩ := not_generated (Url.head?_of_isRemote absolute) (by decide)
    simp [ofModuleId, moduleId, value, other, plain, absolute]
  | external => cases inner

end Target

/-! ## What is loaded -/

namespace Loader

/-- What is made of a fetched text, in the course of a build. -/
def received {m : Type → Type} [Monad m] (url text : Text) : ExceptT Failure m (Option Textual) :=
  match fetchedModule url text with
  | .ok code => pure (some (.text code))
  | .error failure => throw failure

/-- The names of generated modules, and the texts that are generated for them: the environment of
the build, the stand-in for the runtime during a server render, and one module for each binding,
which holds the values of the page. -/
inductive Generates (loader : Loader) : Text → Text → Prop where
  /-- The flags that tell what the build is for. -/
  | environment :
    Generates loader "esm-env" (Builtin.environmentModule loader.server loader.dev)
  /-- The runtime with hooks that do nothing. -/
  | runtime : Generates loader "svelte-ssr-shim" (Builtin.serverRuntimeModule loader.runtimeUrl)
  /-- The fields of the content. -/
  | content : Generates loader "$content" (Bindings.valueModule loader.bindings.content)
  /-- The fields of the design. -/
  | design : Generates loader "$design" (Bindings.valueModule loader.bindings.design)
  /-- The records of the collections. -/
  | data : Generates loader "$data" (Bindings.serverDataModule loader.bindings.snapshot)
  /-- The addresses of the assets of the project. -/
  | site : Generates loader "$site" (Bindings.siteModule loader.bindings.projectId)
  /-- The functions of the host, which come to nothing. -/
  | backend : Generates loader "$backend" Bindings.serverBackendModule

/-- Whether loading does with the id of a target what the target says. -/
def Honours (loader : Loader) : Target → Prop
  | .virtual name => ∃ source, loader.Generates name source ∧
      ∀ (m : Type → Type) [Monad m] (fetch : Text → ExceptT Failure m Text),
        loader.load fetch (Target.virtual name).moduleId = pure (some (.text source))
  | .file name =>
      ∀ (m : Type → Type) [Monad m] (fetch : Text → ExceptT Failure m Text),
        loader.load fetch (Target.file name).moduleId =
          pure (if name = Builtin.iconId then some (.text Builtin.iconSource)
            else loader.files.find? name)
  | .remote url =>
      ∀ (m : Type → Type) [Monad m] (fetch : Text → ExceptT Failure m Text),
        loader.load fetch (Target.remote url).moduleId = fetch url >>= received url
  | .external _ => True

variable (loader : Loader)

/-- What is at hand is at hand without a question to the network. -/
theorem load_of_text {id : Text} {source : Textual} (known : loader.origin id = .text source)
    (m : Type → Type) [Monad m] (fetch : Text → ExceptT Failure m Text) :
    loader.load fetch id = pure (some source) := by
  rw [load, known]

/-- The loader has the text that is generated for a name. -/
theorem virtualSource?_of_generates {name source : Text} (made : loader.Generates name source) :
    loader.virtualSource? name = some source := by
  have binding (of : Binding) (other : of.name ≠ Builtin.environmentName)
      (plain : of.name ≠ Builtin.serverRuntimeName) :
      loader.virtualSource? of.name = some (loader.bindings.serverModule of) := by
    simp [virtualSource?, other, plain, Bindings.serverModule?, Binding.ofName?_name]
  cases made with
  | environment => rfl
  | runtime => rfl
  | content => exact binding .content (by decide) (by decide)
  | design => exact binding .design (by decide) (by decide)
  | data => exact binding .data (by decide) (by decide)
  | site => exact binding .site (by decide) (by decide)
  | backend => exact binding .backend (by decide) (by decide)

/-- A text is generated for every generated module that a build can come to need. -/
theorem exists_generates {server : Bool} {name : Text} (known : name ∈ generatedNames server) :
    ∃ source, loader.Generates name source := by
  have known := Target.mem_generatedNames_server known
  simp only [generatedNames, Binding.all, List.map_cons, List.map_nil, List.mem_cons,
    List.not_mem_nil, or_false, ↓reduceIte] at known
  rcases known with rfl | rfl | rfl | rfl | rfl | rfl | rfl
  · exact ⟨_, .environment⟩
  · exact ⟨_, .runtime⟩
  · exact ⟨_, .content⟩
  · exact ⟨_, .design⟩
  · exact ⟨_, .data⟩
  · exact ⟨_, .site⟩
  · exact ⟨_, .backend⟩

/-- No generated module has the id of the icon component. -/
theorem moduleId_ne_iconId {server : Bool} {name : Text} (known : name ∈ generatedNames server) :
    (Target.virtual name).moduleId ≠ Builtin.iconId := by
  have known := Target.mem_generatedNames_server known
  simp only [generatedNames, Binding.all, List.map_cons, List.map_nil, List.mem_cons,
    List.not_mem_nil, or_false, ↓reduceIte] at known
  rcases known with rfl | rfl | rfl | rfl | rfl | rfl | rfl <;> decide +kernel

/-- If files are named relative to the page, every target that keeps to its kind is loaded as what
it is. -/
theorem honours_of_isProper {server : Bool}
    (relative : ∀ name, (loader.files.find? name).isSome → name.head? = some (.scalar '.'))
    {target : Target} (proper : target.IsProper server) : loader.Honours target := by
  cases proper with
  | @virtual name known =>
    obtain ⟨source, made⟩ := loader.exists_generates known
    have text := loader.virtualSource?_of_generates made
    refine ⟨source, made, loader.load_of_text ?_⟩
    have generated : Text.startsWith Target.virtualMark (Target.virtual name).moduleId = true :=
      List.isPrefixOf_iff_prefix.mpr (List.prefix_append _ _)
    have behind : (Target.virtual name).moduleId.drop Target.virtualMark.length = name :=
      List.drop_left
    simp [origin, moduleId_ne_iconId known, generated, behind, text, atHand]
  | @file name head =>
    intro m _ fetch
    obtain ⟨other, plain⟩ := Target.not_generated head (by decide)
    cases found : loader.files.find? name <;>
      simp [load, origin, Target.moduleId, Target.value, other, plain, Target.not_remote head, found]
  | icon => exact fun m _ fetch => rfl
  | @remote url absolute =>
    intro m _ fetch
    have head := Url.head?_of_isRemote absolute
    obtain ⟨other, plain⟩ := Target.not_generated head (by decide)
    have fileless : loader.files.find? url = none := by
      by_contra found
      have dot := relative url (Option.isSome_iff_ne_none.mpr found)
      rw [head] at dot
      cases dot
    have fetched : loader.origin url = .fetched url := by
      simp [origin, other, plain, fileless, absolute]
    change loader.load fetch url = _
    rw [load, fetched]
    rfl
  | external => trivial

/-- The resolver of the build that a loader is for, with the usual servers. -/
def resolver : Resolver where
  hasFile name := (loader.files.find? name).isSome
  server := loader.server

/-- A build has such a loader, and resolves with the resolver of its loader. -/
theorem exists_of_hooks {m : Type → Type} [Monad m] (services : Build.Services m)
    (request : Build.Request) (files : Page.Files) (target : Build.Target) :
    ∃ loader : Loader, loader.files = files ∧ loader.bindings = request.bindings ∧
      (Build.hooks services request files target).load =
        loader.load (fun url => Build.step (services.fetch url)) ∧
      ∀ requested importer, (Build.hooks services request files target).resolve requested importer =
        (loader.resolver.resolve requested importer).mapError .badUrl :=
  ⟨{ files, bindings := request.bindings, server := target == .server
     dev := !request.options.devMode.isEmpty }, rfl, rfl, rfl, fun _ _ => rfl⟩

end Loader

/-- **Loading undoes resolution.** In the build of any page, whatever is requested and wherever: a
target that is a generated module is loaded as the text that is generated for its name, one that is
a file as the text of the file, as the icon component or as nothing, and neither asks the network; a
remote target is loaded as what the network answers for its address. And two targets that are
modules of the graph have different ids, unless they are the same. -/
theorem loading_undoes_resolution {sources : Page.Sources} {head : Page.Head}
    {runtimeExports : List Json} (loader : Loader)
    (made : Page.localFiles sources head runtimeExports = .ok loader.files) :
    (∀ requested importer target,
      loader.resolver.resolve requested importer = .ok target → loader.Honours target) ∧
    ∀ requested importer target requested' importer' target',
      loader.resolver.resolve requested importer = .ok target →
      loader.resolver.resolve requested' importer' = .ok target' →
      target.isExternal = false → target'.isExternal = false →
      target.moduleId = target'.moduleId → target = target' := by
  have relative (name : Text) (found : (loader.files.find? name).isSome) :
      name.head? = some (.scalar '.') := Page.head?_localFile made found
  have usual : loader.resolver.IsUsual := {
    cdnUrl_eq := rfl
    runtimeUrl_eq := rfl
    relative }
  refine ⟨fun requested importer target resolved => ?_, ?_⟩
  · exact loader.honours_of_isProper relative (usual.isProper_of_resolve resolved)
  · intro requested importer target requested' importer' target' first second inner inner' same
    calc target = Target.ofModuleId target.moduleId :=
          (Target.ofModuleId_moduleId (usual.isProper_of_resolve first) inner).symm
      _ = Target.ofModuleId target'.moduleId := by rw [same]
      _ = target' := Target.ofModuleId_moduleId (usual.isProper_of_resolve second) inner'

/-- The loader of a server render of one component with a title. -/
def greetingLoader : Loader where
  files := [(Page.appFile, "<p>Hello</p>"),
    (Page.entryFile, "export \x7b default \x7d from './App.svelte';\n")]
  bindings := { content := [(.text "title", .str "Home")] }
  server := true

/-- In that render data is fetched from the address that a relative path and its importer make up,
the environment and the content are at hand as they are for this render, and the same path written
out is the same module. -/
theorem loading_undoes_resolution_greeting :
    Page.localFiles (.single (.text "<p>Hello</p>")) {} [] = .ok greetingLoader.files ∧
      greetingLoader.Honours (.remote "https://esm.sh/data.json") ∧
      (∀ (m : Type → Type) [Monad m] (fetch : Text → ExceptT Failure m Text),
        greetingLoader.load fetch "virtual:esm-env" = pure (some (.text
          "export const DEV = false; export const PROD = true; export const BROWSER = false;")) ∧
        greetingLoader.load fetch "virtual:$content" =
          pure (some (.text "export default \x7b\x22title\x22: \x22Home\x22\x7d;"))) ∧
      ∀ target, greetingLoader.resolver.resolve "https://esm.sh/data.json" none = .ok target →
        target.isExternal = false → target.moduleId = "https://esm.sh/data.json" →
        target = .remote "https://esm.sh/data.json" := by
  have made : Page.localFiles (.single (.text "<p>Hello</p>")) {} [] = .ok greetingLoader.files :=
    rfl
  have joined : greetingLoader.resolver.resolve "../data.json" (some "https://esm.sh/lib/main.js") =
      .ok (.remote "https://esm.sh/data.json") := by
    rfl
  obtain ⟨honoured, apart⟩ := loading_undoes_resolution greetingLoader made
  -- The text that is generated for a name is told by evaluating the loader at this name.
  have generated (name : Text) {text : Text} (resolved : greetingLoader.resolver.resolve name
        (some "./App.svelte") = .ok (.virtual name))
      (same : greetingLoader.virtualSource? name = some text) (m : Type → Type) [Monad m]
      (fetch : Text → ExceptT Failure m Text) :
      greetingLoader.load fetch (Target.virtual name).moduleId = pure (some (.text text)) := by
    obtain ⟨source, known, loads⟩ := honoured _ _ _ resolved
    have text := greetingLoader.virtualSource?_of_generates known
    rw [loads, Option.some.inj (text.symm.trans same)]
  refine ⟨made, honoured _ _ _ joined, fun m _ fetch => ⟨?_, ?_⟩, ?_⟩
  · exact generated "esm-env" rfl (by decide +kernel) m fetch
  · exact generated "$content" rfl (by decide +kernel) m fetch
  · intro target resolved inner same
    exact apart _ _ _ _ _ _ resolved joined inner rfl same

end SiteBuild.Module
