import SiteBuild.Build.Run
import SiteBuild.Proofs.ClosedGraphs
import SiteBuild.Proofs.ImportMaps

/-!
# What is left to the browser

The resolver leaves nothing to the browser but the bindings, under the names by which they are
requested, and it does so for the browser only (`external_of_resolve`). It makes no other
difference between the targets than for the bindings and for the runtime
(`resolve_targets_differ_iff`). What is left to the browser is a key of every import map. Main
statement: `externals_are_imported`.
-/
namespace SiteBuild

/-- The names of bindings are those under which there is one. -/
theorem Binding.isSome_ofName?_iff {name : Text} :
    (Binding.ofName? name).isSome = true ↔ name ∈ Binding.all.map Binding.name := by
  simp [Binding.ofName?, List.find?_isSome]

namespace Module

namespace Resolver

/-- A package is never left to the browser. -/
theorem isExternal_packageTarget (resolver : Resolver) (requested : Text) :
    (resolver.packageTarget requested).isExternal = false := by
  unfold packageTarget runtimeTarget?
  simp only
  split_ifs <;> rfl

/-- Only for the browser, and only a binding under the name that is requested, is left to the
browser. -/
theorem external_of_resolve {resolver : Resolver} {requested : Text} {importer : Option Text}
    {target : Target} (resolved : resolver.resolve requested importer = .ok target)
    (outer : target.isExternal = true) :
    resolver.server = false ∧ target = .external requested ∧
      requested ∈ Binding.all.map Binding.name := by
  unfold resolve at resolved
  split at resolved
  · cases resolved
    cases outer
  split at resolved
  · rename_i binding
    cases resolved
    cases server : resolver.server with
    | true =>
      rw [server] at outer
      cases outer
    | false => exact ⟨rfl, rfl, Binding.isSome_ofName?_iff.mp binding⟩
  split at resolved
  · cases resolved
    cases outer
  split at resolved
  · cases resolved
    cases outer
  split at resolved
  · split at resolved
    · rename_i url _
      cases joined : Url.join url requested <;> rw [joined] at resolved <;> cases resolved
      cases outer
    · cases resolved
      cases outer
  split at resolved
  · rename_i url _ _
    cases origin : Url.origin url <;> rw [origin] at resolved <;> cases resolved
    cases outer
  · cases resolved
    rw [isExternal_packageTarget] at outer
    cases outer

/-- The resolver for the server and that for the browser. -/
def forServer (resolver : Resolver) (server : Bool) : Resolver := { resolver with server }

/-- A package but the runtime itself is the same for the server and for the browser. -/
theorem packageTarget_forServer (resolver : Resolver) {requested : Text}
    (other : requested ≠ Builtin.packageName) (server : Bool) :
    (resolver.forServer server).packageTarget requested = resolver.packageTarget requested := by
  simp [packageTarget, runtimeTarget?, forServer, other]

/-- The runtime is a generated module for the server and is fetched for the browser, if there is no
file of its name. -/
theorem resolve_runtime (resolver : Resolver) (server : Bool) (importer : Option Text)
    (noFile : resolver.hasFile Builtin.packageName = false) :
    (resolver.forServer server).resolve Builtin.packageName importer =
      .ok (if server then .virtual Builtin.serverRuntimeName else .remote resolver.runtimeUrl) := by
  have environment : (Builtin.packageName == Builtin.environmentName) = false := by decide +kernel
  have binding : (Binding.ofName? Builtin.packageName).isSome = false := by decide +kernel
  have remote : Url.isRemote Builtin.packageName = false := by decide +kernel
  have relative : Text.startsWith "." Builtin.packageName = false := by decide +kernel
  have rooted : Text.startsWith "/" Builtin.packageName = false := by decide +kernel
  cases server <;>
    simp [resolve, forServer, environment, binding, noFile, remote, relative, rooted,
      packageTarget, runtimeTarget?]

/-- **Where server and browser differ.** For the server and for the browser the same comes of a
request, target or error, unless it is for a binding, or for the runtime where no file has its
name. -/
theorem resolve_targets_differ_iff (resolver : Resolver) (requested : Text)
    (importer : Option Text) :
    (resolver.forServer true).resolve requested importer ≠
        (resolver.forServer false).resolve requested importer ↔
      requested ∈ Binding.all.map Binding.name ∨
        requested = Builtin.packageName ∧ resolver.hasFile Builtin.packageName = false := by
  have noEnvironment : Builtin.environmentName ∉ Binding.all.map Binding.name := by decide +kernel
  have otherName : Builtin.environmentName ≠ Builtin.packageName := by decide +kernel
  by_cases environment : requested = Builtin.environmentName
  · subst environment
    simp [resolve, noEnvironment, otherName]
  by_cases binding : requested ∈ Binding.all.map Binding.name
  · have known := Binding.isSome_ofName?_iff.mpr binding
    simp [resolve, forServer, environment, known, binding]
  have unknown : (Binding.ofName? requested).isSome = false := by
    simpa [← Binding.isSome_ofName?_iff] using binding
  by_cases runtime : requested = Builtin.packageName ∧
      resolver.hasFile Builtin.packageName = false
  · obtain ⟨rfl, noFile⟩ := runtime
    simp [resolve_runtime resolver _ importer noFile, noFile]
  · simp only [binding, runtime, or_self, iff_false, not_not]
    -- No rule before the last one looks at the side, and the last one only at the runtime.
    by_cases file : resolver.hasFile requested = true
    · simp [resolve, forServer, environment, unknown, file]
    · have other : requested ≠ Builtin.packageName := by
        rintro rfl
        exact runtime ⟨rfl, by simpa using file⟩
      simp only [resolve, packageTarget_forServer resolver other]
      simp only [forServer, unknown, Bool.false_eq_true, if_false]
      rfl

end Resolver
end Module

namespace Build

open SiteBuild.Module
open Steps (outcome outcome_bind_eq_ok_iff outcome_decided)

/-! ## What a collected graph leaves to the browser -/

/-- A name is left to the browser if one of the resolutions leaves it. -/
theorem mem_externals_iff {graph : Graph} {name : Text} :
    name ∈ graph.externals ↔ ∃ resolution ∈ graph.resolutions,
      resolution.target.isExternal = true ∧ resolution.target.value = name := by
  simp [Graph.externals, List.mem_eraseDups]

/-- A resolution of a build leaves nothing but the binding that is requested to the browser. -/
theorem external_of_hooks {m : Type → Type} [Monad m] {services : Services m} {request : Request}
    {files : Page.Files} {target : Target} {requested : Text} {importer : Option Text}
    {found : Module.Target}
    (resolved : (hooks services request files target).resolve requested importer = .ok found)
    (outer : found.isExternal = true) :
    target ≠ .server ∧ found = .external requested ∧
      requested ∈ Binding.all.map Binding.name := by
  let resolver : Resolver := {
    hasFile := fun name => (files.find? name).isSome
    server := target == .server }
  change (resolver.resolve requested importer).mapError Failure.badUrl = .ok found at resolved
  cases known : resolver.resolve requested importer with
  | error cause =>
    rw [known] at resolved
    cases resolved
  | ok same =>
    rw [known] at resolved
    cases resolved
    obtain ⟨client, whole, binding⟩ := Resolver.external_of_resolve known outer
    exact ⟨beq_eq_false_iff_ne.mp client, whole, binding⟩

/-- **Nothing is left unresolved in the browser.** Whatever files and bindings a build has and
whatever is fetched, a graph for the server leaves nothing to the browser, and every name that a
graph for the browser leaves to it is a key of the import map of every site that has one, and is
the specifier that a module of the graph imports, as it stands in its code. For any files and any
servers the targets for the server and for the browser differ for the bindings, and for the runtime
where no file has its name, and for nothing else. -/
theorem externals_are_imported :
    (∀ (σ : Type) (limit : Nat) (services : Services (StateM σ)) (request : Request)
        (files : Page.Files) (target : Target) (entry : Text) (before after : σ) (graph : Graph),
      outcome (Graph.collect limit (hooks services request files target) entry) before =
          (.ok graph, after) →
        (target = .server → graph.externals = []) ∧
        ∀ name ∈ graph.externals,
          (∀ config imports, Site.importMap config = .ok imports →
            name ∈ imports.map Prod.fst) ∧
          ∃ node ∈ graph.modules, Script.imports node.code = .ok node.imports ∧
            name ∈ node.imports ∧ ⟨node.id, name, .external name⟩ ∈ graph.resolutions) ∧
      ∀ (resolver : Resolver) (requested : Text) (importer : Option Text),
        (resolver.forServer true).resolve requested importer ≠
            (resolver.forServer false).resolve requested importer ↔
          requested ∈ Binding.all.map Binding.name ∨
            requested = Builtin.packageName ∧ resolver.hasFile Builtin.packageName = false := by
  refine ⟨?_, fun resolver => resolver.resolve_targets_differ_iff⟩
  intro σ limit services request files target entry before after graph collected
  obtain ⟨start, _, resolved, walks⟩ := outcome_bind_eq_ok_iff.mp collected
  obtain ⟨walked, -⟩ := (Graph.Walked.start _ start.moduleId).of_walk limit walks
  have outer {resolution : Resolution} (member : resolution ∈ graph.resolutions)
      (external : resolution.target.isExternal = true) :=
    external_of_hooks (walked.resolved resolution member) external
  constructor
  · intro server
    refine List.eq_nil_iff_forall_not_mem.mpr fun name left => ?_
    obtain ⟨resolution, member, external, -⟩ := mem_externals_iff.mp left
    exact (outer member external).1 server
  · intro name left
    obtain ⟨resolution, member, external, rfl⟩ := mem_externals_iff.mp left
    obtain ⟨-, whole, binding⟩ := outer member external
    have value : resolution.target.value = resolution.specifier := by
      rw [whole]
      rfl
    rw [value]
    refine ⟨fun config imports made => ?_, ?_⟩
    · rw [Site.keys_of_importMap made]
      exact List.mem_cons_of_mem _ (List.mem_cons_of_mem _ binding)
    · have key : (resolution.importer, resolution.specifier) ∈ graph.keys :=
        List.mem_map.mpr ⟨resolution, member, rfl⟩
      rw [walked.closed.imported, List.mem_flatMap] at key
      obtain ⟨node, listed, imported⟩ := key
      obtain ⟨specifier, known, same⟩ := List.mem_map.mp imported
      obtain ⟨importer, rfl⟩ := Prod.mk.inj same
      refine ⟨node, listed, walked.closed.scanned node listed, known, ?_⟩
      rw [importer, ← whole]
      exact member

/-- Services that compile every component to imports of the runtime, of values and of the host,
and have a module at every address. -/
def importingServices : Services (StateM Unit) where
  limit := 9
  flatten _ := pure (.ok "")
  fetch _ := pure (.ok "export default 1;")
  compile _ _ _ :=
    pure (.ok { code := .text "import '$content'; import 'svelte'; export * from '$site';" })
  link _ := pure (.ok .null)

/-- A page of one component that takes over in the browser. -/
def greetingPage : Request where
  sources := .single (.text "<p>Hello</p>")
  options := { hydrated := true }

/-- The site of the page. -/
def greetingSite : Site.Config where
  projectId := "p1"
  content := [("title", .str "Hello")]
  collections := [.str "posts"]

/-- A page that imports two bindings leaves them to the browser, which finds them in the import map
of the site. -/
theorem externals_are_imported_two_bindings :
    ∃ files graph after imports,
      Page.localFiles greetingPage.sources greetingPage.head
        greetingPage.options.runtimeExports = .ok files ∧
      outcome (Graph.collect 9 (hooks importingServices greetingPage files .hydration)
        Page.entryFile) () = (.ok graph, after) ∧
      Site.importMap greetingSite = .ok imports ∧
      graph.externals = ["$content", "$site"] ∧
      ∀ name ∈ graph.externals, name ∈ imports.map Prod.fst ∧
        ∃ node ∈ graph.modules, name ∈ node.imports ∧
          ⟨node.id, name, .external name⟩ ∈ graph.resolutions := by
  let files : Page.Files :=
    [(Page.appFile, "<p>Hello</p>"),
      (Page.entryFile, "export \x7b default \x7d from './App.svelte';\n")]
  have made : Page.localFiles greetingPage.sources greetingPage.head
      greetingPage.options.runtimeExports = .ok files := rfl
  have names : greetingSite.collections = (["posts"] : List Text).map .str := rfl
  obtain ⟨imports, mapped⟩ := (Site.exists_importMap_iff names rfl).mpr (by decide +kernel)
  have externals : (outcome (Graph.collect 9 (hooks importingServices greetingPage files .hydration)
      Page.entryFile) ()).1.toOption.map Graph.externals = some [("$content" : Text), "$site"] := by
    decide +kernel
  rcases collected : outcome (Graph.collect 9 (hooks importingServices greetingPage files .hydration)
    Page.entryFile) () with ⟨failure | graph, after⟩
  · rw [collected] at externals
    cases externals
  · rw [collected] at externals
    refine ⟨files, graph, after, imports, made, collected, mapped, Option.some.inj externals,
      fun name left => ?_⟩
    obtain ⟨-, imported⟩ := externals_are_imported.1 _ _ _ _ _ _ _ _ _ _ collected
    obtain ⟨keys, node, listed, -, known, resolved⟩ := imported name left
    exact ⟨keys _ imports mapped, node, listed, known, resolved⟩

end Build
end SiteBuild
