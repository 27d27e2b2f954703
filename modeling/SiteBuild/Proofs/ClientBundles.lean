import SiteBuild.Build.Run
import SiteBuild.Proofs.ClosedGraphs
import SiteBuild.Proofs.Resolution

/-!
# Bundles for the browser and the bindings

A bundle for the browser is made without the values of the page. The loader reads bindings for
generated modules only, and the resolver for the browser leads to no generated module but the
environment, whatever a specifier says: names of bindings are left to the browser, and what is no
file becomes an address. So an id is public if it names no generated module but the environment
and the icon component, what is public loads the same with all bindings (`origin_of_public`), and
every target of the resolver is public (`isPublic_of_resolve`). Main statement: two bundles for the
browser that differ in the bindings alone are the same steps (`bundleOf_bindings`), with the same
questions to the tools and to the network (`client_bundle_conceals_bindings`).
-/
namespace SiteBuild

namespace Module

/-- Whether the id of a module names no generated module but those that do not show bindings. -/
def IsPublic (id : Text) : Prop :=
  Text.startsWith Target.virtualMark id = true →
    id = Builtin.iconId ∨ id = (Target.virtual Builtin.environmentName).moduleId

/-- An id that starts otherwise than the ids of generated modules is public. -/
theorem isPublic_of_head {id : Text} (point : CodePoint) (head : id.head? = some point)
    (apart : point ≠ 'v') : IsPublic id := by
  intro generated
  obtain ⟨rest, rfl⟩ := List.isPrefixOf_iff_prefix.mp generated
  have first : (Target.virtualMark ++ rest).head? = some (.scalar 'v') := rfl
  rw [first] at head
  exact absurd (Option.some.inj head).symm apart

/-- What is public loads the same whatever the bindings are. -/
theorem origin_of_public {id : Text} (known : IsPublic id) (loader : Loader) (bindings : Bindings) :
    { loader with bindings }.origin id = loader.origin id := by
  unfold Loader.origin
  by_cases icon : id = Builtin.iconId
  · simp [icon]
  · by_cases generated : Text.startsWith Target.virtualMark id = true
    · obtain environment := (known generated).resolve_left icon
      subst environment
      simp [Target.moduleId, Loader.virtualSource?]
    · simp [icon, generated]

/-- Whether a resolver is one for the browser with the usual servers, whose files are named
relative to the page. -/
structure Resolver.ForBrowser (resolver : Resolver) : Prop where
  server_eq : resolver.server = false
  cdnUrl_eq : resolver.cdnUrl = Builtin.cdnUrl
  runtimeUrl_eq : resolver.runtimeUrl = Builtin.runtimeUrl
  relative : ∀ name, resolver.hasFile name = true → name.head? = some (.scalar '.')

namespace Resolver.ForBrowser

variable {resolver : Resolver}

/-- A resolver for the browser is one with the usual servers. -/
theorem isUsual (browser : resolver.ForBrowser) : resolver.IsUsual where
  cdnUrl_eq := browser.cdnUrl_eq
  runtimeUrl_eq := browser.runtimeUrl_eq
  relative := browser.relative

/-- For the browser every target that is not external is public, whatever is requested and
wherever. -/
theorem isPublic_of_resolve (browser : resolver.ForBrowser) {requested : Text}
    {importer : Option Text} {target : Target}
    (resolved : resolver.resolve requested importer = .ok target)
    (inner : target.isExternal = false) : IsPublic target.moduleId := by
  cases browser.server_eq ▸ browser.isUsual.isProper_of_resolve resolved with
  | virtual known => exact fun _ => .inr (by rw [List.mem_singleton.mp known])
  | file relative => exact isPublic_of_head '.' relative (by decide)
  | icon => exact fun _ => .inl rfl
  | remote absolute => exact isPublic_of_head 'h' (Url.head?_of_isRemote absolute) (by decide)
  | external => cases inner

end Resolver.ForBrowser

/-- The entry module is a file, whatever files there are. -/
theorem Resolver.resolve_entryFile (resolver : Resolver) :
    resolver.resolve Page.entryFile none = .ok (.file Page.entryFile) := by
  have environment : (Page.entryFile == Builtin.environmentName) = false := by decide +kernel
  have binding : (Binding.ofName? Page.entryFile).isSome = false := by decide +kernel
  have remote : Url.isRemote Page.entryFile = false := by decide +kernel
  have relative : Text.startsWith "." Page.entryFile = true := by decide +kernel
  simp [resolve, remoteImporter?, environment, binding, remote, relative]

/-! ## Walks that do not show a difference -/

namespace Graph

variable {m : Type → Type} [Monad m] [LawfulMonad m]

/-- What is decided to fail is not gone on with. -/
theorem decided_error_bind {α β : Type} (failure : Failure) (next : α → ExceptT Failure m β) :
    decided (.error failure) >>= next = throw failure :=
  pure_bind (m := m) (Except.error failure) (ExceptT.bindCont next)

/-- What is decided is gone on with. -/
theorem decided_ok_bind {α β : Type} (value : α) (next : α → ExceptT Failure m β) :
    decided (.ok value) >>= next = next value :=
  pure_bind (m := m) (Except.ok value) (ExceptT.bindCont next)

/-- Hooks that agree on modules of one sort, where every target that is not external is of that
sort, walk the same way from modules of that sort. -/
theorem walk_congr {first second : Hooks m} (sort : Text → Prop)
    (resolve : first.resolve = second.resolve) (transform : first.transform = second.transform)
    (load : ∀ id, sort id → first.load id = second.load id)
    (stays : ∀ requested importer target, first.resolve requested importer = .ok target →
      target.isExternal = false → sort target.moduleId)
    (limit : Nat) (graph : Graph) (pending : List (Text × Option Text))
    (known : ∀ next ∈ pending, sort next.1) :
    walk first limit graph pending = walk second limit graph pending := by
  -- All that is pending is of the sort: the first module of it is, and so are its targets.
  induction limit generalizing graph pending with
  | zero =>
    rw [walk.eq_def, walk.eq_def]
    cases pending.dropWhile fun next => graph.contains next.1 <;> rfl
  | succ limit tail =>
    have left := List.dropWhile_sublist (fun next => graph.contains next.1) (l := pending)
    rw [walk.eq_def, walk.eq_def]
    cases unvisited : pending.dropWhile fun next => graph.contains next.1 with
    | nil => rfl
    | cons next rest =>
      rw [unvisited] at left
      obtain ⟨id, importer⟩ := next
      have visits : visit first id importer = visit second id importer := by
        unfold visit
        rw [load id (known _ (left.subset List.mem_cons_self)), transform]
      have targets (node : GraphModule) :
          resolveImports first node = resolveImports second node := by
        unfold resolveImports
        rw [resolve]
      simp only [visits, targets]
      refine congrArg (visit second id importer >>= ·) (funext fun node => ?_)
      cases resolved : resolveImports second node with
      | error failure => rw [decided_error_bind, decided_error_bind]
      | ok resolutions =>
        rw [decided_ok_bind, decided_ok_bind]
        apply tail
        intro next member
        rcases List.mem_append.mp member with wanted | behind
        · obtain ⟨resolution, new, inner, _, same⟩ :=
            mem_pendingOf.mp (List.mem_map_of_mem wanted)
          have target := ((resolveImports_eq_ok resolved).2 resolution new).2
          exact same ▸ stays _ _ _ (resolve ▸ target) inner
        · exact known next (left.subset (List.mem_cons_of_mem _ behind))

end Graph
end Module

/-! ## Bundles for the browser -/

namespace Build

open SiteBuild.Module

section

variable {m : Type → Type} [Monad m] (services : Services m) {request : Request}
  {sources : Page.Sources} {files : Page.Files} {target : Target}

/-- Every module of a bundle for the browser is public. -/
theorem isPublic_of_hooks (client : target ≠ .server)
    (made : Page.localFiles sources request.head request.options.runtimeExports = .ok files)
    {requested : Text} {importer : Option Text} {found : Module.Target}
    (resolved : (hooks services request files target).resolve requested importer = .ok found)
    (inner : found.isExternal = false) : IsPublic found.moduleId := by
  let resolver : Resolver := {
    hasFile := fun name => (files.find? name).isSome
    server := target == .server }
  have browser : resolver.ForBrowser := {
    server_eq := beq_eq_false_iff_ne.mpr client
    cdnUrl_eq := rfl
    runtimeUrl_eq := rfl
    relative := fun name found => Page.head?_localFile made found }
  change (resolver.resolve requested importer).mapError Failure.badUrl = .ok found at resolved
  cases target : resolver.resolve requested importer with
  | error cause =>
    rw [target] at resolved
    cases resolved
  | ok known =>
    rw [target] at resolved
    cases resolved
    exact browser.isPublic_of_resolve target inner

variable [LawfulMonad m]

/-- The graphs of two requests that differ in the bindings alone are the same for the browser,
made with the same steps: there is no module with bindings among those the entry leads to. -/
theorem collect_bindings (client : target ≠ .server)
    (made : Page.localFiles sources request.head request.options.runtimeExports = .ok files)
    (bindings others : Bindings) :
    Graph.collect services.limit
        (hooks services { request with bindings := bindings } files target) Page.entryFile =
      Graph.collect services.limit
        (hooks services { request with bindings := others } files target) Page.entryFile := by
  have entry (values : Bindings) :
      (hooks services { request with bindings := values } files target).resolve
        Page.entryFile none = .ok (.file Page.entryFile) := by
    simp only [hooks, Resolver.resolve_entryFile]
    rfl
  unfold Graph.collect
  rw [entry, entry, Graph.decided_ok_bind, Graph.decided_ok_bind]
  apply Graph.walk_congr IsPublic
  · rfl
  · rfl
  · intro id known
    simp only [hooks, Loader.load]
    rw [← origin_of_public known _ others]
  · intro requested importer found resolved inner
    exact isPublic_of_hooks services client made resolved inner
  · intro next only
    cases List.mem_singleton.mp only
    exact isPublic_of_head '.' rfl (by decide)

/-- Two requests that differ in the bindings alone have the same bundle for the browser, made with
the same steps. -/
theorem bundleOf_bindings (client : target ≠ .server)
    (made : Page.localFiles sources request.head request.options.runtimeExports = .ok files)
    (bindings others : Bindings) :
    bundleOf services { request with bindings := bindings } files target =
      bundleOf services { request with bindings := others } files target := by
  unfold bundleOf Module.bundle
  rw [collect_bindings services client made bindings others]

end

/-! ## What is asked in between -/

/-- What a build asks of the tools and of the network. -/
inductive Inquiry where
  /-- A tool is asked for something. -/
  | tool (call : ToolCall)
  /-- The network is asked for the text of an address. -/
  | address (url : Text)
  deriving Repr

/-- Tools that write down what they are asked. -/
def Tools.recorded (tools : Tools Id) : Tools (StateM (List Inquiry)) where
  run call := fun log => ((tools.run call : Id _), log ++ [.tool call])
  request url := fun log => ((tools.request url : Id _), log ++ [.address url])

/-- What comes of a bundle in a session, the session that it leaves, and all that was asked. -/
def bundleRecorded (limit : Nat) (tools : Tools Id) (session : Session) (request : Request)
    (files : Page.Files) (target : Target) : (Except Failure Text × Session) × List Inquiry :=
  let services := Services.ofTools limit tools.recorded
  (((bundleOf services request files target).run.run session).run [] : Id _)

/-- **A bundle for the browser does not show the bindings.** Whatever the page and its modules are
made of and whatever the session holds, two requests that differ in the bindings alone have the
same bundle or the same failure, leave the same session, and ask the tools and the network the
same in the same order. -/
theorem client_bundle_conceals_bindings (limit : Nat) (tools : Tools Id) (session : Session)
    (request : Request) (sources : Page.Sources) (files : Page.Files) (target : Target)
    (client : target ≠ .server)
    (made : Page.localFiles sources request.head request.options.runtimeExports = .ok files)
    (bindings others : Bindings) :
    bundleRecorded limit tools session { request with bindings := bindings } files target =
      bundleRecorded limit tools session { request with bindings := others } files target := by
  unfold bundleRecorded
  simp only [bundleOf_bindings _ client made bindings others]

/-- Tools that compile every component to imports of the content, under its name and under its id,
and a network that has a module at every address. -/
def curious : Tools Id where
  run
    | .link _ => .ok (.obj [("code", .str "bundle")])
    | _ => .ok (.obj [("code", .str "import '$content'; import 'virtual:$content';")])
  request _ := .ok { status := 200, text := "export default 1;" }

/-- The files of a page with one component. -/
def greetingFiles : Page.Files :=
  [(Page.appFile, "<p>Hello</p>"),
    (Page.entryFile, "export \x7b default \x7d from './App.svelte';\n")]

/-- A page that asks for the content: a component is compiled, a module fetched and a graph linked,
whatever the content is. -/
theorem client_bundle_conceals_content :
    Target.hydration ≠ .server ∧
      Page.localFiles (.single (.text "<p>Hello</p>")) {} [] = .ok greetingFiles ∧
      (bundleRecorded 9 curious {} default greetingFiles .hydration).2.length = 3 ∧
      bundleRecorded 9 curious {}
          { (default : Request) with bindings := { content := [(.text "title", .str "Home")] } }
          greetingFiles .hydration =
        bundleRecorded 9 curious {}
          { (default : Request) with bindings := { projectId := "p1" } } greetingFiles
          .hydration :=
  have client : Target.hydration ≠ .server := by decide
  have made : Page.localFiles (.single (.text "<p>Hello</p>")) {} [] = .ok greetingFiles := rfl
  ⟨client, made, by decide +kernel,
    client_bundle_conceals_bindings 9 curious {} default _ greetingFiles .hydration client made _ _⟩

end Build
end SiteBuild
