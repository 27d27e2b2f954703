import SiteBuild.Build.Course

/-!
# Builds as courses

A build is written for any services, whatever carries out their answers. So it makes no difference
whether a build is carried out with some services at once, or its course is laid out first and
its questions are put to these services afterwards. Main statements: a build with given services is
the performance of its course (`perform_ofRequest`), and where more is kept around a build that its
services answer alike, the build is the same (`Services.Shows.build`).
-/
namespace SiteBuild.Build

variable {m n : Type → Type} [Monad m] [Monad n]

/-- A way to carry out the steps of one kind as steps of another, in their order. -/
structure Carrier (m n : Type → Type) [Monad m] [Monad n] where
  /-- The step of the other kind. -/
  carry : {α : Type} → m α → n α
  carry_pure : ∀ {α : Type} (value : α), carry (pure value : m α) = pure value
  carry_bind : ∀ {α β : Type} (first : m α) (next : α → m β),
    carry (first >>= next) = carry first >>= fun value => carry (next value)

namespace Carrier

variable (carrier : Carrier m n)

/-- Carry out steps that may fail. -/
def carryExcept {α : Type} (action : ExceptT Failure m α) : ExceptT Failure n α :=
  ExceptT.mk (carrier.carry action.run)

@[simp] theorem carryExcept_pure {α : Type} (value : α) :
    carrier.carryExcept (pure value) = pure value :=
  carrier.carry_pure (Except.ok value)

@[simp] theorem carryExcept_throw {α : Type} (failure : Failure) :
    carrier.carryExcept (throw failure : ExceptT Failure m α) = throw failure :=
  carrier.carry_pure (Except.error failure)

@[simp] theorem carryExcept_decided {α : Type} (result : Except Failure α) :
    carrier.carryExcept (Module.Graph.decided result) = Module.Graph.decided result :=
  carrier.carry_pure result

@[simp] theorem carryExcept_bind {α β : Type} (first : ExceptT Failure m α)
    (next : α → ExceptT Failure m β) :
    carrier.carryExcept (first >>= next) =
      carrier.carryExcept first >>= fun value => carrier.carryExcept (next value) := by
  change carrier.carry (first.run >>= ExceptT.bindCont next) =
    carrier.carry first.run >>= ExceptT.bindCont fun value => carrier.carryExcept (next value)
  rw [carrier.carry_bind]
  congr 1
  funext result
  cases result with
  | error failure => exact carrier.carry_pure (Except.error failure)
  | ok value => rfl

/-- Services whose answers are carried out as steps of another kind. -/
def services (given : Services m) : Services n where
  limit := given.limit
  flatten css := carrier.carry (given.flatten css)
  fetch url := carrier.carry (given.fetch url)
  compile source options moduleId := carrier.carry (given.compile source options moduleId)
  link payload := carrier.carry (given.link payload)

/-- Hooks whose answers are carried out as steps of another kind. -/
def hooks (given : Module.Hooks m) : Module.Hooks n where
  resolve := given.resolve
  load id := carrier.carryExcept (given.load id)
  transform code id := carrier.carryExcept (given.transform code id)

variable (given : Services m)

theorem carry_flattenSheet (css : Textual) :
    carrier.carryExcept (flattenSheet given css) = flattenSheet (carrier.services given) css := by
  unfold flattenSheet step carryExcept
  apply congrArg ExceptT.mk
  cases css.toJson.asKey with
  | error cause => exact carrier.carry_pure _
  | ok sheet =>
    refine (carrier.carry_bind _ _).trans ?_
    refine congrArg (carrier.carry (given.flatten sheet) >>= ·) (funext fun flat => ?_)
    cases flat with
    | ok flat => exact carrier.carry_pure _
    | error error =>
      simp only
      cases framedStyleError sheet error <;> exact carrier.carry_pure _

theorem carry_flattenSource (source : Page.Source) :
    carrier.carryExcept (flattenSource given source) =
      flattenSource (carrier.services given) source := by
  cases source with
  | text value => exact carrier.carryExcept_pure _
  | parts content =>
    simp only [flattenSource]
    split
    · exact carrier.carryExcept_pure _
    · simp only [carryExcept_bind, carry_flattenSheet, carryExcept_pure]

theorem carry_flattenAll (sources : List Page.Source) :
    carrier.carryExcept (flattenAll given sources) =
      flattenAll (carrier.services given) sources := by
  induction sources with
  | nil => exact carrier.carryExcept_pure _
  | cons source rest tail =>
    simp only [flattenAll, carryExcept_bind, carry_flattenSource, tail, carryExcept_pure]

theorem carry_flattenStyles (sources : Page.Sources) :
    carrier.carryExcept (flattenStyles given sources) =
      flattenStyles (carrier.services given) sources := by
  cases sources with
  | single source =>
    simp only [flattenStyles, carryExcept_bind, carry_flattenSource, carryExcept_pure]
  | list sources =>
    simp only [flattenStyles, carryExcept_bind, carry_flattenAll, carryExcept_pure]

theorem carry_load (loader : Module.Loader) (fetch : Text → ExceptT Failure m Text) (id : Text) :
    carrier.carryExcept (loader.load fetch id) =
      loader.load (fun url => carrier.carryExcept (fetch url)) id := by
  unfold Module.Loader.load
  cases loader.origin id with
  | text source => exact carrier.carryExcept_pure _
  | nowhere => exact carrier.carryExcept_pure _
  | fetched url =>
    simp only [carryExcept_bind]
    congr 1
    funext text
    cases Module.Loader.fetchedModule url text with
    | ok code => exact carrier.carryExcept_pure _
    | error failure => exact carrier.carryExcept_throw _

theorem hooks_hooks (request : Request) (files : Page.Files) (target : Target) :
    carrier.hooks (Build.hooks given request files target) =
      Build.hooks (carrier.services given) request files target := by
  have load := carrier.carry_load
    { files, bindings := request.bindings, server := target == .server,
      dev := !request.options.devMode.isEmpty } (fun url => step (given.fetch url))
  have transform (code : Textual) (id : Text) :
      carrier.carryExcept ((Build.hooks given request files target).transform code id) =
        (Build.hooks (carrier.services given) request files target).transform code id := by
    simp only [Build.hooks]
    split
    · simp only [carryExcept_bind, carryExcept_pure]
      rfl
    · exact carrier.carryExcept_pure _
  simp only [hooks, Build.hooks, load]
  exact congrArg _ (funext fun code => funext fun id => transform code id)

variable (wanted : Module.Hooks m)

theorem carry_visit (id : Text) (importer : Option Text) :
    carrier.carryExcept (Module.Graph.visit wanted id importer) =
      Module.Graph.visit (carrier.hooks wanted) id importer := by
  unfold Module.Graph.visit
  simp only [carryExcept_bind]
  congr 1
  funext loaded
  cases loaded with
  | none => exact carrier.carryExcept_throw _
  | some loaded =>
    simp only [carryExcept_bind, carryExcept_decided]
    congr 1
    funext output
    congr 1
    funext code
    cases Script.imports code with
    | error error => exact carrier.carryExcept_throw _
    | ok imports => exact carrier.carryExcept_pure _

theorem carry_walk (limit : Nat) (graph : Module.Graph) (pending : List (Text × Option Text)) :
    carrier.carryExcept (Module.Graph.walk wanted limit graph pending) =
      Module.Graph.walk (carrier.hooks wanted) limit graph pending := by
  induction limit generalizing graph pending with
  | zero =>
    unfold Module.Graph.walk
    split
    · exact carrier.carryExcept_pure _
    · exact carrier.carryExcept_throw _
    · contradiction
  | succ limit tail =>
    unfold Module.Graph.walk
    split
    · exact carrier.carryExcept_pure _
    · contradiction
    · rename_i same _
      cases same
      simp only [carryExcept_bind, carry_visit, carryExcept_decided, tail]
      rfl

theorem carry_collect (limit : Nat) (entry : Text) :
    carrier.carryExcept (Module.Graph.collect limit wanted entry) =
      Module.Graph.collect limit (carrier.hooks wanted) entry := by
  simp only [Module.Graph.collect, carryExcept_bind, carryExcept_decided, carry_walk]
  rfl

theorem carry_bundle (limit : Nat) (run : Json → ExceptT Failure m Json) (entry : Text)
    (options : Module.BundleOptions) :
    carrier.carryExcept (Module.bundle limit wanted run entry options) =
      Module.bundle limit (carrier.hooks wanted) (fun payload => carrier.carryExcept (run payload))
        entry options := by
  simp only [Module.bundle, carryExcept_bind, carry_collect]
  congr 1
  funext graph
  simp only [Module.link, carryExcept_bind]
  congr 1
  funext answer
  cases Module.bundleOfAnswer answer with
  | ok code => exact carrier.carryExcept_pure _
  | error failure => exact carrier.carryExcept_throw _

theorem carry_bundleOf (request : Request) (files : Page.Files) (target : Target) :
    carrier.carryExcept (bundleOf given request files target) =
      bundleOf (carrier.services given) request files target := by
  simp only [bundleOf, carryExcept_bind, carry_bundle, hooks_hooks, carryExcept_decided]
  rfl

theorem carry_bundleAll (request : Request) (files : Page.Files) (result : Result)
    (targets : List Target) :
    carrier.carry (bundleAll given request files result targets) =
      bundleAll (carrier.services given) request files result targets := by
  induction targets generalizing result with
  | nil => exact carrier.carry_pure _
  | cons target rest tail =>
    unfold bundleAll
    rw [carrier.carry_bind, show carrier.carry (bundleOf given request files target).run =
      (bundleOf (carrier.services given) request files target).run from
        carrier.carry_bundleOf given request files target]
    congr 1
    funext bundle
    cases bundle with
    | ok code => exact tail _
    | error failure => exact carrier.carry_pure _

/-- A build with services that are carried out is carried out as a whole. -/
theorem carry_build (request : Request) :
    carrier.carry (build given request) = build (carrier.services given) request := by
  unfold build
  rw [carrier.carry_bind, show carrier.carry (flattenStyles given request.sources).run =
    (flattenStyles (carrier.services given) request.sources).run from
      carrier.carry_flattenStyles given request.sources]
  congr 1
  funext flat
  cases flat with
  | error failure => cases failure <;> exact carrier.carry_pure _
  | ok sources =>
    simp only
    cases Page.localFiles sources request.head request.options.runtimeExports with
    | error cause => exact carrier.carry_pure _
    | ok files => exact carrier.carry_bundleAll given request files {} _

end Carrier

/-! ## Performing courses -/

/-- The answer of services to a question. -/
def Services.answer (given : Services m) : (question : Question) → m question.Reply
  | .flatten css => given.flatten css
  | .fetch url => given.fetch url
  | .compile source options moduleId => given.compile source options moduleId
  | .link payload => given.link payload

namespace Course

/-- Carry out a course: its questions are put to services one after the other. -/
def perform (given : Services m) {α : Type} : Course α → m α
  | .done value => pure value
  | .ask question next => given.answer question >>= fun reply => (next reply).perform given

/-- The part before the end of a course can be performed first. -/
theorem perform_bind [LawfulMonad m] (given : Services m) {α β : Type} (first : Course α)
    (next : α → Course β) :
    (first >>= next).perform given =
      first.perform given >>= fun value => (next value).perform given := by
  induction first with
  | done value => exact (pure_bind value fun value => (next value).perform given).symm
  | ask question rest tail =>
    have each : (fun reply => (rest reply >>= next).perform given) = fun reply =>
        (rest reply).perform given >>= fun value => (next value).perform given :=
      funext tail
    change (given.answer question >>= fun reply => (rest reply >>= next).perform given) = _
    rw [each]
    exact (bind_assoc (given.answer question) (fun reply => (rest reply).perform given)
      fun value => (next value).perform given).symm

/-- Performing courses is a way to carry them out. -/
def performer [LawfulMonad m] (given : Services m) : Carrier Course m where
  carry course := course.perform given
  carry_pure _ := rfl
  carry_bind first next := perform_bind given first next

/-- Questions left to services and then put to given ones are answered by these. -/
theorem services_performer [LawfulMonad m] (given : Services m) :
    (performer given).services (services given.limit) = given := by
  obtain ⟨limit, flatten, fetch, compile, link⟩ := given
  have flattened : (fun css => flatten css >>= pure) = flatten :=
    funext fun css => bind_pure (flatten css)
  have fetched : (fun url => fetch url >>= pure) = fetch := funext fun url => bind_pure (fetch url)
  have compiled : (fun source options moduleId => compile source options moduleId >>= pure) =
      compile :=
    funext fun source => funext fun options => funext fun moduleId =>
      bind_pure (compile source options moduleId)
  have linked : (fun payload => link payload >>= pure) = link :=
    funext fun payload => bind_pure (link payload)
  change Services.mk limit (fun css => flatten css >>= pure) (fun url => fetch url >>= pure)
    (fun source options moduleId => compile source options moduleId >>= pure)
    (fun payload => link payload >>= pure) = _
  rw [flattened, fetched, compiled, linked]

/-- **Courses of builds.** A build with given services is the performance of its course. -/
theorem perform_ofRequest [LawfulMonad m] (given : Services m) (request : Request) :
    (ofRequest given.limit request).perform given = build given request := by
  have whole := (performer given).carry_build (services given.limit) request
  rw [services_performer] at whole
  exact whole

/-- The styles of a page are flattened with given services as their course is performed. -/
theorem perform_flattenStyles [LawfulMonad m] (given : Services m) (sources : Page.Sources) :
    (flattenStyles (services given.limit) sources).run.perform given =
      (flattenStyles given sources).run := by
  have whole := (performer given).carry_flattenStyles (services given.limit) sources
  rw [services_performer] at whole
  exact congrArg ExceptT.run whole

end Course

/-! ## Richer surroundings -/

variable {σ τ : Type}

/-- Whether services answer alike when only a part of their surroundings is looked at: as others do
that have this part for theirs. -/
structure Services.Shows (rich : Services (StateM τ)) (view : τ → σ)
    (plain : Services (StateM σ)) : Prop where
  limit : rich.limit = plain.limit
  answer : ∀ question before, Prod.map id view (rich.answer question before : Id _) =
    (plain.answer question (view before) : Id _)

namespace Services.Shows

variable {rich : Services (StateM τ)} {view : τ → σ} {plain : Services (StateM σ)}

/-- A course is performed alike. -/
theorem perform (shows : rich.Shows view plain) {α : Type} (course : Course α) (before : τ) :
    Prod.map id view (course.perform rich before : Id _) =
      (course.perform plain (view before) : Id _) := by
  induction course generalizing before with
  | done value => rfl
  | ask question next tail =>
    have answered := shows.answer question before
    rcases told : (rich.answer question before : Id _) with ⟨reply, between⟩
    rw [told] at answered
    change Prod.map id view (match (rich.answer question before : Id _) with
        | (reply, after) => ((next reply).perform rich after : Id _)) =
      match (plain.answer question (view before) : Id _) with
        | (reply, after) => ((next reply).perform plain after : Id _)
    rw [told, ← answered]
    exact tail reply between

/-- A build is the same. -/
theorem build (shows : rich.Shows view plain) (request : Request) (before : τ) :
    Prod.map id view (Build.build rich request before : Id _) =
      (Build.build plain request (view before) : Id _) := by
  rw [← Course.perform_ofRequest rich, ← Course.perform_ofRequest plain, shows.limit]
  exact shows.perform _ before

/-- The styles of a page are flattened alike. -/
theorem flattenStyles (shows : rich.Shows view plain) (sources : Page.Sources) (before : τ) :
    Prod.map id view ((Build.flattenStyles rich sources).run before : Id _) =
      ((Build.flattenStyles plain sources).run (view before) : Id _) := by
  rw [← Course.perform_flattenStyles rich, ← Course.perform_flattenStyles plain, shows.limit]
  exact shows.perform _ before

end Services.Shows
end SiteBuild.Build
