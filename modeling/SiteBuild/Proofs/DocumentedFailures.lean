import SiteBuild.Proofs.Courses
import SiteBuild.Proofs.FailureMessages

/-!
# Failures of documented tools

Tools are documented if the modules and addresses of the errors they raise are texts, and so are
the modules of their reports. Everything else they answer may be anything, and may depend on all
that happened before. Then whatever fails in a bundle fails in a documented way, wherever it
comes from: a module that is not fetched or read, a component that is not compiled, a graph that
is not linked, a bundle that has no bytes. Main statements: `documented_ofTools`, which leads from
the tools to the services of a session, and `failsWith_bundleOf`.
-/
namespace SiteBuild

/-- Whether a module may be loaded with a source: it is at hand, or the module is fetched. -/
def Module.Loader.Backs (loader : Module.Loader) (id : Text) (source : Textual) : Prop :=
  loader.origin id = .text source ∨ ∃ url, loader.origin id = .fetched url

namespace Build

open Steps SiteBuild.Module

variable {σ : Type}

/-- Services whose failures are documented; what a style sheet fails with is a style error. -/
structure Services.Documented (services : Services (StateM σ)) : Prop where
  flatten : ∀ css before error after,
    (services.flatten css before : Id _) = (.error error, after) → error.kind = .style
  fetch : ∀ url, FailsWith Failure.Documented (step (services.fetch url))
  compile : ∀ source options moduleId,
    FailsWith Failure.Documented (step (services.compile source options moduleId))
  link : ∀ payload, FailsWith Failure.Documented (step (services.link payload))
  report : ∀ payload before fields after report,
    (services.link payload before : Id _) = (.ok (.obj fields), after) →
      Record.get fields "error" = .obj report → (Record.get report "id").IsTextOrNull

/-! ## Failures of single steps -/

/-- The link error of a diagnostic is documented as its module is. -/
theorem documented_linkError {diagnostic : Diagnostic}
    (known : diagnostic.moduleId.IsTextOrNull) : (linkError diagnostic).Documented where
  url := .null
  moduleId := known

theorem documented_unresolvedError (id : Text) (importer : Option Text) :
    (Graph.unresolvedError id importer).Documented where
  url := .null
  moduleId := .str id

theorem documented_unreadableError (id : Text) (error : Script.ScanError) :
    (Graph.unreadableError id error).Documented where
  url := .null
  moduleId := .str id

/-- A diagnostic names the module of the report it is made of, or the one that is given. -/
theorem moduleId_ofAnswer {answer id : Json} (given : id.IsTextOrNull)
    (known : ∀ report, answer = .obj report → (Record.get report "id").IsTextOrNull) :
    (Diagnostic.ofAnswer answer id).moduleId.IsTextOrNull := by
  cases answer with
  | obj report => exact (known report rfl).orElse given
  | _ => exact given

/-! ## Steps of a bundle -/

/-- The loader of a bundle. -/
def loaderOf (request : Request) (files : Page.Files) (target : Target) : Module.Loader :=
  { files
    bindings := request.bindings
    server := target == .server
    dev := !request.options.devMode.isEmpty }

section

variable {sort : Failure → Prop} {holds : (α : Type) → Steps σ α → Prop}
  (whole : Compositional sort holds) (known : ∀ failure, failure.Documented → sort failure)

include whole known

/-- Loading comes to sources that back the module, if fetching has the property: besides there may
be a text that is no JSON. -/
theorem yields_load (loader : Loader) {fetch : Text → Steps σ Text}
    (fetched : ∀ url, holds _ (fetch url)) (id : Text) :
    Yields holds (fun loaded => ∀ source, loaded = some source → loader.Backs id source)
      (loader.load fetch id) := by
  intro β next tail
  unfold Loader.load
  cases origin : loader.origin id with
  | text source =>
    rw [pure_bind]
    exact tail _ fun other same => by
      cases same
      exact .inl origin
  | nowhere =>
    rw [pure_bind]
    exact tail _ nofun
  | fetched url =>
    rw [bind_assoc]
    refine whole.bind (fetched url) fun text => ?_
    cases made : Loader.fetchedModule url text with
    | ok code =>
      rw [pure_bind]
      exact tail _ fun _ _ => .inr ⟨url, origin⟩
    | error failure =>
      refine whole.bind (whole.throw (known _ ?_)) fun loaded =>
        tail _ fun _ _ => .inr ⟨url, origin⟩
      unfold Loader.fetchedModule Loader.dataModule at made
      split at made
      · split at made
        · cases made
          trivial
        · cases made
      · cases made

variable {hooks : Hooks (StateM σ)}

/-- A visit has a property if loading comes to sources whose transformation has it. -/
theorem holds_visit {backs : Text → Textual → Prop}
    (load : ∀ id, Yields holds (fun loaded => ∀ source, loaded = some source → backs id source)
      (hooks.load id))
    (transform : ∀ code id, backs id code → holds _ (hooks.transform code id)) (id : Text)
    (importer : Option Text) : holds _ (Graph.visit hooks id importer) := by
  unfold Graph.visit
  refine load id _ fun loaded backed => ?_
  cases loaded with
  | none => exact whole.throw (known _ (documented_unresolvedError id importer))
  | some loaded =>
    refine whole.bind (transform loaded id (backed loaded rfl)) fun output => whole.bind
      (whole.decided fun failure failed => known _ ?_) fun code => ?_
    · cases text : (output.getD { code := loaded }).code.asText "startswith" with
      | error cause =>
        rw [text] at failed
        cases failed
        trivial
      | ok code =>
        rw [text] at failed
        cases failed
    · cases Script.imports code with
      | error error => exact whole.throw (known _ (documented_unreadableError id error))
      | ok imports => exact whole.pure _

omit whole known in
/-- The targets of a module are not found only if one of its requests is not resolved. -/
theorem documented_resolveImports {node : GraphModule} {failure : Failure}
    (resolve : ∀ requested importer failure, hooks.resolve requested importer = .error failure →
      failure.Documented)
    (failed : Graph.resolveImports hooks node = .error failure) : failure.Documented := by
  obtain ⟨specifier, _, here⟩ := exists_of_mapM_eq_error failed
  exact resolve _ _ _ (map_eq_error_iff.mp here)

/-- A walk has a property if visits do. -/
theorem holds_walk
    (resolve : ∀ requested importer failure, hooks.resolve requested importer = .error failure →
      failure.Documented)
    (visit : ∀ id importer, holds _ (Graph.visit hooks id importer))
    (limit : Nat) (graph : Graph) (pending : List (Text × Option Text)) :
    holds _ (Graph.walk hooks limit graph pending) := by
  induction limit generalizing graph pending with
  | zero =>
    unfold Graph.walk
    split
    · exact whole.pure _
    · exact whole.throw (known _ trivial)
    · contradiction
  | succ limit tail =>
    -- A visit, the targets of its module, and a shorter walk.
    unfold Graph.walk
    split
    · exact whole.pure _
    · contradiction
    · rename_i same _
      cases same
      exact whole.bind (visit _ _) fun node => whole.bind
        (whole.decided fun failure failed => known _ (documented_resolveImports resolve failed))
        fun resolutions => tail _ _

variable {services : Services (StateM σ)}

/-- Collecting a graph has a property if fetching does, and compiling the sources of modules. -/
theorem holds_collect (request : Request) (files : Page.Files) (target : Target)
    (fetch : ∀ url, holds _ (step (services.fetch url)))
    (compile : ∀ source options id, (loaderOf request files target).Backs id source →
      holds _ (step (services.compile source options (some id))))
    (entry : Text) :
    holds _ (Graph.collect services.limit (Build.hooks services request files target) entry) := by
  have resolve (requested : Text) (importer : Option Text) (failure : Failure)
      (failed : (Build.hooks services request files target).resolve requested importer =
        .error failure) : failure.Documented := by
    simp only [Build.hooks, Except.mapError] at failed
    split at failed
    · cases failed
      trivial
    · cases failed
  have transform (code : Textual) (id : Text)
      (backed : (loaderOf request files target).Backs id code) :
      holds _ ((Build.hooks services request files target).transform code id) := by
    simp only [Build.hooks]
    split
    · exact whole.bind (compile _ _ _ backed) fun compiled => whole.pure _
    · exact whole.pure _
  exact whole.bind (whole.decided fun failure failed => known _ (resolve _ _ _ failed))
    fun target => holds_walk whole known resolve
      (holds_visit whole known (yields_load whole known _ fetch) transform) _ _ _

/-- **Steps of a bundle.** A bundle has a property if fetching and linking do, and compiling the
sources of modules. -/
theorem holds_bundleOf (request : Request) (files : Page.Files) (target : Target)
    (fetch : ∀ url, holds _ (step (services.fetch url)))
    (compile : ∀ source options id, (loaderOf request files target).Backs id source →
      holds _ (step (services.compile source options (some id))))
    (link : ∀ graph options,
      holds _ (Module.link (fun payload => step (services.link payload)) graph options)) :
    holds _ (bundleOf services request files target) := by
  refine whole.bind (whole.bind (holds_collect whole known request files target fetch compile _)
    fun graph => link graph _) fun code => whole.decided fun failure failed => known _ ?_
  unfold checkedBundle at failed
  cases encoded : code.asText "encode" with
  | error cause =>
    rw [encoded] at failed
    cases failed
    trivial
  | ok text =>
    cases size : Text.encodedSize text with
    | error cause =>
      simp only [encoded, Except.mapError, bind, Except.bind, size] at failed
      cases failed
      trivial
    | ok size =>
      simp only [encoded, Except.mapError, bind, Except.bind, size] at failed
      cases failed

end

/-! ## Steps of styles -/

section

variable {sort : Failure → Prop} {holds : (α : Type) → Steps σ α → Prop}
  {services : Services (StateM σ)}

/-- Flattening the styles of a page has a property if flattening a style sheet does. -/
theorem holds_flattenStyles (whole : Compositional sort holds)
    (sheet : ∀ css, holds _ (flattenSheet services css)) (sources : Page.Sources) :
    holds _ (flattenStyles services sources) := by
  have each (source : Page.Source) : holds _ (flattenSource services source) := by
    unfold flattenSource
    split
    · exact whole.pure _
    · split
      · exact whole.pure _
      · exact whole.bind (sheet _) fun css => whole.pure _
  cases sources with
  | single source => exact whole.bind (each source) fun flat => whole.pure _
  | list sources =>
    refine whole.bind ?_ fun flat => whole.pure _
    induction sources with
    | nil => exact whole.pure _
    | cons source rest tail =>
      exact whole.bind (each source) fun first => whole.bind tail fun others => whole.pure _

/-- A style sheet leaves what the service leaves that flattens it, if it comes to that. -/
theorem after_flattenSheet {css : Textual} {before : σ} {result after}
    (done : outcome (flattenSheet services css) before = (result, after)) :
    after = before ∨ ∃ sheet, after = (services.flatten sheet before : Id _).2 := by
  cases key : css.toJson.asKey with
  | error cause =>
    simp only [flattenSheet, step, key] at done
    cases done
    exact .inl rfl
  | ok sheet =>
    refine .inr ⟨sheet, ?_⟩
    rcases flat : (services.flatten sheet before : Id _) with ⟨answer, later⟩
    simp only [flattenSheet, step, key, outcome, ExceptT.run, StateT.run, bind, StateT.bind,
      flat] at done
    cases answer with
    | error error =>
      cases framed : framedStyleError sheet error <;> simp only [framed] at done <;>
        cases done <;> rfl
    | ok value =>
      cases done
      rfl

end

/-! ## Failures of bundles -/

section

variable {services : Services (StateM σ)}

/-- What the linker reports is documented, and so is what becomes of it. -/
theorem documented_bundleOfAnswer {answer : Json} {failure : Failure}
    (known : ∀ fields report, answer = .obj fields → Record.get fields "error" = .obj report →
      (Record.get report "id").IsTextOrNull)
    (failed : bundleOfAnswer answer = .error failure) : failure.Documented := by
  cases answer with
  | obj fields =>
    simp only [bundleOfAnswer] at failed
    split at failed
    · unfold bundleOfResult at failed
      split at failed
      · cases failed
        trivial
      · cases failed
    · cases failed
      exact documented_linkError (moduleId_ofAnswer .null fun report same =>
        known fields report rfl same)
  | _ =>
    cases failed
    trivial

/-- Linking fails in documented ways. -/
theorem failsWith_link (documented : services.Documented) (graph : Graph)
    (options : BundleOptions) :
    FailsWith Failure.Documented
      (Module.link (fun payload => step (services.link payload)) graph options) := by
  intro before failure after failed
  unfold Module.link at failed
  rcases outcome_bind_eq_error_iff.mp failed with here | ⟨answer, between, answered, behind⟩
  · exact documented.link _ before failure after here
  · cases bundle : bundleOfAnswer answer with
    | ok code =>
      rw [bundle] at behind
      cases behind
    | error cause =>
      rw [bundle] at behind
      cases behind
      refine documented_bundleOfAnswer (fun fields report same reported => ?_) bundle
      subst same
      exact documented.report _ before fields after report answered reported

/-- **Failures of bundles.** Whatever a bundle fails with is documented. -/
theorem failsWith_bundleOf (documented : services.Documented) (request : Request)
    (files : Page.Files) (target : Target) :
    FailsWith Failure.Documented (bundleOf services request files target) :=
  holds_bundleOf (FailsWith.compositional Failure.Documented) (fun _ known => known) request files
    target documented.fetch (fun source options id _ => documented.compile source options (some id))
    (failsWith_link documented)

end

/-! ## Sessions -/

/-- Steps in a session, whose surroundings change as well, as steps that change both. -/
def inSession : Carrier (StateT Session (StateM σ)) (StateM (Session × σ)) where
  carry action := fun before =>
    let ((value, session), after) := (action before.1 before.2 : Id _)
    (value, (session, after))
  carry_pure _ := rfl
  carry_bind _ _ := rfl

/-- Tools whose errors name texts for their modules and addresses, and whose reports name texts
for their modules. -/
structure Tools.Documented (tools : Tools (StateM σ)) : Prop where
  raise : ∀ call before failure after,
    (tools.run call before : Id _) = (.error failure, after) → failure.Documented
  report : ∀ call before fields after report,
    (tools.run call before : Id _) = (.ok (.obj fields), after) →
      Record.get fields "error" = .obj report → (Record.get report "id").IsTextOrNull
  request : ∀ url before failure after,
    (tools.request url before : Id _) = (.error (.otherwise failure), after) → failure.Documented

/-- The services of a session, whose surroundings go along. -/
def Tools.services (limit : Nat) (tools : Tools (StateM σ)) : Services (StateM (Session × σ)) :=
  inSession.services (Services.ofTools limit tools)

/-- What a cache makes of a reply fails as the network does, or because of the status. -/
theorem documented_receive {cache : Cache} {url : Text} {reply : Except NoResponse Response}
    {failure : Failure}
    (known : ∀ failure, reply = .error (.otherwise failure) → failure.Documented)
    (failed : (cache.receive url reply).1 = .error failure) : failure.Documented := by
  have missing (cause : Text) (status : Json) : (fetchError url cause status).Documented :=
    { url := .null, moduleId := .str url }
  unfold Cache.receive at failed
  split at failed
  · cases failed
    exact missing _ _
  · cases failed
    exact known _ rfl
  · split at failed
    · cases failed
    · cases failed
      exact missing _ _

/-- What the compiler makes of an answer fails as the tool does, or as the tool reports. -/
theorem documented_ofAnswer {answer : Except Failure Json} {moduleId : Option Text}
    {counts : Component.Counts} {failure : Failure}
    (raised : ∀ failure, answer = .error failure → failure.Documented)
    (known : ∀ fields report, answer = .ok (.obj fields) →
      Record.get fields "error" = .obj report → (Record.get report "id").IsTextOrNull)
    (failed : (Component.ofAnswer answer moduleId counts).1 = .error failure) :
    failure.Documented := by
  unfold Component.ofAnswer at failed
  simp only at failed
  split at failed
  · rename_i cause
    cases failed
    cases cause with
    | build error => exact raised (.build error) rfl
    | _ => exact ⟨.null, .ofString? moduleId⟩
  · rename_i fields
    split at failed
    · unfold Component.ofResult at failed
      split at failed
      · cases failed
        trivial
      · split at failed
        · cases failed
          trivial
        · cases failed
    · cases failed
      exact ⟨.null, moduleId_ofAnswer (.ofString? moduleId) fun report reported =>
        known fields report rfl reported⟩
  · cases failed
    trivial

/-- What becomes of the answer for a style sheet fails with a style error. -/
theorem kind_ofAnswer {answer : Except Failure Json} {error : BuildError}
    (failed : Style.ofAnswer answer = .error error) : error.kind = .style := by
  have raised (failure : Failure) : (Style.errorOfFailure failure).kind = .style := by
    unfold Style.errorOfFailure
    split
    · split
      · assumption
      · rfl
    · rfl
  unfold Style.ofAnswer at failed
  split at failed
  · cases failed
    exact raised _
  · simp only at failed
    split at failed
    · cases failed
    · cases failed
      unfold Style.errorOfAnswer
      split <;> rfl
  · cases failed
    exact raised _

variable {tools : Tools (StateM σ)}

/-- A style sheet that is not at hand is what the tool answers. -/
theorem flatten_services (limit : Nat) (css : Key) (session : Session) (before : σ) :
    ((tools.services limit).flatten css (session, before) : Id _) =
      match session.styles.find? css with
      | some flat =>
        let styles := { session.styles with hits := session.styles.hits + 1 }
        (.ok flat, ({ session with styles }, before))
      | none =>
        let (answer, after) := (tools.run (.flatten css) before : Id _)
        let result := Style.ofAnswer answer
        let counted := { session.styles with misses := session.styles.misses + 1 }
        (result, ({ session with styles := counted.finish css result }, after)) := by
  change (match (Style.process (fun sheet => tools.run (.flatten sheet)) session.styles css
      before : Id _) with
    | ((result, styles), after) => (result, ({ session with styles }, after))) = _
  unfold Style.process
  cases session.styles.find? css <;> rfl

/-- A module that is not at hand is what the network answers. -/
theorem fetch_services (limit : Nat) (url : Text) (session : Session) (before : σ) :
    ((tools.services limit).fetch url (session, before) : Id _) =
      match session.cache.lookUp url with
      | (some text, cache) => (.ok text, ({ session with cache }, before))
      | (none, cache) =>
        let (reply, after) := (tools.request url before : Id _)
        let (result, cache) := cache.receive url reply
        (result, ({ session with cache }, after)) := by
  change (match (session.cache.fetch tools.request url before : Id _) with
    | ((result, cache), after) => (result, ({ session with cache }, after))) = _
  unfold Cache.fetch
  rcases session.cache.lookUp url with ⟨_ | text, cache⟩ <;> rfl

/-- A component that is a text is what the tool answers. -/
theorem compile_services (limit : Nat) (source : Textual) (options : Component.Options)
    (moduleId : Option Text) (session : Session) (before : σ) :
    ((tools.services limit).compile source options moduleId (session, before) : Id _) =
      match source with
      | .other value => (.error (.misuse (.notText value.typeName)), (session, before))
      | .text source =>
        let enclosed := Component.encloseGlobalStyles source
        let (answer, after) := (tools.run (.compile enclosed options.toJson) before : Id _)
        let (result, counts) := Component.ofAnswer answer moduleId session.counts
        (result, ({ session with counts }, after)) := by
  cases source <;> rfl

/-- A bundle is what the tool answers. -/
theorem link_services (limit : Nat) (payload : Json) (session : Session) (before : σ) :
    ((tools.services limit).link payload (session, before) : Id _) =
      let (answer, after) := (tools.run (.link payload) before : Id _)
      (answer, (session, after)) :=
  rfl

/-- **Documented tools.** The services of a session with documented tools are documented,
whatever the session holds. -/
theorem documented_ofTools (documented : tools.Documented) (limit : Nat) :
    (tools.services limit).Documented where
  flatten css := by
    rintro ⟨session, before⟩ error after failed
    rw [flatten_services] at failed
    split at failed
    · cases failed
    · exact kind_ofAnswer (congrArg Prod.fst failed)
  fetch url := by
    rintro ⟨session, before⟩ failure after failed
    change ((tools.services limit).fetch url (session, before) : Id _) = _ at failed
    rw [fetch_services] at failed
    split at failed
    · cases failed
    · rcases replied : (tools.request url before : Id _) with ⟨reply, later⟩
      simp only [replied] at failed
      refine documented_receive (fun failure same => ?_) (congrArg Prod.fst failed)
      subst same
      exact documented.request url before failure later replied
  compile source options moduleId := by
    rintro ⟨session, before⟩ failure after failed
    change ((tools.services limit).compile source options moduleId (session, before) : Id _) = _
      at failed
    rw [compile_services] at failed
    split at failed
    · cases failed
      trivial
    · rename_i text
      rcases answered : (tools.run (.compile (Component.encloseGlobalStyles text) options.toJson)
        before : Id _) with ⟨answer, later⟩
      simp only [answered] at failed
      refine documented_ofAnswer (fun failure same => ?_) (fun fields report same => ?_)
        (congrArg Prod.fst failed)
      · subst same
        exact documented.raise _ before failure later answered
      · subst same
        exact documented.report _ before fields later report answered
  link payload := by
    rintro ⟨session, before⟩ failure after failed
    rcases answered : (tools.run (.link payload) before : Id _) with ⟨answer, later⟩
    change ((tools.services limit).link payload (session, before) : Id _) = _ at failed
    rw [link_services, answered] at failed
    cases failed
    exact documented.raise _ before failure later answered
  report payload := by
    rintro ⟨session, before⟩ fields after report linked reported
    rcases answered : (tools.run (.link payload) before : Id _) with ⟨answer, later⟩
    rw [link_services, answered] at linked
    cases linked
    exact documented.report _ before fields later report answered reported

end Build
end SiteBuild
