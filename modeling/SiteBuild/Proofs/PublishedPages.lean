import SiteBuild.Proofs.BuildOutcomes
import SiteBuild.Proofs.ImportMaps
import SiteBuild.Publish

/-!
# Published pages

A page is published from a text and a site. The build of the text comes to a result, the render to
a page or to a message, and the document is put together from what the site tells. Main statement:
a page that is published neither with a document nor with a message for the author has a site with
a value of a wrong type, points at a column for which there is no room, or needs an address for a
text that has no bytes (`publishFor_eq_error`).
-/
namespace SiteBuild

open Build

variable {σ : Type} {limit : Nat} {tools : Tools (StateM σ)}

/-! ## Sites -/

namespace Site

/-- Whether the values of a site are of the types they are used as: the name is a text, and the
names of design values and of collections can be keys. -/
structure Config.IsPlain (config : Config) : Prop where
  name : ∃ text, config.name = .text text
  design : ∀ token ∈ config.design, ∃ key, token.cssVar.toJson.asKey = .ok key
  collections : ∀ name ∈ config.collections, ∃ key, name.asKey = .ok key

variable {config : Config}

/-- The design of a site has values if its names can be keys. -/
theorem exists_designValues (plain : config.IsPlain) :
    ∃ values, config.designValues = .ok values := by
  have each : ∀ token ∈ config.design, ∃ entry, token.entry? = .ok entry ∧ True := by
    intro token member
    obtain ⟨key, named⟩ := plain.design token member
    rw [DesignToken.entry?, named]
    split
    · exact ⟨_, rfl, trivial⟩
    · exact ⟨_, rfl, trivial⟩
  obtain ⟨entries, read, -⟩ := exists_mapM_eq_ok each
  exact ⟨_, by rw [Config.designValues, read]; rfl⟩

/-- A plain site has bindings. -/
theorem exists_bindings (plain : config.IsPlain) : ∃ bindings, config.bindings = .ok bindings := by
  obtain ⟨values, design⟩ := exists_designValues plain
  exact ⟨_, by rw [Config.bindings, design]; rfl⟩

/-- A plain site has bindings in the browser. -/
theorem exists_browserBindings (plain : config.IsPlain) :
    ∃ bindings, browserBindings config = .ok bindings := by
  obtain ⟨values, design⟩ := exists_designValues plain
  have each : ∀ name ∈ config.collections, ∃ key, name.asKey = .ok key ∧ True :=
    fun name member => (plain.collections name member).imp fun _ named => ⟨named, trivial⟩
  obtain ⟨keys, read, -⟩ := exists_mapM_eq_ok each
  have names : collectionKeys config.collections = .ok (keys.eraseDupsBy Key.same) := by
    rw [collectionKeys, read]
    rfl
  have data := collectionsOf_empty (keys.eraseDupsBy Key.same)
  simp only [browserBindings, design, names, data, bind, Except.bind]
  exact ⟨_, rfl⟩

/-- An import map of a plain site is not made only if a text has no address. -/
theorem importMap_eq_error (plain : config.IsPlain) {failure : Failure}
    (failed : importMap config = .error failure) : ∃ run, failure = .unencodable run := by
  obtain ⟨bindings, browser⟩ := exists_browserBindings plain
  rw [importMap_eq browser] at failed
  split at failed
  · rename_i run _
    cases failed
    exact ⟨run, rfl⟩
  · cases failed

/-- A document of a plain site and texts is not made only if a text has no address. -/
theorem renderDocument_eq_error (plain : config.IsPlain) {body head code : Text}
    {failure : Failure}
    (failed : renderDocument (.text body) config (.text head) (.text code) = .error failure) :
    ∃ run, failure = .unencodable run ∧
      (importMap config = .error (.unencodable run) ∨ fontLinks config.design = .error run) := by
  let unaddressed (failure : Failure) : Prop := ∃ run, failure = .unencodable run ∧
    (importMap config = .error (.unencodable run) ∨ fontLinks config.design = .error run)
  have imports : FailsOnly unaddressed (importMap config) := by
    intro failure failed
    obtain ⟨run, rfl⟩ := importMap_eq_error plain failed
    exact ⟨run, rfl, .inl failed⟩
  have links : FailsOnly (fun run => fontLinks config.design = .error run)
      (fontLinks config.design) := fun _ failed => failed
  have fonts : FailsOnly unaddressed ((fontLinks config.design).mapError .unencodable) :=
    links.mapError fun run failed => ⟨run, rfl, .inr failed⟩
  have name : FailsOnly unaddressed ((config.name.asText "replace").mapError .misuse) := by
    obtain ⟨text, named⟩ := plain.name
    exact named ▸ .ok text
  have whole : FailsOnly unaddressed
      (renderDocument (.text body) config (.text head) (.text code)) := by
    unfold renderDocument
    split
    · exact .bind (.ok []) fun _ _ => .bind name fun _ _ => .bind fonts fun _ _ =>
        .bind (.ok head) fun _ _ => .bind (.ok body) fun _ _ => .ok _
    · exact .bind imports.map fun _ _ => .bind name fun _ _ => .bind fonts fun _ _ =>
        .bind (.ok head) fun _ _ => .bind (.ok body) fun _ _ => .ok _
  exact whole failure failed

end Site

/-! ## Renders -/

/-- Tools whose renders are objects with texts for the parts of a page, or without them. -/
structure Build.Tools.Renders (tools : Tools (StateM σ)) : Prop where
  answer : ∀ code props before answer after,
    (tools.run (.render code props) before : Id _) = (.ok answer, after) →
      ∃ fields, answer = .obj fields ∧ (Record.get fields "head").IsTextOrNull ∧
        (Record.get fields "body").IsTextOrNull

namespace Publish

/-- Whether the markup of a payload is made of texts. -/
structure Payload.IsPlain (payload : Payload) : Prop where
  head : ∃ text, payload.head = .text text
  body : ∃ text, payload.body = .text text

/-- A value that is a text or null stands for a text. -/
theorem ofJson_of_isTextOrNull {value : Json} (known : value.IsTextOrNull) :
    ∃ text, Textual.ofJson value = .text text := by
  rcases known with rfl | ⟨text, rfl⟩
  · exact ⟨[], rfl⟩
  · cases text with
    | nil => exact ⟨[], rfl⟩
    | cons point rest => exact ⟨point :: rest, rfl⟩

/-- A render of documented tools comes to texts, or to a message. -/
theorem renderedOfAnswer_of_renders {answer : Except Failure Json}
    (known : ∀ value, answer = .ok value → ∃ fields, value = .obj fields ∧
      (Record.get fields "head").IsTextOrNull ∧ (Record.get fields "body").IsTextOrNull) :
    (∃ head body, renderedOfAnswer answer = .ok { head := .text head, body := .text body }) ∨
      ∃ message, renderedOfAnswer answer = .error (.render message) := by
  cases answer with
  | error failure => exact .inr ⟨_, rfl⟩
  | ok value =>
    obtain ⟨fields, rfl, first, second⟩ := known value rfl
    obtain ⟨head, first⟩ := ofJson_of_isTextOrNull first
    obtain ⟨body, second⟩ := ofJson_of_isTextOrNull second
    simp only [renderedOfAnswer, first, second]
    split
    · exact .inl ⟨head, body, rfl⟩
    · exact .inr ⟨_, rfl⟩

/-- A step in a session behind another starts where the other ended. -/
theorem carry_bind_of_eq {α β : Type} {first : StateT Session (StateM σ) α}
    {next : α → StateT Session (StateM σ) β} {before between : Session × σ} {value : α}
    (here : (inSession.carry first before : Id _) = (value, between)) :
    (inSession.carry (first >>= next) before : Id _) = inSession.carry (next value) between := by
  rw [inSession.carry_bind]
  simp only [bind, StateT.bind, here]

/-- How far a page comes on its way to a document. -/
inductive Stage where
  /-- It is not built, for this reason. -/
  | unbuilt (message : Text)
  /-- It is built and not rendered, for this reason. -/
  | unrendered (message : Text)
  /-- It is rendered. -/
  | rendered (head body : Text)

/-- The payload of a page that comes so far, with its bundle for the browser. -/
def Stage.payload (bundle : Text) : Stage → Payload
  | .unbuilt message => { error := message }
  | .unrendered message => { error := message }
  | .rendered head body => { head := .text head, body := .text body, js := bundle }

theorem Stage.isPlain_payload (bundle : Text) (stage : Stage) :
    (stage.payload bundle).IsPlain := by
  cases stage with
  | unbuilt message => exact ⟨⟨[], rfl⟩, ⟨[], rfl⟩⟩
  | unrendered message => exact ⟨⟨[], rfl⟩, ⟨[], rfl⟩⟩
  | rendered head body => exact ⟨⟨head, rfl⟩, ⟨body, rfl⟩⟩

/-- How far a page comes behind its build: if there is a bundle for the server, it is rendered. -/
inductive Comes (tools : Tools (StateM σ)) (request : Request) (result : Result)
    (built : Session × σ) : Stage → Session × σ → Prop
  /-- The build failed. -/
  | unbuilt (told : result.error ≠ []) :
    Comes tools request result built (.unbuilt result.error) built
  /-- The render failed. -/
  | unrendered {answer : Except Failure Json} {message : Text} {around : σ}
    (done : result.error = [])
    (answered : (tools.run (.render result.ssr (Page.renderProps request.sources
      (some request.head))) built.2 : Id _) = (answer, around))
    (failed : renderedOfAnswer answer = .error (.render message)) :
    Comes tools request result built (.unrendered message) (built.1, around)
  /-- The render came to texts. -/
  | rendered {answer : Except Failure Json} {head body : Text} {around : σ}
    (done : result.error = [])
    (answered : (tools.run (.render result.ssr (Page.renderProps request.sources
      (some request.head))) built.2 : Id _) = (answer, around))
    (shown : renderedOfAnswer answer = .ok { head := .text head, body := .text body }) :
    Comes tools request result built (.rendered head body) (built.1, around)

/-- A page that is built is rendered by documented tools, or its render fails. -/
theorem renderPayload_comes (limit : Nat) (renders : tools.Renders) (request : Request)
    (result : Result) (done : result.error = []) (built : Session × σ) :
    ∃ stage after, Comes tools request result built stage after ∧
      (inSession.carry (renderPayload (Services.ofTools limit tools) request.sources request.head
        result) built : Id _) = (.ok (stage.payload result.dom), after) := by
  obtain ⟨session, around⟩ := built
  rcases answered : (tools.run (.render result.ssr (Page.renderProps request.sources
    (some request.head))) around : Id _) with ⟨answer, after⟩
  have known := renderedOfAnswer_of_renders fun value (same : answer = .ok value) =>
    renders.answer _ _ _ _ _ (same ▸ answered)
  have shown : (inSession.carry (render (Services.ofTools limit tools) result.ssr
      (Page.renderProps request.sources (some request.head))) (session, around) : Id _) =
        (renderedOfAnswer answer, (session, after)) :=
    congrArg (fun step : Except Failure Json × σ =>
      (renderedOfAnswer step.1, (session, step.2))) answered
  rw [renderPayload, carry_bind_of_eq shown]
  rcases known with ⟨head, body, made⟩ | ⟨message, made⟩
  · refine ⟨.rendered head body, (session, after), .rendered done answered made, ?_⟩
    rw [made]
    rfl
  · refine ⟨.unrendered message, (session, after), .unrendered done answered made, ?_⟩
    rw [made]
    rfl

/-- Whether a text has script code. -/
def isInteractive (source : Text) : Bool := Text.holds "<script" source

/-- How a page of a site is built that is published. -/
def pageWishes (source : Text) (bindings : Bindings) : Wishes where
  bindings := bindings
  hydrated := some (isInteractive source)
  runtimeExports := if isInteractive source then [.str "hydrate"] else []

/-- The wishes of a site that has bindings. -/
theorem wishesOf_isInteractive {config : Site.Config} {bindings : Bindings}
    (known : config.bindings = .ok bindings) {source : Text} :
    wishesOf config (Text.holds "<script" source) = .ok (pageWishes source bindings) := by
  rw [wishesOf, known]
  rfl

/-- The request of a page of a site that is published. -/
def pageRequest (source : Text) (bindings : Bindings) : Request :=
  (pageWishes source bindings).request (.single (.text source)) (isInteractive source)

@[simp] theorem pageRequest_options (source : Text) (bindings : Bindings) :
    (pageRequest source bindings).options = {
      hydrated := isInteractive source
      runtimeExports := if isInteractive source then [.str "hydrate"] else [] } :=
  rfl

@[simp] theorem pageRequest_sources (source : Text) (bindings : Bindings) :
    (pageRequest source bindings).sources = .single (.text source) :=
  rfl

theorem isPlain_pageRequest (source : Text) (bindings : Bindings) :
    (pageRequest source bindings).IsPlain where
  sources := by simp [Page.Sources.toList, Page.Source.IsPlain]
  runtimeExports name member := by
    simp only [pageRequest_options] at member
    split at member
    · exact ⟨_, List.mem_singleton.mp member⟩
    · cases member

/-- What comes of a page that is processed with documented tools: it comes to some stage, or its
first failure tells a column that is too far to the right. -/
theorem processPage_outcome (documented : tools.Documented) (renders : tools.Renders)
    {source : Text} {bindings : Bindings} {before after : Session × σ}
    {answer : Except Failure Payload}
    (processed : (inSession.carry (processPage (Services.ofTools limit tools)
      (.single (.text source)) (pageWishes source bindings)) before : Id _) = (answer, after)) :
    (∃ result built stage,
      (build (tools.services limit) (pageRequest source bindings) before : Id _) =
        (.ok result, built) ∧
      Comes tools (pageRequest source bindings) result built stage after ∧
      answer = .ok (stage.payload result.dom)) ∨
      ∃ column cause,
        (build (tools.services limit) (pageRequest source bindings) before : Id _) =
          (.error (.misuse cause), after) ∧
        FirstFailure (tools.services limit) (pageRequest source bindings) before column
          (.error cause) after ∧
        TooFarRight column cause ∧ answer = .error (.misuse cause) := by
  rcases built : (build (tools.services limit) (pageRequest source bindings) before : Id _) with
    ⟨result, between⟩
  have carried : (inSession.carry (build (Services.ofTools limit tools).toServices
      ((pageWishes source bindings).request (.single (.text source)) (isInteractive source)))
        before : Id _) = (result, between) := by
    rw [inSession.carry_build]
    exact built
  have wants : (pageWishes source bindings).wantsHydration (.single (.text source)) =
      .ok (isInteractive source) := rfl
  have static : (pageWishes source bindings).buildStatic = true := rfl
  simp only [processPage, wants] at processed
  rw [carry_bind_of_eq carried] at processed
  rcases build_outcome (documented_ofTools documented limit) (isPlain_pageRequest source bindings)
    built with ⟨_, message, _, told, rfl⟩ | ⟨code, _, rfl⟩ | ⟨column, cause, first, far, rfl⟩
  · have shown : (!List.isEmpty message) = true := by simpa using told
    simp only [shown, ↓reduceIte] at processed
    cases processed
    exact .inl ⟨_, _, .unbuilt message, rfl, .unbuilt told, rfl⟩
  · simp only [List.isEmpty_nil, Bool.not_true, Bool.false_eq_true, ↓reduceIte, static] at processed
    obtain ⟨stage, ended, comes, done⟩ := renderPayload_comes limit renders
      (pageRequest source bindings) { ssr := _, dom := _ } rfl between
    cases done.symm.trans processed
    exact .inl ⟨_, _, stage, rfl, comes, rfl⟩
  · cases processed
    exact .inr ⟨column, cause, rfl, first, far, rfl⟩

/-! ## Documents -/

/-- A document of a plain site and a payload of texts is not made only with a message for the
author, or because a text has no address. -/
theorem documentOf_eq_error {config : Site.Config} (plain : config.IsPlain) {payload : Payload}
    (texts : payload.IsPlain) {failure : Failure}
    (failed : documentOf config payload = .error failure) :
    (∃ error, failure = .build error) ∨
      ∃ run, failure = .unencodable run ∧ (Site.importMap config = .error (.unencodable run) ∨
        Site.fontLinks config.design = .error run) := by
  obtain ⟨⟨head, first⟩, ⟨body, second⟩⟩ := texts
  unfold documentOf at failed
  split at failed
  · cases failed
    exact .inl ⟨_, rfl⟩
  · split at failed
    · cases failed
      exact .inl ⟨_, rfl⟩
    · rw [first, second] at failed
      exact .inr (Site.renderDocument_eq_error plain failed)

/-- What is in the way of a page of a text for a site: neither a document nor a message for the
author comes of it. -/
inductive Hindrance (limit : Nat) (tools : Tools (StateM σ)) (source : Text) (site : Json)
    (before : Session × σ) : Prop
  /-- The site is not understood, or a value of it is of another type than it is used as. -/
  | site (broken : ¬ ∃ config, Site.Config.ofJson site = .ok config ∧ config.IsPlain)
  /-- The first failure of the build tells a column that is too far to the right. -/
  | column {config : Site.Config} {wishes : Wishes} {column : Option Int} {cause : Misuse}
    {ended : Session × σ} (read : Site.Config.ofJson site = .ok config)
    (wished : wishesOf config (Text.holds "<script" source) = .ok wishes)
    (first : FirstFailure (tools.services limit)
      (wishes.request (.single (.text source)) (Text.holds "<script" source)) before column
      (.error cause) ended)
    (far : TooFarRight column cause)
  /-- A text of the site belongs into an address and has no bytes. -/
  | address {config : Site.Config} {run : Text.Unencodable}
    (read : Site.Config.ofJson site = .ok config)
    (unwritten : Site.importMap config = .error (.unencodable run) ∨
      Site.fontLinks config.design = .error run)

/-- A page with some text is processed and put into a document. -/
theorem carry_publish {config : Site.Config} {source : Text} (some : source ≠ [])
    {bindings : Bindings} (known : config.bindings = .ok bindings) {before after : Session × σ}
    {processed : Except Failure Payload}
    (done : (inSession.carry (processPage (Services.ofTools limit tools)
      (.single (.text source)) (pageWishes source bindings)) before : Id _) =
        (processed, after)) :
    (inSession.carry (publish (Services.ofTools limit tools) source config) before : Id _) =
      (processed >>= documentOf config, after) := by
  have text : ¬source.isEmpty = true := by simpa using some
  unfold publish
  rw [if_neg text, wishesOf_isInteractive known]
  simp only
  rw [carry_bind_of_eq done]
  cases processed <;> rfl

/-- **Pages are published or their authors are told.** With documented tools a page comes to a
document, to a build error, or to another failure for which something is in the way. -/
theorem publishFor_eq_error (documented : tools.Documented) (renders : tools.Renders)
    {source : Text} {site : Json} {before after : Session × σ} {failure : Failure}
    (published : (inSession.carry
      (publishFor (Services.ofTools limit tools) source site) before : Id _) =
        (.error failure, after)) :
    (∃ error, failure = .build error) ∨ Hindrance limit tools source site before := by
  by_cases plain : ∃ config, Site.Config.ofJson site = .ok config ∧ config.IsPlain
  case neg => exact .inr (.site plain)
  obtain ⟨config, read, plain⟩ := plain
  obtain ⟨bindings, known⟩ := Site.exists_bindings plain
  unfold publishFor at published
  by_cases empty : source = []
  · subst empty
    cases published
  rw [if_neg (by simpa using empty), read] at published
  rcases processed : (inSession.carry (processPage (Services.ofTools limit tools)
    (.single (.text source)) (pageWishes source bindings)) before : Id _) with ⟨answer, between⟩
  rw [carry_publish empty known processed] at published
  obtain ⟨failed, rfl⟩ := Prod.mk.inj published
  rcases processPage_outcome documented renders processed with
    ⟨result, _, stage, _, _, rfl⟩ | ⟨column, cause, _, first, far, rfl⟩
  · rcases documentOf_eq_error plain (stage.isPlain_payload _) failed with
      told | ⟨run, rfl, unwritten⟩
    · exact .inl told
    · exact .inr (.address read unwritten)
  · exact .inr (.column read (wishesOf_isInteractive known) first far)

end Publish
end SiteBuild
