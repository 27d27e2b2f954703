import SiteBuild.Proofs.DocumentedFailures

/-!
# Outcomes of builds

A build goes through stages: the styles of the sections in their order, then the planned bundles.
Either all stages succeed, and the result holds the bundles that were planned, or one stage is the
first that fails; then the result holds nothing but the message of that failure, and the
surroundings are those that the failing stage left. There is one way for a build to come to no
result: the message of the first failure points at a column for which there is no room. Main
statement: `build_all_or_nothing`.
-/
namespace SiteBuild

/-- Whether a component is a text or a section that is put together from texts, with a style sheet
that is a text. -/
def Page.Source.IsPlain : Page.Source → Prop
  | .text _ => True
  | .parts content => content.IsReadable ∧ ∃ css, content.css = .text css

namespace Build

open Steps

variable {σ : Type}

/-- Whether the fields of a request that should be texts are texts. -/
structure Request.IsPlain (request : Request) : Prop where
  sources : ∀ source ∈ request.sources.toList, source.IsPlain
  runtimeExports : ∀ name ∈ request.options.runtimeExports, ∃ text, name = .str text

/-- The first failure of a build: the column it tells, the message for the author or why there is
none, and the surroundings it leaves. -/
inductive FirstFailure (services : Services (StateM σ)) (request : Request) (before : σ) :
    Option Int → Except Misuse Text → σ → Prop
  /-- A style sheet is rejected behind others that were flattened. -/
  | style {earlier later : List Page.Source} {content : Page.Section} {css : Text}
    {flat : List Page.Source} {between after : σ} {error : BuildError}
    (split : request.sources.toList = earlier ++ .parts content :: later)
    (flattened : Succeed (flattenSource services) earlier before flat between)
    (sheet : content.css = .text css)
    (rejected : (services.flatten (.text css) between : Id _) = (.error error, after)) :
    FirstFailure services request before (error.column.int?.map (· - 1))
      ((framedStyleError (.text css) error).map styleMessage) after
  /-- A bundle fails behind the styles and other bundles. -/
  | bundle {sources : Page.Sources} {files : Page.Files} {earlier later : List Target}
    {target : Target} {codes : List Text} {middle between after : σ} {failure : Failure}
    (flattened : outcome (flattenStyles services request.sources) before = (.ok sources, middle))
    (assembled : Page.localFiles sources request.head request.options.runtimeExports = .ok files)
    (split : request.options.plan = earlier ++ target :: later)
    (made : Succeed (bundleOf services request files) earlier middle codes between)
    (failed : outcome (bundleOf services request files target) between =
      (.error failure, after)) :
    FirstFailure services request before failure.column?
      (formatFailure failure failure.moduleId (sourceOf files failure.moduleId)) after

/-- All stages of a build succeed: the styles are flattened, and the planned bundles are made. -/
inductive AllMade (services : Services (StateM σ)) (request : Request) (before : σ) :
    (Target → Text) → σ → Prop
  /-- The styles come first, then the bundles in the order of the plan. -/
  | made {sources : Page.Sources} {files : Page.Files} {code : Target → Text} {middle after : σ}
    (flattened : outcome (flattenStyles services request.sources) before = (.ok sources, middle))
    (assembled : Page.localFiles sources request.head request.options.runtimeExports = .ok files)
    (bundled : Succeed (bundleOf services request files) request.options.plan middle
      (request.options.plan.map code) after) :
    AllMade services request before code after

/-! ## Styles -/

variable {services : Services (StateM σ)}

/-- Components whose styles are flattened one after the other are flattened together. -/
theorem flattenAll_of_succeed {sources flat : List Page.Source} {before after : σ}
    (all : Succeed (flattenSource services) sources before flat after) :
    outcome (flattenAll services sources) before = (.ok flat, after) := by
  induction all with
  | nil => rfl
  | cons here _ tail =>
    rw [flattenAll, outcome_bind, here]
    simp only
    rw [outcome_bind, tail]
    rfl

/-- The first component whose styles are not flattened ends the flattening. -/
theorem flattenAll_of_fail {earlier flat : List Page.Source} {before between : σ}
    (all : Succeed (flattenSource services) earlier before flat between) {source : Page.Source}
    {failure : Failure} {after : σ}
    (failed : outcome (flattenSource services source) between = (.error failure, after))
    (later : List Page.Source) :
    outcome (flattenAll services (earlier ++ source :: later)) before =
      (.error failure, after) := by
  induction all with
  | nil =>
    rw [List.nil_append, flattenAll, outcome_bind, failed]
  | cons here _ tail =>
    rw [List.cons_append, flattenAll, outcome_bind, here]
    simp only
    rw [outcome_bind, tail failed]

/-- The failure of a style error is the error with its frame, or that there is no frame. -/
def styleFailure (css : Text) (error : BuildError) : Failure :=
  match framedStyleError (.text css) error with
  | .ok framed => .build framed
  | .error cause => .misuse cause

/-- A style sheet that is a text is what the service answers. -/
theorem outcome_flattenSheet (css : Text) (before : σ) :
    outcome (flattenSheet services (.text css)) before =
      match (services.flatten (.text css) before : Id _) with
      | (.ok flat, after) => (.ok flat, after)
      | (.error error, after) => (.error (styleFailure css error), after) := by
  rcases answered : (services.flatten (.text css) before : Id _) with ⟨error | flat, after⟩
  · simp only [flattenSheet, step, Textual.toJson, Json.asKey, outcome, ExceptT.run, StateT.run,
      bind, StateT.bind, answered, styleFailure]
    cases framedStyleError (.text css) error <;> rfl
  · simp only [flattenSheet, step, Textual.toJson, Json.asKey, outcome, ExceptT.run, StateT.run,
      bind, StateT.bind, answered]
    rfl

/-- The styles of a plain component are not flattened only if its style sheet is rejected. -/
theorem rejected_of_flattenSource {source : Page.Source} (plain : source.IsPlain) {before : σ}
    {failure : Failure} {after : σ}
    (failed : outcome (flattenSource services source) before = (.error failure, after)) :
    ∃ content css error, source = .parts content ∧ content.css = .text css ∧
      (services.flatten (.text css) before : Id _) = (.error error, after) ∧
      failure = styleFailure css error := by
  cases source with
  | text value => cases failed
  | parts content =>
    obtain ⟨_, css, sheet⟩ := plain
    unfold flattenSource at failed
    simp only [sheet] at failed
    split at failed
    · cases failed
    · rw [outcome_bind, outcome_flattenSheet] at failed
      rcases answered : (services.flatten (.text css) before : Id _) with ⟨error | flat, later⟩
      · rw [answered] at failed
        cases failed
        exact ⟨content, css, error, rfl, sheet, answered, rfl⟩
      · rw [answered] at failed
        cases failed

/-- A component is as readable with its styles flattened as before. -/
theorem isReadable_of_flattenSource {source flat : Page.Source} (plain : source.IsPlain)
    {before after : σ}
    (flattened : outcome (flattenSource services source) before = (.ok flat, after)) :
    flat.IsReadable := by
  cases source with
  | text value =>
    cases flattened
    trivial
  | parts content =>
    obtain ⟨readable, _⟩ := plain
    simp only [flattenSource] at flattened
    split at flattened
    · cases flattened
      exact readable
    · obtain ⟨css, between, _, rest⟩ := outcome_bind_eq_ok_iff.mp flattened
      cases rest
      exact ⟨readable.html, readable.js, readable.keys⟩

/-- Components are as readable with their styles flattened as before. -/
theorem isReadable_of_succeed {sources flat : List Page.Source} {before after : σ}
    (plain : ∀ source ∈ sources, source.IsPlain)
    (all : Succeed (flattenSource services) sources before flat after) :
    ∀ source ∈ flat, source.IsReadable := by
  induction all with
  | nil => simp
  | cons here _ tail =>
    obtain ⟨first, others⟩ := List.forall_mem_cons.mp plain
    exact List.forall_mem_cons.mpr ⟨isReadable_of_flattenSource first here, tail others⟩

/-- The styles of a page are flattened one after the other. -/
theorem flattenStyles_of_succeed {sources : Page.Sources} {flat : List Page.Source}
    {before after : σ} (all : Succeed (flattenSource services) sources.toList before flat after) :
    ∃ flattened, flattened.toList = flat ∧
      outcome (flattenStyles services sources) before = (.ok flattened, after) := by
  cases sources with
  | single source =>
    cases all with
    | @cons _ _ first _ _ _ _ here behind =>
      cases behind
      refine ⟨.single first, rfl, ?_⟩
      rw [flattenStyles, outcome_bind, here]
      rfl
  | list sources =>
    refine ⟨.list flat, rfl, ?_⟩
    simp only [Page.Sources.toList] at all
    rw [flattenStyles, outcome_bind, flattenAll_of_succeed all]
    rfl

/-- The first component whose styles are not flattened ends the flattening. -/
theorem flattenStyles_of_fail {sources : Page.Sources} {earlier later flat : List Page.Source}
    {source : Page.Source} {before between after : σ} {failure : Failure}
    (split : sources.toList = earlier ++ source :: later)
    (all : Succeed (flattenSource services) earlier before flat between)
    (failed : outcome (flattenSource services source) between = (.error failure, after)) :
    outcome (flattenStyles services sources) before = (.error failure, after) := by
  cases sources with
  | single only =>
    obtain ⟨rfl, rfl, rfl⟩ : earlier = [] ∧ only = source ∧ later = [] := by
      cases earlier <;> simp_all [Page.Sources.toList]
    cases all
    rw [flattenStyles, outcome_bind, failed]
  | list sources =>
    simp only [Page.Sources.toList] at split
    rw [flattenStyles, outcome_bind, split, flattenAll_of_fail all failed later]

/-! ## Bundles -/

/-- The first of several bundles is made, and the others behind it, or its failure is the result. -/
theorem bundleAll_cons (request : Request) (files : Page.Files) (result : Result)
    (target : Target) (rest : List Target) (before : σ) :
    (bundleAll services request files result (target :: rest) before : Id _) =
      match outcome (bundleOf services request files target) before with
      | (.error failure, after) => (failedResult files failure, after)
      | (.ok code, between) =>
        bundleAll services request files (result.withBundle target code) rest between := by
  rw [bundleAll]
  rcases made : outcome (bundleOf services request files target) before with
    ⟨failure | code, between⟩
  · simp only [outcome, StateT.run] at made
    simp only [bind, StateT.bind, made]
    rfl
  · simp only [outcome, StateT.run] at made
    simp only [bind, StateT.bind, made]

/-- Bundles that are all made are all in the result. -/
theorem bundleAll_of_succeed {request : Request} {files : Page.Files} {targets : List Target}
    {codes : List Text} {before after : σ}
    (all : Succeed (bundleOf services request files) targets before codes after)
    (result : Result) :
    (bundleAll services request files result targets before : Id _) =
      (.ok ((targets.zip codes).foldl (fun result made => result.withBundle made.1 made.2) result),
        after) := by
  induction all generalizing result with
  | nil => rfl
  | cons here _ tail =>
    rw [bundleAll_cons, here]
    exact tail _

/-- The first bundle that is not made leaves its message and nothing of the others. -/
theorem bundleAll_of_fail {request : Request} {files : Page.Files} {earlier : List Target}
    {codes : List Text} {before between after : σ} {target : Target} {failure : Failure}
    (all : Succeed (bundleOf services request files) earlier before codes between)
    (failed : outcome (bundleOf services request files target) between = (.error failure, after))
    (result : Result) (later : List Target) :
    (bundleAll services request files result (earlier ++ target :: later) before : Id _) =
      (failedResult files failure, after) := by
  induction all generalizing result with
  | nil => rw [List.nil_append, bundleAll_cons, failed]
  | cons here _ tail =>
    rw [List.cons_append, bundleAll_cons, here]
    exact tail failed _

/-- The planned bundles that are all made are those of the result. -/
theorem bundles_of_plan {options : Options} {codes : List Text}
    (planned : codes.length = options.plan.length) :
    ∃ code : Target → Text, codes = options.plan.map code ∧
      (options.plan.zip codes).foldl (fun result made => result.withBundle made.1 made.2)
          ({} : Result) =
        { ssr := if options.buildStatic then code .server else []
          dom :=
            if options.hydrated then code .hydration
            else if options.buildStatic then [] else code .browser } := by
  unfold Options.plan at planned ⊢
  cases hydrated : options.hydrated with
  | false =>
    obtain ⟨first, rfl⟩ : ∃ first, codes = [first] :=
      List.length_eq_one_iff.mp (by simpa [hydrated] using planned)
    refine ⟨fun _ => first, by simp, ?_⟩
    cases options.buildStatic <;> rfl
  | true =>
    obtain ⟨first, second, rfl⟩ : ∃ first second, codes = [first, second] :=
      List.length_eq_two.mp (by simpa [hydrated] using planned)
    refine ⟨fun target => if target = .hydration then second else first, ?_, ?_⟩
    · cases options.buildStatic <;> rfl
    · cases options.buildStatic <;> rfl

/-! ## Builds -/

/-- A build flattens the styles, assembles the files and makes the bundles. -/
theorem build_stages (request : Request) (before : σ) :
    (build services request before : Id _) =
      match outcome (flattenStyles services request.sources) before with
      | (.error (.build error), after) => (.ok { error := styleMessage error }, after)
      | (.error failure, after) => (.error failure, after)
      | (.ok sources, middle) =>
        match Page.localFiles sources request.head request.options.runtimeExports with
        | .error cause => (.error (.misuse cause), middle)
        | .ok files => bundleAll services request files {} request.options.plan middle := by
  unfold build
  rcases flat : outcome (flattenStyles services request.sources) before with
    ⟨failure | sources, middle⟩
  · simp only [outcome, StateT.run] at flat
    simp only [bind, StateT.bind, flat]
    cases failure <;> rfl
  · simp only [outcome, StateT.run] at flat
    simp only [bind, StateT.bind, flat]
    cases Page.localFiles sources request.head request.options.runtimeExports <;> rfl

/-- What comes of a build whose services are documented: the first failure has a message, all
stages succeed, or the first failure tells a column that is too far to the right. -/
theorem build_outcome (documented : services.Documented) {request : Request}
    (plain : request.IsPlain) {before after : σ} {answer : Except Failure Result}
    (built : (build services request before : Id _) = (answer, after)) :
    (∃ column message, FirstFailure services request before column (.ok message) after ∧
        message ≠ [] ∧ answer = .ok { error := message }) ∨
      (∃ code, AllMade services request before code after ∧
        answer = .ok {
          ssr := if request.options.buildStatic then code .server else []
          dom :=
            if request.options.hydrated then code .hydration
            else if request.options.buildStatic then [] else code .browser }) ∨
      ∃ column cause, FirstFailure services request before column (.error cause) after ∧
        TooFarRight column cause ∧ answer = .error (.misuse cause) := by
  rw [build_stages] at built
  rcases succeed_or_fail (flattenSource services) request.sources.toList before with
    ⟨flat, middle, all⟩ |
    ⟨earlier, source, later, flat, between, failure, ended, split, all, failed⟩
  · obtain ⟨sources, rfl, flattened⟩ := flattenStyles_of_succeed all
    have readable := isReadable_of_succeed plain.sources all
    obtain ⟨files, assembled, texts⟩ :=
      Page.localFiles_of_readable request.head readable plain.runtimeExports
    simp only [flattened, assembled] at built
    -- The styles are flattened and the files are there: the rest is up to the bundles.
    rcases succeed_or_fail (bundleOf services request files) request.options.plan middle with
      ⟨codes, ended, made⟩ |
      ⟨earlier, target, later, codes, between, failure, ended, split, made, failed⟩
    · rw [bundleAll_of_succeed made] at built
      obtain ⟨code, rfl, result⟩ := bundles_of_plan made.length_eq
      rw [result] at built
      cases built
      exact .inr (.inl ⟨code, .made flattened assembled made, rfl⟩)
    · rw [split, bundleAll_of_fail made failed] at built
      have known := failsWith_bundleOf documented request files target between failure ended failed
      have first := FirstFailure.bundle flattened assembled split made failed
      rw [failedResult_of_documented known] at built
      cases formatted :
          formatFailure failure failure.moduleId (sourceOf files failure.moduleId) with
      | ok message =>
        rw [formatted] at built first
        cases built
        exact .inl ⟨_, message, first, formatFailure_ne_nil formatted, rfl⟩
      | error cause =>
        rw [formatted] at built first
        cases built
        exact .inr (.inr ⟨_, cause, first,
          formatFailure_eq_error known (sourceOf_ne_other texts _) formatted, rfl⟩)
  · have member : source ∈ request.sources.toList := by simp [split]
    obtain ⟨content, css, error, rfl, sheet, rejected, rfl⟩ :=
      rejected_of_flattenSource (plain.sources source member) failed
    have first := FirstFailure.style split all sheet rejected
    simp only [flattenStyles_of_fail split all failed] at built
    -- The frame is made while the error is on its way, so that it may replace the error.
    cases framed : framedStyleError (.text css) error with
    | ok error' =>
      simp only [styleFailure, framed] at built
      rw [framed] at first
      cases built
      have kind := (kind_of_framedStyleError framed).trans
        (documented.flatten _ _ _ _ rejected)
      exact .inl ⟨_, _, first, styleMessage_ne_nil kind, rfl⟩
    | error cause =>
      simp only [styleFailure, framed] at built
      rw [framed] at first
      cases built
      exact .inr (.inr ⟨_, cause, first, framedStyleError_eq_error framed, rfl⟩)

/-- Tools that answer three calls with code and reject the others. -/
def brittle : Tools (StateM Nat) where
  run _ := fun count =>
    let report : Json := .obj [("name", .str "LinkError"), ("message", .str "Unexpected token"),
      ("id", .str "./App.svelte")]
    (.ok (.obj [("code", .str "export default 1;"),
      ("error", if count < 3 then .null else report)]), count + 1)
  request _ := fun count => (.error (.transport "no network"), count)

/-- A page with a bundle for the server and one that takes over. -/
def greeting : Request where
  sources := .single (.text "<p>Hello</p>")
  options := { hydrated := true }

/-- Tools that reject a style sheet at a column beyond all rows. -/
def farSighted : Tools (StateM Unit) where
  run _ := fun _ =>
    (.ok (.obj [("error", .obj [("message", .str "Unknown word"), ("line", .int 1),
      ("column", .int 9223372036854775808)])]), ())
  request _ := fun _ => (.error (.transport "no network"), ())

/-- A page with one style sheet. -/
def styled : Request where
  sources := .list [.parts { html := "<p>Hello</p>", css := "a \x7b color: red \x7d" }]

end Build
end SiteBuild
