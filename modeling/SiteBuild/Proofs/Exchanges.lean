import SiteBuild.Proofs.BuildOutcomes

/-!
# Exchanges with the tools

What a build asks the tools and what they answer, written down behind what was written before; but
for the notes a build is the same as with the tools themselves (`build_noted`). An exchange may hold
a report: the compiler or the linker tells an error in place of a result. No style sheet leads to a
report, and steps that an exchange with a report belongs to fail with the error that is made of it,
wherever in a bundle it comes up (`tells_bundleOf`). Main statement: such an exchange ends the build
(`build_of_report`).
-/
namespace SiteBuild.Build

open Steps SiteBuild.Module

variable {σ : Type}

/-- A call of a tool and what it answered. -/
structure Exchange where
  /-- What the tool is asked for. -/
  call : ToolCall
  /-- Its answer, or what it raised. -/
  answer : Except Failure Json

/-- Tools that write down what they are asked and what they answer. -/
def Tools.noted (tools : Tools (StateM σ)) : Tools (StateM (σ × List Exchange)) where
  run call := fun (before, notes) =>
    let (answer, after) := (tools.run call before : Id _)
    (answer, (after, notes ++ [⟨call, answer⟩]))
  request url := fun (before, notes) =>
    let (reply, after) := (tools.request url before : Id _)
    (reply, (after, notes))

namespace Exchange

/-- The report in an answer. -/
def reportIn? : Except Failure Json → Option Record
  | .ok (.obj fields) =>
    match Record.get fields "error" with
    | .obj report => if report.isEmpty then none else some report
    | _ => none
  | _ => none

/-- The report that the compiler or the linker gives in place of a result. -/
def report? (exchange : Exchange) : Option Record :=
  match exchange.call with
  | .compile _ _ => reportIn? exchange.answer
  | .link _ => reportIn? exchange.answer
  | _ => none

/-- Whether an error is made of a report: by the linker, or for a module by the compiler. -/
def Becomes (exchange : Exchange) (report : Record) (error : BuildError) : Prop :=
  match exchange.call with
  | .compile _ _ => ∃ moduleId,
    error = Component.errorOfDiagnostic (.ofReport report (Json.ofString? moduleId))
  | .link _ => error = linkError (.ofReport report .null)
  | _ => False

/-- An answer with a report holds it under the key of errors. -/
theorem reportIn?_eq_some {answer : Except Failure Json} {report : Record}
    (reported : reportIn? answer = some report) :
    ∃ fields, answer = .ok (.obj fields) ∧ Record.get fields "error" = .obj report ∧
      (Json.obj report).isEmpty = false := by
  unfold reportIn? at reported
  split at reported
  · rename_i fields
    split at reported
    · rename_i told
      simp only [Option.ite_none_left_eq_some, Option.some.injEq] at reported
      obtain ⟨some, rfl⟩ := reported
      exact ⟨fields, rfl, told, by simpa [Json.isEmpty] using some⟩
    · cases reported
  · cases reported

end Exchange

/-! ## Steps that tell reports -/

/-- A session, its surroundings, and the notes. -/
abbrev Noted (σ : Type) : Type := Session × (σ × List Exchange)

/-- A session and its surroundings without the notes. -/
def Noted.bare (noted : Noted σ) : Session × σ := (noted.1, noted.2.1)

/-- Tools that write down what they are asked answer as they do otherwise. -/
theorem shows_noted (limit : Nat) (tools : Tools (StateM σ)) :
    (tools.noted.services limit).Shows Noted.bare (tools.services limit) where
  limit := rfl
  answer question := by
    rintro ⟨session, before, notes⟩
    cases question with
    | flatten css =>
      change Prod.map id Noted.bare ((tools.noted.services limit).flatten css
        (session, (before, notes)) : Id _) = ((tools.services limit).flatten css (session, before) :
          Id _)
      rw [flatten_services, flatten_services]
      cases session.styles.find? css <;> rfl
    | fetch url =>
      change Prod.map id Noted.bare ((tools.noted.services limit).fetch url
        (session, (before, notes)) : Id _) = ((tools.services limit).fetch url (session, before) :
          Id _)
      rw [fetch_services, fetch_services]
      rcases session.cache.lookUp url with ⟨_ | text, cache⟩ <;> rfl
    | compile source options moduleId => cases source <;> rfl
    | link payload => rfl

/-- Writing down the exchanges makes no difference to a build, to the session it leaves or to the
surroundings. -/
theorem build_noted (limit : Nat) (tools : Tools (StateM σ)) (request : Request)
    (before : Noted σ) :
    Prod.map id Noted.bare
        (inSession.carry (build (Services.ofTools limit tools.noted) request) before : Id _) =
      (inSession.carry (build (Services.ofTools limit tools) request) before.bare : Id _) := by
  rw [inSession.carry_build, inSession.carry_build]
  exact (shows_noted limit tools).build request before

/-- Whether steps write their notes behind those there are, and fail with an error that is made of
a report if there is one among them. -/
def Tells (becomes : Exchange → Record → BuildError → Prop) (α : Type)
    (action : Steps (Noted σ) α) : Prop :=
  ∀ before result after, outcome action before = (result, after) →
    ∃ new, after.2.2 = before.2.2 ++ new ∧
      ∀ exchange ∈ new, ∀ report, exchange.report? = some report →
        ∃ error, result = .error (.build error) ∧ becomes exchange report error

/-- Notes that are written one after the other are of a kind if the first and the others are. -/
theorem notes_append {first kind : Exchange → Prop} {before between after : Noted σ}
    (here : ∃ new, between.2.2 = before.2.2 ++ new ∧ ∀ exchange ∈ new, first exchange)
    (weaker : ∀ exchange, first exchange → kind exchange)
    (behind : ∃ new, after.2.2 = between.2.2 ++ new ∧ ∀ exchange ∈ new, kind exchange) :
    ∃ new, after.2.2 = before.2.2 ++ new ∧ ∀ exchange ∈ new, kind exchange := by
  obtain ⟨new, notes, known⟩ := here
  obtain ⟨more, others, all⟩ := behind
  refine ⟨new ++ more, by rw [others, notes, List.append_assoc], ?_⟩
  exact List.forall_mem_append.mpr
    ⟨fun exchange member => weaker exchange (known exchange member), all⟩

/-- Telling reports is a property of steps that are put together of steps with it. -/
theorem Tells.compositional (becomes : Exchange → Record → BuildError → Prop) :
    Compositional (σ := Noted σ) (fun _ => True) (Tells becomes) :=
  Logged.compositional (fun noted : Noted σ => noted.2.2)
    (fun _ result exchange => ∀ report, exchange.report? = some report →
      ∃ error, result = .error (.build error) ∧ becomes exchange report error)
    -- Where the steps succeed, no report is among their notes.
    (fun _ told report reported => by
      obtain ⟨_, same, _⟩ := told report reported
      cases same)
    (fun told report reported => by
      obtain ⟨error, same, becomes⟩ := told report reported
      cases same
      exact ⟨error, rfl, becomes⟩)

variable {tools : Tools (StateM σ)} {becomes : Exchange → Record → BuildError → Prop}

/-- Nothing is written down about the network. -/
theorem tells_fetch (limit : Nat) (url : Text) :
    Tells becomes _ (step ((tools.noted.services limit).fetch url)) := by
  rintro ⟨session, before, notes⟩ result after done
  refine ⟨[], ?_, by simp⟩
  change ((tools.noted.services limit).fetch url (session, (before, notes)) : Id _) = _ at done
  rw [fetch_services] at done
  split at done
  · cases done
    simp
  · rcases replied : (tools.request url before : Id _) with ⟨reply, later⟩
    simp only [Tools.noted, replied] at done
    cases done
    simp

/-- A component with a report is not compiled: the error is made of it. -/
theorem tells_compile (limit : Nat) (source : Textual) (options : Component.Options)
    (moduleId : Option Text) :
    Tells Exchange.Becomes _
      (step ((tools.noted.services limit).compile source options moduleId)) := by
  rintro ⟨session, before, notes⟩ result after done
  change ((tools.noted.services limit).compile source options moduleId
    (session, (before, notes)) : Id _) = _ at done
  rw [compile_services] at done
  cases source with
  | other value =>
    cases done
    exact ⟨[], by simp, by simp⟩
  | text source =>
    rcases answered : (tools.run (.compile (Component.encloseGlobalStyles source) options.toJson)
      before : Id _) with ⟨answer, later⟩
    simp only [Tools.noted, answered] at done
    cases done
    refine ⟨_, rfl, fun exchange member report reported => ?_⟩
    cases List.mem_singleton.mp member
    obtain ⟨fields, rfl, told, some⟩ := Exchange.reportIn?_eq_some reported
    refine ⟨_, ?_, moduleId, rfl⟩
    simp [Component.ofAnswer, told, some, Diagnostic.ofAnswer]

/-- A graph with a report is not linked: the error is made of it. -/
theorem tells_link (limit : Nat) (graph : Graph) (options : BundleOptions) :
    Tells Exchange.Becomes _
      (Module.link (fun payload => step ((tools.noted.services limit).link payload)) graph
        options) := by
  rintro ⟨session, before, notes⟩ result after done
  rcases answered : (tools.run (.link (linkPayload graph options)) before : Id _) with
    ⟨answer, later⟩
  have linked : outcome (step ((tools.noted.services limit).link (linkPayload graph options)))
      (session, before, notes) =
        (answer, (session, later, notes ++ [⟨.link (linkPayload graph options), answer⟩])) := by
    change ((tools.noted.services limit).link (linkPayload graph options)
      (session, (before, notes)) : Id _) = _
    rw [link_services]
    simp only [Tools.noted, answered]
  rw [Module.link, outcome_bind, linked] at done
  refine ⟨[⟨.link (linkPayload graph options), answer⟩], ?_, ?_⟩
  · cases answer with
    | error failure =>
      cases done
      rfl
    | ok value =>
      simp only at done
      split at done <;> cases done <;> rfl
  · intro exchange member report reported
    cases List.mem_singleton.mp member
    obtain ⟨fields, rfl, told, some⟩ := Exchange.reportIn?_eq_some reported
    simp only [bundleOfAnswer, told, some] at done
    cases done
    exact ⟨_, rfl, rfl⟩

/-- **Reports end bundles.** A bundle with a report is not made: it fails with the error that is
made of the report. -/
theorem tells_bundleOf (limit : Nat) (request : Request) (files : Page.Files) (target : Target) :
    Tells Exchange.Becomes _
      (bundleOf (tools.noted.services limit) request files target) :=
  holds_bundleOf (Tells.compositional _) (fun _ _ => trivial) request files target
    (tells_fetch limit) (fun source options id _ => tells_compile limit source options (some id))
    (tells_link limit)

/-! ## Builds -/

/-- What is asked about a style sheet holds no report of the compiler or of the linker. -/
theorem quiet_flatten (limit : Nat) (css : Key) (before : Noted σ) {result after}
    (done : ((tools.noted.services limit).flatten css before : Id _) = (result, after)) :
    ∃ new, after.2.2 = before.2.2 ++ new ∧ ∀ exchange ∈ new, exchange.report? = none := by
  obtain ⟨session, before, notes⟩ := before
  change ((tools.noted.services limit).flatten css (session, (before, notes)) : Id _) = _ at done
  rw [flatten_services] at done
  split at done
  · cases done
    exact ⟨[], by simp, by simp⟩
  · rcases answered : (tools.run (.flatten css) before : Id _) with ⟨answer, later⟩
    simp only [Tools.noted, answered] at done
    cases done
    exact ⟨_, rfl, by simp [Exchange.report?]⟩

/-- Flattening the styles of a page tells no report. -/
theorem quiet_flattenStyles (limit : Nat) (sources : Page.Sources) :
    Tells (fun _ _ _ => False) _ (flattenStyles (tools.noted.services limit) sources) := by
  refine holds_flattenStyles (Tells.compositional _) (fun css => ?_) sources
  intro before result after done
  rcases after_flattenSheet done with rfl | ⟨sheet, rfl⟩
  · exact ⟨[], by simp, by simp⟩
  · obtain ⟨new, notes, quiet⟩ := quiet_flatten limit sheet before rfl
    refine ⟨new, notes, fun exchange member report reported => ?_⟩
    rw [quiet exchange member] at reported
    cases reported

/-- What is written down about the styles of a page holds no report. -/
theorem no_report_of_flattenStyles (limit : Nat) (sources : Page.Sources) {before after : Noted σ}
    {result : Except Failure Page.Sources}
    (flat : outcome (flattenStyles (tools.noted.services limit) sources) before =
      (result, after)) :
    ∃ new, after.2.2 = before.2.2 ++ new ∧
      ∀ exchange ∈ new, ∀ report, exchange.report? ≠ some report := by
  obtain ⟨new, notes, told⟩ := quiet_flattenStyles limit sources before result after flat
  refine ⟨new, notes, fun exchange member report reported => ?_⟩
  obtain ⟨_, _, impossible⟩ := told exchange member report reported
  exact impossible

/-- Bundles one after the other end at the first report. -/
theorem bundleAll_of_report (limit : Nat) (request : Request) (files : Page.Files)
    (targets : List Target) (result : Result) (before : Noted σ) {answer after}
    (done : (bundleAll (tools.noted.services limit) request files result targets before : Id _) =
      (answer, after)) :
    ∃ new, after.2.2 = before.2.2 ++ new ∧
      ∀ exchange ∈ new, ∀ report, exchange.report? = some report →
        ∃ error, exchange.Becomes report error ∧ answer = failedResult files (.build error) := by
  induction targets generalizing result before with
  | nil =>
    cases done
    exact ⟨[], by simp, by simp⟩
  | cons target rest tail =>
    rw [bundleAll_cons] at done
    rcases first : outcome (bundleOf (tools.noted.services limit) request files target) before with
      ⟨failure | code, between⟩
    · rw [first] at done
      cases done
      obtain ⟨new, notes, told⟩ := tells_bundleOf limit request files target before _ _ first
      refine ⟨new, notes, fun exchange member report reported => ?_⟩
      obtain ⟨error, same, becomes⟩ := told exchange member report reported
      cases same
      exact ⟨error, becomes, rfl⟩
    · rw [first] at done
      refine notes_append (tells_bundleOf limit request files target before _ _ first) ?_
        (tail _ between done)
      intro exchange told report reported
      obtain ⟨_, same, _⟩ := told report reported
      cases same

/-- **Reports end builds.** If the compiler or the linker gives a report in a build, the result is
that of the error which is made of the report, with the files of the page for its source. -/
theorem build_of_report (limit : Nat) (request : Request) (before : Noted σ) {answer after}
    (built : (build (tools.noted.services limit) request before : Id _) = (answer, after)) :
    ∃ new, after.2.2 = before.2.2 ++ new ∧
      ∀ exchange ∈ new, ∀ report, exchange.report? = some report →
        ∃ sources middle files error,
          outcome (flattenStyles (tools.noted.services limit) request.sources) before =
            (.ok sources, middle) ∧
          Page.localFiles sources request.head request.options.runtimeExports = .ok files ∧
          exchange.Becomes report error ∧ answer = failedResult files (.build error) := by
  rw [build_stages] at built
  rcases flat : outcome (flattenStyles (tools.noted.services limit) request.sources) before with
    ⟨failure | sources, middle⟩
  · have left : after = middle := by
      rw [flat] at built
      cases failure <;> cases built <;> rfl
    obtain ⟨new, notes, silent⟩ := no_report_of_flattenStyles limit request.sources flat
    exact ⟨new, left ▸ notes, fun exchange member report reported =>
      absurd reported (silent exchange member report)⟩
  · have quiet := no_report_of_flattenStyles limit request.sources flat
    rw [flat] at built
    simp only at built
    cases assembled : Page.localFiles sources request.head request.options.runtimeExports with
    | error cause =>
      rw [assembled] at built
      cases built
      obtain ⟨new, notes, silent⟩ := quiet
      exact ⟨new, notes, fun exchange member report reported =>
        absurd reported (silent exchange member report)⟩
    | ok files =>
      rw [assembled] at built
      obtain ⟨more, behind, telling⟩ := bundleAll_of_report limit request files _ _ _ built
      refine notes_append quiet
        (fun exchange silent report reported => absurd reported (silent report))
        ⟨more, behind, fun exchange member report reported => ?_⟩
      obtain ⟨error, becomes, same⟩ := telling exchange member report reported
      exact ⟨sources, middle, files, error, rfl, assembled, becomes, same⟩

end SiteBuild.Build
