import SiteBuild.Proofs.PublishedPages
import SiteBuild.Proofs.RequestShapes
import SiteBuild.Proofs.RoundTrips
import SiteBuild.Proofs.WorkerAnswers
import SiteBuild.Server.App

/-!
# Answers of the server

What the server answers to whatever is sent for a build or for a page, after any requests before.
Between requests no job is about (`idle_of_reached`), so that a build that is posted is answered
(`Worker.IsIdle.waitFor`). A body that is no object and a request that is not understood are
refused. There are gaps, through which a body leads to an unexpected failure. Main statement: one
of the answers is given that are meant, exactly unless a gap is met (`answers_unless_gap`).
-/
namespace SiteBuild

/-! ## One job at a time -/

namespace Worker

variable {Job Answer : Type} {m : Type → Type} [Monad m] [LawfulMonad m]

/-- Whether no job is about: none waits, no hand holds one, and no hand is gone. A worker at rest
forgets these when it is put to work. -/
structure IsIdle (worker : Worker Job Answer) : Prop where
  hands : 0 < worker.hands
  tables : worker.running = true → worker.gone = [] ∧ worker.queue = [] ∧ worker.busy = []

/-- A worker that was just put to work has no job about. -/
theorem isIdle_start_withHands (hands : Int) :
    (withHands hands : Worker Job Answer).start.IsIdle where
  hands := by
    have one : 0 < (max 1 hands).toNat := by omega
    exact one
  tables _ := ⟨rfl, rfl, rfl⟩

/-- A worker that is put to work while no job is about. -/
theorem IsIdle.start {worker : Worker Job Answer} (idle : worker.IsIdle) :
    worker.start = { worker with running := true, gone := [], queue := [], busy := [] } := by
  unfold Worker.start
  split
  · rename_i running
    obtain ⟨gone, queue, busy⟩ := idle.tables running
    cases worker
    simp_all
  · rfl

/-- A worker to which a job is posted while no other is about, and its answer at the ticket. -/
theorem IsIdle.waitFor {worker : Worker Job Answer} (idle : worker.IsIdle)
    (perform : Job → m Answer) (job : Job) :
    ∃ next : Answer → Worker Job Answer,
      waitFor perform (worker.start.post job) worker.tickets.length = next <$> perform job ∧
      ∀ answer, (next answer).IsIdle ∧
        (next answer).ticket? worker.tickets.length = some (.answered answer) := by
  let number := worker.tickets.length
  let posted : Worker Job Answer := { worker with
    running := true, gone := [], queue := [(number, job)], busy := []
    pending := worker.pending ++ [number], tickets := worker.tickets ++ [.waiting] }
  let held : Worker Job Answer := { posted with
    queue := [], pending := posted.pending.filter (· != number), busy := [(0, number, job)] }
  let free : Worker Job Answer := { held with busy := [] }
  have post : worker.start.post job = posted := by
    rw [idle.start]
    rfl
  have waits : posted.ticket? number = some .waiting := by simp [ticket?, posted, number]
  have hand : posted.freeHand? = some 0 := by
    obtain ⟨others, hands⟩ := Nat.exists_eq_add_of_lt idle.hands
    simp [freeHand?, posted, hands, List.range_succ_eq_map, isFree, isAtWork, isBusy]
  have taken : posted.take? 0 = some held :=
    take?_eq_some_iff.mpr ⟨number, job, [], rfl, by simp [posted, isAtWork, idle.hands],
      by simp [posted], rfl⟩
  have finished (answer : Answer) :
      held.finish? 0 answer = some (free.settle number (.answered answer)) :=
    finish?_eq_some_iff.mpr ⟨(0, number, job), rfl, rfl⟩
  refine ⟨fun answer => free.settle number (.answered answer), ?_, fun answer =>
    ⟨⟨idle.hands, fun _ => ⟨rfl, rfl, rfl⟩⟩, ?_⟩⟩
  · have queue : posted.queue = [(number, job)] := rfl
    rw [post, Worker.waitFor, waits]
    simp only [drain, queue, List.length_singleton, work, hand, taken, finished, Option.getD_some,
      map_eq_pure_bind]
  · change (free.settle number (.answered answer)).ticket? number = _
    have waiting : free.ticket? number = some .waiting := waits
    rw [ticket?_settle, waiting]
    simp [Ticket.isSettled]

end Worker

namespace Server

open Build

variable {σ : Type} {limit : Nat} {tools : Tools (StateM σ)}

/-! ## The state between requests -/

/-- The server that works with given tools. -/
def App.ofTools (limit : Nat) (tools : Tools (StateM σ)) : App (StateM σ) :=
  { services := Publish.Services.ofTools limit tools }

/-- The states of a server that was started and has answered requests since, and what is around
it. -/
inductive Reached (app : App (StateM σ)) : State → σ → Prop
  /-- The server is started. -/
  | start (hands : Int) (session : Session) (around : σ) :
    Reached app (State.start hands session) around
  /-- A request is answered. -/
  | answered {state next : State} {around after : σ} {response : Response} (request : Request)
    (reached : Reached app state around)
    (done : (respond app request state around : Id _) = ((response, next), after)) :
    Reached app next after

/-- What comes of a step in a session. -/
theorem run_of_carry {α : Type} {action : StateT Session (StateM σ) α} {before after : Session × σ}
    {value : α} (carried : (inSession.carry action before : Id _) = (value, after)) :
    (action before.1 before.2 : Id _) = ((value, after.1), after.2) := by
  rcases outcome : (action before.1 before.2 : Id _) with ⟨⟨other, session⟩, around⟩
  simp only [inSession, outcome] at carried
  cases carried
  rfl

/-- A build that is posted while no job is about is answered with its result, or fails
unexpectedly if it comes to none; then again no job is about. -/
theorem runBuild_of_build {app : App (StateM σ)} {request : Build.Request} {state : State}
    (idle : state.worker.IsIdle) {around after : σ} {answer : Except Failure Result}
    {session : Session}
    (built : (inSession.carry (build app.services.toServices request) (state.session, around) :
      Id _) = (answer, (session, after))) :
    ∃ worker : BuildWorker, worker.IsIdle ∧
      (runBuild app request state around : Id _) =
        ((answer.toOption.map fun result => jsonResponse 200 result.toJson,
          { worker := worker, session := session }), after) := by
  obtain ⟨next, waited, known⟩ := idle.waitFor (build app.services.toServices) request
  obtain ⟨ready, told⟩ := known answer
  have carried : ((next <$> build app.services.toServices request).run state.session around :
      Id _) = ((next answer, session), after) := by
    have ended := run_of_carry built
    simp only [StateT.run, Functor.map, StateT.map, bind, StateT.bind, ended]
    rfl
  refine ⟨next answer, ready, ?_⟩
  simp only [runBuild, waited]
  simp only [bind, StateT.bind, carried, told]
  cases answer <;> rfl

/-- A body without an object is answered at once. -/
theorem answer_unread {app : App (StateM σ)} {endpoint : Endpoint} (posts : endpoint ≠ .health)
    {body : List UInt8} {refusal? : Option Response} (read : payloadOf body = .error refusal?)
    (state : State) (around : σ) :
    (answer app endpoint body state around : Id _) = ((refusal?, state), around) := by
  cases endpoint with
  | health => exact absurd rfl posts
  | _ =>
    simp only [answer, read]
    rfl

/-- An answer at an endpoint leaves no job about. -/
theorem idle_of_answer {app : App (StateM σ)} {endpoint : Endpoint} {body : List UInt8}
    {state next : State} (idle : state.worker.IsIdle) {around after : σ}
    {response? : Option Response}
    (done : (answer app endpoint body state around : Id _) = ((response?, next), after)) :
    next.worker.IsIdle := by
  cases endpoint with
  | health =>
    cases done
    exact idle
  | build =>
    cases read : payloadOf body with
    | error refusal? =>
      cases (answer_unread (by decide) read state around).symm.trans done
      exact idle
    | ok payload =>
      simp only [answer, read, answerBuild] at done
      cases understood : Build.Request.ofJson (.obj payload) with
      | error failure =>
        simp only [understood] at done
        cases done
        exact idle
      | ok request =>
        simp only [understood] at done
        rcases built : (inSession.carry (build app.services.toServices request)
          (state.session, around) : Id _) with ⟨result, session, ended⟩
        obtain ⟨worker, ready, answered⟩ := runBuild_of_build idle built
        cases answered.symm.trans done
        exact ready
  | publish =>
    cases read : payloadOf body with
    | error refusal? =>
      cases (answer_unread (by decide) read state around).symm.trans done
      exact idle
    | ok payload =>
      simp only [answer, read, answerPublish] at done
      cases given : (Record.get payload "source").string? with
      | none =>
        simp only [given] at done
        cases done
        exact idle
      | some source =>
        simp only [given] at done
        cases done
        exact idle

/-- Answering a request leaves no job about. -/
theorem idle_of_respond {app : App (StateM σ)} {request : Request} {state next : State}
    (idle : state.worker.IsIdle) {around after : σ} {response : Response}
    (done : (respond app request state around : Id _) = ((response, next), after)) :
    next.worker.IsIdle := by
  cases route : request.route with
  | leads endpoint =>
    simp only [respond, route] at done
    split at done
    · rcases answered : (answer app endpoint request.body state around : Id _) with
        ⟨⟨response?, last⟩, ended⟩
      simp only [bind, StateT.bind, answered] at done
      cases done
      exact idle_of_answer idle answered
    · cases done
      exact idle
  | _ =>
    simp only [respond, route] at done
    cases done
    exact idle

/-- Between requests no job is about. -/
theorem idle_of_reached {app : App (StateM σ)} {state : State} {around : σ}
    (reached : Reached app state around) : state.worker.IsIdle := by
  induction reached with
  | start hands session around => exact Worker.isIdle_start_withHands hands
  | answered request _ done idle => exact idle_of_respond idle done

/-! ## Sending -/

/-- A response that is sent tells the name of the server. -/
theorem named_of_encodable {response : Response} (encodable : response.body.Encodable) :
    named (some response) = { response with server := some serverName } := by
  have none : Text.unencodable? response.body = none :=
    (Text.unencodable?_eq_none_iff _).mpr encodable
  simp [named, Response.sendable?, none]

/-- A response that has no bytes is an unexpected failure. -/
theorem named_of_not_encodable {response : Response} (lone : ¬ response.body.Encodable) :
    named (some response) = .unexpected := by
  have some : (Text.unencodable? response.body).isSome = true := by
    rw [Option.isSome_iff_ne_none, ne_eq, Text.unencodable?_eq_none_iff]
    exact lone
  simp [named, Response.sendable?, some]

/-- A request that is posted to an endpoint. -/
def Request.post (endpoint : Endpoint) (body : List UInt8) : Request :=
  { method := "POST", route := .leads endpoint, body := body }

/-- Posting to the path of an endpoint is posting to the endpoint. -/
theorem ofAddress_post {path : Text} {endpoint : Endpoint} (known : (path, endpoint) ∈ endpoints)
    (body : List UInt8) : Request.ofAddress "POST" path body = .ok (.post endpoint body) := by
  have leads : (Route.ofAddress endpoints path).toOption = some (.leads endpoint) := by
    simp only [endpoints, List.mem_cons, Prod.mk.injEq, List.not_mem_nil, or_false] at known
    rcases known with ⟨rfl, rfl⟩ | ⟨rfl, rfl⟩ | ⟨rfl, rfl⟩ <;> decide +kernel
  cases route : Route.ofAddress endpoints path with
  | error cause => simp [route, Except.toOption] at leads
  | ok route' =>
    rw [route] at leads
    cases leads
    rw [Request.ofAddress, route]
    rfl

/-- A request that is posted to an endpoint for it is answered there. -/
theorem respond_post {app : App (StateM σ)} {endpoint : Endpoint} (posts : endpoint ≠ .health)
    {body : List UInt8} {state next : State} {around after : σ} {response? : Option Response}
    (done : (answer app endpoint body state around : Id _) = ((response?, next), after)) :
    (respond app (.post endpoint body) state around : Id _) = ((named response?, next), after) := by
  have able : endpoint.methods.contains (Request.post endpoint body).method = true := by
    cases endpoint with
    | health => exact absurd rfl posts
    | _ => rfl
  have leads : (Request.post endpoint body).route = .leads endpoint := rfl
  simp only [respond, leads, able, ↓reduceIte]
  simp only [bind, StateT.bind, Request.post, done]
  rfl

/-! ## What is meant, and the gaps -/

/-- The statuses of the answers of an endpoint that are meant. -/
def Endpoint.statuses : Endpoint → List Nat
  | .build => [200, 400]
  | .publish => [200, 400, 422]
  | .health => [200]

section

variable (limit : Nat) (tools : Tools (StateM σ)) (body : List UInt8) (before : Session × σ)

/-- What comes of a build in a session, and the session it leaves. -/
def buildIn (request : Build.Request) : Except Failure Result × Session × σ :=
  inSession.carry (build (Build.Services.ofTools limit tools) request) before

/-- What comes of a page in a session, and the session it leaves. -/
def publishIn (source : Text) (site : Json) : Except Failure Text × Session × σ :=
  inSession.carry (Publish.publishFor (Publish.Services.ofTools limit tools) source site) before

/-- The answers to a body that are meant. -/
inductive Meant : Endpoint → Response → Prop
  /-- The body is no object. -/
  | noObject (endpoint : Endpoint) (read : payloadOf body = .error (some noObjectResponse)) :
    Meant endpoint noObjectResponse
  /-- The request for a build is not understood. -/
  | refused {payload : Record} {failure : Failure} (read : payloadOf body = .ok payload)
    (failed : Build.Request.ofJson (.obj payload) = .error failure) (told : failure.IsRefused) :
    Meant .build (errorResponse 400 (.str failure.text))
  /-- The build comes to a result. -/
  | built {payload : Record} {request : Build.Request} {result : Result} {ended : Session × σ}
    (read : payloadOf body = .ok payload)
    (understood : Build.Request.ofJson (.obj payload) = .ok request)
    (done : buildIn limit tools before request = (.ok result, ended)) :
    Meant .build (jsonResponse 200 result.toJson)
  /-- The source of a page is no text. -/
  | noSource {payload : Record} (read : payloadOf body = .ok payload)
    (missing : (Record.get payload "source").string? = none) :
    Meant .publish (errorResponse 400 (.str "source must be a string"))
  /-- The page comes to a document. -/
  | document {payload : Record} {source document : Text} {ended : Session × σ}
    (read : payloadOf body = .ok payload)
    (given : (Record.get payload "source").string? = some source)
    (done : publishIn limit tools before source (Record.get payload "site") =
      (.ok document, ended)) :
    Meant .publish (htmlResponse document)
  /-- The page comes to a message for the author. -/
  | told {payload : Record} {source : Text} {error : BuildError} {ended : Session × σ}
    (read : payloadOf body = .ok payload)
    (given : (Record.get payload "source").string? = some source)
    (done : publishIn limit tools before source (Record.get payload "site") =
      (.error (.build error), ended)) :
    Meant .publish (errorResponse 422 error.message)

/-- The gaps through which a body leads to an unexpected failure. -/
inductive Gap : Endpoint → Prop
  /-- The body is nested too deeply. -/
  | deep (endpoint : Endpoint) (read : payloadOf body = .error none) : Gap endpoint
  /-- A part of the request is asked for members, and it is neither empty nor an object. -/
  | shape {payload : Record} {failure : Failure} (read : payloadOf body = .ok payload)
    (failed : Build.Request.ofJson (.obj payload) = .error failure)
    (untold : ¬ failure.IsRefused) (broken : ¬ Build.Request.Shaped payload) :
    Gap .build
  /-- The build comes to no result: a part of a section is no text, or the first failure tells a
  column that is too far to the right. -/
  | unbuilt {payload : Record} {request : Build.Request} {failure : Failure} {ended : Session × σ}
    (read : payloadOf body = .ok payload)
    (understood : Build.Request.ofJson (.obj payload) = .ok request)
    (failed : buildIn limit tools before request = (.error failure, ended))
    (reason : (∃ source ∈ request.sources.toList, ¬ source.IsPlain) ∨
      ∃ column cause, FirstFailure (tools.services limit) request before column (.error cause)
        ended ∧ TooFarRight column cause) :
    Gap .build
  /-- The page comes neither to a document nor to a message for the author. -/
  | unpublished {payload : Record} {source : Text} {failure : Failure} {ended : Session × σ}
    (read : payloadOf body = .ok payload)
    (given : (Record.get payload "source").string? = some source)
    (failed : publishIn limit tools before source (Record.get payload "site") =
      (.error failure, ended))
    (untold : ∀ error, failure ≠ .build error)
    (reason : Publish.Hindrance limit tools source (Record.get payload "site") before) :
    Gap .publish
  /-- The answer that is meant holds a lone surrogate, which has no bytes. -/
  | unsendable {endpoint : Endpoint} {response : Response}
    (meant : Meant limit tools body before endpoint response) (lone : ¬ response.body.Encodable) :
    Gap endpoint

end

variable {body : List UInt8} {before : Session × σ} {endpoint : Endpoint}

/-- The answers that are meant have the statuses that are meant. -/
theorem Meant.status_mem {response : Response}
    (meant : Meant limit tools body before endpoint response) (posts : endpoint ≠ .health) :
    response.status ∈ endpoint.statuses := by
  cases meant with
  | noObject =>
    cases endpoint with
    | health => exact absurd rfl posts
    | _ => simp [Endpoint.statuses, noObjectResponse, errorResponse, jsonResponse]
  | _ => simp [Endpoint.statuses, errorResponse, jsonResponse, htmlResponse]

/-- There is one answer that is meant. -/
theorem Meant.unique {response other : Response}
    (meant : Meant limit tools body before endpoint response)
    (again : Meant limit tools body before endpoint other) : response = other := by
  cases meant <;> cases again <;> simp_all

/-- Where an answer is meant that can be sent, there is no gap. -/
theorem Meant.not_gap {response : Response}
    (meant : Meant limit tools body before endpoint response)
    (encodable : response.body.Encodable) : ¬ Gap limit tools body before endpoint := by
  rintro gap
  cases gap with
  | unsendable other lone => exact lone (meant.unique other ▸ encodable)
  | unpublished _ _ _ untold => cases meant <;> grind
  | _ => cases meant <;> simp_all

/-! ## Answers -/

/-- Where a body holds no object, there is one refusal. -/
theorem eq_noObjectResponse {refusal : Response}
    (read : payloadOf body = .error (some refusal)) : refusal = noObjectResponse := by
  unfold payloadOf at read
  split at read
  · cases read
  · cases read
  · cases read
    rfl

/-- A body without an object is refused as it is meant, or it is nested too deeply. -/
theorem meant_or_gap_unread {refusal? : Option Response} (read : payloadOf body = .error refusal?) :
    (∃ response, refusal? = some response ∧ Meant limit tools body before endpoint response) ∨
      refusal? = none ∧ Gap limit tools body before endpoint := by
  cases refusal? with
  | none => exact .inr ⟨rfl, .deep endpoint read⟩
  | some refusal =>
    obtain rfl := eq_noObjectResponse read
    exact .inl ⟨_, rfl, .noObject endpoint read⟩

/-- A request that fails as refusals do is refused with the reason. -/
theorem refusal?_of_isRefused {failure : Failure} (told : failure.IsRefused) :
    refusal? failure = some (errorResponse 400 (.str failure.text)) := by
  cases failure with
  | misuse cause =>
    cases cause with
    | noMember => exact told.elim
    | _ => rfl
  | badOption => rfl
  | _ => exact told.elim

/-- A request that fails otherwise fails unexpectedly. -/
theorem refusal?_of_not_isRefused {failure : Failure} (untold : ¬ failure.IsRefused) :
    refusal? failure = none := by
  cases failure with
  | misuse cause =>
    cases cause with
    | noMember => rfl
    | _ => exact absurd trivial untold
  | badOption => exact absurd trivial untold
  | _ => rfl

/-- A build that comes to no result has a section with a part that is no text, or its first failure
tells a column that is too far to the right. -/
theorem reason_of_buildIn (documented : tools.Documented) {payload : Record}
    {request : Build.Request} (understood : Build.Request.ofJson (.obj payload) = .ok request)
    {failure : Failure} {ended : Session × σ}
    (failed : buildIn limit tools before request = (.error failure, ended)) :
    (∃ source ∈ request.sources.toList, ¬ source.IsPlain) ∨
      ∃ column cause, FirstFailure (tools.services limit) request before column (.error cause)
        ended ∧ TooFarRight column cause := by
  by_cases plain : ∀ source ∈ request.sources.toList, source.IsPlain
  · rw [buildIn, inSession.carry_build] at failed
    rcases build_outcome (documented_ofTools documented limit)
        ⟨plain, Build.Request.strings_of_ofJson understood⟩ failed with
      ⟨_, message, _, _, same⟩ | ⟨code, _, same⟩ | ⟨column, cause, first, far, _⟩
    · cases same
    · cases same
    · exact .inr ⟨column, cause, first, far⟩
  · push Not at plain
    exact .inl plain

/-- A request for a build is answered as it is meant, or there is a gap. -/
theorem answer_build (documented : tools.Documented) (body : List UInt8) {state : State}
    (idle : state.worker.IsIdle) (around : σ) :
    ∃ response? next after,
      (answer (App.ofTools limit tools) .build body state around : Id _) =
        ((response?, next), after) ∧
      ((∃ response, response? = some response ∧
          Meant limit tools body (state.session, around) .build response) ∨
        response? = none ∧ Gap limit tools body (state.session, around) .build) := by
  cases read : payloadOf body with
  | error refusal? =>
    exact ⟨refusal?, state, around, answer_unread (by decide) read state around,
      meant_or_gap_unread read⟩
  | ok payload =>
    cases understood : Build.Request.ofJson (.obj payload) with
    | error failure =>
      refine ⟨refusal? failure, state, around,
        by simp only [answer, read, answerBuild, understood]; rfl, ?_⟩
      by_cases told : failure.IsRefused
      · exact .inl ⟨_, refusal?_of_isRefused told, .refused read understood told⟩
      · have broken : ¬ Build.Request.Shaped payload := fun shaped =>
          told (Build.Request.failsOnly_ofJson shaped failure understood)
        exact .inr ⟨refusal?_of_not_isRefused told, .shape read understood told broken⟩
    | ok request =>
      rcases built : buildIn limit tools (state.session, around) request with
        ⟨result, session, ended⟩
      have made : (inSession.carry (build (App.ofTools limit tools).services.toServices request)
        (state.session, around) : Id _) = (result, (session, ended)) := built
      obtain ⟨worker, -, done⟩ := runBuild_of_build idle made
      refine ⟨_, _, _, by simp only [answer, read, answerBuild, understood]; exact done, ?_⟩
      cases result with
      | ok result => exact .inl ⟨_, rfl, .built read understood built⟩
      | error failure =>
        exact .inr ⟨rfl, .unbuilt read understood built
          (reason_of_buildIn documented understood built)⟩

/-- A request for a page is answered as it is meant, or there is a gap. -/
theorem answer_publish (documented : tools.Documented) (renders : tools.Renders)
    (body : List UInt8) (state : State) (around : σ) :
    ∃ response? next after,
      (answer (App.ofTools limit tools) .publish body state around : Id _) =
        ((response?, next), after) ∧
      ((∃ response, response? = some response ∧
          Meant limit tools body (state.session, around) .publish response) ∨
        response? = none ∧ Gap limit tools body (state.session, around) .publish) := by
  cases read : payloadOf body with
  | error refusal? =>
    exact ⟨refusal?, state, around, answer_unread (by decide) read state around,
      meant_or_gap_unread read⟩
  | ok payload =>
    cases given : (Record.get payload "source").string? with
    | none =>
      exact ⟨_, state, around, by simp only [answer, read, answerPublish, given]; rfl,
        .inl ⟨_, rfl, .noSource read given⟩⟩
    | some source =>
      rcases published : publishIn limit tools (state.session, around) source
        (Record.get payload "site") with ⟨result, session, ended⟩
      have done : (answer (App.ofTools limit tools) .publish body state around : Id _) =
          ((pageResponse? result, { state with session := session }), ended) := by
        have run := run_of_carry published
        simp only [answer, read, answerPublish, given, StateT.run, bind, StateT.bind,
          App.ofTools, run]
        rfl
      refine ⟨_, _, _, done, ?_⟩
      cases result with
      | ok document => exact .inl ⟨_, rfl, .document read given published⟩
      | error failure =>
        by_cases told : ∃ error, failure = .build error
        · obtain ⟨error, rfl⟩ := told
          exact .inl ⟨_, rfl, .told read given published⟩
        · have untold : pageResponse? (.error failure) = none := by
            cases failure with
            | build error => exact absurd ⟨error, rfl⟩ told
            | _ => rfl
          have reason :=
            (Publish.publishFor_eq_error documented renders published).resolve_left told
          exact .inr ⟨untold, .unpublished read given published (not_exists.mp told) reason⟩

/-- Tools that answer every call with the code and the markup of a page. -/
def obliging : Tools (StateM Nat) where
  run _ := fun count =>
    (.ok (.obj [("code", .str "export default 1;"), ("body", .str "<p>Hello</p>")]), count + 1)
  request _ := fun count => (.error (.transport "no network"), count)

theorem documented_obliging : obliging.Documented where
  raise call before failure after raised := by cases raised
  report call before fields after report answered reported := by
    cases answered
    cases reported
  request url before failure after raised := by cases raised

theorem renders_obliging : obliging.Renders where
  answer code props before answer after answered := by
    cases answered
    exact ⟨_, rfl, .null, .str _⟩

/-- Tools that report an error whatever they are asked. -/
def complaining : Tools (StateM Nat) where
  run _ := fun count =>
    (.ok (.obj [("error", .obj [("message", .str "Unexpected token")])]), count + 1)
  request _ := fun count => (.error (.transport "no network"), count)

theorem documented_complaining : complaining.Documented where
  raise call before failure after raised := by cases raised
  report call before fields after report answered reported := by
    cases answered
    cases reported
    exact .null
  request url before failure after raised := by cases raised

theorem renders_complaining : complaining.Renders where
  answer code props before answer after answered := by
    cases answered
    exact ⟨_, rfl, .null, .null⟩

/-- The bytes of an object. -/
def bodyOf (payload : Record) : List UInt8 :=
  (Text.toString ((Json.obj payload).write .script)).toUTF8.toList

/-- An object is read from the bytes of its text. -/
theorem payloadOf_bodyOf {payload : Record}
    (decoded : Text.decodeDetected? (bodyOf payload) = some ((Json.obj payload).write .script))
    (readable : Json.Readable (fun _ => True) Json.nestingLimit (.obj payload))
    (back : (Json.obj payload).RealsReadBack) : payloadOf (bodyOf payload) = .ok payload := by
  have plain : Json.Readable (fun text => false = true → text.IsJoined) Json.nestingLimit
      (.obj payload) :=
    Json.readable_iff.mpr ⟨readable, fun _ _ => nofun⟩
  have read : Json.read ((Json.obj payload).write .script) = .ok (.obj payload) := by
    rw [Json.Style.script_eq]
    exact Json.read_write Json.shields_id plain back
  rw [payloadOf, decoded, Option.map_some, read]

/-- What a server that was just started answers to bytes that are posted to an address. -/
def firstAnswer? (tools : Tools (StateM Nat)) (address : Text) (body : List UInt8) :
    Option Response :=
  match Request.ofAddress "POST" address body with
  | .error _ => none
  | .ok request => some (respond (.ofTools 9 tools) request (.start 2 {}) 0 : Id _).1.1

/-- The message for the author in what comes of a page. -/
def authorMessage? : Except Failure Text → Option Text
  | .error (.build error) => error.message.string?
  | _ => none

end Server
end SiteBuild
