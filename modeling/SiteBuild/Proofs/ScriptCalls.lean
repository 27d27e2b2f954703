import SiteBuild.Bridge
import SiteBuild.Proofs.DataReader
import SiteBuild.Proofs.DecodedBytes

/-!
# Calls of scripts

A script is called after the version of the runtime was asked for, which is done once for all
calls. What the system sees of a call are the processes that are started for it, and what a call
gives is the value that the script printed or an error of the bridge. Main statement: which calls,
after any others, give what is documented (`run_isDocumented_iff`); the others are those whose
processes are refused by something other than the system, or whose script prints what is no text
or goes beyond what is read of data.
-/
namespace SiteBuild.Bridge

/-! ## What the system sees -/

/-- What a process does, or why it does not start. -/
abbrev Outcome := Except SpawnError Child

/-- Whether a process does not start, does not end in time or ends with an error. -/
def Fails : Outcome → Prop
  | .error _ => True
  | .ok process => process.hangs = true ∨ process.code ≠ 0

/-- Whether something other than the system refuses a process. -/
def IsForeign : Outcome → Prop
  | .error cause => cause.bySystem = false
  | .ok _ => False

/-- What the system is asked to do. -/
inductive Event where
  /-- It starts a process with its arguments, with or without an input. -/
  | started (arguments : List Text) (input : Bool) (outcome : Outcome)
  /-- It hands a text to the process. -/
  | sent (text : Text)
  /-- It kills the process. -/
  | killed
  /-- It waits for the end of the process. -/
  | waited

/-- What comes of a version check. -/
def Event.check? : Event → Option Outcome
  | .started [_, option] false outcome =>
    if option = Text.ofString "--version" then some outcome else none
  | _ => none

/-- What comes of a script. -/
def Event.script? : Event → Option Outcome
  | .started _ true outcome => some outcome
  | _ => none

/-- What comes of the version checks, in order. -/
def checks (seen : List Event) : List Outcome := seen.filterMap Event.check?

/-- What comes of the scripts, in order. -/
def scripts (seen : List Event) : List Outcome := seen.filterMap Event.script?

/-- What comes of a process, which may hang on everything that the system has seen before. -/
structure Machine where
  /-- What comes of a process with some arguments, with or without an input. -/
  outcome : List Event → List Text → Bool → Outcome

/-- A system on a machine that keeps what it sees. -/
def Machine.host (machine : Machine) : Host (StateM (List Event)) where
  spawn arguments input seen :=
    let outcome := machine.outcome seen arguments input
    (outcome, seen ++ [.started arguments input outcome])
  send text seen := ((), seen ++ [.sent text])
  kill seen := ((), seen ++ [.killed])
  wait seen := ((), seen ++ [.waited])

section Steps

variable {α β : Type} (machine : Machine) (seen : List Event)

/-- A step behind another starts where the first one ends. -/
theorem run_bind (first : StateM (List Event) α) (next : α → StateM (List Event) β) :
    ((first >>= next).run seen : Id _) = (next (first.run seen).1).run (first.run seen).2 :=
  rfl

/-- Nothing is seen of a step that asks nothing of the system. -/
theorem run_pure (value : α) :
    ((pure value : StateM (List Event) α).run seen : Id _) = (value, seen) :=
  rfl

/-- A process is seen with what comes of it. -/
theorem run_spawn (arguments : List Text) (input : Bool) :
    ((machine.host.spawn arguments input).run seen : Id _) =
      (machine.outcome seen arguments input,
        seen ++ [.started arguments input (machine.outcome seen arguments input)]) :=
  rfl

/-- A text that is sent is seen. -/
theorem run_send (text : Text) :
    ((machine.host.send text).run seen : Id _) = ((), seen ++ [.sent text]) :=
  rfl

/-- A process that does not end is killed and waited for. -/
theorem run_abandon :
    ((Runtime.abandon machine.host).run seen : Id _) = ((), seen ++ [.killed, .waited]) := by
  change ((), seen ++ [.killed] ++ [.waited]) = _
  rw [List.append_assoc]
  rfl

end Steps

/-! ## Calls one after the other -/

/-- A runtime and what the system has seen of it. -/
structure Session where
  /-- The runtime. -/
  runtime : Runtime
  /-- What the system has seen. -/
  seen : List Event

/-- A call of the bridge. -/
inductive Call where
  /-- Ask whether the runtime works. -/
  | ask (surroundings : Surroundings)
  /-- Run a script with a value. -/
  | run (surroundings : Surroundings) (script : Text) (payload : Json)

namespace Session

/-- A runtime that was not used yet. -/
def fresh (command : Option Text) (timeout : Json) : Session where
  runtime := { command := command, timeout := timeout }
  seen := []

variable (machine : Machine) (surroundings : Surroundings)

/-- Ask whether the runtime works. -/
def ask (session : Session) : Except SpawnError Bool × Session :=
  let ((answer, runtime), seen) :=
    (session.runtime.ensureAvailable machine.host surroundings).run session.seen
  (answer, { runtime, seen })

/-- Run a script with a value. -/
def run (script : Text) (payload : Json) (session : Session) :
    Except BridgeError Json × Session :=
  let ((result, runtime), seen) :=
    (session.runtime.runScript machine.host surroundings script payload).run session.seen
  (result, { runtime, seen })

/-- The session after a call. -/
def perform (session : Session) : Call → Session
  | .ask surroundings => (session.ask machine surroundings).2
  | .run surroundings script payload => (session.run machine surroundings script payload).2

/-- The session after calls, one after the other. -/
def after (session : Session) (calls : List Call) : Session := calls.foldl (perform machine) session

end Session

/-! ## What a call does -/

/-- What may come of the question whether a runtime works: the answer, the runtime after it and
what the system sees of it. -/
inductive Asked (before : Runtime) : Except SpawnError Bool → Runtime → List Event → Prop where
  /-- The answer is known. -/
  | known {works : Bool} (known : before.available = some works) :
      Asked before (.ok works) before []
  /-- Something other than the system refuses the check, so that nothing is known after it. -/
  | refused {cause : SpawnError} {next : Runtime} {new : List Event}
      (unknown : before.available = none) (foreign : cause.bySystem = false)
      (checked : checks new = [.error cause]) (quiet : scripts new = [])
      (still : next.available = none) (timeout : next.timeout = before.timeout) :
      Asked before (.error cause) next new
  /-- The check tells whether the runtime works. -/
  | checked {outcome : Outcome} {works : Bool} {next : Runtime} {new : List Event}
      (unknown : before.available = none) (own : ¬IsForeign outcome)
      (checked : checks new = [outcome]) (quiet : scripts new = [])
      (told : works = true ↔ ¬Fails outcome) (known : next.available = some works)
      (timeout : next.timeout = before.timeout) : Asked before (.ok works) next new

/-- What a script gives if its process comes to an outcome. -/
def resultOf (runtime : Runtime) (script : Text) : Outcome → Except BridgeError Json
  | .error cause => .error (.notStarted cause)
  | .ok process =>
    if runtime.hasNoTime || process.hangs then .error (.timedOut script runtime.timeout)
    else Runtime.answerOf script process

/-- What may come of a call of a script: the result, the runtime after it and what the system sees
of it. -/
inductive Ran (before : Runtime) (script : Text) :
    Except BridgeError Json → Runtime → List Event → Prop where
  /-- The version check is refused. -/
  | refused {cause : SpawnError} {next : Runtime} {new : List Event}
      (asked : Asked before (.error cause) next new) :
      Ran before script (.error (.notStarted cause)) next new
  /-- The runtime does not work. -/
  | unavailable {next : Runtime} {new : List Event} (asked : Asked before (.ok false) next new) :
      Ran before script (.error .unavailable) next new
  /-- The runtime works, and one process is started for the script. -/
  | started {outcome : Outcome} {next last : Runtime} {new more : List Event}
      (asked : Asked before (.ok true) next new) (unchecked : checks more = [])
      (started : scripts more = [outcome]) (same : last.available = next.available) :
      Ran before script (resultOf before script outcome) last (new ++ more)

/-- The version that a check tells, if the runtime works. -/
def versionOf : Outcome → Except SpawnError (Option Text)
  | .error cause => if cause.bySystem then .ok none else .error cause
  | .ok process =>
    if process.hangs || process.code != 0 then .ok none
    else .ok (some (Text.trim (Text.decodeLossy process.stdout)))

/-- Only something other than the system keeps a check from telling anything. -/
theorem versionOf_eq_error_iff {outcome : Outcome} {cause : SpawnError} :
    versionOf outcome = .error cause ↔ outcome = .error cause ∧ cause.bySystem = false := by
  cases outcome with
  | error other =>
    simp only [versionOf]
    split
    · simp only [reduceCtorEq, Except.error.injEq, false_iff]
      rintro ⟨rfl, foreign⟩
      simp_all
    · simp only [Except.error.injEq]
      constructor
      · rintro rfl
        exact ⟨rfl, by simp_all⟩
      · exact And.left
  | ok process =>
    simp only [versionOf]
    split <;> simp

/-- A version is told exactly if the check does not fail. -/
theorem isSome_versionOf {outcome : Outcome} {version : Option Text}
    (told : versionOf outcome = .ok version) : version.isSome = true ↔ ¬Fails outcome := by
  cases outcome with
  | error cause =>
    simp only [versionOf] at told
    split at told <;> cases told
    simp [Fails]
  | ok process =>
    simp only [versionOf] at told
    split at told <;> cases told <;> simp_all [Fails]

/-- A version check is one process. -/
theorem run_askVersion (machine : Machine) (command : Text) (seen : List Event) :
    ∃ outcome new, ((Runtime.askVersion machine.host command).run seen : Id _) =
        (versionOf outcome, seen ++ new) ∧ checks new = [outcome] ∧ scripts new = [] := by
  refine ⟨machine.outcome seen [command, "--version"] false, ?_⟩
  simp only [Runtime.askVersion, run_bind, run_spawn]
  generalize machine.outcome seen [command, "--version"] false = outcome
  cases outcome with
  | error cause =>
    exact ⟨[.started [command, "--version"] false (.error cause)], by rw [versionOf, run_pure],
      rfl, rfl⟩
  | ok process =>
    simp only [versionOf]
    cases process.hangs with
    | true =>
      refine ⟨[.started [command, "--version"] false (.ok process), .killed, .waited], ?_, rfl,
        rfl⟩
      simp only [if_true, Bool.true_or, run_bind, run_abandon, run_pure, List.append_assoc,
        List.singleton_append]
    | false =>
      refine ⟨[.started [command, "--version"] false (.ok process)], ?_, rfl, rfl⟩
      cases process.code != 0 <;> rfl

/-- What comes of the question whether a runtime works. -/
theorem exists_asked (machine : Machine) (surroundings : Surroundings) (runtime : Runtime)
    (seen : List Event) :
    ∃ answer next new, ((runtime.ensureAvailable machine.host surroundings).run seen : Id _) =
        ((answer, next), seen ++ new) ∧ Asked runtime answer next new := by
  cases available : runtime.available with
  | some works =>
    refine ⟨.ok works, runtime, [], ?_, .known available⟩
    simp only [Runtime.ensureAvailable, available, run_pure, List.append_nil]
  | none =>
    obtain ⟨outcome, new, asked, checked, quiet⟩ :=
      run_askVersion machine (runtime.commandIn surroundings) seen
    simp only [Runtime.ensureAvailable, available, run_bind, asked]
    cases told : versionOf outcome with
    | error cause =>
      obtain ⟨rfl, foreign⟩ := versionOf_eq_error_iff.mp told
      exact ⟨.error cause, runtime.settled surroundings, new, rfl,
        .refused available foreign checked quiet available rfl⟩
    | ok version =>
      have own : ¬IsForeign outcome := by
        intro foreign
        cases outcome with
        | error cause =>
          rw [versionOf_eq_error_iff.mpr ⟨rfl, foreign⟩] at told
          cases told
        | ok process => exact foreign
      exact ⟨.ok version.isSome, _, new, rfl,
        .checked available own checked quiet (isSome_versionOf told) rfl rfl⟩

/-- A question leaves the time that scripts have. -/
theorem Asked.timeout_eq {before next : Runtime} {answer : Except SpawnError Bool}
    {new : List Event} (asked : Asked before answer next new) : next.timeout = before.timeout := by
  cases asked with
  | known => rfl
  | refused _ _ _ _ _ timeout => exact timeout
  | checked _ _ _ _ _ _ timeout => exact timeout

/-- A script that was started starts nothing more. -/
theorem run_converse (machine : Machine) (runtime : Runtime) (script : Text) (payload : Json)
    (process : Child) (seen : List Event) :
    ∃ more, ((runtime.converse machine.host script payload process).run seen : Id _) =
        (resultOf runtime script (.ok process), seen ++ more) ∧
      checks more = [] ∧ scripts more = [] := by
  cases time : runtime.hasNoTime with
  | true =>
    refine ⟨[.killed, .waited], ?_, rfl, rfl⟩
    simp only [Runtime.converse, resultOf, time, run_bind, run_abandon, run_pure, Bool.not_true,
      Bool.false_eq_true, if_false, Bool.true_or, if_true]
  | false =>
    cases ends : process.hangs with
    | true =>
      refine ⟨[.sent (payload.write .plain), .killed, .waited], ?_, rfl, rfl⟩
      simp only [Runtime.converse, resultOf, time, ends, run_bind, run_send, run_abandon, run_pure,
        Bool.not_false, Bool.or_true, if_true, List.append_assoc, List.singleton_append]
    | false =>
      refine ⟨[.sent (payload.write .plain)], ?_, rfl, rfl⟩
      simp only [Runtime.converse, resultOf, time, ends, run_bind, run_send, run_pure,
        Bool.not_false, Bool.or_false, Bool.false_eq_true, if_false, if_true]

/-- What a script gives hangs on the time that it has, and on nothing else of the runtime. -/
theorem resultOf_congr {first second : Runtime} (same : first.timeout = second.timeout)
    (script : Text) (outcome : Outcome) :
    resultOf first script outcome = resultOf second script outcome := by
  cases outcome with
  | error cause => rfl
  | ok process =>
    have time : first.hasNoTime = second.hasNoTime := by simp only [Runtime.hasNoTime, same]
    simp only [resultOf, time, same]

/-- What comes of a call of a script. -/
theorem exists_ran (machine : Machine) (surroundings : Surroundings) (script : Text)
    (payload : Json) (runtime : Runtime) (seen : List Event) :
    ∃ result next new,
      ((runtime.runScript machine.host surroundings script payload).run seen : Id _) =
          ((result, next), seen ++ new) ∧ Ran runtime script result next new := by
  obtain ⟨answer, next, new, asked, came⟩ := exists_asked machine surroundings runtime seen
  simp only [Runtime.runScript, run_bind, asked]
  cases answer with
  | error cause => exact ⟨_, next, new, rfl, .refused came⟩
  | ok works =>
    cases works with
    | false => exact ⟨_, next, new, rfl, .unavailable came⟩
    | true =>
      simp only [run_bind, run_spawn]
      generalize machine.outcome (seen ++ new) _ true = outcome
      have given : resultOf (next.settled surroundings) script outcome =
          resultOf runtime script outcome := resultOf_congr came.timeout_eq script outcome
      cases outcome with
      | error cause =>
        have ran : Ran runtime script (resultOf runtime script (.error cause))
            (next.settled surroundings)
            (new ++ [.started [(next.settled surroundings).commandIn surroundings, script] true
              (.error cause)]) := .started came rfl rfl rfl
        exact ⟨_, _, _, by rw [run_pure, List.append_assoc]; rfl, ran⟩
      | ok process =>
        simp only [run_bind]
        obtain ⟨more, answered, unchecked, unscripted⟩ :=
          run_converse machine (next.settled surroundings) script payload process
            (seen ++ new ++ [.started [(next.settled surroundings).commandIn surroundings, script]
              true (.ok process)])
        rw [answered, given]
        simp only [run_pure, List.append_assoc, List.singleton_append]
        exact ⟨_, _, _, rfl, .started came unchecked (congrArg _ unscripted) rfl⟩

/-! ## What is known of the runtime -/

/-- Whether what is known of a runtime is what the checks of its version told: all but the last
were refused by something other than the system, and the last told whether it works. -/
def Knows : Option Bool → List Outcome → Prop
  | none, checked => ∀ outcome ∈ checked, IsForeign outcome
  | some works, checked => ∃ earlier last, checked = earlier ++ [last] ∧
      (∀ outcome ∈ earlier, IsForeign outcome) ∧ ¬IsForeign last ∧ (works = true ↔ ¬Fails last)

/-- If the system decides about all checks, there is one that tells whether the runtime works. -/
theorem Knows.eq_singleton {works : Bool} {checked : List Outcome}
    (knows : Knows (some works) checked) (own : ∀ outcome ∈ checked, ¬IsForeign outcome) :
    ∃ last, checked = [last] ∧ (works = true ↔ ¬Fails last) := by
  obtain ⟨earlier, last, rfl, foreign, -, told⟩ := knows
  cases earlier with
  | nil => exact ⟨last, rfl, told⟩
  | cons first earlier =>
    exact absurd (foreign first List.mem_cons_self) (own first List.mem_cons_self)

theorem checks_append (first second : List Event) :
    checks (first ++ second) = checks first ++ checks second :=
  List.filterMap_append

theorem scripts_append (first second : List Event) :
    scripts (first ++ second) = scripts first ++ scripts second :=
  List.filterMap_append

/-- A question keeps what is known in line with the checks. -/
theorem Asked.knows {before next : Runtime} {answer : Except SpawnError Bool}
    {seen new : List Event} (asked : Asked before answer next new)
    (knows : Knows before.available (checks seen)) :
    Knows next.available (checks (seen ++ new)) := by
  rw [checks_append]
  cases asked with
  | known => simpa [checks] using knows
  | refused unknown foreign checked _ still _ =>
    rw [unknown] at knows
    rw [still, checked]
    intro outcome member
    rcases List.mem_append.mp member with earlier | last
    · exact knows outcome earlier
    · obtain rfl := List.mem_singleton.mp last
      exact foreign
  | checked unknown own checked _ told known _ =>
    rw [unknown] at knows
    rw [known, checked]
    exact ⟨_, _, rfl, knows, own, told⟩

/-- So does a call of a script. -/
theorem Ran.knows {before next : Runtime} {script : Text} {result : Except BridgeError Json}
    {seen new : List Event} (ran : Ran before script result next new)
    (knows : Knows before.available (checks seen)) :
    Knows next.available (checks (seen ++ new)) := by
  cases ran with
  | refused asked => exact asked.knows knows
  | unavailable asked => exact asked.knows knows
  | started asked unchecked _ same =>
    have told := asked.knows knows
    rw [checks_append] at told
    rwa [same, checks_append, checks_append, unchecked, List.append_nil]

namespace Session

/-- Whether what is known in a session is what the checks told. -/
def IsInformed (session : Session) : Prop :=
  Knows session.runtime.available (checks session.seen)

/-- One call keeps a session informed. -/
theorem isInformed_perform {session : Session} (informed : session.IsInformed)
    (machine : Machine) (call : Call) : (session.perform machine call).IsInformed := by
  cases call with
  | ask surroundings =>
    obtain ⟨answer, next, new, asked, came⟩ :=
      exists_asked machine surroundings session.runtime session.seen
    simp only [perform, ask, asked]
    exact came.knows informed
  | run surroundings script payload =>
    obtain ⟨result, next, new, called, ran⟩ :=
      exists_ran machine surroundings script payload session.runtime session.seen
    simp only [perform, run, called]
    exact ran.knows informed

/-- Calls one after the other keep a session informed. -/
theorem isInformed_after {session : Session} (informed : session.IsInformed) (machine : Machine)
    (calls : List Call) : (session.after machine calls).IsInformed := by
  induction calls generalizing session with
  | nil => exact informed
  | cons call calls tail => exact tail (isInformed_perform informed machine call)

/-- Before the first call nothing is known. -/
theorem isInformed_fresh (command : Option Text) (timeout : Json) :
    (fresh command timeout).IsInformed := by
  simp [IsInformed, fresh, checks, Knows]

end Session

/-! ## What scripts print -/

/-- Whether bytes are those of a text that a value fills. -/
def Encodes (stdout : List UInt8) (value : Json) : Prop :=
  ∃ text, Text.encode text = .ok stdout ∧ text.head? ≠ some (.scalar '\ufeff') ∧
    ∃ rest, Json.Reads Json.nestingLimit (Json.skipSpace text) value rest ∧
      Json.skipSpace rest = []

/-- Whether a text goes beyond what is read of data. -/
def GoesBeyond (text : Text) : Prop :=
  ∃ error, Json.read text = .error error ∧ error.label ≠ "JSONDecodeError"

/-- Whether bytes are not those of a text, or those of a text that goes beyond what is read of
data. -/
def IsUnreadable (stdout : List UInt8) : Prop :=
  ∀ text, Text.encode text = .ok stdout → GoesBeyond text

/-- Whether an error is one that calls are documented to give. -/
def BridgeError.IsDocumented (error : BridgeError) : Prop :=
  error = .unavailable ∨ error.label = "NodeScriptError" ∧ ∀ cause, error ≠ .notStarted cause

/-- Bytes encode what is read of their text. -/
theorem encodes_iff {stdout : List UInt8} {value : Json} :
    Encodes stdout value ↔ ∃ text, Text.encode text = .ok stdout ∧ Json.read text = .ok value := by
  simp only [Encodes, Json.read, Json.readNested_eq_ok_iff]

/-- Bytes that encode a value can be read. -/
theorem Encodes.not_isUnreadable {stdout : List UInt8} {value : Json}
    (encodes : Encodes stdout value) : ¬IsUnreadable stdout := by
  intro unreadable
  obtain ⟨text, encoded, found⟩ := encodes_iff.mp encodes
  obtain ⟨fault, beyond, -⟩ := unreadable text encoded
  rw [found] at beyond
  cases beyond

/-- What a script gives that ends in time with exit code zero. -/
theorem answerOf_of_code {script : Text} {process : Child} (zero : process.code = 0) :
    Runtime.answerOf script process =
      match Text.decode? process.stdout with
      | none => .error .noText
      | some output => (Json.read output).mapError (.noJson script) := by
  unfold Runtime.answerOf
  exact if_neg (by simp [zero])

/-- A script that ends in time gives the value that its whole output encodes, if its exit code is
zero. -/
theorem answerOf_eq_ok_iff {script : Text} {process : Child} {value : Json} :
    Runtime.answerOf script process = .ok value ↔
      process.code = 0 ∧ Encodes process.stdout value := by
  by_cases zero : process.code = 0
  · rw [answerOf_of_code zero, encodes_iff]
    simp only [zero, true_and, ← Text.decode?_eq_some_iff]
    cases decoded : Text.decode? process.stdout with
    | none => simp
    | some output =>
      cases found : Json.read output <;> simp [Except.mapError, found]
  · simp [Runtime.answerOf, zero]

/-- The errors that it gives are documented, unless its exit code is zero and its output cannot be
read. -/
theorem isDocumented_of_answerOf {script : Text} {process : Child} {error : BridgeError}
    (given : Runtime.answerOf script process = .error error) :
    error.IsDocumented ↔ ¬(process.code = 0 ∧ IsUnreadable process.stdout) := by
  by_cases zero : process.code = 0
  · rw [answerOf_of_code zero] at given
    simp only [zero, true_and, IsUnreadable, ← Text.decode?_eq_some_iff]
    cases decoded : Text.decode? process.stdout with
    | none =>
      rw [decoded] at given
      cases given
      simp [BridgeError.IsDocumented, BridgeError.label]
    | some output =>
      rw [decoded] at given
      cases found : Json.read output with
      | ok value =>
        simp only [found] at given
        cases given
      | error fault =>
        simp only [found] at given
        cases given
        have label : (BridgeError.noJson script fault).label = "NodeScriptError" ↔
            fault.label = "JSONDecodeError" := by
          obtain ⟨problem, offset, line, column⟩ := fault
          cases problem <;> simp [BridgeError.label, Json.ReadError.label]
        simp [BridgeError.IsDocumented, GoesBeyond, found, label]
  · have failed : error = .failed script process.code (Text.decodeLossy process.stderr) := by
      simpa [Runtime.answerOf, zero] using given.symm
    simp [failed, zero, BridgeError.IsDocumented, BridgeError.label]

/-! ## Calls and their documentation -/

/-- Whether a call of a script gives what is documented, of all that the system has seen and what
is new with the call. -/
structure IsDocumentedCall (seen new : List Event) (result : Except BridgeError Json) : Prop where
  /-- A value is what the whole output of the script encodes, which ends with exit code zero. -/
  values : ∀ value, result = .ok value → ∃ process, scripts new = [.ok process] ∧
    process.hangs = false ∧ process.code = 0 ∧ Encodes process.stdout value
  /-- Errors are those of the bridge. -/
  errors : ∀ error, result = .error error → error.IsDocumented
  /-- The runtime is said not to work exactly if the first check of its version failed. -/
  unavailable : result = .error .unavailable ↔
    ∃ outcome, (checks seen).head? = some outcome ∧ Fails outcome
  /-- The version is checked at most once. -/
  once : (checks seen).length ≤ 1

/-- What a call of a script is not prepared for. -/
inductive IsUnforeseen (runtime : Runtime) (seen new : List Event) : Prop where
  /-- Something other than the system refuses a check of the version. -/
  | check {outcome : Outcome} (checked : outcome ∈ checks seen) (foreign : IsForeign outcome)
  /-- The script does not start. -/
  | script {cause : SpawnError} (refused : .error cause ∈ scripts new)
  /-- The script ends in time with exit code zero, but what it prints cannot be read. -/
  | output {process : Child} (ended : .ok process ∈ scripts new)
      (time : runtime.hasNoTime = false) (ends : process.hangs = false)
      (zero : process.code = 0) (unreadable : IsUnreadable process.stdout)

/-- A question starts no script. -/
theorem Asked.scripts_eq {before next : Runtime} {answer : Except SpawnError Bool}
    {new : List Event} (asked : Asked before answer next new) : scripts new = [] := by
  cases asked with
  | known => rfl
  | refused _ _ _ quiet _ _ => exact quiet
  | checked _ _ _ quiet _ _ _ => exact quiet

/-- What is known after a question is its answer. -/
theorem Asked.available_eq {before next : Runtime} {answer : Except SpawnError Bool}
    {new : List Event} (asked : Asked before answer next new) :
    next.available = answer.toOption := by
  cases asked with
  | known known => exact known
  | refused _ _ _ _ still _ => exact still
  | checked _ _ _ _ _ known _ => exact known

/-- What a call gives, by what is known after it. -/
theorem Ran.result_eq {before next : Runtime} {script : Text} {result : Except BridgeError Json}
    {new : List Event} (ran : Ran before script result next new) :
    (∃ cause, cause.bySystem = false ∧ .error cause ∈ checks new ∧ scripts new = [] ∧
        result = .error (.notStarted cause)) ∨
      (next.available = some false ∧ scripts new = [] ∧ result = .error .unavailable) ∨
      next.available = some true ∧ ∃ outcome, scripts new = [outcome] ∧
        result = resultOf before script outcome := by
  cases ran with
  | refused asked =>
    cases asked with
    | refused _ foreign checked quiet _ _ =>
      exact .inl ⟨_, foreign, by rw [checked]; exact List.mem_singleton_self _, quiet, rfl⟩
  | unavailable asked => exact .inr (.inl ⟨asked.available_eq, asked.scripts_eq, rfl⟩)
  | started asked _ started same =>
    refine .inr (.inr ⟨same.trans asked.available_eq, _, ?_, rfl⟩)
    rw [scripts_append, asked.scripts_eq, started, List.nil_append]

/-- A script that has no time or does not end in it gives the error that says so. -/
theorem resultOf_late {runtime : Runtime} {script : Text} {process : Child}
    (late : ¬(runtime.hasNoTime = false ∧ process.hangs = false)) :
    resultOf runtime script (.ok process) = .error (.timedOut script runtime.timeout) := by
  rw [resultOf, if_pos]
  simp only [Bool.or_eq_true]
  by_contra timely
  simp only [not_or, Bool.not_eq_true] at timely
  exact late timely

/-- A script that ends in time answers. -/
theorem resultOf_timely {runtime : Runtime} {script : Text} {process : Child}
    (time : runtime.hasNoTime = false) (ends : process.hangs = false) :
    resultOf runtime script (.ok process) = Runtime.answerOf script process := by
  rw [resultOf, if_neg (by simp [time, ends])]

/-- What a script gives if it gives a value. -/
theorem resultOf_eq_ok_iff {runtime : Runtime} {script : Text} {outcome : Outcome}
    {value : Json} : resultOf runtime script outcome = .ok value ↔
      ∃ process, outcome = .ok process ∧ runtime.hasNoTime = false ∧ process.hangs = false ∧
        process.code = 0 ∧ Encodes process.stdout value := by
  cases outcome with
  | error cause => simp [resultOf]
  | ok process =>
    by_cases timely : runtime.hasNoTime = false ∧ process.hangs = false
    · rw [resultOf_timely timely.1 timely.2, answerOf_eq_ok_iff]
      simp [timely]
    · rw [resultOf_late timely]
      simp only [reduceCtorEq, Except.ok.injEq, exists_eq_left', false_iff]
      rintro ⟨time, ends, -⟩
      exact timely ⟨time, ends⟩

/-- It is not said of a script that the runtime does not work. -/
theorem resultOf_ne_unavailable (runtime : Runtime) (script : Text) (outcome : Outcome) :
    resultOf runtime script outcome ≠ .error .unavailable := by
  cases outcome with
  | error cause => simp [resultOf]
  | ok process =>
    by_cases timely : runtime.hasNoTime = false ∧ process.hangs = false
    · rw [resultOf_timely timely.1 timely.2]
      by_cases zero : process.code = 0
      · rw [answerOf_of_code zero]
        cases Text.decode? process.stdout with
        | none => simp
        | some output => cases found : Json.read output <;> simp [Except.mapError, found]
      · simp [Runtime.answerOf, zero]
    · rw [resultOf_late timely]
      simp

/-- Which errors of a script are documented. -/
theorem isDocumented_of_resultOf {runtime : Runtime} {script : Text} {outcome : Outcome}
    {error : BridgeError} (given : resultOf runtime script outcome = .error error) :
    error.IsDocumented ↔ ∃ process, outcome = .ok process ∧
      ¬(runtime.hasNoTime = false ∧ process.hangs = false ∧ process.code = 0 ∧
        IsUnreadable process.stdout) := by
  cases outcome with
  | error cause =>
    cases given
    simp [BridgeError.IsDocumented]
  | ok process =>
    by_cases timely : runtime.hasNoTime = false ∧ process.hangs = false
    · rw [resultOf_timely timely.1 timely.2] at given
      rw [isDocumented_of_answerOf given]
      simp [timely]
    · rw [resultOf_late timely] at given
      cases given
      have documented : (BridgeError.timedOut script runtime.timeout).IsDocumented :=
        .inr ⟨rfl, nofun⟩
      simp only [documented, Except.ok.injEq, exists_eq_left', true_iff]
      rintro ⟨time, ends, -⟩
      exact timely ⟨time, ends⟩

/-- In a call that gives what is documented every process is started. -/
theorem IsDocumentedCall.ne_notStarted {seen new : List Event} {result : Except BridgeError Json}
    (documented : IsDocumentedCall seen new result) (cause : SpawnError) :
    result ≠ .error (.notStarted cause) := by
  intro refused
  rcases documented.errors _ refused with same | ⟨-, other⟩
  · cases same
  · exact other cause rfl

/-- In a call that gives what is documented the system decides about all checks: behind a check
that something else refused there would be another one. -/
theorem Ran.not_isForeign {before next : Runtime} {script : Text}
    {result : Except BridgeError Json} {seen new : List Event}
    (ran : Ran before script result next new) (knows : Knows next.available (checks (seen ++ new)))
    (documented : IsDocumentedCall (seen ++ new) new result) :
    ∀ outcome ∈ checks (seen ++ new), ¬IsForeign outcome := by
  intro outcome member foreign
  have once := documented.once
  cases available : next.available with
  | none =>
    rcases ran.result_eq with ⟨cause, -, -, -, refused⟩ | ⟨known, -⟩ | ⟨known, -⟩
    · exact documented.ne_notStarted cause refused
    · rw [available] at known
      cases known
    · rw [available] at known
      cases known
  | some works =>
    rw [available] at knows
    obtain ⟨earlier, last, checked, -, proper, -⟩ := knows
    rw [checked] at once member
    cases earlier with
    | nil =>
      obtain rfl := List.mem_singleton.mp member
      exact proper foreign
    | cons first earlier => simp at once

/-- Calls that give what is documented were foreseen. -/
theorem Ran.not_isUnforeseen {before next : Runtime} {script : Text}
    {result : Except BridgeError Json} {seen new : List Event}
    (ran : Ran before script result next new) (knows : Knows next.available (checks (seen ++ new)))
    (documented : IsDocumentedCall (seen ++ new) new result) :
    ¬IsUnforeseen before (seen ++ new) new := by
  have own := ran.not_isForeign knows documented
  rcases ran.result_eq with ⟨cause, -, -, -, refused⟩ | ⟨-, none, -⟩ | ⟨-, outcome, one, given⟩
  · exact absurd refused (documented.ne_notStarted cause)
  · rintro (⟨member, foreign⟩ | ⟨refused⟩ | ⟨ended, -⟩)
    · exact own _ member foreign
    · simp [none] at refused
    · simp [none] at ended
  · rintro (⟨member, foreign⟩ | ⟨refused⟩ | ⟨ended, time, ends, zero, unreadable⟩)
    · exact own _ member foreign
    · rw [one] at refused
      obtain rfl := List.mem_singleton.mp refused
      exact documented.ne_notStarted _ given
    · rw [one] at ended
      obtain rfl := List.mem_singleton.mp ended
      cases result with
      | ok value =>
        obtain ⟨_, same, -, -, -, encodes⟩ := resultOf_eq_ok_iff.mp given.symm
        cases same
        exact encodes.not_isUnreadable unreadable
      | error error =>
        obtain ⟨_, same, readable⟩ :=
          (isDocumented_of_resultOf given.symm).mp (documented.errors error rfl)
        cases same
        exact readable ⟨time, ends, zero, unreadable⟩

/-- Calls that are foreseen give what is documented. -/
theorem Ran.isDocumentedCall {before next : Runtime} {script : Text}
    {result : Except BridgeError Json} {seen new : List Event}
    (ran : Ran before script result next new) (knows : Knows next.available (checks (seen ++ new)))
    (foreseen : ¬IsUnforeseen before (seen ++ new) new) :
    IsDocumentedCall (seen ++ new) new result := by
  have own : ∀ outcome ∈ checks (seen ++ new), ¬IsForeign outcome :=
    fun outcome member foreign => foreseen (.check member foreign)
  rcases ran.result_eq with
    ⟨cause, foreign, checked, -, -⟩ | ⟨known, -, rfl⟩ | ⟨known, outcome, one, rfl⟩
  · have member : .error cause ∈ checks (seen ++ new) := by
      rw [checks_append]
      exact List.mem_append_right _ checked
    exact absurd foreign (own _ member)
  · rw [known] at knows
    obtain ⟨last, checked, told⟩ := knows.eq_singleton own
    refine ⟨nofun, ?_, ?_, by simp [checked]⟩
    · rintro error ⟨⟩
      exact .inl rfl
    · simpa [checked] using told
  · rw [known] at knows
    obtain ⟨last, checked, told⟩ := knows.eq_singleton own
    refine ⟨fun value given => ?_, fun error given => ?_, ?_, by simp [checked]⟩
    · obtain ⟨process, rfl, -, ends, zero, encodes⟩ := resultOf_eq_ok_iff.mp given
      exact ⟨process, one, ends, zero, encodes⟩
    · refine (isDocumented_of_resultOf given).mpr ?_
      cases outcome with
      | error cause =>
        have refused : .error cause ∈ scripts new := by simp [one]
        exact absurd (.script refused) foreseen
      | ok process =>
        refine ⟨process, rfl, ?_⟩
        rintro ⟨time, ends, zero, unreadable⟩
        exact foreseen (.output (by simp [one]) time ends zero unreadable)
    · simpa [checked, resultOf_ne_unavailable] using told

/-- **Which calls give what is documented.** After any calls of a runtime, whatever comes of its
processes, the call of a script gives the value that the whole output of the script encodes, or
an error of the bridge, and the version is checked at most once, exactly if nothing unforeseen
comes of a process: something other than the system refuses a check, the script does not start, or
it prints what cannot be read. -/
theorem run_isDocumented_iff (machine : Machine) (command : Option Text) (timeout : Json)
    (calls : List Call) (surroundings : Surroundings) (script : Text) (payload : Json) :
    let session := (Session.fresh command timeout).after machine calls
    ∃ result next new,
      session.run machine surroundings script payload = (result, ⟨next, session.seen ++ new⟩) ∧
        (IsDocumentedCall (session.seen ++ new) new result ↔
          ¬IsUnforeseen session.runtime (session.seen ++ new) new) := by
  intro session
  have informed : session.IsInformed :=
    Session.isInformed_after (Session.isInformed_fresh command timeout) machine calls
  obtain ⟨result, next, new, called, ran⟩ :=
    exists_ran machine surroundings script payload session.runtime session.seen
  refine ⟨result, next, new, by simp only [Session.run, called], ?_⟩
  exact ⟨ran.not_isUnforeseen (ran.knows informed), ran.isDocumentedCall (ran.knows informed)⟩

/-- A machine on which the runtime works and scripts print a byte that begins no character. -/
def unreadableMachine : Machine where
  outcome _ _ input := .ok { stdout := if input then [0xFF] else [] }

/-- A call whose script prints what is no text gives an error that is not documented. -/
theorem not_isDocumentedCall_unreadable :
    let called := (Session.fresh none (.int 30)).run unreadableMachine {} "rollup.mjs" (.obj [])
    ¬IsDocumentedCall called.2.seen called.2.seen called.1 := by
  intro called documented
  have given : called.1 = .error .noText := rfl
  rcases documented.errors .noText given with other | ⟨label, -⟩
  · cases other
  · exact absurd label (by decide)

end SiteBuild.Bridge
