import Mathlib
import SiteBuild.Proofs.Sessions

/-!
# Builds that share their caches

Tasks that share a session take their turns in any order, and the session forgets at any time.
A task whose question is answered comes no nearer to another result, a task that waits has another
one to wait for, and every step leaves less to do. Main statement: the tasks come, after no more
steps than can be told beforehand, to the results that the same requests have alone
(`shared_results_alone`).
-/
namespace SiteBuild.Build

variable {tools : Tools Id} {shop next : Workshop}

/-! ## What comes of a task -/

namespace Task

/-- What a task comes to when every question gets the reply of the services. -/
def outcome (tools : Tools Id) : Task → Except Failure Result
  | .ready course => course.outcome tools
  | .away question next => (next (tools.reply question)).outcome tools
  | .waiting question next => (next (tools.reply question)).outcome tools

/-- The number of replies that a task needs until then. -/
def needs (tools : Tools Id) : Task → Nat
  | .ready course => course.length tools
  | .away question next => (next (tools.reply question)).length tools + 1
  | .waiting question next => (next (tools.reply question)).length tools + 1

/-- Whether a task can go on by itself. -/
def isReady : Task → Bool
  | .ready _ => true
  | _ => false

/-- A task that is woken comes to what it would have come to. -/
@[simp] theorem outcome_wake (answered : Question) (task : Task) :
    (task.wake answered).outcome tools = task.outcome tools := by
  cases task with
  | ready course => rfl
  | away question next => rfl
  | waiting question next =>
    simp only [wake]
    split <;> rfl

/-- A task that is woken needs as many replies as before. -/
@[simp] theorem needs_wake (answered : Question) (task : Task) :
    (task.wake answered).needs tools = task.needs tools := by
  cases task with
  | ready course => rfl
  | away question next => rfl
  | waiting question next =>
    simp only [wake]
    split <;> rfl

/-- A task that has come to its end has come to its outcome. -/
theorem outcome_of_result {task : Task} {result : Except Failure Result}
    (ended : task.result? = some result) : task.outcome tools = result := by
  cases task with
  | ready course =>
    cases course with
    | done value => exact Option.some.inj ended
    | ask question next => cases ended
  | away question next => cases ended
  | waiting question next => cases ended

end Task

/-! ## Steps of a workshop -/

namespace Workshop

/-- The step of one task, by what becomes of its question. -/
inductive Went (tools : Tools Id) : Workshop → Workshop → Prop where
  /-- The reply is at hand. -/
  | replied {session later : Session} {before after : List Task} {question : Question}
      {next : question.Reply → Course (Except Failure Result)} {value : question.Reply}
      (asked : session.ask question = (.reply value, later)) :
      Went tools ⟨session, before ++ .ready (.ask question next) :: after⟩
        ⟨later, before ++ .ready (next value) :: after⟩
  /-- Another task has asked the same. -/
  | waited {session later : Session} {before after : List Task} {question : Question}
      {next : question.Reply → Course (Except Failure Result)}
      (asked : session.ask question = (.wait, later)) :
      Went tools ⟨session, before ++ .ready (.ask question next) :: after⟩
        ⟨later, before ++ .waiting question next :: after⟩
  /-- The question goes to the service. -/
  | left {session later : Session} {before after : List Task} {question : Question}
      {next : question.Reply → Course (Except Failure Result)}
      (asked : session.ask question = (.leave, later)) :
      Went tools ⟨session, before ++ .ready (.ask question next) :: after⟩
        ⟨later, before ++ .away question next :: after⟩
  /-- The service answers. -/
  | answered {session : Session} {before after : List Task} {question : Question}
      {next : question.Reply → Course (Except Failure Result)} :
      Went tools ⟨session, before ++ .away question next :: after⟩
        ⟨(session.answer tools question).2,
          (before ++ .ready (next (tools.reply question)) :: after).map (Task.wake question)⟩

/-- Every step of a workshop is the step of one task. -/
theorem went_of_go {index : Nat} (went : shop.go? tools index = some next) :
    Went tools shop next := by
  obtain ⟨session, tasks⟩ := shop
  simp only [go?] at went
  cases place : tasks[index]? with
  | none =>
    rw [place] at went
    cases went
  | some task =>
    obtain ⟨bound, same⟩ := List.getElem?_eq_some_iff.mp place
    have whole : tasks = tasks.take index ++ task :: tasks.drop (index + 1) := by
      rw [← same, ← List.drop_eq_getElem_cons bound, List.take_append_drop]
    have changed (other : Task) :
        tasks.set index other = tasks.take index ++ other :: tasks.drop (index + 1) := by
      rw [List.set_eq_take_append_cons_drop, if_pos bound]
    generalize tasks.take index = before at whole changed
    generalize tasks.drop (index + 1) = after at whole changed
    rw [place] at went
    cases task with
    | waiting question course => cases went
    | away question course =>
      cases went
      simp only [answer, put, wake, answer_reply, changed]
      rw [whole]
      exact .answered
    | ready course =>
      cases course with
      | done value => cases went
      | ask question course =>
        cases went
        cases opening : session.ask question with
        | mk opened later =>
          cases opened with
          | reply value =>
            simp only [ask, opening, put, changed]
            rw [whole]
            exact .replied opening
          | wait =>
            simp only [ask, opening, put, changed]
            rw [whole]
            exact .waited opening
          | leave =>
            simp only [ask, opening, put, changed]
            rw [whole]
            exact .left opening

/-- The results that the tasks come to. -/
def outcomes (tools : Tools Id) (shop : Workshop) : List (Except Failure Result) :=
  shop.tasks.map (Task.outcome tools)

/-- Whether a workshop is in order: its session is right, every sheet with the tool is the
question of a task, and every task that waits asks for such a sheet. -/
structure InOrder (tools : Tools Id) (shop : Workshop) : Prop where
  /-- The session keeps what the services would reply. -/
  right : shop.session.Right tools
  /-- A sheet with the tool is the question of a task. -/
  carried : ∀ css ∈ shop.session.styles.inFlight,
    ∃ next, Task.away (.flatten css) next ∈ shop.tasks
  /-- A task that waits asks for a sheet with the tool. -/
  awaited : ∀ question next, Task.waiting question next ∈ shop.tasks →
    ∃ css, question = .flatten css ∧ shop.session.styles.inFlight.any css.same = true

/-- A workshop with nothing but requests is in order. -/
theorem inOrder_ofRequests (tools : Tools Id) (limit : Nat) (requests : List Request) :
    (ofRequests limit requests).InOrder tools where
  right := Session.Right.fresh tools
  carried _ member := nomatch member
  awaited question next member := by
    obtain ⟨request, _, same⟩ := List.mem_map.mp member
    cases same

/-- A task comes no nearer to another result by going on. -/
theorem Went.outcomes (went : Went tools shop next) (right : shop.session.Right tools)
    (uniform : tools.Uniform) : next.outcomes tools = shop.outcomes tools := by
  cases went with
  | @replied session later before after question course value asked =>
    have same : value = tools.reply question := right.at_hand uniform asked
    simp only [Workshop.outcomes, List.map_append, List.map_cons, same]
    rfl
  | waited asked => simp only [Workshop.outcomes, List.map_append, List.map_cons]; rfl
  | left asked => simp only [Workshop.outcomes, List.map_append, List.map_cons]; rfl
  | answered =>
    simp only [Workshop.outcomes, List.map_map]
    rw [show Task.outcome tools ∘ Task.wake _ = Task.outcome tools from
      funext (Task.outcome_wake _)]
    simp only [List.map_append, List.map_cons]
    rfl

/-- A step leaves the session right. -/
theorem Went.right (went : Went tools shop next) (right : shop.session.Right tools) :
    next.session.Right tools := by
  cases went with
  | replied asked => exact right.ask asked
  | waited asked => exact right.ask asked
  | left asked => exact right.ask asked
  | answered => exact right.answer _

/-- After a step, every sheet with the tool is still the question of a task. -/
theorem Went.carried (went : Went tools shop next) (order : shop.InOrder tools) :
    ∀ css ∈ next.session.styles.inFlight,
      ∃ course, Task.away (.flatten css) course ∈ next.tasks := by
  intro css member
  cases went with
  | replied asked =>
    rw [inFlight_of_reply asked] at member
    obtain ⟨course, task⟩ := order.carried css member
    refine ⟨course, ?_⟩
    simpa using task
  | waited asked =>
    rw [(inFlight_of_wait asked).1] at member
    obtain ⟨course, task⟩ := order.carried css member
    refine ⟨course, ?_⟩
    simpa using task
  | @left session later before after question course asked =>
    rcases (inFlight_of_leave asked css).mp member with same | before
    · subst same
      exact ⟨course, by simp⟩
    · obtain ⟨other, task⟩ := order.carried css before
      refine ⟨other, ?_⟩
      rcases List.mem_append.mp task with first | second
      · exact List.mem_append_left _ first
      · simp at second
        exact List.mem_append_right _ (List.mem_cons_of_mem _ second)
  | @answered session before after question course =>
    obtain ⟨known, apart⟩ := (inFlight_of_answer question css).mp member
    obtain ⟨other, task⟩ := order.carried css known
    refine ⟨other, List.mem_map.mpr ⟨.away (.flatten css) other, ?_, rfl⟩⟩
    have differs : Task.away (.flatten css) other ≠ .away question course := by
      intro same
      cases same
      simp [Question.sameSheet, Key.same] at apart
    simpa [differs] using task

/-- After a step, every task that waits still asks for a sheet with the tool. -/
theorem Went.awaited (went : Went tools shop next) (order : shop.InOrder tools) :
    ∀ question course, Task.waiting question course ∈ next.tasks →
      ∃ css, question = .flatten css ∧ next.session.styles.inFlight.any css.same = true := by
  intro question course member
  cases went with
  | replied asked =>
    rw [inFlight_of_reply asked]
    exact order.awaited question course (by simpa using member)
  | waited asked =>
    obtain ⟨kept, css, same, busy⟩ := inFlight_of_wait asked
    rw [kept]
    simp only [List.mem_append, List.mem_cons] at member
    rcases member with first | new | second
    · exact order.awaited question course (by simp [first])
    · cases new
      exact ⟨css, same, busy⟩
    · exact order.awaited question course (by simp [second])
  | left asked =>
    have before := order.awaited question course (by simpa using member)
    obtain ⟨css, same, busy⟩ := before
    refine ⟨css, same, ?_⟩
    obtain ⟨sheet, known, equal⟩ := List.any_eq_true.mp busy
    exact List.any_eq_true.mpr ⟨sheet, (inFlight_of_leave asked sheet).mpr (.inr known), equal⟩
  | @answered session before after answered later =>
    obtain ⟨task, known, woken⟩ := List.mem_map.mp member
    cases task with
    | ready course => cases woken
    | away question course => cases woken
    | waiting asked other =>
      simp only [Task.wake] at woken
      split at woken
      · cases woken
      · rename_i apart
        cases woken
        obtain ⟨css, rfl, busy⟩ := order.awaited question course (by simpa using known)
        obtain ⟨sheet, with_tool, equal⟩ := List.any_eq_true.mp busy
        refine ⟨css, rfl, List.any_eq_true.mpr ⟨sheet, ?_, equal⟩⟩
        refine (inFlight_of_answer answered sheet).mpr ⟨with_tool, ?_⟩
        cases answered with
        | flatten raw =>
          exact Bool.eq_false_iff.mpr fun back => apart (same_of_same back equal)
        | fetch url => rfl
        | compile source options moduleId => rfl
        | link payload => rfl

/-- A step leaves the workshop in order. -/
theorem Went.inOrder (went : Went tools shop next) (order : shop.InOrder tools) :
    next.InOrder tools :=
  ⟨went.right order.right, went.carried order, went.awaited order⟩

/-- The number of replies that all tasks need. -/
def needs (tools : Tools Id) (shop : Workshop) : Nat :=
  (shop.tasks.map (Task.needs tools)).sum

/-- What is left to do: the replies that are needed, each of which may let all tasks go on, and
the tasks that can go on by themselves. -/
def effort (tools : Tools Id) (shop : Workshop) : Nat :=
  (shop.tasks.length + 1) * shop.needs tools + shop.tasks.countP Task.isReady

/-- With one reply less to come there is less to do, whichever tasks can go on. -/
theorem effort_lt_of_reply (same : next.tasks.length = shop.tasks.length)
    (fewer : shop.needs tools = next.needs tools + 1) : next.effort tools < shop.effort tools := by
  have few : next.tasks.countP Task.isReady ≤ next.tasks.length := List.countP_le_length
  have whole : shop.effort tools = (next.tasks.length + 1) * next.needs tools +
      (next.tasks.length + 1) + shop.tasks.countP Task.isReady := by
    rw [effort, fewer, ← same, Nat.mul_succ]
  rw [whole, effort]
  omega

/-- With one task less that can go on there is less to do. -/
theorem effort_lt_of_ready (same : next.tasks.length = shop.tasks.length)
    (equal : next.needs tools = shop.needs tools)
    (fewer : next.tasks.countP Task.isReady < shop.tasks.countP Task.isReady) :
    next.effort tools < shop.effort tools := by
  rw [effort, effort, same, equal]
  exact Nat.add_lt_add_left fewer _

/-- Every step leaves less to do. -/
theorem Went.effort_lt (went : Went tools shop next) (right : shop.session.Right tools)
    (uniform : tools.Uniform) : next.effort tools < shop.effort tools := by
  cases went with
  | @replied session later before after question course value asked =>
    have same : value = tools.reply question := right.at_hand uniform asked
    refine effort_lt_of_reply (by simp) ?_
    simp only [needs, List.map_append, List.map_cons, List.sum_append, List.sum_cons, same,
      Task.needs, Course.length]
    omega
  | waited asked =>
    refine effort_lt_of_ready (by simp) ?_ ?_
    · simp only [needs, List.map_append, List.map_cons]
      rfl
    · simp [List.countP_cons, Task.isReady]
  | left asked =>
    refine effort_lt_of_ready (by simp) ?_ ?_
    · simp only [needs, List.map_append, List.map_cons]
      rfl
    · simp [List.countP_cons, Task.isReady]
  | @answered session before after question course =>
    refine effort_lt_of_reply (by simp) ?_
    have woken : Task.needs tools ∘ Task.wake question = Task.needs tools :=
      funext (Task.needs_wake question)
    simp only [needs, List.map_map, woken]
    simp only [List.map_append, List.map_cons, List.sum_append, List.sum_cons, Task.needs]
    omega

/-- As long as a task has not come to its end, one is able to go on. -/
theorem InOrder.go_isSome (order : shop.InOrder tools) {task : Task} (member : task ∈ shop.tasks)
    (open_ : task.result? = none) : ∃ index, (shop.go? tools index).isSome := by
  have of_away (question : Question) (course : question.Reply → Course (Except Failure Result))
      (known : Task.away question course ∈ shop.tasks) :
      ∃ index, (shop.go? tools index).isSome := by
    obtain ⟨index, bound, place⟩ := List.mem_iff_getElem.mp known
    refine ⟨index, ?_⟩
    simp [go?, List.getElem?_eq_getElem bound, place]
  cases task with
  | ready course =>
    cases course with
    | done value => cases open_
    | ask question course =>
      obtain ⟨index, bound, place⟩ := List.mem_iff_getElem.mp member
      refine ⟨index, ?_⟩
      simp [go?, List.getElem?_eq_getElem bound, place]
  | away question course => exact of_away question course member
  | waiting question course =>
    obtain ⟨css, _, busy⟩ := order.awaited question course member
    obtain ⟨sheet, known, _⟩ := List.any_eq_true.mp busy
    obtain ⟨other, task⟩ := order.carried sheet known
    exact of_away (.flatten sheet) other task

/-! ## Runs -/

/-- Whether a turn is the step of a task. -/
def isStep : Turn → Bool
  | .go _ => true
  | .clearModules => false
  | .clearStyles => false

/-- What turns make of a workshop: it stays in order, its tasks come to the same results, and
every step leaves less to do. -/
structure Kept (tools : Tools Id) (shop next : Workshop) (steps : Nat) : Prop where
  /-- The workshop stays in order. -/
  order : next.InOrder tools
  /-- The tasks come to the same results. -/
  outcomes : next.outcomes tools = shop.outcomes tools
  /-- The steps are paid for by what was left to do. -/
  paid : steps + next.effort tools ≤ shop.effort tools

/-- What a turn makes of a workshop. -/
theorem InOrder.turn (order : shop.InOrder tools) (uniform : tools.Uniform) (turn : Turn)
    (taken : shop.turn? tools turn = some next) :
    Kept tools shop next (if isStep turn then 1 else 0) := by
  cases turn with
  | go index =>
    have went := went_of_go taken
    refine ⟨went.inOrder order, went.outcomes order.right uniform, ?_⟩
    have less := went.effort_lt order.right uniform
    simp only [isStep, if_true]
    omega
  | clearModules =>
    cases taken
    refine ⟨⟨⟨order.right.sheets, ?_⟩, order.carried, order.awaited⟩, rfl, ?_⟩
    · intro entry kept
      cases kept
    · exact Nat.le_of_eq (Nat.zero_add _)
  | clearStyles =>
    cases taken
    refine ⟨⟨⟨?_, order.right.texts⟩, order.carried, order.awaited⟩, rfl, ?_⟩
    · intro entry kept
      cases kept
    · exact Nat.le_of_eq (Nat.zero_add _)

/-- What a run makes of a workshop. -/
theorem InOrder.run (order : shop.InOrder tools) (uniform : tools.Uniform) (turns : List Turn)
    (runs : shop.run? tools turns = some next) :
    Kept tools shop next (turns.countP isStep) := by
  induction turns generalizing shop with
  | nil =>
    cases runs
    exact ⟨order, rfl, by simp⟩
  | cons turn rest tail =>
    obtain ⟨between, taken, runs⟩ := Option.bind_eq_some_iff.mp runs
    have first := order.turn uniform turn taken
    have others := tail first.order runs
    refine ⟨others.order, others.outcomes.trans first.outcomes, ?_⟩
    have before := first.paid
    have behind := others.paid
    rw [List.countP_cons]
    omega

/-- The results that requests come to are those they have alone. -/
theorem outcomes_ofRequests (uniform : tools.Uniform) (limit : Nat) (requests : List Request) :
    (ofRequests limit requests).outcomes tools = requests.map (tools.buildAlone limit) := by
  simp only [outcomes, ofRequests, List.map_map]
  congr 1
  funext request
  exact Course.outcome_ofRequest uniform limit request

/-- **Shared caches.** Requests share a session, and it forgets what it keeps at any time. Then
every task that has come to its end has the result that its request has alone; when no task is
able to go on, all have come to their ends; and there is a bound on the steps of all runs. The tool
has to flatten sheets alike that are the same key, which a truth value and its integer are; of
sheets that are texts it holds by itself. -/
theorem shared_results_alone (limit : Nat) (tools : Tools Id) (uniform : tools.Uniform)
    (requests : List Request) :
    ∃ bound, ∀ (turns : List Turn) (shop : Workshop),
      (ofRequests limit requests).run? tools turns = some shop →
        turns.countP isStep ≤ bound ∧
        (∀ (index : Nat) result, (shop.tasks[index]?.bind Task.result?) = some result →
          (requests[index]?.map (tools.buildAlone limit)) = some result) ∧
        ((∀ index, shop.go? tools index = none) →
          shop.tasks.map Task.result? =
            requests.map fun request => some (tools.buildAlone limit request)) := by
  refine ⟨(ofRequests limit requests).effort tools, ?_⟩
  intro turns shop runs
  have kept := (inOrder_ofRequests tools limit requests).run uniform turns runs
  have alone : shop.tasks.map (Task.outcome tools) = requests.map (tools.buildAlone limit) :=
    kept.outcomes.trans (outcomes_ofRequests uniform limit requests)
  refine ⟨Nat.le_of_add_right_le kept.paid, ?_, ?_⟩
  · intro index result ended
    obtain ⟨task, place, ended⟩ := Option.bind_eq_some_iff.mp ended
    rw [← List.getElem?_map, ← alone, List.getElem?_map, place, Option.map_some,
      Task.outcome_of_result ended]
  · intro stuck
    have ended (task : Task) (member : task ∈ shop.tasks) :
        task.result? = some (task.outcome tools) := by
      cases result : task.result? with
      | some value => rw [Task.outcome_of_result result]
      | none =>
        obtain ⟨index, able⟩ := kept.order.go_isSome member result
        rw [stuck index] at able
        cases able
    calc shop.tasks.map Task.result?
        = shop.tasks.map fun task => some (task.outcome tools) := List.map_congr_left ended
      _ = (shop.tasks.map (Task.outcome tools)).map some := by rw [List.map_map]; rfl
      _ = (requests.map (tools.buildAlone limit)).map some := by rw [alone]
      _ = requests.map fun request => some (tools.buildAlone limit request) := by
        rw [List.map_map]; rfl

/-- Tools with one answer for each kind of call, and a network with one module. -/
def steady : Tools Id where
  run
    | .flatten _ => .ok (.obj [("css", .str "a \x7b\x7d")])
    | .compile _ _ => .ok (.obj [("code", .str "import 'https://esm.sh/m.js';")])
    | .link _ => .ok (.obj [("code", .str "export \x7b\x7d;")])
    | .render _ _ => .ok .null
  request _ := .ok { status := 200, text := "export default 1;" }

/-- A page with one sheet, for the server or for the browser. -/
def sheetPage (buildStatic : Bool) : Request where
  sources := .single (.parts { html := "<p>1</p>", css := "a \x7b b \x7b\x7d \x7d" })
  options := { buildStatic }

/-- The second of two builds waits for the sheet of the first, and takes it when it is kept; then
the first comes to its end, the sheets are forgotten, and the second finds its module fetched. -/
def sharingTurns : List Turn :=
  [.go 0, .go 1, .go 0, .go 1] ++ List.replicate 6 (.go 0) ++
    .clearStyles :: List.replicate 5 (.go 1)

/-- Whether the builds of two pages have come to their ends, after one sheet and one module were
found at hand. -/
def hasShared (shop : Workshop) : Bool :=
  shop.tasks.length = 2 && (shop.go? steady 0).isNone && (shop.go? steady 1).isNone &&
    shop.session.styles.hits = 1 && shop.session.cache.hits = 1 &&
    shop.tasks.map (fun task => task.result?.bind Except.toOption) =
      [some { ssr := "export \x7b\x7d;" }, some { dom := "export \x7b\x7d;" }]

/-- Two different requests that share a kept sheet and a fetched module have the bundles that they
have alone. -/
theorem shared_results_two_pages :
    ∃ shop : Workshop,
      (ofRequests 9 [sheetPage true, sheetPage false]).run? steady sharingTurns = some shop ∧
        shop.hasShared = true ∧
        shop.tasks.map Task.result? =
          [some (steady.buildAlone 9 (sheetPage true)),
            some (steady.buildAlone 9 (sheetPage false))] := by
  have ended : ((ofRequests 9 [sheetPage true, sheetPage false]).run? steady sharingTurns).any
      hasShared = true := by
    decide +kernel
  obtain ⟨shop, runs, shared⟩ := (Option.any_eq_true _ _).mp ended
  obtain ⟨_, every⟩ :=
    shared_results_alone 9 steady (fun _ _ _ => rfl) [sheetPage true, sheetPage false]
  refine ⟨shop, runs, shared, (every _ shop runs).2.2 ?_⟩
  simp only [hasShared, Bool.and_eq_true, decide_eq_true_eq, Option.isNone_iff_eq_none] at shared
  obtain ⟨⟨⟨⟨⟨two, first⟩, second⟩, _⟩, _⟩, _⟩ := shared
  intro index
  match index with
  | 0 => exact first
  | 1 => exact second
  | index + 2 =>
    have beyond : shop.tasks[index + 2]? = none := List.getElem?_eq_none (by omega)
    simp only [go?, beyond]

end Workshop
end SiteBuild.Build
