import SiteBuild.Build.Run

/-!
# Builds that take turns

Several builds share the session of one builder. A build goes on until it has to ask a service
for something that is not at hand; meanwhile other builds take their turns. The course of a build
is what it does by itself, cut at its questions. A task is a build under way: it can go on, or its
question is with a service, or it waits for another task whose style sheet is with the tool. A
workshop is a session with the tasks that share it.
-/
namespace SiteBuild.Build

/-- What a build asks of its services. -/
inductive Question where
  /-- The flat form of a style sheet. -/
  | flatten (css : Key)
  /-- The text of a remote module. -/
  | fetch (url : Text)
  /-- The compiled form of a component. -/
  | compile (source : Textual) (options : Component.Options) (moduleId : Option Text)
  /-- The answer of the linker. -/
  | link (payload : Json)
  deriving Repr

/-- What is replied to a question. -/
def Question.Reply : Question → Type
  | .flatten _ => Except BuildError Textual
  | .fetch _ => Except Failure Text
  | .compile _ _ _ => Except Failure Component.Compiled
  | .link _ => Except Failure Json

/-- What a build does: it comes to its end, or asks and goes on with the reply. -/
inductive Course (α : Type) where
  /-- The end. -/
  | done (value : α)
  /-- A question, and the course behind it. -/
  | ask (question : Question) (next : question.Reply → Course α)

namespace Course

/-- One course behind another. -/
def bind {α β : Type} : Course α → (α → Course β) → Course β
  | .done value, next => next value
  | .ask question rest, next => .ask question fun reply => (rest reply).bind next

instance : Monad Course where
  pure := .done
  bind := Course.bind

/-- The services that every question is left to. -/
def services (limit : Nat) : Services Course where
  limit := limit
  flatten css := .ask (.flatten css) .done
  fetch url := .ask (.fetch url) .done
  compile source options moduleId := .ask (.compile source options moduleId) .done
  link payload := .ask (.link payload) .done

/-- The course of a build. -/
def ofRequest (limit : Nat) (request : Request) : Course (Except Failure Result) :=
  build (services limit) request

end Course

/-- A build under way. -/
inductive Task where
  /-- It can go on. -/
  | ready (course : Course (Except Failure Result))
  /-- Its question is with a service. -/
  | away (question : Question) (next : question.Reply → Course (Except Failure Result))
  /-- It waits for a task that has asked the same. -/
  | waiting (question : Question) (next : question.Reply → Course (Except Failure Result))

/-- What came of a task, if it has come to its end. -/
def Task.result? : Task → Option (Except Failure Result)
  | .ready (.done result) => some result
  | _ => none

/-- Whether two questions are about the same style sheet. -/
def Question.sameSheet : Question → Question → Bool
  | .flatten css, .flatten other => css.same other
  | _, _ => false

/-- The task after a question is answered: if it waited for that, it can go on. -/
def Task.wake (answered : Question) : Task → Task
  | .waiting question next =>
    if question.sameSheet answered then .ready (.ask question next) else .waiting question next
  | task => task

/-- What comes of a question when it is asked. -/
inductive Opening (question : Question) where
  /-- The reply is at hand. -/
  | reply (value : question.Reply)
  /-- Another task has asked the same and is not answered. -/
  | wait
  /-- The question goes to the service. -/
  | leave

/-- Ask a question. -/
def Session.ask (session : Session) : (question : Question) → Opening question × Session
  | .flatten css =>
    match session.styles.turn css with
    | (.take flat, styles) => (.reply (.ok flat), { session with styles })
    | (.wait, styles) => (.wait, { session with styles })
    | (.goToTool, styles) => (.leave, { session with styles })
  | .fetch url =>
    match session.cache.lookUp url with
    | (some text, cache) => (.reply (.ok text), { session with cache })
    | (none, cache) => (.leave, { session with cache })
  | .compile _ _ _ => (.leave, session)
  | .link _ => (.leave, session)

/-- Take in what the service says to a question. -/
def Session.answer (session : Session) (tools : Tools Id) :
    (question : Question) → question.Reply × Session
  | .flatten css =>
    let result := Style.ofAnswer (tools.run (.flatten css))
    (result, { session with styles := session.styles.finish css result })
  | .fetch url =>
    let (result, cache) := session.cache.receive url (tools.request url)
    (result, { session with cache })
  | .compile source options moduleId =>
    let run (text : Text) (chosen : Component.Options) : Id (Except Failure Json) :=
      tools.run (.compile text chosen.toJson)
    let (result, counts) := Component.compile run source options moduleId session.counts
    (result, { session with counts })
  | .link payload => (tools.run (.link payload), session)

/-- A session and the tasks that share it. -/
structure Workshop where
  /-- What the tasks share. -/
  session : Session := {}
  /-- The tasks, in the order of their requests. -/
  tasks : List Task

/-- What can happen in a workshop. -/
inductive Turn where
  /-- A task goes on to its next question, or its question is answered. -/
  | go (index : Nat)
  /-- The fetched modules are forgotten. -/
  | clearModules
  /-- The flattened style sheets are forgotten. -/
  | clearStyles
  deriving DecidableEq, Repr

namespace Workshop

/-- A workshop with nothing but requests. -/
def ofRequests (limit : Nat) (requests : List Request) : Workshop :=
  { tasks := requests.map fun request => .ready (.ofRequest limit request) }

/-- The workshop with another session and another task in one place. -/
def put (shop : Workshop) (index : Nat) (next : Task × Session) : Workshop :=
  { session := next.2, tasks := shop.tasks.set index next.1 }

/-- The tasks that wait for a question to be answered can go on. -/
def wake (shop : Workshop) (answered : Question) : Workshop :=
  { shop with tasks := shop.tasks.map (Task.wake answered) }

/-- A task asks its question. -/
def ask (shop : Workshop) (index : Nat) (question : Question)
    (next : question.Reply → Course (Except Failure Result)) : Workshop :=
  match shop.session.ask question with
  | (.reply value, session) => shop.put index (.ready (next value), session)
  | (.wait, session) => shop.put index (.waiting question next, session)
  | (.leave, session) => shop.put index (.away question next, session)

/-- The question of a task is answered. -/
def answer (tools : Tools Id) (shop : Workshop) (index : Nat) (question : Question)
    (next : question.Reply → Course (Except Failure Result)) : Workshop :=
  let (reply, session) := shop.session.answer tools question
  (shop.put index (.ready (next reply), session)).wake question

/-- The workshop after a task has gone on, if there is such a task and it is able to. -/
def go? (tools : Tools Id) (shop : Workshop) (index : Nat) : Option Workshop :=
  match shop.tasks[index]? with
  | some (.ready (.ask question next)) => some (shop.ask index question next)
  | some (.away question next) => some (shop.answer tools index question next)
  | _ => none

/-- The workshop after a turn, if it can be taken. -/
def turn? (tools : Tools Id) (shop : Workshop) : Turn → Option Workshop
  | .go index => shop.go? tools index
  | .clearModules =>
    some { shop with session := { shop.session with cache := shop.session.cache.clear } }
  | .clearStyles =>
    some { shop with session := { shop.session with styles := shop.session.styles.clear } }

/-- The workshop after turns, if they can be taken one after the other. -/
def run? (tools : Tools Id) (shop : Workshop) : List Turn → Option Workshop
  | [] => some shop
  | turn :: rest => (shop.turn? tools turn).bind fun next => next.run? tools rest

end Workshop
end SiteBuild.Build
