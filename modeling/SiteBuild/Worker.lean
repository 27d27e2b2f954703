/-!
# The worker

Jobs are posted to a worker and answered through tickets. A posted job waits in a queue; one of
the worker's hands takes it, with its ticket out of the table of open tickets, and answers the
ticket when the job is done, unless the ticket was cancelled meanwhile. Stopping the worker calls
all hands off; a hand that goes drops what it holds, and when all are gone the open tickets are
cancelled.
-/
namespace SiteBuild

/-- The state of a ticket. -/
inductive Ticket (Answer : Type) where
  /-- There is no answer yet. -/
  | waiting
  /-- There will be no answer. -/
  | cancelled
  /-- The job was done. -/
  | answered (answer : Answer)
  deriving Repr

/-- Whether a ticket has come to its end. -/
def Ticket.isSettled {Answer : Type} : Ticket Answer → Bool
  | .waiting => false
  | _ => true

/-- A worker for jobs. The number of a ticket is its place in the list of all tickets. -/
structure Worker (Job Answer : Type) where
  /-- The number of hands. -/
  hands : Nat
  /-- Whether the hands are at work. -/
  running : Bool := false
  /-- Whether the hands are called off and not all of them are known to be gone. -/
  stopping : Bool := false
  /-- The hands that are gone. -/
  gone : List Nat := []
  /-- The jobs that no hand has taken, with the numbers of their tickets, in order. -/
  queue : List (Nat × Job) := []
  /-- The numbers of the tickets that no hand has taken. -/
  pending : List Nat := []
  /-- The jobs that a hand holds: the hand, the number of the ticket and the job. -/
  busy : List (Nat × Nat × Job) := []
  /-- All tickets, in the order they were handed out. -/
  tickets : List (Ticket Answer) := []
  deriving Repr

namespace Worker

variable {Job Answer : Type}

/-- A worker that is not at work, with one hand at least. -/
def withHands (hands : Int) : Worker Job Answer := { hands := (max 1 hands).toNat }

/-- Put the hands to work, on a new queue. -/
def start (worker : Worker Job Answer) : Worker Job Answer :=
  if worker.running then worker
  else { worker with running := true, gone := [], queue := [], busy := [] }

/-- Settle a ticket that waits. -/
def settle (worker : Worker Job Answer) (number : Nat) (ticket : Ticket Answer) :
    Worker Job Answer :=
  { worker with
    tickets := worker.tickets.mapIdx fun place old =>
      if place = number && !old.isSettled then ticket else old }

/-- Post a job: it goes to the end of the queue, and its ticket is open. -/
def post (worker : Worker Job Answer) (job : Job) : Worker Job Answer :=
  let number := worker.tickets.length
  { worker with
    queue := worker.queue ++ [(number, job)]
    pending := worker.pending ++ [number]
    tickets := worker.tickets ++ [.waiting] }

/-- Post what may be no job: the hands are put to work in any case, and a job is posted under the
number that is told. -/
def submit {Refusal : Type} (worker : Worker Job Answer) (message : Except Refusal Job) :
    Except Refusal Nat × Worker Job Answer :=
  match message with
  | .error refusal => (.error refusal, worker.start)
  | .ok job => (.ok worker.tickets.length, worker.start.post job)

/-- Whether a hand holds a job. -/
def isBusy (worker : Worker Job Answer) (hand : Nat) : Bool :=
  worker.busy.any fun held => held.1 == hand

/-- Whether a hand is at work. -/
def isAtWork (worker : Worker Job Answer) (hand : Nat) : Bool :=
  worker.running && hand < worker.hands && !worker.gone.contains hand

/-- Whether a hand can take a job. -/
def isFree (worker : Worker Job Answer) (hand : Nat) : Bool :=
  worker.isAtWork hand && !worker.isBusy hand

/-- Let a free hand take the first job of the queue, and its ticket out of the open ones. -/
def take? (worker : Worker Job Answer) (hand : Nat) : Option (Worker Job Answer) :=
  match worker.queue with
  | [] => none
  | (number, job) :: rest =>
    if worker.isFree hand then
      some { worker with
        queue := rest
        pending := worker.pending.filter (· != number)
        busy := worker.busy ++ [(hand, number, job)] }
    else none

/-- Let a hand answer the ticket of the job it holds. -/
def finish? (worker : Worker Job Answer) (hand : Nat) (answer : Answer) :
    Option (Worker Job Answer) :=
  (worker.busy.find? fun held => held.1 == hand).map fun held =>
    let free := { worker with busy := worker.busy.filter fun other => other.1 != hand }
    free.settle held.2.1 (.answered answer)

/-- Cancel a ticket; a settled ticket stays as it is. -/
def cancel (worker : Worker Job Answer) (number : Nat) : Worker Job Answer :=
  worker.settle number .cancelled

/-- A hand goes; a job that it holds is dropped, and its ticket with it. -/
def breakOff (worker : Worker Job Answer) (hand : Nat) : Worker Job Answer :=
  { worker with
    busy := worker.busy.filter fun held => held.1 != hand
    gone := hand :: worker.gone }

/-- Call the hands off. -/
def callStop (worker : Worker Job Answer) : Worker Job Answer := { worker with stopping := true }

/-- The end of a stop, when all hands are gone: the open tickets are cancelled. -/
def endStop (worker : Worker Job Answer) : Worker Job Answer :=
  let cancelled := worker.pending.foldl cancel worker
  { cancelled with
    running := false
    stopping := false
    gone := []
    queue := []
    pending := []
    busy := [] }

/-- The hands that are at work. -/
def handsAtWork (worker : Worker Job Answer) : List Nat :=
  (List.range worker.hands).filter worker.isAtWork

/-- Stop the worker while nothing else happens: the hands go one after the other. -/
def stop (worker : Worker Job Answer) : Worker Job Answer :=
  (worker.handsAtWork.foldl breakOff worker.callStop).endStop

/-- The ticket of a number. -/
def ticket? (worker : Worker Job Answer) (number : Nat) : Option (Ticket Answer) :=
  worker.tickets[number]?

variable {m : Type → Type} [Monad m]

/-- The first hand that can take a job. -/
def freeHand? (worker : Worker Job Answer) : Option Nat :=
  (List.range worker.hands).find? worker.isFree

/-- Do jobs one after the other, each with the first free hand; `count` bounds their number. -/
def work (perform : Job → m Answer) : Nat → Worker Job Answer → m (Worker Job Answer)
  | 0, worker => pure worker
  | count + 1, worker =>
    match worker.queue, worker.freeHand? with
    | (_, job) :: _, some hand => do
      let taken := (worker.take? hand).getD worker
      let answer ← perform job
      work perform count ((taken.finish? hand answer).getD taken)
    | _, _ => pure worker

/-- Do all jobs of the queue, in order. -/
def drain (perform : Job → m Answer) (worker : Worker Job Answer) :
    m (Worker Job Answer) :=
  work perform worker.queue.length worker

/-- Wait for a ticket: if it is not settled, the queue is worked off. -/
def waitFor (perform : Job → m Answer) (worker : Worker Job Answer) (number : Nat) :
    m (Worker Job Answer) :=
  match worker.ticket? number with
  | some .waiting => drain perform worker
  | _ => pure worker

end Worker
end SiteBuild
