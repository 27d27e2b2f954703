import Mathlib.Tactic.Tauto
import SiteBuild.Worker

/-!
# Runs of the worker

Callers post and cancel, hands take jobs, finish them or go while they hold one, and a stop is
called and comes to its end when every hand is gone. A run is any sequence of these events that
the worker allows, so it covers every order in which callers, hands and a stop can take turns.
The accounting invariant names, for every ticket that still waits, the place its job is in: the
queue, a hand, or nowhere because the hand that held it went. Main statement: what waits after
the end of a stop is exactly what hands dropped (`waits_after_stop_iff`).
-/
namespace SiteBuild.Worker

variable {Job Answer : Type}

/-- What can happen to a worker. -/
inductive Event (Job Answer : Type) where
  /-- A caller posts a job. -/
  | post (job : Job)
  /-- A caller posts what is no job. -/
  | refuse
  /-- A hand takes the first job of the queue. -/
  | take (hand : Nat)
  /-- A hand finishes the job it holds. -/
  | finish (hand : Nat) (answer : Answer)
  /-- A hand goes, whether it holds a job or not. -/
  | breakOff (hand : Nat)
  /-- A caller cancels a ticket. -/
  | cancel (number : Nat)
  /-- A stop is called. -/
  | callStop
  /-- A stop that was called comes to its end. -/
  | endStop
  deriving DecidableEq, Repr

/-- The worker after an event, if the event can happen. -/
def step? (worker : Worker Job Answer) : Event Job Answer → Option (Worker Job Answer)
  | .post job => some (worker.submit (.ok job : Except Unit Job)).2
  | .refuse => some (worker.submit (.error () : Except Unit Job)).2
  | .take hand => worker.take? hand
  | .finish hand answer => worker.finish? hand answer
  | .breakOff hand => if worker.isAtWork hand then some (worker.breakOff hand) else none
  | .cancel number =>
    if number < worker.tickets.length then some (worker.cancel number) else none
  | .callStop => some worker.callStop
  | .endStop =>
    if worker.stopping && worker.handsAtWork.isEmpty then some worker.endStop else none

/-- The worker after events, if they can happen one after the other. -/
def run? (worker : Worker Job Answer) : List (Event Job Answer) → Option (Worker Job Answer)
  | [] => some worker
  | event :: rest => (worker.step? event).bind fun next => next.run? rest

/-- The number of the ticket whose job a hand holds. -/
def held? (worker : Worker Job Answer) (hand : Nat) : Option Nat :=
  (worker.busy.find? fun held => held.1 == hand).map fun held => held.2.1

/-- The numbers of the tickets whose jobs an event drops. -/
def droppedBy (worker : Worker Job Answer) : Event Job Answer → List Nat
  | .breakOff hand => (worker.held? hand).toList
  | _ => []

/-- The numbers of the tickets whose jobs events drop. -/
def dropped (worker : Worker Job Answer) : List (Event Job Answer) → List Nat
  | [] => []
  | event :: rest =>
    worker.droppedBy event ++ ((worker.step? event).map fun next => next.dropped rest).getD []

/-- The numbers of the tickets that callers cancel. -/
def cancelledBy : Event Job Answer → List Nat
  | .cancel number => [number]
  | _ => []

/-- Whether the ticket of a number waits. -/
def Waits (worker : Worker Job Answer) (number : Nat) : Prop :=
  worker.ticket? number = some .waiting

/-- The numbers of the jobs in the queue. -/
def queued (worker : Worker Job Answer) : List Nat := worker.queue.map Prod.fst

/-- The numbers of the jobs that hands hold. -/
def inHand (worker : Worker Job Answer) : List Nat := worker.busy.map fun held => held.2.1

/-! ## Tickets under single operations -/

@[simp] theorem length_tickets_settle (worker : Worker Job Answer) (number : Nat)
    (ticket : Ticket Answer) :
    (worker.settle number ticket).tickets.length = worker.tickets.length := by
  simp [settle]

/-- Settling a ticket ends its waiting and no other. -/
theorem waits_settle_iff (worker : Worker Job Answer) {ticket : Ticket Answer}
    (settled : ticket.isSettled = true) (number other : Nat) :
    (worker.settle number ticket).Waits other ↔ worker.Waits other ∧ other ≠ number := by
  simp only [Waits, ticket?, settle, List.getElem?_mapIdx, Option.map_eq_some_iff]
  constructor
  · rintro ⟨old, found, kept⟩
    split at kept
    · subst kept
      simp [Ticket.isSettled] at settled
    · rename_i untouched
      subst kept
      refine ⟨found, fun same => untouched ?_⟩
      simp [same, Ticket.isSettled]
  · rintro ⟨found, differ⟩
    exact ⟨.waiting, found, by simp [differ]⟩

@[simp] theorem waits_cancel_iff (worker : Worker Job Answer) (number other : Nat) :
    (worker.cancel number).Waits other ↔ worker.Waits other ∧ other ≠ number :=
  worker.waits_settle_iff rfl number other

/-- Cancelling tickets one after the other ends the waiting of each of them. -/
theorem waits_cancelAll_iff (worker : Worker Job Answer) (numbers : List Nat) (other : Nat) :
    (numbers.foldl cancel worker).Waits other ↔ worker.Waits other ∧ other ∉ numbers := by
  induction numbers generalizing worker with
  | nil => simp
  | cons number rest tail =>
    rw [List.foldl_cons, tail, waits_cancel_iff, List.mem_cons, not_or, and_assoc]

theorem length_tickets_cancelAll (worker : Worker Job Answer) (numbers : List Nat) :
    (numbers.foldl cancel worker).tickets.length = worker.tickets.length := by
  induction numbers generalizing worker with
  | nil => rfl
  | cons number rest tail => rw [List.foldl_cons, tail, cancel, length_tickets_settle]

/-- The end of a stop ends the waiting of the open tickets. -/
theorem waits_endStop_iff (worker : Worker Job Answer) (number : Nat) :
    worker.endStop.Waits number ↔ worker.Waits number ∧ number ∉ worker.pending :=
  worker.waits_cancelAll_iff worker.pending number

@[simp] theorem length_tickets_endStop (worker : Worker Job Answer) :
    worker.endStop.tickets.length = worker.tickets.length :=
  worker.length_tickets_cancelAll worker.pending

/-- A posted job has a ticket that waits, and the other tickets are as before. -/
theorem waits_post_iff (worker : Worker Job Answer) (job : Job) (number : Nat) :
    (worker.post job).Waits number ↔
      worker.Waits number ∨ number = worker.tickets.length := by
  rcases Nat.lt_trichotomy number worker.tickets.length with before | same | behind
  · simp [Waits, ticket?, post, List.getElem?_append_left before, Nat.ne_of_lt before]
  · simp [Waits, ticket?, post, same]
  · have short : (worker.tickets ++ [Ticket.waiting]).length ≤ number := by
      rw [List.length_append, List.length_singleton]
      exact behind
    simp [Waits, ticket?, post, List.getElem?_eq_none short,
      List.getElem?_eq_none (Nat.le_of_lt behind), Nat.ne_of_gt behind]

/-- What it takes to take a job, and what comes of it. -/
theorem take?_eq_some_iff {worker next : Worker Job Answer} {hand : Nat} :
    worker.take? hand = some next ↔ ∃ number job rest, worker.queue = (number, job) :: rest ∧
      worker.isAtWork hand = true ∧ (∀ held ∈ worker.busy, held.1 ≠ hand) ∧
      next = { worker with
        queue := rest
        pending := worker.pending.filter (· != number)
        busy := worker.busy ++ [(hand, number, job)] } := by
  have free : worker.isFree hand = true ↔
      worker.isAtWork hand = true ∧ ∀ held ∈ worker.busy, held.1 ≠ hand := by
    simp only [isFree, isBusy, Bool.and_eq_true, Bool.not_eq_eq_eq_not, Bool.not_true,
      List.any_eq_false, beq_iff_eq, ne_eq]
  unfold take?
  cases worker.queue with
  | nil => simp
  | cons first rest =>
    simp only [free]
    split
    · rename_i able
      constructor
      · intro taken
        exact ⟨first.1, first.2, rest, rfl, able.1, able.2, (Option.some.inj taken).symm⟩
      · rintro ⟨number, job, others, same, -, -, rfl⟩
        cases same
        rfl
    · rename_i unable
      constructor
      · intro taken
        cases taken
      · rintro ⟨number, job, others, -, working, idle, -⟩
        exact absurd ⟨working, idle⟩ unable

/-- What it takes to finish a job, and what comes of it. -/
theorem finish?_eq_some_iff {worker next : Worker Job Answer} {hand : Nat} {answer : Answer} :
    worker.finish? hand answer = some next ↔
      ∃ held, worker.busy.find? (fun held => held.1 == hand) = some held ∧
        next = Worker.settle
          { worker with busy := worker.busy.filter fun held => held.1 != hand } held.2.1
          (.answered answer) := by
  rw [finish?, Option.map_eq_some_iff]
  exact exists_congr fun held => and_congr_right fun _ => eq_comm

/-! ## The order of a worker -/

/-- The tables of a worker agree: the open tickets are those of the queue, every hand holds one
job at most and is at work while it does, and a worker at rest has no job. -/
structure InOrder (worker : Worker Job Answer) : Prop where
  pending_eq : worker.pending = worker.queued
  oneEach : (worker.busy.map Prod.fst).Nodup
  atWork : ∀ held ∈ worker.busy, worker.isAtWork held.1 = true
  resting : worker.running = false → worker.queue = []

/-- A worker that was not put to work yet is in order. -/
theorem inOrder_withHands (hands : Int) : (withHands hands : Worker Job Answer).InOrder where
  pending_eq := rfl
  oneEach := List.nodup_nil
  atWork := by simp [withHands]
  resting _ := rfl

/-- No hand holds a job while none is at work. -/
theorem InOrder.busy_eq_nil {worker : Worker Job Answer} (order : worker.InOrder)
    (deserted : worker.handsAtWork = []) : worker.busy = [] := by
  apply List.eq_nil_iff_forall_not_mem.2
  intro held member
  have working := order.atWork held member
  have inRange : held.1 < worker.hands := by
    simp only [isAtWork, Bool.and_eq_true, decide_eq_true_eq] at working
    exact working.1.2
  have present : held.1 ∈ worker.handsAtWork :=
    List.mem_filter.2 ⟨List.mem_range.2 inRange, working⟩
  rw [deserted] at present
  exact List.not_mem_nil present

/-- A worker at rest has no hand at work. -/
theorem handsAtWork_of_resting {worker : Worker Job Answer} (rest : worker.running = false) :
    worker.handsAtWork = [] := by
  simp [handsAtWork, isAtWork, rest]

/-- What a hand holds and what the others hold is all that hands hold. -/
theorem busy_perm (busy : List (Nat × Nat × Job)) (hand : Nat)
    (oneEach : (busy.map Prod.fst).Nodup) :
    busy.Perm ((busy.find? fun held => held.1 == hand).toList ++
      busy.filter fun held => held.1 != hand) := by
  induction busy with
  | nil => exact List.Perm.refl _
  | cons first rest tail =>
    rw [List.map_cons, List.nodup_cons] at oneEach
    by_cases same : first.1 = hand
    · have others : rest.filter (fun held => held.1 != hand) = rest := by
        apply List.filter_eq_self.2
        intro held member
        have differ : held.1 ≠ hand := fun again =>
          oneEach.1 (List.mem_map.2 ⟨held, member, again.trans same.symm⟩)
        simpa using differ
      simp [same, others]
    · have skipped := (tail oneEach.2).cons first
      simp only [List.find?_cons, beq_eq_false_iff_ne.2 same, List.filter_cons, bne_iff_ne, ne_eq,
        same, not_false_eq_true, ↓reduceIte]
      exact skipped.trans List.perm_middle.symm

/-- A hand that goes takes what it holds out of what hands hold. -/
theorem InOrder.inHand_perm {worker : Worker Job Answer} (order : worker.InOrder) (hand : Nat) :
    worker.inHand.Perm ((worker.held? hand).toList ++ (worker.breakOff hand).inHand) := by
  have parts := (busy_perm worker.busy hand order.oneEach).map fun held => held.2.1
  rw [List.map_append, ← Option.toList_map] at parts
  exact parts

/-- Starting a worker keeps it in order. -/
theorem InOrder.start {worker : Worker Job Answer} (order : worker.InOrder) :
    worker.start.InOrder ∧ worker.start.queued = worker.queued ∧
      worker.start.inHand = worker.inHand := by
  unfold Worker.start
  split
  · exact ⟨order, rfl, rfl⟩
  · rename_i rest
    have rest : worker.running = false := by simpa using rest
    have noQueue := order.resting rest
    have noBusy := order.busy_eq_nil (handsAtWork_of_resting rest)
    have noPending : worker.pending = [] := by simp [order.pending_eq, queued, noQueue]
    exact ⟨⟨noPending, List.nodup_nil, by simp, fun _ => rfl⟩, by simp [queued, noQueue],
      by simp [inHand, noBusy]⟩

/-- Taking a job keeps the worker in order. -/
theorem InOrder.take {worker next : Worker Job Answer} {hand : Nat} (order : worker.InOrder)
    (distinct : worker.queued.Nodup) (taken : worker.take? hand = some next) : next.InOrder := by
  obtain ⟨number, job, rest, queue, working, idle, rfl⟩ := take?_eq_some_iff.1 taken
  have first : worker.queued = number :: rest.map Prod.fst := by simp [queued, queue]
  have others : ∀ other ∈ rest.map Prod.fst, (other != number) = true := by
    intro other member
    have apart := (List.nodup_cons.1 (first ▸ distinct)).1
    simpa using fun same : other = number => apart (same ▸ member)
  refine ⟨?_, ?_, ?_, ?_⟩
  · simp only [order.pending_eq, first, List.filter_cons, bne_self_eq_false, Bool.false_eq_true,
      ↓reduceIte]
    exact List.filter_eq_self.2 others
  · rw [List.map_append, List.nodup_append]
    refine ⟨order.oneEach, by simp, ?_⟩
    intro other member
    obtain ⟨held, busy, rfl⟩ := List.mem_map.1 member
    simpa using idle held busy
  · intro held member
    rcases List.mem_append.1 member with before | new
    · exact order.atWork held before
    · rw [List.mem_singleton.1 new]
      exact working
  · intro resting
    have resting : worker.running = false := resting
    simp [isAtWork, resting] at working

/-- Posting a job to a started worker keeps it in order. -/
theorem InOrder.post {worker : Worker Job Answer} (order : worker.InOrder) (job : Job) :
    (worker.start.post job).InOrder := by
  have started := order.start.1
  refine ⟨?_, started.oneEach, started.atWork, ?_⟩
  · simp [Worker.post, queued, started.pending_eq]
  · intro resting
    have resting : worker.start.running = false := resting
    unfold Worker.start at resting
    split at resting <;> simp_all

/-- A hand that goes leaves the worker in order. -/
theorem InOrder.breakOff {worker : Worker Job Answer} (order : worker.InOrder) (hand : Nat) :
    (worker.breakOff hand).InOrder := by
  refine ⟨order.pending_eq, order.oneEach.sublist (List.filter_sublist.map _), ?_,
    order.resting⟩
  intro held member
  obtain ⟨busy, other⟩ := List.mem_filter.1 member
  have working := order.atWork held busy
  simp only [isAtWork, Worker.breakOff, Bool.and_eq_true, Bool.not_eq_eq_eq_not, Bool.not_true,
    List.contains_cons, Bool.or_eq_false_iff] at working ⊢
  exact ⟨working.1, by simpa using other, working.2⟩

/-- The worker is in order after every event. -/
theorem InOrder.step {worker next : Worker Job Answer} {event : Event Job Answer}
    (order : worker.InOrder) (distinct : worker.queued.Nodup)
    (happens : worker.step? event = some next) : next.InOrder := by
  cases event with
  | post job => exact Option.some.inj happens ▸ order.post job
  | refuse => exact Option.some.inj happens ▸ order.start.1
  | take hand => exact order.take distinct happens
  | finish hand answer =>
    obtain ⟨held, found, rfl⟩ := finish?_eq_some_iff.1 happens
    exact ⟨order.pending_eq, order.oneEach.sublist (List.filter_sublist.map _),
      fun held member => order.atWork held (List.mem_filter.1 member).1, order.resting⟩
  | breakOff hand =>
    obtain ⟨-, rfl⟩ := Option.ite_some_none_eq_some.1 happens
    exact order.breakOff hand
  | cancel number =>
    obtain ⟨-, rfl⟩ := Option.ite_some_none_eq_some.1 happens
    exact ⟨order.pending_eq, order.oneEach, order.atWork, order.resting⟩
  | callStop =>
    obtain rfl := Option.some.inj happens
    exact ⟨order.pending_eq, order.oneEach, order.atWork, order.resting⟩
  | endStop =>
    obtain ⟨-, rfl⟩ := Option.ite_some_none_eq_some.1 happens
    exact ⟨rfl, List.nodup_nil, by simp [Worker.endStop], fun _ => rfl⟩

/-! ## Where the jobs of waiting tickets are -/

/-- The tickets that wait are those with a job in one of the given places, but for those that
callers cancelled. -/
structure Tallies (worker : Worker Job Answer) (places cancelled : List Nat) : Prop where
  waits_iff : ∀ number, worker.Waits number ↔ number ∈ places ∧ number ∉ cancelled
  distinct : places.Nodup
  issued : ∀ number ∈ places, number < worker.tickets.length
  cancelledIssued : ∀ number ∈ cancelled, number < worker.tickets.length

namespace Tallies

variable {worker : Worker Job Answer} {places cancelled : List Nat}

/-- The order of the places does not matter, nor what is no ticket. -/
theorem move {next : Worker Job Answer} {others : List Nat}
    (tallies : worker.Tallies places cancelled) (tickets : next.tickets = worker.tickets)
    (moved : others.Perm places) : next.Tallies others cancelled where
  waits_iff number := by
    rw [moved.mem_iff, ← tallies.waits_iff, Waits, Waits, ticket?, ticket?, tickets]
  distinct := moved.nodup_iff.2 tallies.distinct
  issued number member := tickets ▸ tallies.issued number (moved.mem_iff.1 member)
  cancelledIssued number member := tickets ▸ tallies.cancelledIssued number member

/-- A posted job has a new place. -/
theorem post (tallies : worker.Tallies places cancelled) (job : Job) :
    (worker.post job).Tallies (worker.tickets.length :: places) cancelled where
  waits_iff number := by
    have fresh : number = worker.tickets.length → number ∉ cancelled := fun same member =>
      Nat.lt_irrefl _ (same ▸ tallies.cancelledIssued number member)
    rw [waits_post_iff, tallies.waits_iff, List.mem_cons]
    tauto
  distinct := List.nodup_cons.2
    ⟨fun member => Nat.lt_irrefl _ (tallies.issued _ member), tallies.distinct⟩
  issued number member := by
    simp only [Worker.post, List.length_append, List.length_singleton]
    rcases List.mem_cons.1 member with same | before
    · omega
    · exact Nat.lt_succ_of_lt (tallies.issued number before)
  cancelledIssued number member := by
    simp only [Worker.post, List.length_append, List.length_singleton]
    exact Nat.lt_succ_of_lt (tallies.cancelledIssued number member)

/-- A settled ticket gives up the place of its job. -/
theorem settle {number : Nat} {ticket : Ticket Answer} (settled : ticket.isSettled = true)
    (tallies : worker.Tallies (number :: places) cancelled) :
    (worker.settle number ticket).Tallies places cancelled where
  waits_iff other := by
    have apart : other ∈ places → other ≠ number := fun member same =>
      (List.nodup_cons.1 tallies.distinct).1 (same ▸ member)
    rw [waits_settle_iff worker settled, tallies.waits_iff, List.mem_cons]
    tauto
  distinct := (List.nodup_cons.1 tallies.distinct).2
  issued other member := by
    simpa using tallies.issued other (List.mem_cons_of_mem number member)
  cancelledIssued other member := by simpa using tallies.cancelledIssued other member

/-- A ticket that a caller cancels does not wait, wherever its job is. -/
theorem cancel {number : Nat} (tallies : worker.Tallies places cancelled)
    (issued : number < worker.tickets.length) :
    (worker.cancel number).Tallies places (number :: cancelled) where
  waits_iff other := by
    rw [waits_cancel_iff, tallies.waits_iff, List.mem_cons]
    tauto
  distinct := tallies.distinct
  issued other member := by simpa [Worker.cancel] using tallies.issued other member
  cancelledIssued other member := by
    rcases List.mem_cons.1 member with rfl | before
    · simpa [Worker.cancel] using issued
    · simpa [Worker.cancel] using tallies.cancelledIssued other before

/-- The end of a stop gives up the places of the open tickets. -/
theorem endStop (tallies : worker.Tallies (worker.pending ++ places) cancelled) :
    worker.endStop.Tallies places cancelled where
  waits_iff number := by
    have apart : number ∈ places → number ∉ worker.pending := fun member open_ =>
      (List.nodup_append.1 tallies.distinct).2.2 number open_ number member rfl
    rw [waits_endStop_iff, tallies.waits_iff, List.mem_append]
    tauto
  distinct := (List.nodup_append.1 tallies.distinct).2.1
  issued number member := by
    simpa using tallies.issued number (List.mem_append_right _ member)
  cancelledIssued number member := by simpa using tallies.cancelledIssued number member

end Tallies

/-- A worker is accounted for: it is in order, and a ticket waits as long as its job is in the
queue, with a hand or among those that were dropped, unless a caller cancelled it. -/
structure Accounted (worker : Worker Job Answer) (dropped cancelled : List Nat) : Prop where
  order : worker.InOrder
  tallies : worker.Tallies (worker.queued ++ (worker.inHand ++ dropped)) cancelled

/-- Starting a worker changes no ticket. -/
theorem tickets_start (worker : Worker Job Answer) : worker.start.tickets = worker.tickets := by
  unfold start
  split <;> rfl

/-- A worker that was not put to work yet has nothing to account for. -/
theorem accounted_withHands (hands : Int) :
    (withHands hands : Worker Job Answer).Accounted [] [] where
  order := inOrder_withHands hands
  tallies := ⟨by simp [Waits, ticket?, withHands, queued, inHand], by
    simp [withHands, queued, inHand], by simp [withHands, queued, inHand], by simp⟩

/-- The worker is accounted for after every event. -/
theorem Accounted.step {worker next : Worker Job Answer} {event : Event Job Answer}
    {dropped cancelled : List Nat} (accounted : worker.Accounted dropped cancelled)
    (happens : worker.step? event = some next) :
    next.Accounted (worker.droppedBy event ++ dropped) (cancelledBy event ++ cancelled) := by
  obtain ⟨order, tallies⟩ := accounted
  refine ⟨order.step (List.nodup_append.1 tallies.distinct).1 happens, ?_⟩
  cases event with
  | post job =>
    obtain rfl := Option.some.inj happens
    obtain ⟨-, queue, hands⟩ := order.start
    have started : worker.start.Tallies (worker.queued ++ (worker.inHand ++ dropped)) cancelled :=
      tallies.move (tickets_start worker) (List.Perm.refl _)
    refine (started.post job).move rfl ?_
    change ((worker.start.post job).queued ++ ((worker.start.post job).inHand ++ dropped)).Perm _
    have last : (worker.start.post job).queued =
        worker.queued ++ [worker.start.tickets.length] := by
      rw [← queue]
      simp [Worker.post, queued]
    rw [last, show (worker.start.post job).inHand = worker.inHand from hands, List.append_assoc]
    exact List.perm_middle
  | refuse =>
    obtain rfl := Option.some.inj happens
    obtain ⟨-, queue, hands⟩ := order.start
    change worker.start.Tallies (worker.start.queued ++ (worker.start.inHand ++ dropped)) cancelled
    rw [queue, hands]
    exact tallies.move (tickets_start worker) (List.Perm.refl _)
  | take hand =>
    obtain ⟨number, job, rest, queue, -, -, rfl⟩ := take?_eq_some_iff.1 happens
    refine tallies.move rfl ?_
    have first : worker.queued = number :: rest.map Prod.fst := by simp [queued, queue]
    have moved : (number :: (worker.inHand ++ dropped)).Perm
        (worker.inHand ++ number :: dropped) := List.perm_middle.symm
    rw [first]
    simp only [queued, inHand, droppedBy, List.map_append, List.map_cons, List.map_nil,
      List.nil_append, List.append_assoc, List.cons_append]
    exact (moved.symm.append_left _).trans List.perm_middle
  | finish hand answer =>
    obtain ⟨held, found, rfl⟩ := finish?_eq_some_iff.1 happens
    refine Tallies.settle rfl (tallies.move rfl ?_)
    have number : worker.held? hand = some held.2.1 := by simp [held?, found]
    have parts := order.inHand_perm hand
    rw [number] at parts
    have moved := (parts.append_right dropped).append_left worker.queued
    exact (moved.trans List.perm_middle).symm
  | breakOff hand =>
    obtain ⟨-, rfl⟩ := Option.ite_some_none_eq_some.1 happens
    refine tallies.move rfl ?_
    have parts := (order.inHand_perm hand).trans List.perm_append_comm
    have moved := (parts.append_right dropped).append_left worker.queued
    rw [List.append_assoc] at moved
    exact moved.symm
  | cancel number =>
    obtain ⟨issued, rfl⟩ := Option.ite_some_none_eq_some.1 happens
    exact tallies.cancel issued
  | callStop =>
    obtain rfl := Option.some.inj happens
    exact tallies.move rfl (List.Perm.refl _)
  | endStop =>
    obtain ⟨ended, rfl⟩ := Option.ite_some_none_eq_some.1 happens
    have deserted : worker.handsAtWork = [] := by simp_all
    have noBusy := order.busy_eq_nil deserted
    have noneHeld : worker.inHand = [] := by simp [inHand, noBusy]
    rw [noneHeld, ← order.pending_eq] at tallies
    exact tallies.endStop

/-! ## Runs -/

/-- The worker is accounted for after every run. -/
theorem Accounted.run {worker last : Worker Job Answer} {dropped cancelled : List Nat}
    (accounted : worker.Accounted dropped cancelled) (events : List (Event Job Answer))
    (runs : worker.run? events = some last) :
    ∃ dropped' cancelled', last.Accounted dropped' cancelled' ∧
      (∀ number, number ∈ dropped' ↔ number ∈ worker.dropped events ∨ number ∈ dropped) ∧
      (∀ number, number ∈ cancelled' ↔ .cancel number ∈ events ∨ number ∈ cancelled) := by
  induction events generalizing worker dropped cancelled with
  | nil =>
    obtain rfl := Option.some.inj runs
    exact ⟨dropped, cancelled, accounted, by simp [Worker.dropped], by simp⟩
  | cons event rest tail =>
    obtain ⟨next, happens, further⟩ := Option.bind_eq_some_iff.1 runs
    obtain ⟨dropped', cancelled', whole, drops, cancels⟩ :=
      tail (accounted.step happens) further
    refine ⟨dropped', cancelled', whole, fun number => ?_, fun number => ?_⟩
    · simp only [drops, Worker.dropped, happens, Option.map_some, Option.getD_some,
        List.mem_append]
      tauto
    · have here : number ∈ cancelledBy event ↔ event = .cancel number := by
        cases event <;> simp [cancelledBy, eq_comm]
      rw [cancels, List.mem_append, List.mem_cons, here, @eq_comm _ (Event.cancel number)]
      tauto

/-- The end of a stop leaves no job in the queue or with a hand. -/
theorem places_after_stop {worker last : Worker Job Answer}
    (stops : worker.step? .endStop = some last) : last.queued = [] ∧ last.inHand = [] := by
  obtain ⟨-, rfl⟩ := Option.ite_some_none_eq_some.1 stops
  exact ⟨rfl, rfl⟩

/-- A run that is followed by another. -/
theorem run?_append (worker : Worker Job Answer) (events others : List (Event Job Answer)) :
    worker.run? (events ++ others) = (worker.run? events).bind fun next => next.run? others := by
  induction events generalizing worker with
  | nil => rfl
  | cons event rest tail =>
    simp only [List.cons_append, run?, Option.bind_assoc]
    exact congrArg _ (funext tail)

/-- Hands at work can go one after the other. -/
theorem run?_breakOff {hands : List Nat} (distinct : hands.Nodup) (worker : Worker Job Answer)
    (present : ∀ hand ∈ hands, worker.isAtWork hand = true) :
    worker.run? (hands.map .breakOff) = some (hands.foldl breakOff worker) := by
  induction hands generalizing worker with
  | nil => rfl
  | cons hand rest tail =>
    obtain ⟨apart, others⟩ := List.nodup_cons.1 distinct
    have working := present hand List.mem_cons_self
    have staying : ∀ other ∈ rest, (worker.breakOff hand).isAtWork other = true := by
      intro other member
      have differ : other ≠ hand := fun same => apart (same ▸ member)
      have before := present other (List.mem_cons_of_mem hand member)
      simp_all [isAtWork, breakOff]
    simp only [List.map_cons, run?, step?, working, ↓reduceIte, Option.bind_some, List.foldl_cons]
    exact tail others _ staying

/-- The hands at work after some of them went are the others. -/
theorem isAtWork_breakOffAll_iff (hands : List Nat) (worker : Worker Job Answer) (hand : Nat) :
    (hands.foldl breakOff worker).isAtWork hand = true ↔
      worker.isAtWork hand = true ∧ hand ∉ hands := by
  induction hands generalizing worker with
  | nil => simp
  | cons first rest tail =>
    have here : (worker.breakOff first).isAtWork hand = true ↔
        worker.isAtWork hand = true ∧ hand ≠ first := by
      simp only [isAtWork, breakOff, List.contains_cons, Bool.not_or, Bool.and_eq_true,
        Bool.not_eq_eq_eq_not, Bool.not_true, beq_eq_false_iff_ne, ne_eq]
      tauto
    rw [List.foldl_cons, tail, here, List.mem_cons]
    tauto

/-- Hands that go do not end a stop and put nobody in their place. -/
theorem breakOffAll_frame (hands : List Nat) (worker : Worker Job Answer) :
    (hands.foldl breakOff worker).stopping = worker.stopping ∧
      (hands.foldl breakOff worker).hands = worker.hands := by
  induction hands generalizing worker with
  | nil => exact ⟨rfl, rfl⟩
  | cons first rest tail => exact tail (worker.breakOff first)

/-- A stop that nothing interrupts is a run: it is called, the hands at work go one after the
other, and it ends. -/
theorem run?_stop (worker : Worker Job Answer) :
    worker.run? (.callStop :: worker.handsAtWork.map .breakOff ++ [.endStop]) =
      some worker.stop := by
  have distinct : worker.handsAtWork.Nodup := List.nodup_range.filter worker.isAtWork
  have leave := run?_breakOff distinct worker.callStop
    fun hand member => (List.mem_filter.1 member).2
  obtain ⟨stopping, number⟩ := breakOffAll_frame worker.handsAtWork worker.callStop
  have deserted : (worker.handsAtWork.foldl breakOff worker.callStop).handsAtWork = [] := by
    apply List.filter_eq_nil_iff.2
    intro hand inRange working
    obtain ⟨before, apart⟩ := (isAtWork_breakOffAll_iff _ _ _).1 working
    rw [number] at inRange
    exact apart (List.mem_filter.2 ⟨inRange, before⟩)
  have called : (worker.handsAtWork.foldl breakOff worker.callStop).stopping = true := stopping
  rw [List.cons_append, run?, step?, Option.bind_some, run?_append, leave]
  simp [run?, step?, called, deserted, stop]

/-- **Stranded callers.** Whatever callers and hands do before a stop and while it is under way,
when it has come to its end a ticket still waits exactly if a hand went while it held the job of
the ticket, and no caller cancelled it. -/
theorem waits_after_stop_iff (hands : Int) (events : List (Event Job Answer))
    (last : Worker Job Answer)
    (runs : (withHands hands).run? (events ++ [.endStop]) = some last) (number : Nat) :
    last.Waits number ↔
      number ∈ (withHands hands : Worker Job Answer).dropped events ∧
        .cancel number ∉ events := by
  rw [run?_append] at runs
  obtain ⟨before, runs, stops⟩ := Option.bind_eq_some_iff.1 runs
  have stops : before.step? .endStop = some last := by simpa [run?] using stops
  obtain ⟨dropped, cancelled, accounted, drops, cancels⟩ :=
    (accounted_withHands hands).run events runs
  obtain ⟨queue, held⟩ := places_after_stop stops
  have tallies := (accounted.step stops).tallies
  rw [queue, held] at tallies
  rw [tallies.waits_iff]
  simp [droppedBy, cancelledBy, drops, cancels]

/-- Of two jobs in hand when a stop is called, one is finished before its hand goes and one is
not: the ticket of the second waits. -/
theorem waits_after_stop_two_hands :
    ∃ last : Worker Unit Unit,
      (withHands 2).run?
          ([.post (), .post (), .take 1, .take 0, .callStop, .finish 0 (), .breakOff 0,
            .breakOff 1] ++ [.endStop]) = some last ∧
        last.Waits 0 ∧ ¬last.Waits 1 := by
  obtain ⟨last, runs⟩ : ∃ last : Worker Unit Unit, (withHands 2).run?
      ([.post (), .post (), .take 1, .take 0, .callStop, .finish 0 (), .breakOff 0,
        .breakOff 1] ++ [.endStop]) = some last := ⟨_, rfl⟩
  have condition := waits_after_stop_iff 2 _ last runs
  exact ⟨last, runs, (condition 0).2 (by decide), fun waits => absurd ((condition 1).1 waits)
    (by decide)⟩

/-- A stop does not settle the ticket of a job that a hand holds. -/
theorem stop_leaves_held_job_waiting :
    (((withHands 1 : Worker Unit Unit).start.post ()).take? 0).map
      (fun worker => worker.stop.ticket? 0) = some (some .waiting) := by
  rfl

end SiteBuild.Worker
