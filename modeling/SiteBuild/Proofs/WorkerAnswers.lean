import Mathlib.Data.List.Perm.Subperm
import SiteBuild.Proofs.WorkerRuns

/-!
# Answers of the worker

While nobody stops the worker and no hand goes, callers post and cancel, and hands take jobs and
finish them, in any order. A ledger of such a run says which jobs were posted, which were taken
under which number, and which were finished with which answer. The worker balances with the
ledger: what was taken and what is in the queue are all posted jobs in their order, what was
finished and what is in hand are all taken jobs, and every ticket shows what the ledger says about
its own job. Main statement: `answers_pair_with_posts`.
-/
namespace SiteBuild.Worker

variable {Job Answer : Type}

/-- Whether an event leaves all hands at work: nobody stops the worker, and no hand goes. -/
def Event.isCalm : Event Job Answer → Bool
  | .breakOff _ | .callStop | .endStop => false
  | _ => true

/-- The number and the job that a hand holds. -/
def heldJob? (worker : Worker Job Answer) (hand : Nat) : Option (Nat × Job) :=
  (worker.busy.find? fun held => held.1 == hand).map Prod.snd

/-- What was done in a run. -/
structure Ledger (Job Answer : Type) where
  /-- The jobs that were posted, in order. -/
  posted : List Job := []
  /-- The jobs that hands took, with their numbers, in order. -/
  taken : List (Nat × Job) := []
  /-- The jobs that hands finished, with their numbers and answers, in order. -/
  finished : List ((Nat × Job) × Answer) := []
  /-- The numbers of the tickets that callers cancelled. -/
  cancelled : List Nat := []
  deriving Repr

namespace Ledger

/-- The ledger after an event that happens to a worker. -/
def enter (ledger : Ledger Job Answer) (worker : Worker Job Answer) :
    Event Job Answer → Ledger Job Answer
  | .post job => { ledger with posted := ledger.posted ++ [job] }
  | .take _ => { ledger with taken := ledger.taken ++ worker.queue.head?.toList }
  | .finish hand answer =>
    { ledger with finished := ledger.finished ++ ((worker.heldJob? hand).map (·, answer)).toList }
  | .cancel number => { ledger with cancelled := ledger.cancelled ++ [number] }
  | _ => ledger

/-- The ledger after events. -/
def enterAll (ledger : Ledger Job Answer) (worker : Worker Job Answer) :
    List (Event Job Answer) → Ledger Job Answer
  | [] => ledger
  | event :: rest =>
    ((worker.step? event).map fun next => (ledger.enter worker event).enterAll next rest).getD
      ledger

/-- The posted jobs under their numbers. -/
def numbered (ledger : Ledger Job Answer) : List (Nat × Job) :=
  ledger.posted.zipIdx.map Prod.swap

/-- The numbers are given out in order. -/
theorem numbered_fst (ledger : Ledger Job Answer) :
    ledger.numbered.map Prod.fst = List.range ledger.posted.length := by
  have second : (Prod.fst ∘ Prod.swap : Job × Nat → Nat) = Prod.snd := rfl
  rw [numbered, List.map_map, second, List.zipIdx_map_snd, List.range_eq_range']

/-- A number stands for one posted job. -/
theorem mem_numbered {ledger : Ledger Job Answer} {number : Nat} {job : Job} :
    (number, job) ∈ ledger.numbered ↔ ledger.posted[number]? = some job := by
  simp [numbered, List.mem_zipIdx_iff_getElem?]

end Ledger

/-! ## Single operations -/

/-- The ticket of a number after another or the same ticket is settled. -/
theorem ticket?_settle (worker : Worker Job Answer) (number other : Nat)
    (ticket : Ticket Answer) :
    (worker.settle number ticket).ticket? other =
      (worker.ticket? other).map fun old =>
        if other = number && !old.isSettled then ticket else old := by
  simp [ticket?, settle, List.getElem?_mapIdx]

/-- What waits, was not settled. -/
theorem ticket?_settle_eq_waiting {worker : Worker Job Answer} {number other : Nat}
    {ticket : Ticket Answer} (settled : ticket.isSettled = true)
    (waits : (worker.settle number ticket).ticket? other = some .waiting) :
    worker.ticket? other = some .waiting ∧ other ≠ number :=
  (waits_settle_iff worker settled number other).mp waits

/-- A settled ticket was settled before or is settled now. -/
theorem ticket?_settle_eq_some {worker : Worker Job Answer} {number other : Nat}
    {ticket now : Ticket Answer} (found : (worker.settle number ticket).ticket? other = some now) :
    worker.ticket? other = some now ∨ other = number ∧ now = ticket := by
  rw [ticket?_settle] at found
  obtain ⟨old, before, kept⟩ := Option.map_eq_some_iff.mp found
  split at kept
  · rename_i here
    simp only [Bool.and_eq_true, decide_eq_true_eq] at here
    exact .inr ⟨here.1, kept.symm⟩
  · exact .inl (kept ▸ before)

/-- Starting a worker that is in order loses no job. -/
theorem InOrder.start_tables {worker : Worker Job Answer} (order : worker.InOrder) :
    worker.start.queue = worker.queue ∧ worker.start.busy = worker.busy := by
  unfold Worker.start
  split
  · exact ⟨rfl, rfl⟩
  · rename_i rest
    have rest : worker.running = false := by simpa using rest
    exact ⟨(order.resting rest).symm, (order.busy_eq_nil (handsAtWork_of_resting rest)).symm⟩

/-- No hand holds two jobs, so no more jobs are in hand than there are hands. -/
theorem InOrder.length_busy_le {worker : Worker Job Answer} (order : worker.InOrder) :
    worker.busy.length ≤ worker.hands := by
  have known : worker.busy.map Prod.fst ⊆ List.range worker.hands := by
    intro hand member
    obtain ⟨held, busy, rfl⟩ := List.mem_map.mp member
    have working := order.atWork held busy
    simp only [isAtWork, Bool.and_eq_true, decide_eq_true_eq] at working
    exact List.mem_range.mpr working.1.2
  simpa using (List.subperm_of_subset order.oneEach known).length_le

/-! ## The balance -/

/-- A worker balances with the ledger of its run. -/
structure Balances (hands : Nat) (worker : Worker Job Answer) (ledger : Ledger Job Answer) :
    Prop where
  order : worker.InOrder
  hands_eq : worker.hands = hands
  gone_eq : worker.gone = []
  length_tickets : worker.tickets.length = ledger.posted.length
  taken_append : ledger.taken ++ worker.queue = ledger.numbered
  finished_perm : (ledger.finished.map Prod.fst ++ worker.busy.map Prod.snd).Perm ledger.taken
  waiting : ∀ number, worker.ticket? number = some .waiting →
    number ∈ worker.queued ∨ number ∈ worker.inHand
  answered : ∀ number answer, worker.ticket? number = some (.answered answer) →
    ∃ job, ((number, job), answer) ∈ ledger.finished
  cancelled : ∀ number, worker.ticket? number = some .cancelled → number ∈ ledger.cancelled

namespace Balances

variable {hands : Nat} {worker next : Worker Job Answer} {ledger : Ledger Job Answer}

/-- A worker that was not put to work yet balances with an empty ledger. -/
theorem withHands (hands : Int) :
    (Worker.withHands hands : Worker Job Answer).Balances (max 1 hands).toNat {} where
  order := inOrder_withHands hands
  hands_eq := rfl
  gone_eq := rfl
  length_tickets := rfl
  taken_append := rfl
  finished_perm := .refl _
  waiting := by simp [ticket?, Worker.withHands]
  answered := by simp [ticket?, Worker.withHands]
  cancelled := by simp [ticket?, Worker.withHands]

/-- A job is taken once at most, and not while it is in the queue. -/
theorem numbers_nodup (balances : worker.Balances hands ledger) :
    (ledger.taken.map Prod.fst ++ worker.queued).Nodup := by
  rw [queued, ← List.map_append, balances.taken_append, ledger.numbered_fst]
  exact List.nodup_range

/-- Starting the worker keeps the balance. -/
theorem start (balances : worker.Balances hands ledger) : worker.start.Balances hands ledger := by
  obtain ⟨queue, busy⟩ := balances.order.start_tables
  have tickets := tickets_start worker
  obtain ⟨order, queued, inHand⟩ := balances.order.start
  exact {
    order
    hands_eq := by
      rw [← balances.hands_eq]
      unfold Worker.start
      split <;> rfl
    gone_eq := by
      unfold Worker.start
      split
      · exact balances.gone_eq
      · rfl
    length_tickets := tickets ▸ balances.length_tickets
    taken_append := queue ▸ balances.taken_append
    finished_perm := busy ▸ balances.finished_perm
    waiting := by
      rw [queued, inHand]
      simpa [ticket?, tickets] using balances.waiting
    answered := by simpa [ticket?, tickets] using balances.answered
    cancelled := by simpa [ticket?, tickets] using balances.cancelled }

/-- A posted job is the last of the queue, under the next number. -/
theorem post (balances : worker.Balances hands ledger) (job : Job) :
    (worker.start.post job).Balances hands
      { ledger with posted := ledger.posted ++ [job] } := by
  have started := balances.start
  have before (number : Nat) (ticket : Ticket Answer)
      (found : (worker.start.post job).ticket? number = some ticket) :
      worker.start.ticket? number = some ticket ∨
        number = worker.start.tickets.length ∧ ticket = .waiting := by
    rw [ticket?, Worker.post, List.getElem?_append] at found
    split at found
    · exact .inl found
    · obtain ⟨here, rfl⟩ := List.getElem?_eq_some_iff.mp found
      rw [List.length_singleton] at here
      exact .inr ⟨by omega, by simp⟩
  exact {
    order := balances.order.post job
    hands_eq := started.hands_eq
    gone_eq := started.gone_eq
    length_tickets := by simp [Worker.post, started.length_tickets]
    taken_append := by
      simp [Worker.post, Ledger.numbered, List.zipIdx_append, ← List.append_assoc,
        started.taken_append, started.length_tickets]
    finished_perm := started.finished_perm
    waiting := by
      intro number waits
      have last : (worker.start.post job).queued =
          worker.start.queued ++ [worker.start.tickets.length] := by
        simp [Worker.post, queued]
      rw [last, List.mem_append, List.mem_singleton]
      rcases before number _ waits with old | ⟨new, _⟩
      · exact (started.waiting number old).imp .inl id
      · exact .inl (.inr new)
    answered := fun number answer found =>
      started.answered number answer ((before number _ found).resolve_right (by simp))
    cancelled := fun number found =>
      started.cancelled number ((before number _ found).resolve_right (by simp)) }

/-- A hand takes the first job of the queue. -/
theorem take (balances : worker.Balances hands ledger) {hand : Nat}
    (takes : worker.take? hand = some next) :
    next.Balances hands
      { ledger with taken := ledger.taken ++ worker.queue.head?.toList } := by
  have order := balances.order.take (List.nodup_append.mp balances.numbers_nodup).2.1 takes
  obtain ⟨number, job, rest, queue, working, idle, rfl⟩ := take?_eq_some_iff.mp takes
  have whole := balances.taken_append
  rw [queue] at whole
  exact {
    order
    hands_eq := balances.hands_eq
    gone_eq := balances.gone_eq
    length_tickets := balances.length_tickets
    taken_append := by simpa [queue, Ledger.numbered] using whole
    finished_perm := by
      simpa [queue, ← List.append_assoc] using balances.finished_perm.append_right [(number, job)]
    waiting := by
      intro other waits
      have place := balances.waiting other waits
      simp only [queued, queue, inHand, List.map_cons, List.mem_cons, List.map_append,
        List.mem_append, List.map_nil, List.not_mem_nil, or_false] at place ⊢
      tauto
    answered := balances.answered
    cancelled := balances.cancelled }

/-- A hand finishes the job it holds, and answers its ticket unless that is settled. -/
theorem finish (balances : worker.Balances hands ledger) {hand : Nat} {answer : Answer}
    (finishes : worker.finish? hand answer = some next) :
    next.Balances hands
      { ledger with
        finished := ledger.finished ++ ((worker.heldJob? hand).map (·, answer)).toList } := by
  have order := balances.order.step (List.nodup_append.mp balances.numbers_nodup).2.1
    (show worker.step? (.finish hand answer) = some next from finishes)
  obtain ⟨held, found, rfl⟩ := finish?_eq_some_iff.mp finishes
  -- The job moves from the hand to the end of the ledger, whatever became of its ticket.
  have parts := busy_perm worker.busy hand balances.order.oneEach
  rw [found] at parts
  have entry : ((worker.heldJob? hand).map (·, answer)).toList = [(held.2, answer)] := by
    simp [heldJob?, found]
  rw [entry]
  exact {
    order
    hands_eq := balances.hands_eq
    gone_eq := balances.gone_eq
    length_tickets := by
      rw [length_tickets_settle]
      exact balances.length_tickets
    taken_append := balances.taken_append
    finished_perm := by
      have moved := ((parts.map Prod.snd).append_left (ledger.finished.map Prod.fst)).symm
      simpa [settle] using moved.trans balances.finished_perm
    waiting := by
      intro number waits
      obtain ⟨before, apart⟩ := ticket?_settle_eq_waiting rfl waits
      refine (balances.waiting number before).imp id fun member => ?_
      have moved := (parts.map fun held => held.2.1).mem_iff.mp member
      simpa [inHand, settle, apart] using moved
    answered := by
      intro number other now
      rcases ticket?_settle_eq_some now with before | ⟨rfl, same⟩
      · obtain ⟨job, member⟩ := balances.answered number other before
        exact ⟨job, List.mem_append_left _ member⟩
      · cases same
        exact ⟨held.2.2, List.mem_append_right _ List.mem_cons_self⟩
    cancelled := fun number now =>
      balances.cancelled number ((ticket?_settle_eq_some now).resolve_right (by simp)) }

/-- A caller cancels a ticket, which changes nothing unless it waits. -/
theorem cancel (balances : worker.Balances hands ledger) (number : Nat) :
    (worker.cancel number).Balances hands
      { ledger with cancelled := ledger.cancelled ++ [number] } where
  order := ⟨balances.order.pending_eq, balances.order.oneEach, balances.order.atWork,
    balances.order.resting⟩
  hands_eq := balances.hands_eq
  gone_eq := balances.gone_eq
  length_tickets := by
    rw [Worker.cancel, length_tickets_settle]
    exact balances.length_tickets
  taken_append := balances.taken_append
  finished_perm := balances.finished_perm
  waiting other waits := balances.waiting other (ticket?_settle_eq_waiting rfl waits).1
  answered other answer now :=
    balances.answered other answer ((ticket?_settle_eq_some now).resolve_right (by simp))
  cancelled other now := by
    rcases ticket?_settle_eq_some now with before | ⟨rfl, _⟩
    · exact List.mem_append_left _ (balances.cancelled other before)
    · exact List.mem_append_right _ List.mem_cons_self

/-- The worker balances after every calm event. -/
theorem step (balances : worker.Balances hands ledger) {event : Event Job Answer}
    (calm : event.isCalm = true) (happens : worker.step? event = some next) :
    next.Balances hands (ledger.enter worker event) := by
  cases event with
  | post job => exact Option.some.inj happens ▸ balances.post job
  | refuse => exact Option.some.inj happens ▸ balances.start
  | take hand => exact balances.take happens
  | finish hand answer => exact balances.finish happens
  | cancel number =>
    obtain ⟨-, rfl⟩ := Option.ite_some_none_eq_some.mp happens
    exact balances.cancel number
  | breakOff hand => cases calm
  | callStop => cases calm
  | endStop => cases calm

/-- The worker balances after every calm run. -/
theorem run (balances : worker.Balances hands ledger) {events : List (Event Job Answer)}
    (calm : ∀ event ∈ events, event.isCalm = true) (runs : worker.run? events = some next) :
    next.Balances hands (ledger.enterAll worker events) := by
  induction events generalizing worker ledger with
  | nil => exact Option.some.inj runs ▸ balances
  | cons event rest tail =>
    obtain ⟨middle, happens, further⟩ := Option.bind_eq_some_iff.mp runs
    obtain ⟨here, others⟩ := List.forall_mem_cons.mp calm
    rw [Ledger.enterAll, happens]
    exact tail (balances.step here happens) others further

/-- An answer is what came of the job that was posted under the number of the ticket. -/
theorem of_answered (balances : worker.Balances hands ledger) {number : Nat} {answer : Answer}
    (now : worker.ticket? number = some (.answered answer)) :
    ∃ job, ledger.posted[number]? = some job ∧ ((number, job), answer) ∈ ledger.finished := by
  obtain ⟨job, done⟩ := balances.answered number answer now
  have taken : (number, job) ∈ ledger.taken := balances.finished_perm.subset
    (List.mem_append_left _ (List.mem_map_of_mem done))
  have posted : (number, job) ∈ ledger.numbered :=
    balances.taken_append ▸ List.mem_append_left _ taken
  exact ⟨job, Ledger.mem_numbered.mp posted, done⟩

/-- Where no job is left, every ticket is answered unless its caller cancelled it. -/
theorem answered_of_idle (balances : worker.Balances hands ledger) (queue : worker.queue = [])
    (busy : worker.busy = []) {number : Nat} (issued : number < ledger.posted.length)
    (kept : number ∉ ledger.cancelled) :
    ∃ answer, worker.ticket? number = some (.answered answer) := by
  have found : ∃ ticket, worker.ticket? number = some ticket :=
    ⟨_, List.getElem?_eq_getElem (balances.length_tickets ▸ issued)⟩
  obtain ⟨ticket, found⟩ := found
  cases ticket with
  | waiting => simpa [queued, inHand, queue, busy] using balances.waiting number found
  | cancelled => exact absurd (balances.cancelled number found) kept
  | answered answer => exact ⟨answer, found⟩

/-- No hand is lost: while there are jobs in the queue and not all hands hold one, a hand is able
to take the next. -/
theorem exists_take (balances : worker.Balances hands ledger) (waits : worker.queue ≠ [])
    (spare : worker.busy.length < hands) : ∃ hand, (worker.take? hand).isSome := by
  have running : worker.running = true := by
    by_contra rest
    exact waits (balances.order.resting (by simpa using rest))
  -- More hands than jobs in hand, so one of them holds none.
  obtain ⟨hand, inRange, idle⟩ :
      ∃ hand ∈ List.range hands, hand ∉ worker.busy.map Prod.fst := by
    by_contra none
    push Not at none
    have fewer := (List.subperm_of_subset List.nodup_range none).length_le
    rw [List.length_range, List.length_map] at fewer
    omega
  obtain ⟨⟨number, job⟩, rest, queue⟩ := List.exists_cons_of_ne_nil waits
  refine ⟨hand, Option.isSome_iff_exists.mpr ⟨_, take?_eq_some_iff.mpr
    ⟨number, job, rest, queue, ?_, fun held member same => ?_, rfl⟩⟩⟩
  · simpa [isAtWork, running, balances.hands_eq, balances.gone_eq] using inRange
  · exact idle (same ▸ List.mem_map_of_mem member)

end Balances

/-- A refused job puts the hands to work and changes no table. -/
theorem InOrder.submit_error {worker : Worker Job Answer} (order : worker.InOrder)
    {Refusal : Type} (refusal : Refusal) :
    ∃ next, worker.submit (.error refusal : Except Refusal Job) = (.error refusal, next) ∧
      next.queue = worker.queue ∧ next.pending = worker.pending ∧ next.busy = worker.busy ∧
      next.tickets = worker.tickets := by
  obtain ⟨queue, busy⟩ := order.start_tables
  have pending : worker.start.pending = worker.pending := by
    unfold Worker.start
    split <;> rfl
  exact ⟨worker.start, rfl, queue, pending, busy, tickets_start worker⟩

/-- **Answers pair with posts.** However callers and hands take turns, the open tickets are those
of the queue; jobs are taken in the order they were posted, each once at most, and at most as many
are in hand as there are hands; a ticket is answered with what came of its own job only; what is
refused has no number; and when no job is left, every ticket is answered but for those that
callers cancelled. -/
theorem answers_pair_with_posts (Refusal : Type) (hands : Int) (events : List (Event Job Answer))
    (last : Worker Job Answer) (calm : ∀ event ∈ events, event.isCalm = true)
    (runs : (withHands hands).run? events = some last) :
    let ledger := Ledger.enterAll {} (withHands hands) events
    last.pending = last.queued ∧
      ledger.taken ++ last.queue = ledger.numbered ∧
      (ledger.taken.map Prod.fst).Nodup ∧
      (ledger.finished.map Prod.fst ++ last.busy.map Prod.snd).Perm ledger.taken ∧
      last.busy.length ≤ (max 1 hands).toNat ∧
      (∀ number answer, last.ticket? number = some (.answered answer) →
        ∃ job, ledger.posted[number]? = some job ∧ ((number, job), answer) ∈ ledger.finished) ∧
      (∀ job, (last.submit (.ok job : Except Refusal Job)).1 = .ok ledger.posted.length) ∧
      (∀ refusal, ∃ next,
        last.submit (.error refusal : Except Refusal Job) = (.error refusal, next) ∧
          next.queue = last.queue ∧ next.pending = last.pending ∧ next.busy = last.busy ∧
          next.tickets = last.tickets) ∧
      (last.queue = [] → last.busy = [] → ∀ number < ledger.posted.length,
        number ∉ ledger.cancelled → ∃ answer, last.ticket? number = some (.answered answer)) := by
  intro ledger
  have balances : last.Balances (max 1 hands).toNat ledger :=
    (Balances.withHands hands).run calm runs
  exact ⟨balances.order.pending_eq, balances.taken_append,
    (List.nodup_append.mp balances.numbers_nodup).1, balances.finished_perm,
    balances.hands_eq ▸ balances.order.length_busy_le,
    fun _ _ => balances.of_answered,
    fun _ => congrArg Except.ok balances.length_tickets, balances.order.submit_error,
    fun queue busy _ => balances.answered_of_idle queue busy⟩

/-- Three jobs for two hands, and one that is refused: the second is finished before the first, and
the ticket of the first is cancelled while its job is in hand. -/
def crossedEvents : List (Event String Nat) :=
  [.post "a", .refuse, .post "b", .take 1, .take 0, .post "c", .finish 0 10, .cancel 0, .take 0,
    .finish 1 20, .finish 0 30]

/-- Every ticket that was not cancelled shows what came of its own job. -/
theorem answers_pair_with_posts_crossed :
    (∀ event ∈ crossedEvents, event.isCalm = true) ∧
      ∃ last : Worker String Nat, (withHands 2).run? crossedEvents = some last ∧
        last.pending = last.queued ∧ last.busy.length ≤ 2 ∧
        (Ledger.enterAll {} (withHands 2) crossedEvents).finished =
          [((1, "b"), 10), ((0, "a"), 20), ((2, "c"), 30)] ∧
        last.ticket? 0 = some .cancelled ∧ ∃ answer, last.ticket? 1 = some (.answered answer) := by
  have calm : ∀ event ∈ crossedEvents, event.isCalm = true := by decide
  obtain ⟨last, runs, idle⟩ : ∃ last : Worker String Nat,
      (withHands 2).run? crossedEvents = some last ∧
        (last.queue = [] ∧ last.busy = []) ∧ last.ticket? 0 = some .cancelled :=
    ⟨_, rfl, ⟨rfl, rfl⟩, rfl⟩
  obtain ⟨pending, _, _, _, busy, _, _, _, settled⟩ :=
    answers_pair_with_posts Unit 2 crossedEvents last calm runs
  exact ⟨calm, last, runs, pending, busy, rfl, idle.2,
    settled idle.1.1 idle.1.2 1 (by decide) (by decide)⟩

end SiteBuild.Worker
