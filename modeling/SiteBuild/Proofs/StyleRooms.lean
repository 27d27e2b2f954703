import SiteBuild.Style.Processor

/-!
# Callers, bells and the tool

Callers for flat sheets share one memory and one tool. A caller for a sheet that is with the tool
waits for the bell that was hung up for it, and who leaves the tool, with or without a result,
takes the bell down and rings it. Calls may come at any time, go on in any order, be broken off
anywhere, and the memory may be cleared in between. The sheets at the tool, the bells that hang
and the callers at the tool go together in every room that comes about (`orderly_of_run`), so
whoever is able to go on can go on, and nobody waits for a bell that nobody will ring
(`nobody_waits`).
-/
namespace SiteBuild.Style

/-- How far a call for a flat sheet has come. -/
inductive Stage where
  /-- It is about to begin. -/
  | fresh
  /-- It waits for a bell. -/
  | waiting (bell : Nat)
  /-- Its sheet is with the tool; the bell is for those who wait for it. -/
  | atTool (bell : Nat)
  /-- It has come to its end by itself. -/
  | ended (result : Except BuildError Textual)
  /-- It was broken off. -/
  | cancelled
  deriving Repr

/-- A call for a flat sheet. -/
structure Call where
  /-- The nested sheet. -/
  raw : Key
  /-- How far it has come. -/
  stage : Stage
  deriving Repr

/-- The memory and the callers that share it. -/
structure Room where
  /-- What is known of style sheets. -/
  memory : Memory := {}
  /-- The bells that hang, each for a sheet at the tool. -/
  hung : List (Key × Nat) := []
  /-- Whether each bell has rung. -/
  rung : List Bool := []
  /-- The calls, in the order in which they came. -/
  calls : List Call := []
  deriving Repr

/-- What can happen. -/
inductive Move where
  /-- A caller comes for the flat form of a sheet. -/
  | call (raw : Key)
  /-- A caller who is able to goes on. -/
  | go (number : Nat)
  /-- The tool answers a caller. -/
  | answer (number : Nat) (answer : Except Failure Json)
  /-- A call is broken off. -/
  | cancel (number : Nat)
  /-- The memory is cleared. -/
  | clear
  deriving Repr

/-- The caller whose move it is. -/
def Move.number? : Move → Option Nat
  | .go number => some number
  | .answer number _ => some number
  | .cancel number => some number
  | _ => none

/-- What a call at a stage can be counted as, in hits and misses. -/
def Stage.counts : Stage → List (Nat × Nat)
  | .fresh => [(0, 0)]
  | .waiting _ => [(0, 0)]
  | .atTool _ => [(0, 1)]
  | .ended _ => [(1, 0), (0, 1)]
  | .cancelled => [(0, 0), (0, 1)]

namespace Room

/-- The bell that hangs for a sheet. -/
def bell? (room : Room) (raw : Key) : Option Nat :=
  (room.hung.find? fun entry => raw.same entry.1).map Prod.snd

/-- Whether a caller at a stage is able to go on: it just came, or its bell has rung. -/
def isAble (room : Room) : Stage → Bool
  | .fresh => true
  | .waiting bell => room.rung[bell]? == some true
  | _ => false

/-- The room after a caller for a sheet has gone on. -/
def go? (room : Room) (number : Nat) (raw : Key) : Option Room :=
  match room.memory.turn raw with
  | (.take css, memory) =>
    some { room with memory, calls := room.calls.set number ⟨raw, .ended (.ok css)⟩ }
  | (.wait, memory) =>
    (room.bell? raw).map fun bell =>
      { room with memory, calls := room.calls.set number ⟨raw, .waiting bell⟩ }
  | (.goToTool, memory) =>
    let bell := room.rung.length
    some {
      memory
      hung := (raw, bell) :: room.hung
      rung := room.rung ++ [false]
      calls := room.calls.set number ⟨raw, .atTool bell⟩ }

/-- The room after a caller has left the tool; one that is broken off leaves with no result, and
brings as little as an empty sheet does. -/
def leave (room : Room) (number : Nat) (raw : Key) (bell : Nat)
    (result? : Option (Except BuildError Textual)) : Room where
  memory := room.memory.finish raw (result?.getD (.ok default))
  hung := room.hung.filter fun entry => !raw.same entry.1
  rung := room.rung.set bell true
  calls := room.calls.set number ⟨raw, result?.elim .cancelled .ended⟩

/-- The room after a move, if it can be made. -/
def step? (room : Room) : Move → Option Room
  | .call raw => some { room with calls := room.calls ++ [⟨raw, .fresh⟩] }
  | .go number =>
    match room.calls[number]? with
    | some ⟨raw, stage⟩ => if room.isAble stage then room.go? number raw else none
    | none => none
  | .answer number answer =>
    match room.calls[number]? with
    | some ⟨raw, .atTool bell⟩ => some (room.leave number raw bell (some (ofAnswer answer)))
    | _ => none
  | .cancel number =>
    match room.calls[number]? with
    | some ⟨raw, .fresh⟩ => some { room with calls := room.calls.set number ⟨raw, .cancelled⟩ }
    | some ⟨raw, .waiting _⟩ => some { room with calls := room.calls.set number ⟨raw, .cancelled⟩ }
    | some ⟨raw, .atTool bell⟩ => some (room.leave number raw bell none)
    | _ => none
  | .clear => some { room with memory := room.memory.clear }

/-- The room after moves, if they can be made one after the other. -/
def run? (room : Room) : List Move → Option Room
  | [] => some room
  | move :: rest => (room.step? move).bind fun next => next.run? rest

/-- Whether a call has come to a stage. -/
def At (room : Room) (number : Nat) (raw : Key) (stage : Stage) : Prop :=
  room.calls[number]? = some ⟨raw, stage⟩

/-- How far the counters of hits and misses go up in the moves of one caller. -/
def tally (number : Nat) (room : Room) : List Move → Nat × Nat
  | [] => (0, 0)
  | move :: rest =>
    match room.step? move with
    | none => (0, 0)
    | some next =>
      let later := next.tally number rest
      if move.number? = some number then
        (next.memory.hits - room.memory.hits + later.1,
          next.memory.misses - room.memory.misses + later.2)
      else later

variable {room next : Room} {move : Move}

/-! ## Single moves -/

/-- What a move does to the room. -/
inductive Goes (room : Room) : Move → Room → Prop where
  /-- A caller comes. -/
  | called (raw : Key) :
      Goes room (.call raw) { room with calls := room.calls ++ [⟨raw, .fresh⟩] }
  /-- The flat sheet is known. -/
  | taken {number : Nat} {raw : Key} {stage : Stage} {css : Textual}
      (here : room.At number raw stage) (able : room.isAble stage = true)
      (known : room.memory.find? raw = some css) :
      Goes room (.go number) { room with
        memory := { room.memory with hits := room.memory.hits + 1 }
        calls := room.calls.set number ⟨raw, .ended (.ok css)⟩ }
  /-- The sheet is with the tool for another caller. -/
  | queued {number bell : Nat} {raw : Key} {stage : Stage}
      (here : room.At number raw stage) (able : room.isAble stage = true)
      (hangs : room.bell? raw = some bell) :
      Goes room (.go number) { room with
        memory := { room.memory with waits := room.memory.waits + 1 }
        calls := room.calls.set number ⟨raw, .waiting bell⟩ }
  /-- The sheet goes to the tool. -/
  | begun {number : Nat} {raw : Key} {stage : Stage}
      (here : room.At number raw stage) (able : room.isAble stage = true)
      (free : room.memory.inFlight.any raw.same = false) :
      Goes room (.go number) {
        memory := { room.memory with
          misses := room.memory.misses + 1, inFlight := raw :: room.memory.inFlight }
        hung := (raw, room.rung.length) :: room.hung
        rung := room.rung ++ [false]
        calls := room.calls.set number ⟨raw, .atTool room.rung.length⟩ }
  /-- The tool has answered. -/
  | answered {number bell : Nat} {raw : Key} (answer : Except Failure Json)
      (here : room.At number raw (.atTool bell)) :
      Goes room (.answer number answer) (room.leave number raw bell (some (ofAnswer answer)))
  /-- The call is broken off at the tool. -/
  | brokenOff {number bell : Nat} {raw : Key} (here : room.At number raw (.atTool bell)) :
      Goes room (.cancel number) (room.leave number raw bell none)
  /-- The call is broken off elsewhere. -/
  | dropped {number : Nat} {raw : Key} {stage : Stage} (here : room.At number raw stage)
      (away : stage = .fresh ∨ ∃ bell, stage = .waiting bell) :
      Goes room (.cancel number) { room with calls := room.calls.set number ⟨raw, .cancelled⟩ }
  /-- The memory is cleared. -/
  | cleared : Goes room .clear { room with memory := room.memory.clear }

/-- A move does one of these. -/
theorem goes_of_step (happens : room.step? move = some next) : Goes room move next := by
  cases move with
  | call raw =>
    cases happens
    exact .called raw
  | go number =>
    simp only [step?] at happens
    split at happens
    · rename_i raw stage here
      split at happens
      · rename_i able
        simp only [go?, Memory.turn] at happens
        cases known : room.memory.find? raw with
        | some css =>
          rw [known] at happens
          cases happens
          exact .taken here able known
        | none =>
          rw [known] at happens
          cases busy : room.memory.inFlight.any raw.same with
          | true =>
            simp only [busy, ↓reduceIte, Option.map_eq_some_iff] at happens
            obtain ⟨bell, hangs, rfl⟩ := happens
            exact .queued here able hangs
          | false =>
            simp only [busy, Bool.false_eq_true, ↓reduceIte, Option.some.injEq] at happens
            subst happens
            exact .begun here able busy
      · cases happens
    · cases happens
  | answer number answer =>
    simp only [step?] at happens
    split at happens
    · rename_i raw bell here
      cases happens
      exact .answered answer here
    · cases happens
  | cancel number =>
    simp only [step?] at happens
    split at happens
    · rename_i raw here
      cases happens
      exact .dropped here (.inl rfl)
    · rename_i raw bell here
      cases happens
      exact .dropped here (.inr ⟨bell, rfl⟩)
    · rename_i raw bell here
      cases happens
      exact .brokenOff here
    · cases happens
  | clear =>
    cases happens
    exact .cleared

/-- When one call is replaced, the others are where they were. -/
theorem getElem?_put {calls : List Call} {number place : Nat} {old new call : Call}
    (here : calls[number]? = some old) :
    (calls.set number new)[place]? = some call ↔
      place = number ∧ call = new ∨ place ≠ number ∧ calls[place]? = some call := by
  have bound := (List.getElem?_eq_some_iff.mp here).1
  by_cases same : number = place
  · subst same
    simp [bound, eq_comm]
  · simp [same, Ne.symm same]

/-- When a call is added, the others are where they were. -/
theorem getElem?_call {calls : List Call} {place : Nat} {new call : Call} :
    (calls ++ [new])[place]? = some call ↔
      place = calls.length ∧ call = new ∨ calls[place]? = some call := by
  rcases Nat.lt_trichotomy place calls.length with inside | rfl | outside
  · simp [List.getElem?_append_left inside, Nat.ne_of_lt inside]
  · simp [eq_comm]
  · have gone : calls[place]? = none := List.getElem?_eq_none (Nat.le_of_lt outside)
    have beyond : (calls ++ [new])[place]? = none := by
      apply List.getElem?_eq_none
      simpa using Nat.succ_le_of_lt outside
    simp [gone, beyond, Nat.ne_of_gt outside]

/-- A bell that has rung has rung when another rings too. -/
theorem rung_set {rung : List Bool} {bell : Nat} (rang : rung[bell]? = some true) (other : Nat) :
    (rung.set other true)[bell]? = some true := by
  rw [List.getElem?_set]
  split
  · rename_i same
    rw [same, if_pos (List.getElem?_eq_some_iff.mp rang).1]
  · exact rang

/-! ## Bells -/

/-- Whether sheets at the tool, bells and callers go together. -/
structure Orderly (room : Room) : Prop where
  /-- A bell hangs for each sheet at the tool. -/
  sheets : room.hung.map Prod.fst = room.memory.inFlight
  /-- Each bell that hangs is that of a caller at the tool. -/
  held : ∀ raw bell, (raw, bell) ∈ room.hung ↔ ∃ number, room.At number raw (.atTool bell)
  /-- A bell that hangs has not rung. -/
  silent : ∀ entry ∈ room.hung, room.rung[entry.2]? = some false
  /-- Bells that hang are different and hang for different sheets. -/
  apart : ∀ one ∈ room.hung, ∀ other ∈ room.hung,
    one.1.same other.1 = true ∨ one.2 = other.2 → one = other
  /-- Callers at the tool have bells of their own. -/
  alone : ∀ number number' raw raw' bell, room.At number raw (.atTool bell) →
    room.At number' raw' (.atTool bell) → number = number'
  /-- A bell that a caller waits for has rung or hangs for the sheet of the caller. -/
  heard : ∀ number raw bell, room.At number raw (.waiting bell) →
    room.rung[bell]? = some true ∨ ∃ sheet, (sheet, bell) ∈ room.hung ∧ raw.same sheet = true

/-- A key is the same as itself. -/
theorem same_self (key : Key) : key.same key = true := by
  rw [Key.same, beq_self_eq_true]

/-- Keys that are the same are so the other way round. -/
theorem same_comm (first second : Key) : first.same second = second.same first :=
  Bool.beq_comm

/-- Keys that are the same as a third one are the same. -/
theorem same_trans {first second third : Key} (one : first.same second = true)
    (two : second.same third = true) : first.same third = true := by
  have one : first.canonical = second.canonical := eq_of_beq one
  have two : second.canonical = third.canonical := eq_of_beq two
  simp [Key.same, one, two]

/-- A bell that hangs for a sheet is among those that hang. -/
theorem mem_of_bell? {raw : Key} {bell : Nat} (hangs : room.bell? raw = some bell) :
    ∃ sheet, (sheet, bell) ∈ room.hung ∧ raw.same sheet = true := by
  obtain ⟨entry, found, rfl⟩ := Option.map_eq_some_iff.mp hangs
  have same := List.find?_some found
  exact ⟨entry.1, List.mem_of_find?_eq_some found, same⟩

namespace Orderly

/-- A bell that hangs for a sheet is the one that is found for it. -/
theorem bell?_eq (orderly : room.Orderly) {raw sheet : Key} {bell : Nat}
    (hangs : (sheet, bell) ∈ room.hung) (same : raw.same sheet = true) :
    room.bell? raw = some bell := by
  have hanging : (room.hung.find? fun entry => raw.same entry.1).isSome :=
    List.find?_isSome.mpr ⟨(sheet, bell), hangs, same⟩
  obtain ⟨entry, found⟩ := Option.isSome_iff_exists.mp hanging
  have here := List.find?_some found
  have alike : entry.1.same sheet = true := same_trans (same_comm raw entry.1 ▸ here) same
  have one : entry = (sheet, bell) :=
    orderly.apart _ (List.mem_of_find?_eq_some found) _ hangs (.inl alike)
  rw [bell?, found, one]
  rfl

/-- A bell that hangs is one of the bells. -/
theorem lt_rung (orderly : room.Orderly) {entry : Key × Nat} (hangs : entry ∈ room.hung) :
    entry.2 < room.rung.length :=
  (List.getElem?_eq_some_iff.mp (orderly.silent entry hangs)).1

/-- A sheet is at the tool if and only if a bell hangs for it. -/
theorem inFlight_iff (orderly : room.Orderly) (raw : Key) :
    room.memory.inFlight.any raw.same = true ↔
      ∃ sheet bell, (sheet, bell) ∈ room.hung ∧ raw.same sheet = true := by
  rw [← orderly.sheets]
  simp

/-- What changes neither bells nor sheets at the tool nor the callers there leaves all in order, if
whoever waits waited before or waits for the bell of its sheet. -/
theorem of_calls (orderly : room.Orderly) (hung : next.hung = room.hung)
    (rung : next.rung = room.rung) (sheets : next.memory.inFlight = room.memory.inFlight)
    (tool : ∀ number raw bell,
      next.At number raw (.atTool bell) ↔ room.At number raw (.atTool bell))
    (waiting : ∀ number raw bell, next.At number raw (.waiting bell) →
      room.At number raw (.waiting bell) ∨ room.bell? raw = some bell) : next.Orderly where
  sheets := by rw [hung, sheets, orderly.sheets]
  held raw bell := by simp only [hung, tool, orderly.held]
  silent := by rw [hung, rung]; exact orderly.silent
  apart := by rw [hung]; exact orderly.apart
  alone number number' raw raw' bell one other :=
    orderly.alone _ _ _ _ _ ((tool _ _ _).mp one) ((tool _ _ _).mp other)
  heard number raw bell waits := by
    rw [hung, rung]
    rcases waiting number raw bell waits with before | hangs
    · exact orderly.heard number raw bell before
    · exact .inr (mem_of_bell? hangs)

/-- A call that is replaced, neither of the two at the tool, leaves all in order, if it does not
wait but for the bell of its sheet. -/
theorem put (orderly : room.Orderly) {number : Nat} {raw : Key} {old new : Stage} {memory : Memory}
    (here : room.At number raw old) (sheets : memory.inFlight = room.memory.inFlight)
    (away : ∀ bell, old ≠ .atTool bell) (apart : ∀ bell, new ≠ .atTool bell)
    (waiting : ∀ bell, new = .waiting bell → room.bell? raw = some bell) :
    { room with memory, calls := room.calls.set number ⟨raw, new⟩ : Room }.Orderly := by
  refine orderly.of_calls rfl rfl sheets ?_ ?_
  · intro place sheet bell
    simp only [At, getElem?_put here, Call.mk.injEq]
    constructor
    · rintro (⟨-, -, same⟩ | ⟨-, found⟩)
      · exact absurd same.symm (apart bell)
      · exact found
    · intro found
      refine .inr ⟨?_, found⟩
      rintro rfl
      cases here.symm.trans found
      exact away bell rfl
  · intro place sheet bell found
    rcases (getElem?_put here).mp found with ⟨-, same⟩ | ⟨-, found⟩
    · cases same
      exact .inr (waiting bell rfl)
    · exact .inl found

/-- A sheet that goes to the tool gets a bell of its own. -/
theorem begun (orderly : room.Orderly) {number : Nat} {raw : Key} {stage : Stage} {memory : Memory}
    (here : room.At number raw stage) (able : room.isAble stage = true)
    (free : room.memory.inFlight.any raw.same = false)
    (sheets : memory.inFlight = raw :: room.memory.inFlight) :
    Orderly {
      memory
      hung := (raw, room.rung.length) :: room.hung
      rung := room.rung ++ [false]
      calls := room.calls.set number ⟨raw, .atTool room.rung.length⟩ } := by
  have other (entry : Key × Nat) (hangs : entry ∈ room.hung) : raw.same entry.1 = false := by
    cases same : raw.same entry.1 with
    | false => rfl
    | true =>
      have busy := (orderly.inFlight_iff raw).mpr ⟨entry.1, entry.2, hangs, same⟩
      rw [free] at busy
      cases busy
  -- Who comes to the tool was somewhere else before.
  have away (place : Nat) (sheet : Key) (bell : Nat)
      (found : room.At place sheet (.atTool bell)) : place ≠ number := by
    rintro rfl
    cases here.symm.trans found
    cases able
  constructor
  case sheets => simp [sheets, orderly.sheets]
  case held =>
    intro sheet bell
    simp only [List.mem_cons, Prod.mk.injEq, orderly.held, At, getElem?_put here, Call.mk.injEq,
      Stage.atTool.injEq]
    constructor
    · rintro (⟨rfl, rfl⟩ | ⟨place, found⟩)
      · exact ⟨number, .inl ⟨rfl, rfl, rfl⟩⟩
      · exact ⟨place, .inr ⟨away _ _ _ found, found⟩⟩
    · rintro ⟨place, ⟨-, rfl, rfl⟩ | ⟨-, found⟩⟩
      · exact .inl ⟨rfl, rfl⟩
      · exact .inr ⟨place, found⟩
  case silent =>
    intro entry hangs
    rcases List.mem_cons.mp hangs with rfl | before
    · simp
    · rw [List.getElem?_append_left (orderly.lt_rung before)]
      exact orderly.silent entry before
  case apart =>
    intro one hangs two hangs' alike
    rcases List.mem_cons.mp hangs with rfl | before <;>
      rcases List.mem_cons.mp hangs' with rfl | before'
    · rfl
    · rcases alike with same | same
      · rw [other two before'] at same
        cases same
      · exact absurd same.symm (Nat.ne_of_lt (orderly.lt_rung before'))
    · rcases alike with same | same
      · rw [same_comm, other one before] at same
        cases same
      · exact absurd same (Nat.ne_of_lt (orderly.lt_rung before))
    · exact orderly.apart one before two before' alike
  case alone =>
    intro place place' sheet sheet' bell found found'
    have fresh (place : Nat) (sheet : Key) (found : room.At place sheet (.atTool bell)) :
        bell ≠ room.rung.length :=
      Nat.ne_of_lt (orderly.lt_rung ((orderly.held sheet bell).mpr ⟨place, found⟩))
    rcases (getElem?_put here).mp found with ⟨one, same⟩ | ⟨-, before⟩ <;>
      rcases (getElem?_put here).mp found' with ⟨other, same'⟩ | ⟨-, before'⟩
    · exact one.trans other.symm
    · cases same
      exact absurd rfl (fresh _ _ before')
    · cases same'
      exact absurd rfl (fresh _ _ before)
    · exact orderly.alone _ _ _ _ _ before before'
  case heard =>
    intro place sheet bell found
    rcases (getElem?_put here).mp found with ⟨-, same⟩ | ⟨-, found⟩
    · cases same
    · rcases orderly.heard _ _ _ found with rang | ⟨of, hangs, same⟩
      · left
        rw [List.getElem?_append_left (List.getElem?_eq_some_iff.mp rang).1, rang]
      · exact .inr ⟨of, List.mem_cons_of_mem _ hangs, same⟩

/-- Who leaves the tool takes the bell of its sheet down, and that bell only, and rings it. -/
theorem leave (orderly : room.Orderly) {number bell : Nat} {raw : Key}
    (here : room.At number raw (.atTool bell)) (result? : Option (Except BuildError Textual)) :
    (room.leave number raw bell result?).Orderly := by
  have own : (raw, bell) ∈ room.hung := (orderly.held raw bell).mpr ⟨number, here⟩
  have others (entry : Key × Nat) : entry ∈ (room.leave number raw bell result?).hung ↔
      entry ∈ room.hung ∧ raw.same entry.1 = false := by
    simp [Room.leave]
  -- Where another sheet is at the tool, another bell hangs.
  have apart (entry : Key × Nat) (hangs : entry ∈ room.hung) (differ : raw.same entry.1 = false) :
      entry.2 ≠ bell := by
    intro same
    rw [orderly.apart entry hangs _ own (.inr same), same_self] at differ
    cases differ
  have inFlight : (room.leave number raw bell result?).memory.inFlight =
      room.memory.inFlight.filter (!raw.same ·) := by
    simp only [Room.leave, Memory.finish]
    split
    · simp only [Memory.keep]
      split <;> rfl
    · rfl
  have tool (place : Nat) (sheet : Key) (ring : Nat)
      (found : (room.leave number raw bell result?).At place sheet (.atTool ring)) :
      place ≠ number ∧ room.At place sheet (.atTool ring) := by
    rcases (getElem?_put here).mp found with ⟨-, same⟩ | left
    · cases result? <;> cases same
    · exact left
  constructor
  case sheets =>
    rw [inFlight, ← orderly.sheets, List.filter_map]
    rfl
  case held =>
    intro sheet ring
    rw [others, orderly.held]
    constructor
    · rintro ⟨⟨place, found⟩, differ⟩
      refine ⟨place, (getElem?_put here).mpr (.inr ⟨?_, found⟩)⟩
      rintro rfl
      cases here.symm.trans found
      rw [same_self] at differ
      cases differ
    · rintro ⟨place, found⟩
      obtain ⟨elsewhere, found⟩ := tool _ _ _ found
      refine ⟨⟨place, found⟩, ?_⟩
      cases same : raw.same sheet with
      | false => rfl
      | true =>
        have hangs := (orderly.held sheet ring).mpr ⟨place, found⟩
        cases orderly.apart _ own _ hangs (.inl same)
        exact absurd (orderly.alone _ _ _ _ _ found here) elsewhere
  case silent =>
    intro entry hangs
    obtain ⟨hangs, differ⟩ := (others entry).mp hangs
    have rung : (room.rung.set bell true)[entry.2]? = room.rung[entry.2]? :=
      List.getElem?_set_ne (Ne.symm (apart entry hangs differ))
    exact rung.trans (orderly.silent entry hangs)
  case apart =>
    intro one hangs two hangs'
    exact orderly.apart one ((others one).mp hangs).1 two ((others two).mp hangs').1
  case alone =>
    intro place place' sheet sheet' ring found found'
    exact orderly.alone _ _ _ _ _ (tool _ _ _ found).2 (tool _ _ _ found').2
  case heard =>
    intro place sheet ring found
    rcases (getElem?_put here).mp found with ⟨-, same⟩ | ⟨-, found⟩
    · cases result? <;> cases same
    · rcases orderly.heard _ _ _ found with rang | ⟨of, hangs, same⟩
      · exact .inl (rung_set rang bell)
      · cases mine : raw.same of with
        | false => exact .inr ⟨of, (others _).mpr ⟨hangs, mine⟩, same⟩
        | true =>
          left
          cases orderly.apart _ own _ hangs (.inl mine)
          exact List.getElem?_set_self (orderly.lt_rung hangs)

/-- A move leaves all in order. -/
theorem step (orderly : room.Orderly) (happens : room.step? move = some next) :
    next.Orderly := by
  have away {stage : Stage} (able : room.isAble stage = true) (bell : Nat) :
      stage ≠ .atTool bell := by
    rintro rfl
    cases able
  cases goes_of_step happens with
  | called raw =>
    refine orderly.of_calls rfl rfl rfl ?_ ?_ <;> intro place sheet bell
    · simp [At, getElem?_call]
    · simpa [At, getElem?_call] using .inl
  | taken here able known =>
    exact orderly.put here rfl (away able) (by simp) (by simp)
  | queued here able hangs =>
    refine orderly.put here rfl (away able) (by simp) ?_
    rintro bell ⟨⟩
    exact hangs
  | begun here able free => exact orderly.begun here able free rfl
  | answered answer here => exact orderly.leave here _
  | brokenOff here => exact orderly.leave here _
  | dropped here elsewhere =>
    refine orderly.put here rfl ?_ (by simp) (by simp)
    rcases elsewhere with rfl | ⟨bell, rfl⟩ <;> simp
  | cleared => exact orderly.of_calls rfl rfl rfl (fun _ _ _ => .rfl) fun _ _ _ => .inl

/-- Whoever is able to go on can go on. -/
theorem go_isSome (orderly : room.Orderly) {number : Nat} {raw : Key} {stage : Stage}
    (here : room.At number raw stage) (able : room.isAble stage = true) :
    (room.step? (.go number)).isSome := by
  have place : room.calls[number]? = some ⟨raw, stage⟩ := here
  simp only [step?, place, able, ↓reduceIte, go?, Memory.turn]
  cases room.memory.find? raw with
  | some css => rfl
  | none =>
    cases busy : room.memory.inFlight.any raw.same with
    | true =>
      obtain ⟨sheet, bell, hangs, same⟩ := (orderly.inFlight_iff raw).mp busy
      simp [orderly.bell?_eq hangs same]
    | false => rfl

/-- If nobody is at the tool and nobody can go on, then nobody waits. -/
theorem nobody_waits (orderly : room.Orderly)
    (idle : ∀ number raw bell, ¬room.At number raw (.atTool bell))
    (still : ∀ number, room.step? (.go number) = none) (number : Nat) (raw : Key) (bell : Nat) :
    ¬room.At number raw (.waiting bell) := by
  intro waits
  rcases orderly.heard number raw bell waits with rang | ⟨sheet, hangs, -⟩
  · have able : room.isAble (.waiting bell) = true := by simp [isAble, rang]
    have goes := orderly.go_isSome waits able
    rw [still number] at goes
    cases goes
  · obtain ⟨holder, tool⟩ := (orderly.held sheet bell).mp hangs
    exact idle holder sheet bell tool

end Orderly

/-! ## Runs -/

/-- Moves one after the other are the first ones and then the rest. -/
theorem run?_append (room : Room) (moves more : List Move) :
    room.run? (moves ++ more) = (room.run? moves).bind fun next => next.run? more := by
  induction moves generalizing room with
  | nil => rfl
  | cons move rest tail =>
    simp only [List.cons_append, run?, Option.bind_assoc]
    exact congrArg _ (funext tail)

/-- What holds in the empty room and stays with every move holds in every room that comes
about. -/
theorem run_induction {motive : List Move → Room → Prop} (start : motive [] {})
    (step : ∀ moves room move next, ({} : Room).run? moves = some room → motive moves room →
      room.step? move = some next → motive (moves ++ [move]) next)
    {moves : List Move} {room : Room} (run : ({} : Room).run? moves = some room) :
    motive moves room := by
  -- The moves are undone from the end, so that what holds of the room before the last is
  -- at hand.
  obtain ⟨undone, rfl⟩ : ∃ undone : List Move, moves = undone.reverse :=
    ⟨moves.reverse, by simp⟩
  induction undone generalizing room with
  | nil =>
    cases run
    exact start
  | cons move before tail =>
    rw [List.reverse_cons] at run ⊢
    rw [run?_append, Option.bind_eq_some_iff] at run
    obtain ⟨last, first, run⟩ := run
    obtain ⟨next, happens, same⟩ := Option.bind_eq_some_iff.mp run
    cases same
    exact step _ last move _ first (tail first) happens

/-- All is in order in every room that comes about. -/
theorem orderly_of_run {moves : List Move} (run : ({} : Room).run? moves = some room) :
    room.Orderly := by
  refine run_induction (motive := fun _ => Orderly) ?_ ?_ run
  · constructor <;> simp [At]
  · intro _ _ _ _ _ orderly happens
    exact orderly.step happens

end Room
end SiteBuild.Style
