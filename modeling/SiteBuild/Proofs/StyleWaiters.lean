import SiteBuild.Proofs.StyleRooms

/-!
# Callers for style sheets who take turns

What is kept of flat sheets is what the tool answered to a caller for that sheet (`kept_of_run`),
and a caller that comes to its end is counted once (`counted_of_run`). Main statement:
`one_at_tool_no_lost_bell`. The moves of a room are those of the callers that take turns in
earnest: what comes of these, and the memory they leave, comes about in a room
(`exists_run_of_gather`).
-/
namespace SiteBuild.Style.Room

variable {room next : Room} {move : Move}

/-! ## What is kept -/

/-- Whether all that is kept is not empty and is what the tool answered to a caller who asked for
that sheet. -/
def Kept (moves : List Move) (room : Room) : Prop :=
  ∀ entry ∈ room.memory.entries, entry.2.isEmpty = false ∧
    ∃ number answer, .answer number answer ∈ moves ∧ ofAnswer answer = .ok entry.2 ∧
      room.At number entry.1 (.ended (.ok entry.2))

/-- Who has come to an end has come to an end for good. -/
theorem ended_step (happens : room.step? move = some next) {number : Nat} {raw : Key}
    {result : Except BuildError Textual} (ended : room.At number raw (.ended result)) :
    next.At number raw (.ended result) := by
  have stays {place : Nat} {sheet : Key} {stage : Stage} {call : Call}
      (here : room.At place sheet stage) (goes : ∀ result, stage ≠ .ended result) :
      (room.calls.set place call)[number]? = some ⟨raw, .ended result⟩ := by
    refine (getElem?_put here).mpr (.inr ⟨?_, ended⟩)
    rintro rfl
    cases here.symm.trans ended
    exact goes result rfl
  have going {stage : Stage} (able : room.isAble stage = true) (result) :
      stage ≠ .ended result := by
    rintro rfl
    cases able
  cases goes_of_step happens with
  | called raw => exact getElem?_call.mpr (.inr ended)
  | taken here able known => exact stays here (going able)
  | queued here able hangs => exact stays here (going able)
  | begun here able free => exact stays here (going able)
  | answered answer here => exact stays here (by simp)
  | brokenOff here => exact stays here (by simp)
  | dropped here elsewhere =>
    refine stays here ?_
    rcases elsewhere with rfl | ⟨bell, rfl⟩ <;> simp
  | cleared => exact ended

/-- What is kept was kept before, or has just come from the tool and is not empty. -/
theorem mem_entries_finish {memory : Memory} {raw : Key} {result : Except BuildError Textual}
    {entry : Key × Textual} (kept : entry ∈ (memory.finish raw result).entries) :
    entry ∈ memory.entries ∨
      entry.1 = raw ∧ result = .ok entry.2 ∧ entry.2.isEmpty = false := by
  cases result with
  | error cause => exact .inl kept
  | ok css =>
    simp only [Memory.finish, Memory.keep] at kept
    split at kept
    · exact .inl kept
    · rename_i full
      rcases List.mem_append.mp kept with before | new
      · exact .inl (List.mem_filter.mp before).1
      · cases List.mem_singleton.mp new
        exact .inr ⟨rfl, rfl, by simpa using full⟩

/-- Nothing else is kept in any room that comes about. -/
theorem kept_of_run {moves : List Move} (run : ({} : Room).run? moves = some room) :
    Kept moves room := by
  refine run_induction (motive := Kept) ?_ ?_ run
  · intro entry kept
    cases kept
  · intro moves room move next _ kept happens
    have before (entry : Key × Textual) (known : entry ∈ room.memory.entries) :
        entry.2.isEmpty = false ∧ ∃ number answer, .answer number answer ∈ moves ++ [move] ∧
          ofAnswer answer = .ok entry.2 ∧ next.At number entry.1 (.ended (.ok entry.2)) := by
      obtain ⟨full, number, answer, told, result, ended⟩ := kept entry known
      exact ⟨full, number, answer, List.mem_append_left _ told, result, ended_step happens ended⟩
    intro entry known
    cases goes_of_step happens with
    | called raw => exact before entry known
    | taken here able found => exact before entry known
    | queued here able hangs => exact before entry known
    | begun here able free => exact before entry known
    | @answered number bell raw answer here =>
      rcases mem_entries_finish known with old | ⟨sheet, result, full⟩
      · exact before entry old
      · refine ⟨full, number, answer, by simp, result, ?_⟩
        rw [sheet]
        exact (getElem?_put here).mpr (.inl ⟨rfl, by simp [← result]⟩)
    | brokenOff here =>
      rcases mem_entries_finish known with old | ⟨-, result, full⟩
      · exact before entry old
      · rw [← Except.ok.inj result] at full
        cases full
    | dropped here elsewhere => exact before entry known
    | cleared => cases known

/-! ## What is counted -/

/-- What a call at a stage can have been counted as; one that has not come counts for nothing. -/
def Counted (moves : List Move) (room : Room) : Prop :=
  ∀ number, ({} : Room).tally number moves ∈
    (room.calls[number]?).elim [(0, 0)] fun call => call.stage.counts

/-- The last move counts for the caller whose move it is. -/
theorem tally_append {first : Room} {moves : List Move} (run : first.run? moves = some room)
    (happens : room.step? move = some next) (number : Nat) :
    first.tally number (moves ++ [move]) =
      if move.number? = some number then
        ((first.tally number moves).1 + (next.memory.hits - room.memory.hits),
          (first.tally number moves).2 + (next.memory.misses - room.memory.misses))
      else first.tally number moves := by
  induction moves generalizing first with
  | nil =>
    cases run
    simp only [List.nil_append, tally, happens]
    split <;> simp
  | cons early rest tail =>
    obtain ⟨second, begins, run⟩ := Option.bind_eq_some_iff.mp run
    simp only [List.cons_append, tally, begins, tail run]
    split <;> split <;> simp [Nat.add_assoc]

/-- A move of one caller, which takes its call to another stage, leaves the counts of the others
and keeps its own right, if it counts for that caller what the new stage asks for. -/
theorem Counted.put {moves : List Move} (counted : Counted moves room)
    (run : ({} : Room).run? moves = some room) (happens : room.step? move = some next)
    {number : Nat} {raw : Key} {old new : Stage} (here : room.At number raw old)
    (own : move.number? = some number) (calls : next.calls = room.calls.set number ⟨raw, new⟩)
    (counts : ∀ count ∈ old.counts, (count.1 + (next.memory.hits - room.memory.hits),
      count.2 + (next.memory.misses - room.memory.misses)) ∈ new.counts) :
    Counted (moves ++ [move]) next := by
  intro place
  have before := counted place
  rw [tally_append run happens, own, calls]
  by_cases same : number = place
  · subst same
    have bound := (List.getElem?_eq_some_iff.mp here).1
    have place : room.calls[number]? = some ⟨raw, old⟩ := here
    rw [place] at before
    rw [if_pos rfl, List.getElem?_set_self bound]
    exact counts _ before
  · rw [if_neg (by simpa using same), List.getElem?_set_ne same]
    exact before

/-- Leaving the tool changes no counters. -/
theorem counters_finish (memory : Memory) (raw : Key) (result : Except BuildError Textual) :
    (memory.finish raw result).hits = memory.hits ∧
      (memory.finish raw result).misses = memory.misses := by
  unfold Memory.finish Memory.keep
  split
  · split <;> exact ⟨rfl, rfl⟩
  · exact ⟨rfl, rfl⟩

/-- Every call is counted as its stage asks for in every room that comes about. -/
theorem counted_of_run {moves : List Move} (run : ({} : Room).run? moves = some room) :
    Counted moves room := by
  refine run_induction (motive := Counted) ?_ ?_ run
  · simp [Counted, tally]
  intro moves room move next run counted happens
  have fresh {stage : Stage} (able : room.isAble stage = true) : stage.counts = [(0, 0)] := by
    cases stage with
    | fresh => rfl
    | waiting bell => rfl
    | _ => cases able
  cases goes_of_step happens with
  | called raw =>
    intro place
    have before := counted place
    rw [tally_append run happens, if_neg (by simp [Move.number?])]
    rcases Nat.lt_trichotomy place room.calls.length with inside | rfl | outside
    · rwa [List.getElem?_append_left inside]
    · simpa [Stage.counts] using before
    · rw [List.getElem?_eq_none (Nat.le_of_lt outside)] at before
      rwa [List.getElem?_eq_none (by simpa using Nat.succ_le_of_lt outside)]
  | taken here able known =>
    refine counted.put run happens here rfl rfl ?_
    rw [fresh able]
    simp [Stage.counts]
  | queued here able hangs =>
    refine counted.put run happens here rfl rfl ?_
    rw [fresh able]
    simp [Stage.counts]
  | begun here able free =>
    refine counted.put run happens here rfl rfl ?_
    rw [fresh able]
    simp [Stage.counts]
  | answered answer here =>
    refine counted.put run happens here rfl rfl ?_
    simp [Room.leave, counters_finish, Stage.counts]
  | brokenOff here =>
    refine counted.put run happens here rfl rfl ?_
    simp [Room.leave, counters_finish, Stage.counts]
  | dropped here elsewhere =>
    refine counted.put run happens here rfl rfl ?_
    rcases elsewhere with rfl | ⟨bell, rfl⟩ <;> simp [Stage.counts]
  | cleared =>
    intro place
    rw [tally_append run happens, if_neg (by simp [Move.number?])]
    exact counted place

/-- **A sheet is with the tool once, and no bell is lost.** In every room that comes about from an
empty one, by callers who come, go on in any order, are answered with a flat sheet, with an empty
one or with an error, or are broken off, and by clearing in between: for each sheet there is one
caller at the tool at most, and the sheet counts as being there exactly if there is one; who waits,
waits for a bell that has rung or for the one that hangs for its sheet, so if nobody is at the tool
and nobody can go on, then nobody waits; what is kept is not empty, and the tool answered it to a
caller for that sheet; and who came to an end by itself was counted as one hit or as one miss. -/
theorem one_at_tool_no_lost_bell {moves : List Move} {room : Room}
    (run : ({} : Room).run? moves = some room) :
    (∀ number number' raw raw' bell bell', room.At number raw (.atTool bell) →
      room.At number' raw' (.atTool bell') → raw.same raw' = true → number = number') ∧
    (∀ raw : Key, room.memory.inFlight.any raw.same = true ↔
      ∃ number sheet bell, room.At number sheet (.atTool bell) ∧ raw.same sheet = true) ∧
    (∀ number raw bell, room.At number raw (.waiting bell) →
      room.rung[bell]? = some true ∨ room.bell? raw = some bell) ∧
    ((∀ number raw bell, ¬room.At number raw (.atTool bell)) →
      (∀ number, room.step? (.go number) = none) →
      ∀ number raw bell, ¬room.At number raw (.waiting bell)) ∧
    (∀ entry ∈ room.memory.entries, entry.2.isEmpty = false ∧
      ∃ number answer, .answer number answer ∈ moves ∧ ofAnswer answer = .ok entry.2 ∧
        room.At number entry.1 (.ended (.ok entry.2))) ∧
    ∀ number raw result, room.At number raw (.ended result) →
      ({} : Room).tally number moves = (1, 0) ∨ ({} : Room).tally number moves = (0, 1) := by
  have orderly := orderly_of_run run
  refine ⟨?_, ?_, ?_, orderly.nobody_waits, kept_of_run run, ?_⟩
  · intro number number' raw raw' bell bell' here here' same
    have hangs := (orderly.held raw bell).mpr ⟨number, here⟩
    have hangs' := (orderly.held raw' bell').mpr ⟨number', here'⟩
    cases orderly.apart _ hangs _ hangs' (.inl same)
    exact orderly.alone _ _ _ _ _ here here'
  · intro raw
    rw [orderly.inFlight_iff]
    constructor
    · rintro ⟨sheet, bell, hangs, same⟩
      obtain ⟨number, here⟩ := (orderly.held sheet bell).mp hangs
      exact ⟨number, sheet, bell, here, same⟩
    · rintro ⟨number, sheet, bell, here, same⟩
      exact ⟨sheet, bell, (orderly.held sheet bell).mpr ⟨number, here⟩, same⟩
  · intro number raw bell waits
    refine (orderly.heard number raw bell waits).imp id ?_
    rintro ⟨sheet, hangs, same⟩
    exact orderly.bell?_eq hangs same
  · intro number raw result here
    have counted := counted_of_run run number
    have place : room.calls[number]? = some ⟨raw, .ended result⟩ := here
    rw [place] at counted
    simpa [Stage.counts] using counted

/-- Three callers for one sheet: the first is broken off at the tool, the second had waited for it
and goes to the tool itself, the third comes meanwhile and waits for the second. -/
def brokenOff : List Move :=
  [.call ".a", .call ".a", .go 0, .go 1, .cancel 0, .clear, .go 1, .call ".a", .go 2]

/-- Then the second is the only one at the tool, and the third waits for the bell of the second. -/
theorem one_at_tool_no_lost_bell_broken_off :
    ∃ room, ({} : Room).run? brokenOff = some room ∧ room.At 1 ".a" (.atTool 1) ∧
      room.At 2 ".a" (.waiting 1) ∧ room.bell? ".a" = some 1 ∧
      ∀ number bell, room.At number ".a" (.atTool bell) → number = 1 := by
  obtain ⟨room, run, tool, waiting, silent⟩ : ∃ room, ({} : Room).run? brokenOff = some room ∧
      room.At 1 ".a" (.atTool 1) ∧ room.At 2 ".a" (.waiting 1) ∧
      room.rung[1]? = some false := ⟨_, rfl, rfl, rfl, rfl⟩
  obtain ⟨alone, -, hangs, -⟩ := one_at_tool_no_lost_bell run
  refine ⟨room, run, tool, waiting, ?_, ?_⟩
  · refine (hangs 2 ".a" 1 waiting).resolve_left ?_
    rw [silent]
    decide
  · intro number bell here
    exact alone number 1 _ _ bell 1 here tool (by decide +kernel)

/-! ## Callers in turn -/

/-- Whether a caller who is to take a turn is at the tool, or able to go on. -/
def Takes (room : Room) (caller : Caller) : Prop :=
  ∃ stage, room.At caller.index caller.raw stage ∧
    if caller.atTool then ∃ bell, stage = .atTool bell else room.isAble stage = true

/-- Whether a caller waits for the bell of its sheet. -/
def Waits (room : Room) (caller : Caller) : Prop :=
  caller.atTool = false ∧
    ∃ bell, room.At caller.index caller.raw (.waiting bell) ∧ room.bell? caller.raw = some bell

/-- Whether callers in turn stand in the room as they should. -/
structure Serves (room : Room) (ready waiting : List Caller) (outcomes : Outcomes) : Prop where
  orderly : room.Orderly
  takes : ∀ caller ∈ ready, room.Takes caller
  waits : ∀ caller ∈ waiting, room.Waits caller
  apart : ((ready ++ waiting).map Caller.index).Nodup
  ended : ∀ outcome ∈ outcomes, ∃ raw, room.At outcome.1 raw (.ended outcome.2)

/-- A caller who is to take a turn is so still when others have moved and no bell is taken back. -/
theorem Takes.frame {caller : Caller} (takes : room.Takes caller)
    (stays : next.calls[caller.index]? = room.calls[caller.index]?)
    (rings : ∀ bell : Nat, room.rung[bell]? = some true → next.rung[bell]? = some true) :
    next.Takes caller := by
  obtain ⟨stage, here, able⟩ := takes
  refine ⟨stage, stays.trans here, ?_⟩
  split
  · simpa [*] using able
  · rename_i away
    rw [if_neg away] at able
    cases stage with
    | waiting bell => simpa [isAble] using rings bell (by simpa [isAble] using able)
    | _ => exact able

/-- A caller who waits does so still when others have moved and its bell hangs. -/
theorem Waits.frame {caller : Caller} (waits : room.Waits caller) (orderly : next.Orderly)
    (stays : next.calls[caller.index]? = room.calls[caller.index]?)
    (hangs : ∀ sheet bell, caller.raw.same sheet = true → (sheet, bell) ∈ room.hung →
      (sheet, bell) ∈ next.hung) :
    next.Waits caller := by
  obtain ⟨away, bell, here, hung⟩ := waits
  obtain ⟨sheet, hung, same⟩ := mem_of_bell? hung
  exact ⟨away, bell, stays.trans here, orderly.bell?_eq (hangs sheet bell same hung) same⟩

namespace Serves

variable {caller : Caller} {rest waiting : List Caller} {outcomes : Outcomes}

/-- The calls of the others are where they were after the first caller has moved. -/
theorem stays (serves : room.Serves (caller :: rest) waiting outcomes) {new : Call}
    (calls : next.calls = room.calls.set caller.index new) {other : Caller}
    (member : other ∈ rest ++ waiting) :
    next.calls[other.index]? = room.calls[other.index]? := by
  have differ : caller.index ≠ other.index := by
    intro same
    have apart := serves.apart
    rw [List.cons_append, List.map_cons, List.nodup_cons, same] at apart
    exact apart.1 (List.mem_map_of_mem member)
  rw [calls, List.getElem?_set_ne differ]

/-- The others take their turns after the first caller has moved. -/
theorem takes_rest (serves : room.Serves (caller :: rest) waiting outcomes) {new : Call}
    (calls : next.calls = room.calls.set caller.index new)
    (rings : ∀ bell : Nat, room.rung[bell]? = some true → next.rung[bell]? = some true) :
    ∀ other ∈ rest, next.Takes other := fun other member =>
  (serves.takes other (List.mem_cons_of_mem _ member)).frame
    (serves.stays calls (List.mem_append_left _ member)) rings

/-- Those who wait do so after the first caller has moved, if no bell is taken down. -/
theorem waits_rest (serves : room.Serves (caller :: rest) waiting outcomes) {new : Call}
    (orderly : next.Orderly) (calls : next.calls = room.calls.set caller.index new)
    (hangs : room.hung ⊆ next.hung) : ∀ other ∈ waiting, next.Waits other := fun other member =>
  (serves.waits other member).frame orderly (serves.stays calls (List.mem_append_right _ member))
    fun _ _ _ hung => hangs hung

/-- What came of callers before is so after a move. -/
theorem ended_before {ready : List Caller} (serves : room.Serves ready waiting outcomes)
    (happens : room.step? move = some next) :
    ∀ outcome ∈ outcomes, ∃ raw, next.At outcome.1 raw (.ended outcome.2) := by
  intro outcome member
  obtain ⟨raw, ended⟩ := serves.ended outcome member
  exact ⟨raw, ended_step happens ended⟩

/-- The first caller is able to go on if it is not at the tool. -/
theorem able (serves : room.Serves (caller :: rest) waiting outcomes)
    (away : caller.atTool = false) :
    ∃ stage, room.At caller.index caller.raw stage ∧
      room.step? (.go caller.index) = room.go? caller.index caller.raw := by
  obtain ⟨stage, here, able⟩ := serves.takes caller List.mem_cons_self
  rw [away, if_neg Bool.false_ne_true] at able
  have place : room.calls[caller.index]? = some ⟨caller.raw, stage⟩ := here
  exact ⟨stage, here, by simp only [step?, place, able, ↓reduceIte]⟩

/-- The first caller takes a flat sheet that is known. -/
theorem take (serves : room.Serves (caller :: rest) waiting outcomes)
    (away : caller.atTool = false) {css : Textual} {memory : Memory}
    (turn : room.memory.turn caller.raw = (.take css, memory)) :
    ∃ next, room.step? (.go caller.index) = some next ∧ next.memory = memory ∧
      next.Serves rest waiting (outcomes ++ [(caller.index, .ok css)]) := by
  obtain ⟨stage, here, goes⟩ := serves.able away
  simp only [go?, turn] at goes
  have orderly := serves.orderly.step goes
  refine ⟨_, goes, rfl, orderly, serves.takes_rest rfl fun _ => id,
    serves.waits_rest orderly rfl fun _ => id, (List.nodup_cons.mp serves.apart).2, ?_⟩
  intro outcome member
  rcases List.mem_append.mp member with before | new
  · exact serves.ended_before goes outcome before
  · cases List.mem_singleton.mp new
    exact ⟨caller.raw, (getElem?_put here).mpr (.inl ⟨rfl, rfl⟩)⟩

/-- The first caller waits for another. -/
theorem wait (serves : room.Serves (caller :: rest) waiting outcomes)
    (away : caller.atTool = false) {memory : Memory}
    (turn : room.memory.turn caller.raw = (.wait, memory)) :
    ∃ next, room.step? (.go caller.index) = some next ∧ next.memory = memory ∧
      next.Serves rest (waiting ++ [caller]) outcomes := by
  obtain ⟨stage, here, goes⟩ := serves.able away
  have busy : room.memory.inFlight.any caller.raw.same = true := by
    unfold Memory.turn at turn
    split at turn
    · cases turn
    · split at turn
      · assumption
      · cases turn
  obtain ⟨sheet, bell, hung, same⟩ := (serves.orderly.inFlight_iff _).mp busy
  have hangs := serves.orderly.bell?_eq hung same
  simp only [go?, turn, hangs, Option.map_some] at goes
  have orderly := serves.orderly.step goes
  refine ⟨_, goes, rfl, orderly, serves.takes_rest rfl fun _ => id, ?_, ?_,
    serves.ended_before goes⟩
  · intro other member
    rcases List.mem_append.mp member with before | new
    · exact serves.waits_rest orderly rfl (fun _ => id) other before
    · cases List.mem_singleton.mp new
      exact ⟨away, bell, (getElem?_put here).mpr (.inl ⟨rfl, rfl⟩), hangs⟩
  · refine List.Perm.nodup (List.Perm.map _ ?_) serves.apart
    rw [← List.append_assoc]
    exact (List.perm_append_singleton caller (rest ++ waiting)).symm

/-- The first caller goes to the tool. -/
theorem goToTool (serves : room.Serves (caller :: rest) waiting outcomes)
    (away : caller.atTool = false) {memory : Memory}
    (turn : room.memory.turn caller.raw = (.goToTool, memory)) :
    ∃ next, room.step? (.go caller.index) = some next ∧ next.memory = memory ∧
      next.Serves (rest ++ [{ caller with atTool := true }]) waiting outcomes := by
  obtain ⟨stage, here, goes⟩ := serves.able away
  simp only [go?, turn] at goes
  have orderly := serves.orderly.step goes
  refine ⟨_, goes, rfl, orderly, ?_, ?_, ?_, serves.ended_before goes⟩
  · intro other member
    rcases List.mem_append.mp member with before | new
    · refine serves.takes_rest rfl (fun bell rang => ?_) other before
      exact (List.getElem?_append_left (List.getElem?_eq_some_iff.mp rang).1).trans rang
    · cases List.mem_singleton.mp new
      exact ⟨_, (getElem?_put here).mpr (.inl ⟨rfl, rfl⟩), by simp⟩
  · exact serves.waits_rest orderly rfl (List.subset_cons_self _ _)
  · have same : ((rest ++ [{ caller with atTool := true }]) ++ waiting).map Caller.index =
        ((rest ++ [caller]) ++ waiting).map Caller.index := by simp
    rw [same]
    refine List.Perm.nodup (List.Perm.map _ ?_) serves.apart
    exact ((List.perm_append_singleton caller rest).append_right waiting).symm

/-- The first caller is answered, and those who waited for it can go on. -/
theorem answer (serves : room.Serves (caller :: rest) waiting outcomes)
    (atTool : caller.atTool = true) (answer : Except Failure Json) :
    ∃ next, room.step? (.answer caller.index answer) = some next ∧
      next.memory = room.memory.finish caller.raw (ofAnswer answer) ∧
      next.Serves (rest ++ callersFor caller.raw waiting) (callersForOthers caller.raw waiting)
        (outcomes ++ [(caller.index, ofAnswer answer)]) := by
  obtain ⟨stage, here, bell, rfl⟩ : ∃ stage, room.At caller.index caller.raw stage ∧
      ∃ bell, stage = .atTool bell := by
    simpa [Takes, atTool] using serves.takes caller List.mem_cons_self
  have place : room.calls[caller.index]? = some ⟨caller.raw, .atTool bell⟩ := here
  have goes : room.step? (.answer caller.index answer) =
      some (room.leave caller.index caller.raw bell (some (ofAnswer answer))) := by
    simp only [step?, place]
  have orderly := serves.orderly.step goes
  have own : (caller.raw, bell) ∈ room.hung :=
    (serves.orderly.held _ _).mpr ⟨caller.index, here⟩
  refine ⟨_, goes, rfl, orderly, ?_, ?_, ?_, ?_⟩
  · intro other member
    rcases List.mem_append.mp member with before | woken
    · exact serves.takes_rest rfl (fun _ rang => rung_set rang bell) other before
    · -- Whoever waited for this sheet waited for the bell that rings now.
      obtain ⟨waits, same⟩ := List.mem_filter.mp woken
      obtain ⟨off, ring, waiting, hangs⟩ := serves.waits other waits
      rw [serves.orderly.bell?_eq own same] at hangs
      cases hangs
      refine ⟨.waiting bell, (serves.stays rfl (List.mem_append_right _ waits)).trans waiting, ?_⟩
      simp [off, isAble, Room.leave, serves.orderly.lt_rung own]
  · intro other member
    obtain ⟨waits, differ⟩ := List.mem_filter.mp member
    refine (serves.waits other waits).frame orderly
      (serves.stays rfl (List.mem_append_right _ waits)) fun sheet ring same hung => ?_
    refine List.mem_filter.mpr ⟨hung, ?_⟩
    cases mine : caller.raw.same sheet with
    | false => rfl
    | true =>
      rw [same_trans same (same_comm caller.raw sheet ▸ mine)] at differ
      cases differ
  · have apart := (List.nodup_cons.mp serves.apart).2
    refine List.Perm.nodup (List.Perm.map _ ?_) apart
    rw [List.append_assoc]
    exact (List.filter_append_perm _ waiting).symm.append_left rest
  · intro outcome member
    rcases List.mem_append.mp member with before | new
    · exact serves.ended_before goes outcome before
    · cases List.mem_singleton.mp new
      exact ⟨caller.raw, (getElem?_put here).mpr (.inl ⟨rfl, rfl⟩)⟩

end Serves

/-- Whether moves lead to a memory, and to calls of which something came. -/
def Leads (room : Room) (goal : Memory × Outcomes) : Prop :=
  ∃ moves next, room.run? moves = some next ∧ next.memory = goal.1 ∧
    ∀ outcome ∈ goal.2, ∃ raw, next.At outcome.1 raw (.ended outcome.2)

/-- What comes about behind a move comes about. -/
theorem Leads.before {goal : Memory × Outcomes} (leads : next.Leads goal)
    (happens : room.step? move = some next) : room.Leads goal := by
  obtain ⟨moves, last, run, rest⟩ := leads
  exact ⟨move :: moves, last, by rw [run?, happens]; exact run, rest⟩

/-- Callers in turn make moves of the room. -/
theorem leads_of_serves (tool : Tool Id) (memory : Memory) (ready waiting : List Caller)
    (outcomes : Outcomes) (room : Room) (same : room.memory = memory)
    (serves : room.Serves ready waiting outcomes) :
    room.Leads (runCallers tool memory ready waiting outcomes : Id _) := by
  -- One move for each turn: the induction is on the turns, and the room goes along.
  induction memory, ready, waiting, outcomes using runCallers.induct generalizing room with
  | case1 memory waiting outcomes =>
    rw [runCallers]
    exact ⟨[], room, rfl, same, serves.ended⟩
  | case2 memory waiting outcomes caller rest atTool later =>
    subst same
    obtain ⟨next, happens, known, serves⟩ := serves.answer atTool (tool.answer caller.raw)
    rw [runCallers, if_pos atTool]
    exact (later _ next known serves).before happens
  | case3 memory waiting outcomes caller rest away css memory' turn later =>
    subst same
    obtain ⟨next, happens, known, serves⟩ := serves.take (by simpa using away) turn
    rw [runCallers, if_neg away, turn]
    exact (later next known serves).before happens
  | case4 memory waiting outcomes caller rest away memory' turn later =>
    subst same
    obtain ⟨next, happens, known, serves⟩ := serves.wait (by simpa using away) turn
    rw [runCallers, if_neg away, turn]
    exact (later next known serves).before happens
  | case5 memory waiting outcomes caller rest away memory' turn later =>
    subst same
    obtain ⟨next, happens, known, serves⟩ := serves.goToTool (by simpa using away) turn
    rw [runCallers, if_neg away, turn]
    exact (later next known serves).before happens

/-- Callers who come for some sheets one after the other. -/
theorem run?_calls (room : Room) (sheets : List Key) :
    room.run? (sheets.map .call) = some { room with
      calls := room.calls ++ sheets.map fun raw => ⟨raw, .fresh⟩ } := by
  induction sheets generalizing room with
  | nil => simp [run?]
  | cons raw rest tail =>
    rw [List.map_cons, run?, step?, Option.bind_some, tail]
    simp

/-- What comes of callers who ask at the same time is what comes of calls in a room, and so is the
memory that they leave. -/
theorem exists_run_of_gather (tool : Tool Id) (sheets : List Key) :
    ∃ moves room, ({} : Room).run? moves = some room ∧
      room.memory = (gather tool {} sheets : Id _).2 ∧
      ∀ number result, (gather tool {} sheets : Id _).1[number]? = some (some result) →
        ∃ raw, room.At number raw (.ended result) := by
  let callers := sheets.zipIdx.map fun sheet => { index := sheet.2, raw := sheet.1 : Caller }
  let begun : Room := { calls := sheets.map fun raw => ⟨raw, .fresh⟩ }
  have came : ({} : Room).run? (sheets.map .call) = some begun := by
    rw [run?_calls]
    rfl
  have serves : begun.Serves callers [] [] := by
    refine ⟨orderly_of_run came, ?_, by simp, ?_, by simp⟩
    · intro caller member
      obtain ⟨sheet, known, rfl⟩ := List.mem_map.mp member
      refine ⟨.fresh, ?_, rfl⟩
      simp [At, begun, List.mk_mem_zipIdx_iff_getElem?.mp known]
    · have numbers : callers.map Caller.index = List.range' 0 sheets.length := by
        simp [callers, Function.comp_def, List.zipIdx_map_snd]
      rw [List.append_nil, numbers]
      exact List.nodup_range'
  obtain ⟨moves, room, run, memory, ended⟩ :=
    leads_of_serves tool {} callers [] [] begun rfl serves
  refine ⟨sheets.map .call ++ moves, room, by rw [run?_append, came]; exact run, memory, ?_⟩
  intro number result told
  obtain ⟨caller, place, outcome⟩ : ∃ caller, callers[number]? = some caller ∧
      ((runCallers tool {} callers [] [] : Id _).2.find? fun outcome =>
        outcome.1 == caller.index).map Prod.snd = some result :=
    Option.map_eq_some_iff.mp (List.getElem?_map ▸ told)
  have index : caller.index = number := by
    obtain ⟨sheet, known, rfl⟩ := Option.map_eq_some_iff.mp (List.getElem?_map ▸ place)
    rw [List.getElem?_zipIdx] at known
    obtain ⟨raw, -, rfl⟩ := Option.map_eq_some_iff.mp known
    exact Nat.zero_add number
  obtain ⟨entry, found, rfl⟩ := Option.map_eq_some_iff.mp outcome
  have same : entry.1 = number := by simpa [index] using List.find?_some found
  exact same ▸ ended entry (List.mem_of_find?_eq_some found)

end SiteBuild.Style.Room
