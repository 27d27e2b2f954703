import Mathlib.Data.Nat.Find
import Mathlib.Logic.Relation
import SiteBuild.Proofs.DocumentedFailures
import SiteBuild.Proofs.StyleRooms

/-!
# Rounds of callers for one sheet

Callers who come for one sheet together take turns: the first goes to the tool and the others wait
for it. When it leaves the tool they are woken in their order, and if it brought nothing the next
one goes to the tool. A caller at the tool may be away for any time; who is woken takes a turn
behind all who are to take one. There are three shapes of such a hall (`Shape`), every turn leads
from one to another (`shape_of_step`), and as long as somebody is left a turn can be taken
(`exists_step`). Main statement: what comes of the callers and how often the tool is asked and the
callers wait (`rounds_of_callers`).
-/
namespace SiteBuild.Style

/-! ## Turns -/

/-- Callers who share a memory and a tool. -/
structure Hall where
  /-- What is known of style sheets. -/
  memory : Memory
  /-- The callers who are to take a turn, the first one first. -/
  ready : List Caller
  /-- The callers who wait for another, in the order in which they came to wait. -/
  waiting : List Caller := []
  /-- The callers at the tool who are not woken yet. -/
  away : List Caller := []
  /-- The places of the callers who went to the tool, in their order. -/
  sent : List Nat := []
  /-- How many answers the tool gave. -/
  answered : Nat := 0
  /-- What came of the callers so far. -/
  outcomes : Outcomes := []

/-- The hall after a caller has taken a turn: it takes the flat sheet, waits for the one at the
tool, or goes there itself. -/
def Hall.afterTurn (hall : Hall) (caller : Caller) (rest : List Caller) : Hall :=
  match hall.memory.turn caller.raw with
  | (.take css, memory) =>
    { hall with memory, ready := rest, outcomes := hall.outcomes ++ [(caller.index, .ok css)] }
  | (.wait, memory) => { hall with memory, ready := rest, waiting := hall.waiting ++ [caller] }
  | (.goToTool, memory) =>
    { hall with
      memory, ready := rest, away := hall.away ++ [{ caller with atTool := true }]
      sent := hall.sent ++ [caller.index] }

/-- What happens next in a hall, where the tool gives its answers in turn. -/
inductive Hall.Step (answers : Nat → Except Failure Json) (hall : Hall) : Hall → Prop
  /-- The first caller takes a turn. -/
  | turn {caller : Caller} {rest : List Caller} (first : hall.ready = caller :: rest)
    (home : caller.atTool = false) : Step answers hall (hall.afterTurn caller rest)
  /-- A caller at the tool is woken. -/
  | wake {caller : Caller} {before behind : List Caller}
    (among : hall.away = before ++ caller :: behind) :
    Step answers hall { hall with away := before ++ behind, ready := hall.ready ++ [caller] }
  /-- The first caller is at the tool and has to wait for its answer once more. -/
  | goOn {caller : Caller} {rest : List Caller} (first : hall.ready = caller :: rest)
    (atTool : caller.atTool = true) :
    Step answers hall { hall with ready := rest, away := hall.away ++ [caller] }
  /-- The first caller is at the tool and has its answer: it leaves, and all who wait for it are
  woken. -/
  | answered {caller : Caller} {rest : List Caller} {result : Except BuildError Textual}
    (first : hall.ready = caller :: rest) (atTool : caller.atTool = true)
    (came : result = ofAnswer (answers hall.answered)) :
    Step answers hall { hall with
      memory := hall.memory.finish caller.raw result
      ready := rest ++ callersFor caller.raw hall.waiting
      waiting := callersForOthers caller.raw hall.waiting
      answered := hall.answered + 1
      outcomes := hall.outcomes ++ [(caller.index, result)] }

/-- Callers for a sheet, in a row. -/
def callersFrom (raw : Key) (first count : Nat) : List Caller :=
  (List.range' first count).map fun index => { index, raw }

/-- The hall into which callers for a sheet come together. -/
def Hall.begun (memory : Memory) (raw : Key) (count : Nat) : Hall :=
  { memory, ready := callersFrom raw 0 count }

/-- Whether an answer of the tool brings a sheet to keep. -/
def Brings (answer : Except Failure Json) (css : Textual) : Prop :=
  ofAnswer answer = .ok css ∧ css.isEmpty = false

/-- What is no sheet to keep is an empty text or a style error. -/
theorem ofAnswer_of_not_brings {answer : Except Failure Json}
    (barren : ∀ css, ¬Brings answer css) : ofAnswer answer = .ok "" ∨
      ∃ error, ofAnswer answer = .error error ∧ error.kind = .style := by
  cases came : ofAnswer answer with
  | error error => exact .inr ⟨error, rfl, Build.kind_ofAnswer came⟩
  | ok css =>
    have empty : css.isEmpty = true := by
      by_contra full
      exact barren css ⟨came, by simpa using full⟩
    obtain ⟨value, rfl⟩ : ∃ value, css = .ofJson value := by
      unfold ofAnswer at came
      split at came
      · cases came
      · simp only at came
        split at came
        · cases came
          exact ⟨_, rfl⟩
        · cases came
      · cases came
    unfold Textual.ofJson at empty ⊢
    split
    · exact .inl rfl
    · rename_i full
      rw [if_neg full] at empty
      cases value <;> simp_all [Textual.exactly, Textual.isEmpty, Json.isEmpty]

/-! ## Rows of callers -/

theorem callersFrom_succ (raw : Key) (first count : Nat) :
    callersFrom raw first (count + 1) =
      { index := first, raw } :: callersFrom raw (first + 1) count := by
  simp [callersFrom, List.range'_succ]

theorem callersFrom_concat (raw : Key) (first count : Nat) :
    callersFrom raw first (count + 1) =
      callersFrom raw first count ++ [{ index := first + count, raw }] := by
  simp [callersFrom, List.range'_1_concat]

/-- Callers who ask for the same sheet are a row. -/
theorem callersFrom_zipIdx (raw : Key) (first count : Nat) :
    (((List.replicate count raw).zipIdx first).map fun sheet =>
      ({ index := sheet.2, raw := sheet.1 } : Caller)) = callersFrom raw first count := by
  induction count generalizing first with
  | zero => rfl
  | succ count tail => rw [List.replicate_succ, List.zipIdx_cons, List.map_cons, tail,
      callersFrom_succ]

/-- All callers of a row ask for its sheet. -/
theorem callersFor_callersFrom (raw : Key) (first count : Nat) :
    callersFor raw (callersFrom raw first count) = callersFrom raw first count ∧
      callersForOthers raw (callersFrom raw first count) = [] := by
  have all : ∀ caller ∈ callersFrom raw first count, caller.raw = raw := by
    intro caller member
    obtain ⟨index, _, rfl⟩ := List.mem_map.mp member
    rfl
  refine ⟨List.filter_eq_self.mpr fun caller member => ?_,
    List.filter_eq_nil_iff.mpr fun caller member => ?_⟩
  · rw [all caller member, Room.same_self]
  · simp [all caller member, Room.same_self]

/-! ## The memory round by round -/

/-- Whether a sheet is neither known nor with the tool. -/
structure Memory.IsNew (memory : Memory) (raw : Key) : Prop where
  unknown : memory.find? raw = none
  free : memory.inFlight.any raw.same = false

/-- How often callers waited in the first rounds: in each those who came behind its first. -/
def waitsIn (count : Nat) : Nat → Nat
  | 0 => 0
  | rounds + 1 => waitsIn count rounds + (count - (rounds + 1))

namespace Memory

variable (start : Memory) (raw : Key) (count : Nat)

/-- The memory behind rounds that brought nothing. -/
def behindRounds (rounds : Nat) : Memory :=
  { start with
    misses := start.misses + rounds
    waits := start.waits + waitsIn count rounds }

/-- The memory while a caller is at the tool and others wait. -/
def inRound (round waiters : Nat) : Memory :=
  { start with
    inFlight := raw :: start.inFlight
    misses := start.misses + (round + 1)
    waits := start.waits + waitsIn count round + waiters }

/-- The memory behind the round that brought a sheet, when some took it since. -/
def behindLast (css : Textual) (round taken : Nat) : Memory :=
  { start.keep raw css with
    hits := start.hits + taken
    misses := start.misses + (round + 1)
    waits := start.waits + waitsIn count (round + 1) }

variable {start raw count}

/-- The first of a round goes to the tool. -/
theorem IsNew.turn_behindRounds (new : start.IsNew raw) (rounds : Nat) :
    (start.behindRounds count rounds).turn raw = (.goToTool, start.inRound raw count rounds 0) := by
  have unknown : (start.behindRounds count rounds).find? raw = none := new.unknown
  have free : (start.behindRounds count rounds).inFlight.any raw.same = false := new.free
  simp only [turn, unknown, free, Bool.false_eq_true, ↓reduceIte]
  rfl

/-- The others wait. -/
theorem IsNew.turn_inRound (new : start.IsNew raw) (round waiters : Nat) :
    (start.inRound raw count round waiters).turn raw =
      (.wait, start.inRound raw count round (waiters + 1)) := by
  have unknown : (start.inRound raw count round waiters).find? raw = none := new.unknown
  have busy : (start.inRound raw count round waiters).inFlight.any raw.same = true := by
    simp [inRound, Room.same_self]
  simp only [turn, unknown, busy, ↓reduceIte]
  rfl

/-- Who leaves the tool takes the sheet from it. -/
theorem IsNew.inFlight_finish (new : start.IsNew raw) :
    (raw :: start.inFlight).filter (!raw.same ·) = start.inFlight := by
  have others : ∀ sheet ∈ start.inFlight, (!raw.same sheet) = true := by
    simpa using List.any_eq_false.mp new.free
  rw [List.filter_cons_of_neg (by simp [Room.same_self]), List.filter_eq_self.mpr others]

/-- A round that brings nothing is over. -/
theorem IsNew.finish_of_not_brings (new : start.IsNew raw) (round : Nat)
    {answer : Except Failure Json} (barren : ∀ css, ¬Brings answer css) :
    (start.inRound raw count round (count - (round + 1))).finish raw (ofAnswer answer) =
      start.behindRounds count (round + 1) := by
  have waits : start.waits + waitsIn count round + (count - (round + 1)) =
      start.waits + waitsIn count (round + 1) := by rw [waitsIn, Nat.add_assoc]
  rcases ofAnswer_of_not_brings barren with empty | ⟨error, failed, -⟩
  · rw [empty]
    simp only [finish, inRound, new.inFlight_finish, waits]
    rfl
  · rw [failed]
    simp only [finish, inRound, new.inFlight_finish, waits]
    rfl

/-- The round that brings a sheet is over. -/
theorem IsNew.finish_of_brings (new : start.IsNew raw) (round : Nat)
    {answer : Except Failure Json} {css : Textual} (brings : Brings answer css) :
    (start.inRound raw count round (count - (round + 1))).finish raw (ofAnswer answer) =
      start.behindLast raw count css round 0 := by
  have waits : start.waits + waitsIn count round + (count - (round + 1)) =
      start.waits + waitsIn count (round + 1) := by rw [waitsIn, Nat.add_assoc]
  rw [brings.1]
  simp only [finish, keep, brings.2, Bool.false_eq_true, ↓reduceIte, inRound, new.inFlight_finish,
    waits, behindLast]
  rfl

/-- A sheet that is kept is known. -/
theorem find?_keep {css : Textual} (full : css.isEmpty = false) :
    (start.keep raw css).find? raw = some css := by
  have others : (start.entries.filter fun entry => !entry.1.same raw).find?
      (fun entry => entry.1.same raw) = none :=
    List.find?_eq_none.mpr fun entry member => by simpa using (List.mem_filter.mp member).2
  simp [keep, full, find?, List.find?_append, others, Room.same_self]

/-- Behind the last round the others take the sheet. -/
theorem turn_behindLast {css : Textual} (full : css.isEmpty = false) (round taken : Nat) :
    (start.behindLast raw count css round taken).turn raw =
      (.take css, start.behindLast raw count css round (taken + 1)) := by
  have known : (start.behindLast raw count css round taken).find? raw = some css := find?_keep full
  simp only [turn, known]
  rfl

end Memory

/-! ## Shapes of a hall -/

/-- What came of the callers who went to the tool. -/
def ownResults (answers : Nat → Except Failure Json) (rounds : Nat) : Outcomes :=
  (List.range rounds).map fun index => (index, ofAnswer (answers index))

/-- What came of callers in a row who took a sheet. -/
def takenResults (css : Textual) (first count : Nat) : Outcomes :=
  (List.range' first count).map fun index => (index, .ok css)

/-- The halls that come about when callers come together for a sheet. -/
inductive Shape (answers : Nat → Except Failure Json) (start : Memory) (raw : Key) (count : Nat) :
    Hall → Prop
  /-- A round is about to begin, and those before brought nothing. -/
  | between {rounds rest : Nat} (all : rounds + rest = count)
    (barren : ∀ index < rounds, ∀ css, ¬Brings (answers index) css) :
    Shape answers start raw count {
      memory := start.behindRounds count rounds
      ready := callersFrom raw rounds rest
      sent := List.range rounds
      answered := rounds
      outcomes := ownResults answers rounds }
  /-- A caller is at the tool, woken or not, some wait for it, and the rest is about to come. -/
  | within {round waiters rest : Nat} (all : round + 1 + waiters + rest = count)
    (barren : ∀ index < round, ∀ css, ¬Brings (answers index) css) (woken : Bool) :
    Shape answers start raw count {
      memory := start.inRound raw count round waiters
      ready := callersFrom raw (round + 1 + waiters) rest ++
        if woken then [{ index := round, raw, atTool := true }] else []
      waiting := callersFrom raw (round + 1) waiters
      away := if woken then [] else [{ index := round, raw, atTool := true }]
      sent := List.range (round + 1)
      answered := round
      outcomes := ownResults answers round }
  /-- A caller brought a sheet, and others took it. -/
  | behind {round taken rest : Nat} {css : Textual} (all : round + 1 + taken + rest = count)
    (barren : ∀ index < round, ∀ css, ¬Brings (answers index) css)
    (brings : Brings (answers round) css) :
    Shape answers start raw count {
      memory := start.behindLast raw count css round taken
      ready := callersFrom raw (round + 1 + taken) rest
      sent := List.range (round + 1)
      answered := round + 1
      outcomes := ownResults answers (round + 1) ++ takenResults css (round + 1) taken }

variable {answers : Nat → Except Failure Json} {start : Memory} {raw : Key} {count : Nat}
  {hall next : Hall}

/-- The caller at the tool leaves it, behind the last one who came to wait: the next round begins,
or the others take what it brought. -/
theorem shape_of_answer (new : start.IsNew raw) {round waiters : Nat}
    (all : round + 1 + waiters + 0 = count)
    (barren : ∀ index < round, ∀ css, ¬Brings (answers index) css)
    {result : Except BuildError Textual} (came : result = ofAnswer (answers round)) :
    Shape answers start raw count {
      memory := (start.inRound raw count round waiters).finish raw result
      ready := [] ++ callersFor raw (callersFrom raw (round + 1) waiters)
      waiting := callersForOthers raw (callersFrom raw (round + 1) waiters)
      sent := List.range (round + 1)
      answered := round + 1
      outcomes := ownResults answers round ++ [(round, result)] } := by
  obtain ⟨woken, none⟩ := callersFor_callersFrom raw (round + 1) waiters
  have own : ownResults answers round ++ [(round, ofAnswer (answers round))] =
      ownResults answers (round + 1) := by simp [ownResults, List.range_succ]
  obtain rfl : waiters = count - (round + 1) := by omega
  rw [came, woken, none, own, List.nil_append]
  by_cases brought : ∃ css, Brings (answers round) css
  · obtain ⟨css, brings⟩ := brought
    rw [new.finish_of_brings round brings]
    have all : round + 1 + 0 + (count - (round + 1)) = count := by omega
    simpa [takenResults] using @Shape.behind _ start raw _ _ _ _ _ all barren brings
  · have barren' : ∀ css, ¬Brings (answers round) css := not_exists.mp brought
    rw [new.finish_of_not_brings round barren']
    refine Shape.between (by omega) fun index before => ?_
    rcases Nat.lt_succ_iff_lt_or_eq.mp before with earlier | rfl
    · exact barren index earlier
    · exact barren'

/-- When nobody is to take a turn or is at the tool, nothing can happen. -/
theorem over_of_nil (ready : hall.ready = []) (away : hall.away = []) :
    ¬hall.Step answers next := by
  intro step
  cases step <;> simp_all

/-- When the first caller is not at the tool, it takes a turn, or someone at the tool is woken. -/
theorem step_of_home (step : hall.Step answers next) {caller : Caller} {rest : List Caller}
    (first : hall.ready = caller :: rest) (home : caller.atTool = false) :
    next = hall.afterTurn caller rest ∨
      ∃ before woken behind, hall.away = before ++ woken :: behind ∧
        next = { hall with away := before ++ behind, ready := hall.ready ++ [woken] } := by
  cases step with
  | turn first' home' =>
    obtain ⟨rfl, rfl⟩ := List.cons.inj (first'.symm.trans first)
    exact .inl rfl
  | wake among => exact .inr ⟨_, _, _, among, rfl⟩
  | goOn first' atTool =>
    obtain ⟨rfl, rfl⟩ := List.cons.inj (first'.symm.trans first)
    simp [home] at atTool
  | answered first' atTool came =>
    obtain ⟨rfl, rfl⟩ := List.cons.inj (first'.symm.trans first)
    simp [home] at atTool

/-- **One turn.** Every turn leads from one of these halls to another. -/
theorem shape_of_step (new : start.IsNew raw) (shape : Shape answers start raw count hall)
    (step : hall.Step answers next) : Shape answers start raw count next := by
  cases shape with
  | @between rounds rest all barren =>
    cases rest with
    | zero => exact absurd step (over_of_nil rfl rfl)
    | succ rest =>
      obtain rfl | ⟨before, woken, behind, among, -⟩ :=
        step_of_home step (callersFrom_succ raw rounds rest) rfl
      · -- The first caller goes to the tool.
        have all : rounds + 1 + 0 + rest = count := by omega
        simpa [Hall.afterTurn, new.turn_behindRounds, callersFrom, List.range_succ] using
          @Shape.within _ start raw _ _ _ _ all barren false
      · simp at among
  | @within round waiters rest all barren woken =>
    -- The caller at the tool is the only one who can be woken.
    have wake {before behind : List Caller} {caller : Caller}
        (among : (if woken then [] else [{ index := round, raw, atTool := true }]) =
          before ++ caller :: behind) :
        woken = false ∧ before = [] ∧ caller = { index := round, raw, atTool := true } ∧
          behind = [] := by
      cases woken with
      | true => simp at among
      | false => simpa [List.append_eq_cons_iff] using among.symm
    cases rest with
    | succ rest =>
      obtain rfl | ⟨before, caller, behind, among, rfl⟩ := step_of_home step
        (by rw [callersFrom_succ]; rfl) rfl
      · -- The first caller waits for the one at the tool.
        have all : round + 1 + (waiters + 1) + rest = count := by omega
        simpa [Hall.afterTurn, new.turn_inRound, callersFrom_concat, Nat.add_assoc] using
          @Shape.within _ start raw _ _ _ _ all barren woken
      · obtain ⟨rfl, rfl, rfl, rfl⟩ := wake among
        simpa using Shape.within all barren true
    | zero =>
      cases step with
      | wake among =>
        obtain ⟨rfl, rfl, rfl, rfl⟩ := wake among
        simpa using Shape.within all barren true
      | goOn first atTool =>
        cases woken with
        | false => cases first
        | true =>
          cases first
          simpa [callersFrom] using Shape.within all barren false
      | answered first atTool came =>
        cases woken with
        | false => cases first
        | true =>
          cases first
          exact shape_of_answer new all barren came
      | turn first home =>
        cases woken <;> cases first
        cases home
  | @behind round taken rest css all barren brings =>
    cases rest with
    | zero => exact absurd step (over_of_nil rfl rfl)
    | succ rest =>
      obtain rfl | ⟨before, woken, behind, among, -⟩ :=
        step_of_home step (callersFrom_succ raw (round + 1 + taken) rest) rfl
      · -- The first caller takes the sheet.
        have all : round + 1 + (taken + 1) + rest = count := by omega
        simpa [Hall.afterTurn, Memory.turn_behindLast brings.2, takenResults, List.range'_1_concat,
          Nat.add_assoc] using @Shape.behind _ start raw _ _ _ _ _ all barren brings
      · simp at among

/-- Callers who came together for a new sheet are in such a hall at any time. -/
theorem shape_of_run (new : start.IsNew raw)
    (run : Relation.ReflTransGen (Hall.Step answers) (.begun start raw count) hall) :
    Shape answers start raw count hall := by
  induction run with
  | refl => exact @Shape.between _ _ _ _ 0 _ (Nat.zero_add count) nofun
  | tail _ step shape => exact shape_of_step new shape step

/-- As long as somebody is to take a turn or is at the tool, something can happen. -/
theorem exists_step (left : hall.ready ≠ [] ∨ hall.away ≠ []) :
    ∃ next, hall.Step answers next := by
  rcases left with some | some
  · obtain ⟨caller, rest, first⟩ := List.exists_cons_of_ne_nil some
    cases home : caller.atTool with
    | false => exact ⟨_, .turn first home⟩
    | true => exact ⟨_, .goOn first home⟩
  · obtain ⟨caller, rest, among⟩ := List.exists_cons_of_ne_nil some
    exact ⟨_, .wake (among.trans (List.nil_append _).symm)⟩

/-! ## What comes of the callers -/

/-- Whether a number of rounds is that of callers for one sheet: up to the first answer that brings
it, or one round for each caller. -/
def IsRounds (answers : Nat → Except Failure Json) (count rounds : Nat) : Prop :=
  (∃ first css, Brings (answers first) css ∧
    (∀ index < first, ∀ css, ¬Brings (answers index) css) ∧ rounds = min (first + 1) count) ∨
  (∀ index css, ¬Brings (answers index) css) ∧ rounds = count

/-- Whether callers for one sheet have come to their ends as so many rounds have it. -/
structure Hall.Served (answers : Nat → Except Failure Json) (start : Memory) (count rounds : Nat)
    (hall : Hall) : Prop where
  /-- The first callers went to the tool, one for each round. -/
  sent : hall.sent = List.range rounds
  answered : hall.answered = rounds
  /-- Each caller has the answer for itself, the others the last one. -/
  outcomes : hall.outcomes =
    (List.range count).map fun index => (index, ofAnswer (answers (min index (rounds - 1))))
  /-- Nobody waits. -/
  waiting : hall.waiting = []
  misses : hall.memory.misses = start.misses + rounds
  hits : hall.memory.hits = start.hits + (count - rounds)
  waits : hall.memory.waits = start.waits + waitsIn count rounds

/-- When nothing can happen any more, the callers have come to their ends. -/
theorem served_of_shape (shape : Shape answers start raw count hall)
    (ended : ∀ next, ¬hall.Step answers next) {rounds : Nat}
    (counted : IsRounds answers count rounds) : hall.Served answers start count rounds := by
  have done : hall.ready = [] ∧ hall.away = [] := by
    by_contra left
    obtain ⟨next, step⟩ := @exists_step answers _ (not_and_or.mp left)
    exact ended next step
  obtain ⟨nobody, home⟩ := done
  cases shape with
  | @between last rest all barren =>
    obtain rfl : rest = 0 := by simpa [callersFrom] using nobody
    obtain rfl : last = count := all
    -- No answer brought the sheet: each caller went to the tool.
    obtain rfl : rounds = last := by
      rcases counted with ⟨first, css, brings, -, rfl⟩ | ⟨-, rfl⟩
      · have late : last ≤ first := Nat.not_lt.mp fun early => barren first early css brings
        omega
      · rfl
    refine ⟨rfl, rfl, ?_, rfl, rfl, by simp [Memory.behindRounds], rfl⟩
    refine List.map_congr_left fun index member => ?_
    have : min index (rounds - 1) = index := by have := List.mem_range.mp member; omega
    rw [this]
  | @within round waiters rest all barren woken => cases woken <;> simp at nobody home
  | @behind round taken rest css all barren brings =>
    obtain rfl : rest = 0 := by simpa [callersFrom] using nobody
    obtain rfl : rounds = round + 1 := by
      rcases counted with ⟨first, css', brings', earlier, rfl⟩ | ⟨none, -⟩
      · have notEarlier : ¬first < round := fun early => barren first early css' brings'
        have notLater : ¬round < first := fun late => earlier round late css brings
        omega
      · exact absurd brings (none round css)
    have rest : count - (round + 1) = taken := by omega
    refine ⟨rfl, rfl, ?_, rfl, rfl, by simp [Memory.behindLast, rest], rfl⟩
    have split : List.range count = List.range (round + 1) ++ List.range' (round + 1) taken := by
      rw [List.range_eq_range', List.range_eq_range', ← all, Nat.add_zero, ← List.range'_append_1,
        Nat.zero_add]
    have own : ∀ index ∈ List.range (round + 1), min index (round + 1 - 1) = index :=
      fun index member => by have := List.mem_range.mp member; omega
    have others : ∀ index ∈ List.range' (round + 1) taken, min index (round + 1 - 1) = round :=
      fun index member => by have := List.mem_range'_1.mp member; omega
    rw [split, List.map_append]
    change ownResults answers (round + 1) ++ takenResults css (round + 1) taken = _
    congr 1
    · exact List.map_congr_left fun index member => by rw [own index member]
    · exact List.map_congr_left fun index member => by rw [others index member, brings.1]

/-! ## Callers in turn -/

/-- A tool that gives answers in turn and counts how often it is asked and how often it answers. -/
def scripted (answers : Nat → Except Failure Json) : Tool (StateM (Nat × Nat)) where
  send _ := fun (sent, answered) => ((), (sent + 1, answered))
  answer _ := fun (sent, answered) => (answers answered, (sent, answered + 1))

/-- Callers in turn make turns in a hall: each who goes to the tool is woken at once. -/
theorem exists_run_of_runCallers (memory : Memory) (ready waiting : List Caller)
    (outcomes : Outcomes) (sent : List Nat) (answered : Nat) :
    ∃ last, Relation.ReflTransGen (Hall.Step answers)
        { memory, ready, waiting, sent, answered, outcomes } last ∧
      last.ready = [] ∧ last.away = [] ∧
      (runCallers (scripted answers) memory ready waiting outcomes (sent.length, answered) : Id _) =
        ((last.memory, last.outcomes), (last.sent.length, last.answered)) := by
  induction memory, ready, waiting, outcomes using runCallers.induct generalizing sent answered with
  | case1 memory waiting outcomes =>
    rw [runCallers]
    exact ⟨_, .refl, rfl, rfl, rfl⟩
  | case2 memory waiting outcomes caller rest atTool later =>
    obtain ⟨last, run, ended⟩ := later (answers answered) sent (answered + 1)
    refine ⟨last, .head (.answered rfl atTool rfl) run, ended.1, ended.2.1, ?_⟩
    rw [runCallers, if_pos atTool]
    exact ended.2.2
  | case3 memory waiting outcomes caller rest away css next turn later =>
    obtain ⟨last, run, ended⟩ := later sent answered
    have step : Hall.Step answers
        { memory, ready := caller :: rest, waiting, sent, answered, outcomes } _ :=
      .turn rfl (by simpa using away)
    simp only [Hall.afterTurn, turn] at step
    refine ⟨last, .head step run, ended.1, ended.2.1, ?_⟩
    rw [runCallers, if_neg away, turn]
    exact ended.2.2
  | case4 memory waiting outcomes caller rest away next turn later =>
    obtain ⟨last, run, ended⟩ := later sent answered
    have step : Hall.Step answers
        { memory, ready := caller :: rest, waiting, sent, answered, outcomes } _ :=
      .turn rfl (by simpa using away)
    simp only [Hall.afterTurn, turn] at step
    refine ⟨last, .head step run, ended.1, ended.2.1, ?_⟩
    rw [runCallers, if_neg away, turn]
    exact ended.2.2
  | case5 memory waiting outcomes caller rest away next turn later =>
    obtain ⟨last, run, ended⟩ := later (sent ++ [caller.index]) answered
    have step : Hall.Step answers
        { memory, ready := caller :: rest, waiting, sent, answered, outcomes } _ :=
      .turn rfl (by simpa using away)
    simp only [Hall.afterTurn, turn] at step
    refine ⟨last, .head step (.head (@Hall.Step.wake answers _ _ [] [] rfl) run), ended.1,
      ended.2.1, ?_⟩
    rw [List.length_append] at ended
    rw [runCallers, if_neg away, turn]
    exact ended.2.2

/-- Callers who ask for one sheet together are in their order what came of a hall. -/
theorem gather_replicate (answers : Nat → Except Failure Json) (start : Memory) (raw : Key)
    (count : Nat) :
    ∃ last, Relation.ReflTransGen (Hall.Step answers) (.begun start raw count) last ∧
      (∀ next, ¬last.Step answers next) ∧
      (gather (scripted answers) start (List.replicate count raw) (0, 0) : Id _) =
        (((List.range count).map fun index =>
            (last.outcomes.find? fun outcome => outcome.1 == index).map Prod.snd, last.memory),
          (last.sent.length, last.answered)) := by
  obtain ⟨last, run, ready, away, done⟩ := @exists_run_of_runCallers answers start
    (callersFrom raw 0 count) [] [] [] 0
  have results (outcomes : Outcomes) : ((callersFrom raw 0 count).map fun caller =>
      (outcomes.find? fun outcome => outcome.1 == caller.index).map Prod.snd) =
        (List.range count).map fun index =>
          (outcomes.find? fun outcome => outcome.1 == index).map Prod.snd := by
    rw [callersFrom, List.map_map, List.range_eq_range']
    rfl
  refine ⟨last, run, fun next => over_of_nil ready away, ?_⟩
  simp only [gather, callersFrom_zipIdx]
  simp only [bind, StateT.bind]
  rw [List.length_nil] at done
  rw [done]
  exact congrArg (fun shown => ((shown, last.memory), (last.sent.length, last.answered)))
    (results last.outcomes)

/-- Every number of callers has its rounds. -/
theorem exists_isRounds (answers : Nat → Except Failure Json) (count : Nat) :
    ∃ rounds, IsRounds answers count rounds := by
  classical
  by_cases some : ∃ index css, Brings (answers index) css
  · obtain ⟨css, brings⟩ := Nat.find_spec some
    exact ⟨_, .inl ⟨Nat.find some, css, brings,
      fun index before => not_exists.mp (Nat.find_min some before), rfl⟩⟩
  · exact ⟨count, .inr ⟨fun index css brings => some ⟨index, css, brings⟩, rfl⟩⟩

/-- What came of one of the callers is found under its place. -/
theorem find?_results {count index : Nat} (within : index < count)
    (result : Nat → Except BuildError Textual) :
    (((List.range count).map fun place => (place, result place)).find? fun outcome =>
      outcome.1 == index).map Prod.snd = some (result index) := by
  have found : (List.range count).find? (· == index) = some index := by
    rw [List.find?_range_eq_some]
    exact ⟨beq_self_eq_true index, List.mem_range.mpr within, fun earlier before => by
      simpa using Nat.ne_of_lt before⟩
  rw [List.find?_map]
  simp only [Function.comp_def, found, Option.map_some]

/-- **Rounds of callers for one sheet.** When callers come together for a sheet that is neither
known nor with the tool, however long those at the tool are away, and the tool answers as it likes:
there are rounds up to the first answer that brings the sheet, or one for each caller if none does.
In each round one caller goes to the tool. When nothing can happen any more, a caller of a round has
come to its own answer and the others to that of the last round; the misses have grown by the
rounds, the hits by the callers without a round, and the waits by the callers behind each round. An
answer without a sheet is an empty text or a style error. The callers that take turns in earnest
come to the same. -/
theorem rounds_of_callers (answers : Nat → Except Failure Json) {start : Memory} {raw : Key}
    (new : start.IsNew raw) (count : Nat) :
    ∃ rounds, IsRounds answers count rounds ∧
      (∀ last, Relation.ReflTransGen (Hall.Step answers) (.begun start raw count) last →
        (∀ next, ¬last.Step answers next) → last.Served answers start count rounds) ∧
      (∀ index, (∀ css, ¬Brings (answers index) css) → ofAnswer (answers index) = .ok "" ∨
        ∃ error, ofAnswer (answers index) = .error error ∧ error.kind = .style) ∧
      ∃ last : Hall, last.Served answers start count rounds ∧
        (gather (scripted answers) start (List.replicate count raw) (0, 0) : Id _) =
          (((List.range count).map fun index =>
            some (ofAnswer (answers (min index (rounds - 1)))), last.memory),
            (rounds, rounds)) := by
  obtain ⟨rounds, counted⟩ := exists_isRounds answers count
  have served : ∀ last, Relation.ReflTransGen (Hall.Step answers) (.begun start raw count) last →
      (∀ next, ¬last.Step answers next) → last.Served answers start count rounds :=
    fun last run settled => served_of_shape (shape_of_run new run) settled counted
  refine ⟨rounds, counted, served, fun _ => ofAnswer_of_not_brings, ?_⟩
  obtain ⟨last, run, settled, done⟩ := gather_replicate answers start raw count
  have ended := served last run settled
  refine ⟨last, ended, done.trans ?_⟩
  rw [ended.outcomes, ended.sent, ended.answered, List.length_range]
  congr 2
  exact List.map_congr_left fun index member => find?_results (List.mem_range.mp member) _

/-- A tool that rejects a sheet once and then flattens it. -/
def secondTry : Nat → Except Failure Json
  | 0 => .ok (.obj [("error", .obj [("message", .str "Unclosed block")])])
  | _ => .ok (.obj [("css", .str "a\x7b\x7d")])

/-- Three callers come for a sheet that is rejected at first: the first has the error, the second
tries again, and the third takes what that brought. -/
theorem rounds_of_callers_second_try :
    ({} : Memory).IsNew ".a\x7b" ∧
      ∃ last : Hall, last.Served secondTry {} 3 2 ∧
        last.memory.misses = 2 ∧ last.memory.hits = 1 ∧ last.memory.waits = 3 ∧
        (gather (scripted secondTry) {} [".a\x7b", ".a\x7b", ".a\x7b"] (0, 0) : Id _) =
          (([some (.error (plainError (.str "Unclosed block"))), some (.ok "a\x7b\x7d"),
            some (.ok "a\x7b\x7d")], last.memory), (2, 2)) := by
  have new : ({} : Memory).IsNew ".a\x7b" := ⟨rfl, rfl⟩
  obtain ⟨rounds, counted, -, -, last, served, done⟩ := rounds_of_callers secondTry new 3
  have rejected : ∀ css, ¬Brings (secondTry 0) css := fun css brings => by cases brings.1
  obtain rfl : rounds = 2 := by
    rcases counted with ⟨first, css, brings, earlier, rfl⟩ | ⟨none, -⟩
    · match first with
      | 0 => exact absurd brings (rejected css)
      | 1 => rfl
      | first + 2 => exact absurd ⟨rfl, rfl⟩ (earlier 1 (by omega) "a\x7b\x7d")
    · exact absurd ⟨rfl, rfl⟩ (none 1 "a\x7b\x7d")
  exact ⟨new, last, served, served.misses, served.hits, served.waits, done⟩

end SiteBuild.Style
