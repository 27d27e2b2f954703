import SiteBuild.Json.Fields
import SiteBuild.Style.Error

/-!
# Flattening style sheets

Nested style rules are flattened by a tool. What came of a sheet is kept under the sheet itself,
which is a text, or whatever else came in its place and can be a key. A sheet is with the tool for
one caller at a time: who asks for it meanwhile waits for that caller
and then looks again. Failures and empty results are not kept, so a caller that waited in vain
goes to the tool itself. Callers take turns in the order in which they became able to go on.
-/
namespace SiteBuild.Style

/-- What is known of style sheets. -/
structure Memory where
  /-- The flat sheets, as the tool gave them, by their nested form. -/
  entries : List (Key × Textual) := []
  /-- The sheets that are with the tool. -/
  inFlight : List Key := []
  /-- The number of callers that were answered from the entries. -/
  hits : Nat := 0
  /-- The number of callers that went to the tool. -/
  misses : Nat := 0
  /-- The number of times a caller waited for another. -/
  waits : Nat := 0
  deriving Repr

/-- What a caller is to do. -/
inductive Turn where
  /-- Take the flat sheet. -/
  | take (css : Textual)
  /-- Wait for the caller who is at the tool. -/
  | wait
  /-- Go to the tool. -/
  | goToTool
  deriving Repr

/-- What comes of the answer of the tool: the flat sheet, or a style error. -/
def ofAnswer (answer : Except Failure Json) : Except BuildError Textual :=
  match answer with
  | .error failure => .error (errorOfFailure failure)
  | .ok (.obj fields) =>
    let error := Record.get fields "error"
    if error.isEmpty then .ok (.ofJson (Record.get fields "css"))
    else .error (errorOfAnswer error)
  | .ok other => .error (errorOfFailure (.misuse (.noMember other.typeName "get")))

namespace Memory

/-- The flat sheet of a nested one. -/
def find? (memory : Memory) (raw : Key) : Option Textual :=
  (memory.entries.find? fun entry => entry.1.same raw).map Prod.snd

/-- What a caller for a sheet is to do, whether it just came or waited. -/
def turn (memory : Memory) (raw : Key) : Turn × Memory :=
  match memory.find? raw with
  | some css => (.take css, { memory with hits := memory.hits + 1 })
  | none =>
    if memory.inFlight.any raw.same then (.wait, { memory with waits := memory.waits + 1 })
    else
      (.goToTool,
        { memory with misses := memory.misses + 1, inFlight := raw :: memory.inFlight })

/-- Keep a flat sheet, unless it is empty. -/
def keep (memory : Memory) (raw : Key) (css : Textual) : Memory :=
  if css.isEmpty then memory
  else
    let others := memory.entries.filter fun entry => !entry.1.same raw
    { memory with entries := others ++ [(raw, css)] }

/-- Take back a sheet from the tool, with what came of it. -/
def finish (memory : Memory) (raw : Key) (result : Except BuildError Textual) : Memory :=
  let returned := { memory with inFlight := memory.inFlight.filter (!raw.same ·) }
  match result with
  | .ok css => returned.keep raw css
  | .error _ => returned

/-- Forget all flat sheets. -/
def clear (memory : Memory) : Memory := { memory with entries := [] }

end Memory

/-- A tool that takes a sheet and answers later. -/
structure Tool (m : Type → Type) where
  /-- Hand in a sheet. -/
  send : Key → m Unit
  /-- The answer for a sheet that was handed in. -/
  answer : Key → m (Except Failure Json)

/-- A caller who asks for a sheet. -/
structure Caller where
  /-- Its place among the callers. -/
  index : Nat
  /-- The sheet it asks for. -/
  raw : Key
  /-- Whether its sheet is with the tool. -/
  atTool : Bool := false
  deriving DecidableEq, Repr

/-- What came of the callers so far. -/
abbrev Outcomes := List (Nat × Except BuildError Textual)

/-- The callers for a sheet. -/
def callersFor (raw : Key) (callers : List Caller) : List Caller :=
  callers.filter fun caller => caller.raw.same raw

/-- The callers for other sheets. -/
def callersForOthers (raw : Key) (callers : List Caller) : List Caller :=
  callers.filter fun caller => !caller.raw.same raw

/-- The callers for a sheet and those for others are all callers. -/
theorem length_callersFor (raw : Key) (callers : List Caller) :
    (callersFor raw callers).length + (callersForOthers raw callers).length =
      callers.length := by
  induction callers with
  | nil => rfl
  | cons caller rest tail =>
    by_cases same : caller.raw.same raw <;>
      simp_all [callersFor, callersForOthers] <;> omega

variable {m : Type → Type} [Monad m]

/-- Let the callers go on, the first one first, until none is able to. `ready` holds those who
are able to go on, `waiting` those who wait for another. -/
def runCallers (tool : Tool m) (memory : Memory) (ready waiting : List Caller)
    (outcomes : Outcomes) : m (Memory × Outcomes) :=
  match ready with
  | [] => pure (memory, outcomes)
  | caller :: rest =>
    if caller.atTool then do
      let result := ofAnswer (← tool.answer caller.raw)
      runCallers tool (memory.finish caller.raw result) (rest ++ callersFor caller.raw waiting)
        (callersForOthers caller.raw waiting) (outcomes ++ [(caller.index, result)])
    else
      match memory.turn caller.raw with
      | (.take css, next) =>
        runCallers tool next rest waiting (outcomes ++ [(caller.index, .ok css)])
      | (.wait, next) => runCallers tool next rest (waiting ++ [caller]) outcomes
      | (.goToTool, next) => do
        tool.send caller.raw
        runCallers tool next (rest ++ [{ caller with atTool := true }]) waiting outcomes
  termination_by (ready.length + waiting.length, ready.countP fun caller => !caller.atTool)
  decreasing_by
    · have all := length_callersFor caller.raw waiting
      apply Prod.Lex.left
      simp only [List.length_append, List.length_cons]
      omega
    · apply Prod.Lex.left
      simp
    · have same : (rest.length + (waiting ++ [caller]).length) =
          ((caller :: rest).length + waiting.length) := by
        simp only [List.length_append, List.length_cons, List.length_nil]
        omega
      rw [same]
      apply Prod.Lex.right
      simp_all
    · have same : ((rest ++ [{ caller with atTool := true }]).length + waiting.length) =
          ((caller :: rest).length + waiting.length) := by
        simp
      rw [same]
      apply Prod.Lex.right
      simp_all

/-- What comes of callers who ask for the given sheets at the same time, in their order. -/
def gather (tool : Tool m) (memory : Memory) (sheets : List Key) :
    m (List (Option (Except BuildError Textual)) × Memory) := do
  let callers := sheets.zipIdx.map fun sheet => { index := sheet.2, raw := sheet.1 : Caller }
  let (next, outcomes) ← runCallers tool memory callers [] []
  let results := callers.map fun caller =>
    (outcomes.find? fun outcome => outcome.1 == caller.index).map Prod.snd
  return (results, next)

/-- What comes of a single caller while no other is about. -/
def process (run : Key → m (Except Failure Json)) (memory : Memory) (raw : Key) :
    m (Except BuildError Textual × Memory) :=
  match memory.find? raw with
  | some css => pure (.ok css, { memory with hits := memory.hits + 1 })
  | none => do
    let result := ofAnswer (← run raw)
    let counted := { memory with misses := memory.misses + 1 }
    return (result, counted.finish raw result)

end SiteBuild.Style
