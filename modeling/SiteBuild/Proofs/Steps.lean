import Mathlib.Data.List.Forall2
import SiteBuild.Module.Graph

/-!
# Steps that may fail

The steps of a build may fail, and what comes of them depends on surroundings that they change:
the tools, the network, and whatever else is about. The surroundings are of any type, so nothing is
assumed of them that is not stated. Main statements: what comes of one step behind another
(`outcome_bind`), what it takes for both to succeed (`outcome_bind_eq_ok_iff`), that of several
steps all succeed or one is the first that fails (`succeed_or_fail`), and that steps whose parts
fail in one way only fail in that way as a whole (`FailsWith.bind`, and `FailsOnly.bind` for
results without surroundings).
-/
namespace SiteBuild

/-- Going through a list succeeds if every item does, and the results are those of the items. -/
theorem mapM_eq_ok_iff {ε α β : Type} {check : α → Except ε β} {items : List α}
    {results : List β} :
    items.mapM check = .ok results ↔
      List.Forall₂ (fun item result => check item = .ok result) items results := by
  induction items generalizing results with
  | nil => cases results <;> simp [pure, Except.pure]
  | cons item rest tail =>
    rw [List.mapM_cons]
    cases first : check item with
    | error failure =>
      have failed : ¬List.Forall₂ (fun item result => check item = .ok result)
          (item :: rest) results := by
        rintro (_ | ⟨here, _⟩)
        cases first.symm.trans here
      exact ⟨nofun, fun all => absurd all failed⟩
    | ok value =>
      cases others : rest.mapM check with
      | error failure =>
        refine ⟨nofun, ?_⟩
        rintro (_ | ⟨here, behind⟩)
        cases others.symm.trans (tail.mpr behind)
      | ok values =>
        constructor
        · intro done
          cases done
          exact .cons first (tail.mp others)
        · rintro (_ | ⟨here, behind⟩)
          cases first.symm.trans here
          cases others.symm.trans (tail.mpr behind)
          rfl

/-- Items for each of which something can be made are made all together. -/
theorem mapM_eq_ok_map {ε α β : Type} {check : α → Except ε β} {made : α → β} {items : List α}
    (each : ∀ item ∈ items, check item = .ok (made item)) :
    items.mapM check = .ok (items.map made) := by
  rw [mapM_eq_ok_iff, List.forall₂_map_right_iff, List.forall₂_same]
  exact each

/-- Going through a list succeeds if every item does, and the results are of the sort that those of
the items are. -/
theorem exists_mapM_eq_ok {ε α β : Type} {check : α → Except ε β} {sort : β → Prop}
    {items : List α} (each : ∀ item ∈ items, ∃ result, check item = .ok result ∧ sort result) :
    ∃ results, items.mapM check = .ok results ∧ ∀ result ∈ results, sort result := by
  induction items with
  | nil => exact ⟨[], rfl, by simp⟩
  | cons item rest tail =>
    obtain ⟨⟨result, here, sorted⟩, others⟩ := List.forall_mem_cons.mp each
    obtain ⟨results, behind, all⟩ := tail others
    exact ⟨result :: results, mapM_eq_ok_iff.mpr (.cons here (mapM_eq_ok_iff.mp behind)),
      List.forall_mem_cons.mpr ⟨sorted, all⟩⟩

/-- What is made of a result fails as the result does. -/
theorem map_eq_error_iff {ε α β : Type} {result : Except ε α} {next : α → β} {failure : ε} :
    result.map next = .error failure ↔ result = .error failure := by
  cases result <;> simp [Except.map]

/-- Going through a list fails as one of its items does. -/
theorem exists_of_mapM_eq_error {ε α β : Type} {check : α → Except ε β} {items : List α}
    {failure : ε} (failed : items.mapM check = .error failure) :
    ∃ item ∈ items, check item = .error failure := by
  induction items with
  | nil => cases failed
  | cons item rest tail =>
    rw [List.mapM_cons] at failed
    cases first : check item with
    | error other =>
      rw [first] at failed
      cases failed
      exact ⟨item, List.mem_cons_self, first⟩
    | ok value =>
      rw [first] at failed
      cases others : rest.mapM check with
      | error other =>
        rw [others] at failed
        cases failed
        obtain ⟨item, member, here⟩ := tail others
        exact ⟨item, List.mem_cons_of_mem _ member, here⟩
      | ok values =>
        rw [others] at failed
        cases failed

/-- One result behind another is there if the first is and the second is behind it. -/
theorem bind_eq_ok_iff {ε α β : Type} {first : Except ε α} {next : α → Except ε β} {result : β} :
    (first >>= next) = .ok result ↔ ∃ value, first = .ok value ∧ next value = .ok result := by
  cases first <;> simp [bind, Except.bind]

/-- Whether a result is a failure of one sort, if it is one. -/
def FailsOnly {ε α : Type} (sort : ε → Prop) (result : Except ε α) : Prop :=
  ∀ cause, result = .error cause → sort cause

namespace FailsOnly

variable {ε ε' α β : Type} {sort : ε → Prop}

theorem ok (value : α) : FailsOnly sort (.ok value) := nofun

theorem error {cause : ε} (known : sort cause) : FailsOnly (α := α) sort (.error cause) := by
  rintro other ⟨⟩
  exact known

/-- Of two steps the first may fail, or the second behind it. -/
theorem bind {first : Except ε α} {next : α → Except ε β} (head : FailsOnly sort first)
    (tail : ∀ value, first = .ok value → FailsOnly sort (next value)) :
    FailsOnly sort (first >>= next) := by
  cases first with
  | error cause => exact error (head cause rfl)
  | ok value => exact tail value rfl

theorem map {result : Except ε α} {next : α → β} (known : FailsOnly sort result) :
    FailsOnly sort (result.map next) :=
  fun cause failed => known cause (map_eq_error_iff.mp failed)

theorem mapError {sort' : ε' → Prop} {result : Except ε α} {told : ε → ε'}
    (known : FailsOnly sort result) (kept : ∀ cause, sort cause → sort' (told cause)) :
    FailsOnly sort' (result.mapError told) := by
  cases result with
  | error cause => exact error (kept cause (known cause rfl))
  | ok value => exact ok value

/-- Going through a list fails as one of its items does. -/
theorem mapM {check : α → Except ε β} {items : List α}
    (each : ∀ item ∈ items, FailsOnly sort (check item)) : FailsOnly sort (items.mapM check) := by
  intro cause failed
  obtain ⟨item, member, here⟩ := exists_of_mapM_eq_error failed
  exact each item member cause here

end FailsOnly

/-- Steps in surroundings, which may fail. -/
abbrev Steps (σ α : Type) := ExceptT Failure (StateM σ) α

namespace Steps

variable {σ α β : Type}

/-- What comes of steps that start in given surroundings, and the surroundings they leave. -/
def outcome (action : Steps σ α) (before : σ) : Except Failure α × σ :=
  (action.run.run before : Id _)

@[simp] theorem outcome_pure (value : α) (before : σ) :
    outcome (pure value) before = (.ok value, before) :=
  rfl

@[simp] theorem outcome_throw (failure : Failure) (before : σ) :
    outcome (throw failure : Steps σ α) before = (.error failure, before) :=
  rfl

@[simp] theorem outcome_decided (result : Except Failure α) (before : σ) :
    outcome (Module.Graph.decided result : Steps σ α) before = (result, before) :=
  rfl

/-- A step behind another starts where the first succeeded, and is not made where it failed. -/
theorem outcome_bind (first : Steps σ α) (next : α → Steps σ β) (before : σ) :
    outcome (first >>= next) before =
      match outcome first before with
      | (.error failure, after) => (.error failure, after)
      | (.ok value, after) => outcome (next value) after := by
  change (match outcome first before with
    | (result, after) => ((ExceptT.bindCont next result) after : Id _)) = _
  rcases outcome first before with ⟨result, after⟩
  cases result <;> rfl

/-- Two steps succeed if the first does and the second does behind it. -/
theorem outcome_bind_eq_ok_iff {first : Steps σ α} {next : α → Steps σ β} {before after : σ}
    {result : β} :
    outcome (first >>= next) before = (.ok result, after) ↔
      ∃ value between, outcome first before = (.ok value, between) ∧
        outcome (next value) between = (.ok result, after) := by
  rw [outcome_bind]
  rcases outcome first before with ⟨middle, between⟩
  cases middle <;> simp [and_assoc]

/-- Two steps fail if the first does, or if the second does behind it. -/
theorem outcome_bind_eq_error_iff {first : Steps σ α} {next : α → Steps σ β} {before after : σ}
    {failure : Failure} :
    outcome (first >>= next) before = (.error failure, after) ↔
      outcome first before = (.error failure, after) ∨
        ∃ value between, outcome first before = (.ok value, between) ∧
          outcome (next value) between = (.error failure, after) := by
  rw [outcome_bind]
  rcases outcome first before with ⟨middle, between⟩
  cases middle <;> simp [and_assoc]

/-- The steps for several items succeed one after the other, with these values. -/
inductive Succeed {ι : Type} (action : ι → Steps σ α) : List ι → σ → List α → σ → Prop
  /-- There are none. -/
  | nil {before : σ} : Succeed action [] before [] before
  /-- The first succeeds, and the others do behind it. -/
  | cons {item : ι} {rest : List ι} {value : α} {values : List α} {before between after : σ}
    (here : outcome (action item) before = (.ok value, between))
    (behind : Succeed action rest between values after) :
    Succeed action (item :: rest) before (value :: values) after

/-- Every item has a value. -/
theorem Succeed.length_eq {ι : Type} {action : ι → Steps σ α} {items : List ι}
    {values : List α} {before after : σ} (all : Succeed action items before values after) :
    values.length = items.length := by
  induction all with
  | nil => rfl
  | cons _ _ tail => rw [List.length_cons, List.length_cons, tail]

/-- The steps for several items all succeed, or those for one item fail behind others that
succeeded. -/
theorem succeed_or_fail {ι : Type} (action : ι → Steps σ α) (items : List ι) (before : σ) :
    (∃ values after, Succeed action items before values after) ∨
      ∃ earlier item later values between failure after, items = earlier ++ item :: later ∧
        Succeed action earlier before values between ∧
        outcome (action item) between = (.error failure, after) := by
  induction items generalizing before with
  | nil => exact .inl ⟨[], before, .nil⟩
  | cons item rest tail =>
    rcases here : outcome (action item) before with ⟨failure | value, between⟩
    · exact .inr ⟨[], item, rest, [], before, failure, between, rfl, .nil, here⟩
    · rcases tail between with ⟨values, after, all⟩ |
        ⟨earlier, other, later, values, middle, failure, after, rfl, all, failed⟩
      · exact .inl ⟨value :: values, after, .cons here all⟩
      · exact .inr ⟨item :: earlier, other, later, value :: values, middle, failure, after, rfl,
          .cons here all, failed⟩

/-- Whether steps fail with failures of one sort only, wherever they start. -/
def FailsWith (sort : Failure → Prop) (action : Steps σ α) : Prop :=
  ∀ before failure after, outcome action before = (.error failure, after) → sort failure

namespace FailsWith

variable {sort : Failure → Prop}

theorem pure (value : α) : FailsWith sort (Pure.pure value : Steps σ α) := by
  intro before failure after failed
  cases failed

theorem throw {failure : Failure} (known : sort failure) :
    FailsWith sort (MonadExcept.throw failure : Steps σ α) := by
  intro before other after failed
  cases failed
  exact known

/-- Steps whose parts fail in one way only fail in that way as a whole. -/
theorem bind {first : Steps σ α} {next : α → Steps σ β} (head : FailsWith sort first)
    (tail : ∀ value, FailsWith sort (next value)) : FailsWith sort (first >>= next) := by
  intro before failure after failed
  rcases outcome_bind_eq_error_iff.mp failed with here | ⟨value, between, _, behind⟩
  · exact head before failure after here
  · exact tail value between failure after behind

end FailsWith

/-- Whether steps have a property if they are put together of steps that have it, where the
failures that are raised in between are of one sort. -/
structure Compositional (sort : Failure → Prop) (holds : (α : Type) → Steps σ α → Prop) : Prop where
  pure {α : Type} (value : α) : holds α (Pure.pure value)
  throw {α : Type} {failure : Failure} (known : sort failure) :
    holds α (MonadExcept.throw failure)
  bind {α β : Type} {first : Steps σ α} {next : α → Steps σ β} (head : holds α first)
    (tail : ∀ value, holds β (next value)) : holds β (first >>= next)

/-- What is decided has the property if it fails in the given way only. -/
theorem Compositional.decided {sort : Failure → Prop} {holds : (α : Type) → Steps σ α → Prop}
    (whole : Compositional sort holds) {result : Except Failure α}
    (known : ∀ failure, result = .error failure → sort failure) :
    holds α (Module.Graph.decided result) := by
  cases result with
  | error failure => exact whole.throw (known failure rfl)
  | ok value => exact whole.pure value

/-- Whether steps have a property together with all steps that have it behind the values of a sort,
which are the only ones that the first steps come to. -/
def Yields (holds : (α : Type) → Steps σ α → Prop) (sort : α → Prop) (first : Steps σ α) : Prop :=
  ∀ {β : Type} (next : α → Steps σ β), (∀ value, sort value → holds β (next value)) →
    holds β (first >>= next)

/-- What is written down behind the notes there are, each new note fitting what comes of the
steps. -/
def Logged {ν : Type} (notes : σ → List ν) (fits : (α : Type) → Except Failure α → ν → Prop)
    (α : Type) (action : Steps σ α) : Prop :=
  ∀ before result after, outcome action before = (result, after) →
    ∃ new, notes after = notes before ++ new ∧ ∀ note ∈ new, fits α result note

/-- Taking notes is a property of steps that are put together of steps with it, if a note that fits
a success fits whatever comes behind it, and one that fits a failure fits it as the end of all
steps. -/
theorem Logged.compositional {ν : Type} (notes : σ → List ν)
    (fits : (α : Type) → Except Failure α → ν → Prop)
    (passed : ∀ {α β : Type} {value : α} {note : ν} (result : Except Failure β),
      fits α (.ok value) note → fits β result note)
    (failed : ∀ {α β : Type} {failure : Failure} {note : ν},
      fits α (.error failure) note → fits β (.error failure) note) :
    Compositional (σ := σ) (fun _ => True) (Logged notes fits) where
  pure value before result after done := by
    cases done
    exact ⟨[], by simp, by simp⟩
  throw _ before result after done := by
    cases done
    exact ⟨[], by simp, by simp⟩
  bind head tail before result after done := by
    rw [outcome_bind] at done
    rcases first : outcome _ before with ⟨failure | value, between⟩
    · rw [first] at done
      cases done
      obtain ⟨new, written, all⟩ := head before _ _ first
      exact ⟨new, written, fun note member => failed (all note member)⟩
    · rw [first] at done
      obtain ⟨new, written, all⟩ := head before _ _ first
      obtain ⟨more, behind, others⟩ := tail value between result after done
      refine ⟨new ++ more, by rw [behind, written, List.append_assoc], ?_⟩
      exact List.forall_mem_append.mpr
        ⟨fun note member => passed result (all note member), others⟩

/-- Failing in one way only is such a property. -/
theorem FailsWith.compositional (sort : Failure → Prop) :
    Compositional (σ := σ) sort fun _ => FailsWith sort where
  pure := .pure
  throw := .throw
  bind := .bind

end Steps
end SiteBuild
