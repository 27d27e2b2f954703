import Mathlib.Data.List.Nodup
import Mathlib.Data.List.TakeWhile
import Mathlib.Tactic.Tauto
import SiteBuild.Proofs.Steps

/-!
# Closed graphs

What a collected graph holds together. The hooks are any that there are: what they answer may
depend on surroundings that they change. The walk keeps an invariant over the modules, their
resolutions and the modules still to be visited: what a resolution leads to is in the graph or
still to be visited, and all of these are reached from the entry. Main statements: the walk keeps
it (`Walked.of_walk`), and so a collected graph is closed, by itself and in the form that the
linker takes (`closed_of_collect`).
-/
namespace SiteBuild.Module

open Steps (outcome outcome_bind_eq_ok_iff outcome_decided outcome_pure)

variable {σ : Type}

/-! ## What it means to be closed -/

/-- Whether a module was made by hooks: they gave a text under its id and then code for that text,
or left the text as it was, and its imports are those of the code. -/
def Hooks.Made (hooks : Hooks (StateM σ)) (node : GraphModule) : Prop :=
  ∃ (loaded : Textual) (output : Option Transformed) (before between after : σ),
    outcome (hooks.load node.id) before = (.ok (some loaded), between) ∧
    outcome (hooks.transform loaded node.id) between = (.ok output, after) ∧
    output.getD { code := loaded } = { code := .text node.code, map := node.map } ∧
    Script.imports node.code = .ok node.imports

namespace Graph

/-- What has a target: imports, each with the id of the importing module. -/
def keys (graph : Graph) : List (Text × Text) :=
  graph.resolutions.map fun resolution => (resolution.importer, resolution.specifier)

/-- The ids that are reached from the entry along resolutions that are not external. -/
inductive Reached (graph : Graph) : Text → Prop where
  /-- The entry. -/
  | entry : Reached graph graph.entry
  /-- What an import of a reached module leads to. -/
  | next {resolution : Resolution} (known : Reached graph resolution.importer)
      (member : resolution ∈ graph.resolutions)
      (inner : resolution.target.isExternal = false) : Reached graph resolution.target.moduleId

/-- A graph that holds together: its modules are there once, what has a target are the imports of
its modules, each once, and the targets that are not external are modules again. -/
structure Closed (graph : Graph) : Prop where
  /-- The entry is a module. -/
  entry : graph.entry ∈ graph.order
  /-- Every module is there once. -/
  once : graph.order.Nodup
  /-- The imports of a module are those of its code. -/
  scanned : ∀ node ∈ graph.modules, Script.imports node.code = .ok node.imports
  /-- What has a target are the imports of the modules, in order. -/
  imported : graph.keys = graph.modules.flatMap fun node => node.imports.map (node.id, ·)
  /-- Every import has one target. -/
  oneTarget : graph.keys.Nodup
  /-- A target that is not external is a module. -/
  inner : ∀ resolution ∈ graph.resolutions, resolution.target.isExternal = false →
    resolution.target.moduleId ∈ graph.order
  /-- Every module is reached from the entry. -/
  reached : ∀ id ∈ graph.order, graph.Reached id

end Graph

/-- What the linker finds for the id of a module. -/
def linkedModule? (payload : Record) (id : Text) : Option Json :=
  (payload.get "modules").record?.bind fun modules => Record.find? modules id

/-- What the linker finds for an import of a module. -/
def linkedTarget? (payload : Record) (id specifier : Text) : Option Json :=
  (((payload.get "resolutions").record?.bind fun importers => Record.find? importers id).bind
    Json.record?).bind fun targets => Record.find? targets specifier

/-- What the linker takes holds together: the imports that are read off the code of a module are
those for which it finds a target, it finds none but for modules, and what it finds is external or
a module again. -/
structure ClosedPayload (payload : Record) : Prop where
  /-- No module, no importing module and no import of a module is there twice. -/
  once : ∃ modules importers, payload.get "modules" = .obj modules ∧
    payload.get "resolutions" = .obj importers ∧ (modules.map Prod.fst).Nodup ∧
    (importers.map Prod.fst).Nodup ∧ ∀ importer ∈ importers, ∃ targets,
      importer.2 = .obj targets ∧ (targets.map Prod.fst).Nodup
  /-- The imports of the code of a module are those with a target. -/
  imported : ∀ id found, linkedModule? payload id = some found → ∃ fields code imports,
    found = .obj fields ∧ Record.get fields "code" = .str code ∧
    Script.imports code = .ok imports ∧
    ∀ specifier, specifier ∈ imports ↔ (linkedTarget? payload id specifier).isSome
  /-- Only a module has imports, and their targets are external or modules. -/
  inner : ∀ id specifier found, linkedTarget? payload id specifier = some found →
    (linkedModule? payload id).isSome ∧ ∃ target external,
      found = .obj [("id", .str target), ("external", .bool external)] ∧
      (external = true ∨ (linkedModule? payload target).isSome)

/-! ## Single steps of a walk -/

/-- Removing what is there twice leaves everything once. -/
theorem nodup_eraseDups {α : Type} [BEq α] [LawfulBEq α] : (items : List α) → items.eraseDups.Nodup
  | [] => List.nodup_nil
  | first :: rest => by
    have shorter : (rest.filter fun item => !item == first).length < rest.length + 1 :=
      Nat.lt_succ_of_le (List.length_filter_le _ _)
    rw [List.eraseDups_cons, List.nodup_cons]
    exact ⟨by simp, nodup_eraseDups _⟩
  termination_by items => items.length

/-- A list of look-ups succeeds if each of them does. -/
theorem mapM_eq_some_map {α β : Type} {lookUp : α → Option β} {value : α → β} {items : List α}
    (each : ∀ item ∈ items, lookUp item = some (value item)) :
    items.mapM lookUp = some (items.map value) := by
  induction items with
  | nil => rfl
  | cons first rest tail =>
    obtain ⟨here, others⟩ := List.forall_mem_cons.mp each
    rw [List.mapM_cons, here, tail others]
    rfl

/-- Imports are read off code once each. -/
theorem nodup_imports {code : Text} {imports : List Text}
    (scanned : Script.imports code = .ok imports) : imports.Nodup := by
  unfold Script.imports at scanned
  cases read : Script.tokens code with
  | error error =>
    rw [read] at scanned
    cases scanned
  | ok tokens =>
    rw [read] at scanned
    cases scanned
    exact nodup_eraseDups _

namespace Graph

variable {hooks : Hooks (StateM σ)}

/-- Visiting a module makes it, under the id that is visited. -/
theorem made_of_visit {id : Text} {importer : Option Text} {node : GraphModule} {before after : σ}
    (visited : outcome (visit hooks id importer) before = (.ok node, after)) :
    node.id = id ∧ hooks.Made node := by
  obtain ⟨loaded?, between, load, visited⟩ := outcome_bind_eq_ok_iff.mp visited
  cases loaded? with
  | none => cases visited
  | some loaded =>
    obtain ⟨output, between', transform, visited⟩ := outcome_bind_eq_ok_iff.mp visited
    obtain ⟨code, _, decided, visited⟩ := outcome_bind_eq_ok_iff.mp visited
    rw [outcome_decided] at decided
    cases scanned : Script.imports code with
    | error error =>
      rw [scanned] at visited
      cases visited
    | ok imports =>
      rw [scanned] at visited
      cases visited
      have whole : (output.getD { code := loaded }).code = .text code := by
        cases given : (output.getD { code := loaded }).code with
        | text value =>
          rw [given] at decided
          cases decided
          rfl
        | other value =>
          rw [given] at decided
          cases decided
      refine ⟨rfl, loaded, output, before, between, between', load, transform, ?_, scanned⟩
      rw [← whole]

/-- The targets of a module are those of its imports, in order. -/
theorem resolveImports_eq_ok {m : Type → Type} {hooks : Hooks m} {node : GraphModule}
    {resolutions : List Resolution}
    (resolved : resolveImports hooks node = .ok resolutions) :
    (resolutions.map fun resolution => (resolution.importer, resolution.specifier)) =
        node.imports.map (node.id, ·) ∧
      ∀ resolution ∈ resolutions, resolution.importer = node.id ∧
        hooks.resolve resolution.specifier (some node.id) = .ok resolution.target := by
  unfold resolveImports at resolved
  generalize node.imports = imports at resolved ⊢
  induction mapM_eq_ok_iff.mp resolved with
  | nil => exact ⟨rfl, by simp⟩
  | @cons specifier resolution _ _ first others tail =>
    obtain ⟨keys, each⟩ := tail (mapM_eq_ok_iff.mpr others)
    cases target : hooks.resolve specifier (some node.id) with
    | error failure =>
      rw [target] at first
      cases first
    | ok value =>
      rw [target] at first
      cases first
      exact ⟨by simp [keys], List.forall_mem_cons.mpr ⟨⟨rfl, target⟩, each⟩⟩

/-- A graph has a module if it is listed. -/
theorem contains_iff {graph : Graph} {id : Text} : graph.contains id = true ↔ id ∈ graph.order := by
  simp [contains, order]

/-! ## The walk -/

/-- What a walk keeps: every module is made and there once, its imports and nothing else have
targets, and what a target leads to is in the graph or still to be visited and is reached from the
entry. -/
structure Walked (hooks : Hooks (StateM σ)) (graph : Graph)
    (pending : List (Text × Option Text)) : Prop where
  made : ∀ node ∈ graph.modules, hooks.Made node
  once : graph.order.Nodup
  keys_eq : graph.keys = graph.modules.flatMap fun node => node.imports.map (node.id, ·)
  resolved : ∀ resolution ∈ graph.resolutions,
    hooks.resolve resolution.specifier (some resolution.importer) = .ok resolution.target
  entry : graph.entry ∈ graph.order ∨ graph.entry ∈ pending.map Prod.fst
  inner : ∀ resolution ∈ graph.resolutions, resolution.target.isExternal = false →
    resolution.target.moduleId ∈ graph.order ∨
      resolution.target.moduleId ∈ pending.map Prod.fst
  reached : ∀ id ∈ graph.order, graph.Reached id
  pendingReached : ∀ id ∈ pending.map Prod.fst, graph.Reached id

/-- What is reached stays so when resolutions are added. -/
theorem Reached.extend {graph : Graph} {id : Text} (reached : graph.Reached id)
    (node : GraphModule) (resolutions : List Resolution) :
    (graph.extend node resolutions).Reached id := by
  induction reached with
  | entry => exact .entry
  | next known member inner tail => exact .next tail (List.mem_append_left _ member) inner

/-- What is to be visited behind an import that is not external is this import's module. -/
theorem mem_pendingOf {graph : Graph} {resolutions : List Resolution} {id : Text} :
    id ∈ (graph.pendingOf resolutions).map Prod.fst ↔
      ∃ resolution ∈ resolutions, resolution.target.isExternal = false ∧
        id ∉ graph.order ∧ resolution.target.moduleId = id := by
  simp only [pendingOf, List.mem_map, List.mem_filterMap, Option.ite_none_left_eq_some,
    Bool.or_eq_true, not_or, Bool.not_eq_true, contains_iff]
  constructor
  · rintro ⟨next, ⟨resolution, member, ⟨inner, fresh⟩, same⟩, rfl⟩
    obtain rfl := Option.some.inj same
    exact ⟨resolution, member, inner, by simpa [← contains_iff] using fresh, rfl⟩
  · rintro ⟨resolution, member, inner, fresh, rfl⟩
    exact ⟨_, ⟨resolution, member, ⟨inner, by simpa [← contains_iff] using fresh⟩, rfl⟩, rfl⟩

namespace Walked

variable {graph : Graph} {pending rest : List (Text × Option Text)}

/-- A walk begins with the entry to be visited. -/
theorem start (hooks : Hooks (StateM σ)) (id : Text) :
    Walked hooks { entry := id } [(id, none)] where
  made _ member := nomatch member
  once := List.nodup_nil
  keys_eq := rfl
  resolved _ member := nomatch member
  entry := .inr (by simp)
  inner _ member := nomatch member
  reached _ member := nomatch member
  pendingReached id member := by
    simp only [List.map_cons, List.map_nil, List.mem_singleton] at member
    exact member ▸ .entry

/-- Modules that are in the graph need not be visited. -/
theorem skip (walked : Walked hooks graph pending) :
    Walked hooks graph (pending.dropWhile fun next => graph.contains next.1) := by
  have left {id : Text} (member : id ∈ pending.map Prod.fst) : id ∈ graph.order ∨
      id ∈ (pending.dropWhile fun next => graph.contains next.1).map Prod.fst := by
    rw [← List.takeWhile_append_dropWhile (p := fun next => graph.contains next.1) (l := pending),
      List.map_append, List.mem_append] at member
    refine member.imp_left fun known => ?_
    obtain ⟨next, taken, rfl⟩ := List.mem_map.mp known
    have contained := List.mem_takeWhile_imp taken
    exact contains_iff.mp contained
  refine { walked with entry := ?_, inner := ?_, pendingReached := ?_ }
  · exact walked.entry.elim .inl left
  · exact fun resolution member inner => (walked.inner resolution member inner).elim .inl left
  · intro id member
    exact walked.pendingReached id ((List.dropWhile_sublist _).map _ |>.subset member)

/-- A made module and the targets of its imports extend the graph, and the modules it leads to are
visited next. -/
theorem extend {id : Text} {importer : Option Text} {node : GraphModule}
    {resolutions : List Resolution} (walked : Walked hooks graph ((id, importer) :: rest))
    (fresh : id ∉ graph.order) (same : node.id = id) (made : hooks.Made node)
    (resolved : resolveImports hooks node = .ok resolutions) :
    Walked hooks (graph.extend node resolutions)
      ((graph.extend node resolutions).pendingOf resolutions ++ rest) := by
  obtain ⟨keys, each⟩ := resolveImports_eq_ok resolved
  have order : (graph.extend node resolutions).order = graph.order ++ [id] := by
    simp [order, Graph.extend, same]
  have here : (graph.extend node resolutions).Reached id :=
    (walked.pendingReached id (by simp)).extend node resolutions
  -- What was to be visited is the module that was just made, or is to be visited still.
  have left {other : Text} (member : other ∈ graph.order ∨
      other ∈ ((id, importer) :: rest).map Prod.fst) :
      other ∈ (graph.extend node resolutions).order ∨
        other ∈ ((graph.extend node resolutions).pendingOf resolutions ++ rest).map Prod.fst := by
    rw [order]
    simp only [List.map_cons, List.mem_cons, List.map_append, List.mem_append,
      List.not_mem_nil, or_false] at member ⊢
    tauto
  refine ⟨?_, ?_, ?_, ?_, left walked.entry, ?_, ?_, ?_⟩
  · intro other member
    rcases List.mem_append.mp member with known | new
    · exact walked.made other known
    · exact List.mem_singleton.mp new ▸ made
  · rw [order]
    exact List.nodup_append.mpr ⟨walked.once, List.nodup_singleton id,
      fun known member other new => by
        rw [List.mem_singleton.mp new]
        exact fun again => fresh (again ▸ member)⟩
  · have split : (graph.extend node resolutions).keys =
        graph.keys ++ resolutions.map fun r => (r.importer, r.specifier) := List.map_append
    rw [split, keys, walked.keys_eq]
    simp [Graph.extend]
  · intro resolution member
    rcases List.mem_append.mp member with known | new
    · exact walked.resolved resolution known
    · obtain ⟨importer, target⟩ := each resolution new
      exact importer ▸ target
  · intro resolution member inner
    rcases List.mem_append.mp member with known | new
    · exact left (walked.inner resolution known inner)
    · by_cases visited : resolution.target.moduleId ∈ (graph.extend node resolutions).order
      · exact .inl visited
      · rw [List.map_append, List.mem_append]
        exact .inr (.inl (mem_pendingOf.mpr ⟨resolution, new, inner, visited, rfl⟩))
  · intro other member
    rw [order] at member
    rcases List.mem_append.mp member with known | new
    · exact (walked.reached other known).extend node resolutions
    · exact List.mem_singleton.mp new ▸ here
  · intro other member
    rw [List.map_append, List.mem_append] at member
    rcases member with wanted | left
    · obtain ⟨resolution, new, inner, _, rfl⟩ := mem_pendingOf.mp wanted
      have importer : resolution.importer = id := (each resolution new).1.trans same
      exact .next (importer ▸ here) (List.mem_append_right _ new) inner
    · exact (walked.pendingReached other (List.mem_cons_of_mem _ left)).extend node resolutions

/-- A walk that comes to its end leaves nothing to be visited. -/
theorem of_walk (limit : Nat) {before after : σ} {last : Graph}
    (walked : Walked hooks graph pending)
    (walks : outcome (walk hooks limit graph pending) before = (.ok last, after)) :
    Walked hooks last [] ∧ last.entry = graph.entry := by
  induction limit generalizing graph pending before with
  | zero =>
    have skipped := walked.skip
    rw [walk.eq_def] at walks
    cases left : pending.dropWhile fun next => graph.contains next.1 with
    | nil =>
      rw [left] at walks skipped
      cases walks
      exact ⟨skipped, rfl⟩
    | cons next rest =>
      rw [left] at walks
      cases walks
  | succ limit tail =>
    have skipped := walked.skip
    rw [walk.eq_def] at walks
    cases left : pending.dropWhile fun next => graph.contains next.1 with
    | nil =>
      rw [left] at walks skipped
      cases walks
      exact ⟨skipped, rfl⟩
    | cons next rest =>
      obtain ⟨id, importer⟩ := next
      rw [left] at walks skipped
      obtain ⟨node, between, visited, walks⟩ := outcome_bind_eq_ok_iff.mp walks
      obtain ⟨same, made⟩ := made_of_visit visited
      obtain ⟨resolutions, _, resolved, walks⟩ := outcome_bind_eq_ok_iff.mp walks
      rw [outcome_decided, Prod.mk.injEq] at resolved
      have fresh : id ∉ graph.order := by
        have first := List.head?_dropWhile_not (fun next => graph.contains next.1) pending
        rw [left] at first
        simpa [← contains_iff] using first
      have behind := tail (skipped.extend fresh same made resolved.1) walks
      exact behind

/-- A graph whose walk has come to its end is closed. -/
theorem closed (walked : Walked hooks graph []) : graph.Closed where
  entry := walked.entry.resolve_right (by simp)
  once := walked.once
  scanned node member := by
    obtain ⟨_, _, _, _, _, _, _, _, scanned⟩ := walked.made node member
    exact scanned
  imported := walked.keys_eq
  oneTarget := by
    rw [walked.keys_eq, List.nodup_flatMap]
    refine ⟨fun node member => ?_, ?_⟩
    · obtain ⟨_, _, _, _, _, _, _, _, scanned⟩ := walked.made node member
      exact (nodup_imports scanned).map fun _ _ same => (Prod.mk.inj same).2
    · refine (List.pairwise_map.mp walked.once).imp fun {first second} apart => ?_
      intro key here there
      obtain ⟨_, _, rfl⟩ := List.mem_map.mp here
      obtain ⟨_, _, same⟩ := List.mem_map.mp there
      exact apart (Prod.mk.inj same).1.symm
  inner resolution member inner := (walked.inner resolution member inner).resolve_right (by simp)
  reached := walked.reached

end Walked

/-! ## Looking up in a closed graph -/

/-- A module is found under its id. -/
theorem find?_isSome_iff {graph : Graph} {id : Text} :
    (graph.find? id).isSome ↔ id ∈ graph.order := by
  simp [find?, order, List.find?_isSome]

/-- An import has a target if it is among the keys. -/
theorem target?_isSome_iff {graph : Graph} {id specifier : Text} :
    (graph.target? id specifier).isSome ↔ (id, specifier) ∈ graph.keys := by
  simp [target?, keys, List.find?_isSome]

/-- The target of an import is that of one of the resolutions. -/
theorem mem_of_target? {graph : Graph} {id specifier : Text} {target : Target}
    (found : graph.target? id specifier = some target) :
    ⟨id, specifier, target⟩ ∈ graph.resolutions := by
  obtain ⟨⟨importer, requested, _⟩, place, rfl⟩ := Option.map_eq_some_iff.mp found
  have matched := List.find?_some place
  simp only [Bool.and_eq_true, beq_iff_eq] at matched
  obtain ⟨rfl, rfl⟩ := matched
  exact List.mem_of_find?_eq_some place

namespace Closed

variable {graph : Graph}

/-- A module has a target for what it imports, and for nothing else. -/
theorem mem_keys_iff (closed : graph.Closed) {node : GraphModule}
    (member : node ∈ graph.modules) {specifier : Text} :
    (node.id, specifier) ∈ graph.keys ↔ specifier ∈ node.imports := by
  rw [closed.imported]
  simp only [List.mem_flatMap, List.mem_map, Prod.mk.injEq]
  constructor
  · rintro ⟨other, listed, _, imported, same, rfl⟩
    exact List.inj_on_of_nodup_map closed.once listed member same ▸ imported
  · exact fun imported => ⟨node, member, specifier, imported, rfl, rfl⟩

/-- What has a target is imported by a module. -/
theorem mem_order_of_mem_keys (closed : graph.Closed) {key : Text × Text}
    (known : key ∈ graph.keys) : key.1 ∈ graph.order := by
  rw [closed.imported, List.mem_flatMap] at known
  obtain ⟨node, member, imported⟩ := known
  obtain ⟨specifier, _, rfl⟩ := List.mem_map.mp imported
  exact List.mem_map_of_mem member

/-- The target of a resolution is found for its import. -/
theorem target?_of_mem (closed : graph.Closed) {resolution : Resolution}
    (member : resolution ∈ graph.resolutions) :
    graph.target? resolution.importer resolution.specifier = some resolution.target := by
  have key : (resolution.importer, resolution.specifier) ∈ graph.keys :=
    List.mem_map.mpr ⟨resolution, member, rfl⟩
  obtain ⟨target, found⟩ := Option.isSome_iff_exists.mp (target?_isSome_iff.mpr key)
  have same := List.inj_on_of_nodup_map closed.oneTarget (mem_of_target? found) member rfl
  rw [found, ← same]

/-- The resolutions of a module are those of its imports, in order. -/
theorem imports_eq (closed : graph.Closed) {node : GraphModule} (member : node ∈ graph.modules) :
    node.imports =
      (graph.resolutions.filter (·.importer == node.id)).map Resolution.specifier := by
  obtain ⟨first, last, parts⟩ := List.append_of_mem member
  have once := closed.once
  rw [order, parts, List.map_append, List.map_cons, List.nodup_append, List.nodup_cons] at once
  have none_of {others : List GraphModule} (apart : ∀ other ∈ others, other.id ≠ node.id) :
      (others.flatMap fun other => other.imports.map (other.id, ·)).filter (·.1 == node.id) =
        [] := by
    simp only [List.filter_eq_nil_iff, List.mem_flatMap, List.mem_map]
    rintro _ ⟨other, listed, specifier, _, rfl⟩
    simpa using apart other listed
  have before : ∀ other ∈ first, other.id ≠ node.id := fun other listed =>
    once.2.2 other.id (List.mem_map_of_mem listed) node.id List.mem_cons_self
  have behind : ∀ other ∈ last, other.id ≠ node.id := fun other listed same =>
    once.2.1.1 (List.mem_map.mpr ⟨other, listed, same⟩)
  have own : (node.imports.map (node.id, ·)).filter (·.1 == node.id) =
      node.imports.map (node.id, ·) :=
    List.filter_eq_self.mpr (by simp)
  have keys : graph.keys.filter (·.1 == node.id) = node.imports.map (node.id, ·) := by
    rw [closed.imported, parts, List.flatMap_append, List.flatMap_cons, List.filter_append,
      List.filter_append, none_of before, none_of behind, own, List.nil_append, List.append_nil]
  calc
    node.imports = (node.imports.map (node.id, ·)).map Prod.snd := by simp [Function.comp_def]
    _ = (graph.keys.filter (·.1 == node.id)).map Prod.snd := by rw [keys]
    _ = _ := by simp [Graph.keys, List.filter_map, Function.comp_def]

/-- What a module imports can be looked up, and it is what the resolutions list. -/
theorem dependencies?_eq (closed : graph.Closed) {id : Text} (member : id ∈ graph.order) :
    graph.dependencies? id = some (graph.dependencies id) := by
  obtain ⟨node, found⟩ := Option.isSome_iff_exists.mp (find?_isSome_iff.mpr member)
  have listed : node ∈ graph.modules := List.mem_of_find?_eq_some found
  have named : node.id = id := by simpa using List.find?_some found
  have targets : node.imports.mapM (graph.target? id) =
      some ((graph.resolutions.filter (·.importer == id)).map Resolution.target) := by
    rw [closed.imports_eq listed, named, List.mapM_map]
    refine mapM_eq_some_map fun resolution chosen => ?_
    obtain ⟨known, own⟩ := List.mem_filter.mp chosen
    exact eq_of_beq own ▸ closed.target?_of_mem known
  have whole (resolutions : List Resolution) :
      (((resolutions.filter (·.importer == id)).map Resolution.target).filter
          (!·.isExternal)).map Target.moduleId =
        resolutions.filterMap fun resolution =>
          if resolution.importer == id && !resolution.target.isExternal then
            some resolution.target.moduleId
          else none := by
    induction resolutions with
    | nil => rfl
    | cons resolution rest tail =>
      by_cases own : resolution.importer = id <;>
        cases external : resolution.target.isExternal <;>
        simp [own, external, tail]
  rw [dependencies?, found]
  simp only [Option.bind_eq_bind, Option.bind_some, targets]
  exact congrArg some (whole graph.resolutions)

/-- What a module imports are modules. -/
theorem mem_order_of_mem_dependencies (closed : graph.Closed) {id other : Text}
    (member : other ∈ graph.dependencies id) : other ∈ graph.order := by
  obtain ⟨resolution, listed, chosen⟩ := List.mem_filterMap.mp member
  simp only [Option.ite_none_right_eq_some, Bool.and_eq_true, Bool.not_eq_true'] at chosen
  obtain ⟨⟨_, inner⟩, same⟩ := chosen
  exact Option.some.inj same ▸ closed.inner resolution listed inner

end Closed

/-! ## What the linker takes -/

/-- What is found in a record that is made of a list is made of the first item with its key. -/
theorem find?_map {α : Type} (items : List α) (key : α → Text) (value : α → Json) (wanted : Text) :
    Record.find? (items.map fun item => (key item, value item)) wanted =
      (items.find? fun item => key item == wanted).map value := by
  induction items with
  | nil => rfl
  | cons first rest tail =>
    by_cases same : key first = wanted
    · simp [Record.find?, same]
    · simp [Record.find?, same, tail]

/-- The linker finds the modules of the graph, and no others. -/
theorem linkedModule?_payload (graph : Graph) (id : Text) :
    linkedModule? graph.payload id = (graph.find? id).map fun node =>
      .obj [("code", .str node.code), ("map", node.map)] :=
  find?_map graph.modules GraphModule.id _ id

/-- The linker finds the targets of the graph, and no others. -/
theorem linkedTarget?_payload (graph : Graph) (id specifier : Text) :
    linkedTarget? graph.payload id specifier = (graph.target? id specifier).map fun target =>
      .obj [("id", .str target.moduleId), ("external", .bool target.isExternal)] := by
  have importers : linkedTarget? graph.payload id specifier =
      ((Record.find? ((graph.resolutions.map Resolution.importer).eraseDups.map fun importer =>
        (importer, .obj (graph.resolutionFields importer))) id).bind Json.record?).bind
          fun targets => Record.find? targets specifier :=
    rfl
  have fields : Record.find? (graph.resolutionFields id) specifier =
      (graph.target? id specifier).map fun target =>
        .obj [("id", .str target.moduleId), ("external", .bool target.isExternal)] := by
    rw [resolutionFields, find?_map, List.find?_filter, target?, Option.map_map]
    simp only [Bool.decide_and, Bool.decide_eq_true]
    rfl
  rw [importers, find?_map]
  cases named : (graph.resolutions.map Resolution.importer).eraseDups.find? (· == id) with
  | some importer =>
    have same := List.find?_some named
    obtain rfl : importer = id := eq_of_beq same
    exact fields
  | none =>
    have unnamed : graph.target? id specifier = none := by
      rw [List.find?_eq_none] at named
      refine Option.map_eq_none_iff.mpr (List.find?_eq_none.mpr fun resolution member => ?_)
      have differ := named resolution.importer
        (List.mem_eraseDups.mpr (List.mem_map_of_mem member))
      simp_all
    rw [unnamed]
    rfl

/-- A closed graph is closed in the form that the linker takes. -/
theorem Closed.payload {graph : Graph} (closed : graph.Closed) : ClosedPayload graph.payload where
  once := by
    refine ⟨_, _, rfl, rfl, ?_, ?_, ?_⟩
    · simpa [Function.comp_def, order] using closed.once
    · simpa [Function.comp_def] using nodup_eraseDups _
    · intro importer member
      obtain ⟨id, _, rfl⟩ := List.mem_map.mp member
      have own : (graph.keys.filter (·.1 == id)).Nodup := closed.oneTarget.filter _
      have same : graph.keys.filter (·.1 == id) =
          ((graph.resolutionFields id).map Prod.fst).map (id, ·) := by
        simp only [keys, List.filter_map, resolutionFields, List.map_map]
        exact List.map_congr_left fun resolution chosen => by
          simpa using eq_of_beq (List.mem_filter.mp chosen).2
      exact ⟨_, rfl, .of_map _ (same ▸ own)⟩
  imported id found linked := by
    rw [linkedModule?_payload] at linked
    obtain ⟨node, place, rfl⟩ := Option.map_eq_some_iff.mp linked
    have member : node ∈ graph.modules := List.mem_of_find?_eq_some place
    obtain rfl : node.id = id := by simpa using List.find?_some place
    refine ⟨_, node.code, node.imports, rfl, rfl, closed.scanned node member, fun specifier => ?_⟩
    rw [linkedTarget?_payload, Option.isSome_map, target?_isSome_iff, closed.mem_keys_iff member]
  inner id specifier found linked := by
    rw [linkedTarget?_payload] at linked
    obtain ⟨target, place, rfl⟩ := Option.map_eq_some_iff.mp linked
    have key := target?_isSome_iff.mp (Option.isSome_of_eq_some place)
    simp only [linkedModule?_payload, Option.isSome_map, find?_isSome_iff]
    refine ⟨closed.mem_order_of_mem_keys key, target.moduleId, target.isExternal, rfl, ?_⟩
    cases external : target.isExternal with
    | true => exact .inl rfl
    | false => exact .inr (closed.inner _ (mem_of_target? place) external)

end Graph

/-- **Closed graphs.** Whatever hooks do, a graph that is collected with them is closed: its entry
is a module, what has a target are the imports of its modules, each read off the code that the
hooks made, the targets are those the hooks resolved, and what is not external is a module that is
reached from the entry. So what a module imports can be looked up and consists of modules, and the
linker finds a target for every import, external or again a module, and nothing else. -/
theorem closed_of_collect (limit : Nat) (hooks : Hooks (StateM σ)) (entry : Text)
    (before after : σ) (graph : Graph)
    (collected : outcome (Graph.collect limit hooks entry) before = (.ok graph, after)) :
    (∃ target, hooks.resolve entry none = .ok target ∧ graph.entry = target.moduleId) ∧
    graph.Closed ∧
    (∀ node ∈ graph.modules, hooks.Made node) ∧
    (∀ resolution ∈ graph.resolutions,
      hooks.resolve resolution.specifier (some resolution.importer) = .ok resolution.target) ∧
    (∀ id ∈ graph.order, graph.dependencies? id = some (graph.dependencies id) ∧
      ∀ other ∈ graph.dependencies id, other ∈ graph.order) ∧
    (∀ id, (linkedModule? graph.payload id).isSome ↔ id ∈ graph.order) ∧
    graph.payload.get "entry" = .str graph.entry ∧
    ClosedPayload graph.payload := by
  obtain ⟨target, _, resolved, walks⟩ := outcome_bind_eq_ok_iff.mp collected
  rw [outcome_decided, Prod.mk.injEq] at resolved
  obtain ⟨walked, same⟩ := (Graph.Walked.start hooks target.moduleId).of_walk limit walks
  have closed := walked.closed
  refine ⟨⟨target, resolved.1, same⟩, closed, walked.made, walked.resolved, ?_, ?_, rfl,
    closed.payload⟩
  · exact fun id member => ⟨closed.dependencies?_eq member,
      fun other => closed.mem_order_of_mem_dependencies⟩
  · intro id
    rw [Graph.linkedModule?_payload, Option.isSome_map, Graph.find?_isSome_iff]

/-- Two modules that import each other and themselves, one of them also what is left to the
browser. What was loaded is counted. -/
def couple : Hooks (StateM Nat) where
  resolve requested _ :=
    .ok (if requested = "$site" then .external requested else .file requested)
  load id := ExceptT.mk fun count => pure
    (.ok (some (if id = "b" then "import 'a'; import 'b';" else "import 'b'; import '$site';" :
      Text)), count + 1)
  transform _ _ := pure none

/-- The graph of the couple is closed. -/
theorem closed_of_collect_couple :
    ∃ graph after, outcome (Graph.collect 2 couple "a") 0 = (.ok graph, after) ∧
      graph.order = ["a", "b"] ∧ graph.Closed ∧ ClosedPayload graph.payload := by
  have order : (outcome (Graph.collect 2 couple "a") 0).1.toOption.map Graph.order =
      some [("a" : Text), "b"] := by
    decide +kernel
  rcases collected : outcome (Graph.collect 2 couple "a") 0 with ⟨failure | graph, after⟩
  · rw [collected] at order
    cases order
  · rw [collected] at order
    obtain ⟨_, closed, _, _, _, _, _, payload⟩ :=
      closed_of_collect 2 couple "a" 0 after graph collected
    exact ⟨graph, after, rfl, Option.some.inj order, closed, payload⟩

end SiteBuild.Module
