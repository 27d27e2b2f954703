import Mathlib.Data.Finset.Card
import Mathlib.Data.Set.Finite.Basic
import SiteBuild.Module.Graph

/-!
# The walk over a module graph

A graph is collected by a walk with a list of modules still to be visited. This is compared with
a visit that is described by recursion: a module is visited, and then in the same way every module
it wants, one after the other. The hooks are pure: what they answer depends on nothing but what
they are asked, and all that is asked is recorded. Main statement: if finitely many modules can be
reached, the visit comes to one end, and the walk makes the same calls in the same order and comes
to the same graph or the same failure (`collect_eq_visit`).
-/
namespace SiteBuild.Module

/-- What pure hooks answer. -/
structure Answers where
  /-- The target of a request of a module, or of the entry. -/
  resolve : Text → Option Text → Target
  /-- The text of a module. -/
  load : Text → Except Failure (Option Textual)
  /-- The transformed code of a module. -/
  transform : Textual → Text → Except Failure (Option Transformed)

/-- What a hook is called for. -/
inductive Call where
  /-- The text of a module. -/
  | load (id : Text)
  /-- The transformed code of a module. -/
  | transform (code : Textual) (id : Text)
  deriving Repr

/-- The id of the module that is loaded. -/
def Call.loaded? : Call → Option Text
  | .load id => some id
  | .transform _ _ => none

/-- What a visit leaves behind. -/
structure Trail where
  /-- The calls of hooks, in order. -/
  calls : List Call := []
  /-- The visited modules, in order. -/
  modules : List GraphModule := []
  /-- The targets of their imports, in order. -/
  resolutions : List Resolution := []
  deriving Repr

namespace Trail

/-- Whether a module is visited. -/
def contains (trail : Trail) (id : Text) : Bool := trail.modules.any fun node => node.id == id

/-- The trail after some more calls. -/
def called (trail : Trail) (calls : List Call) : Trail :=
  { trail with calls := trail.calls ++ calls }

/-- The trail after one more module. -/
def record (trail : Trail) (node : GraphModule) (resolutions : List Resolution) : Trail :=
  { trail with
    modules := trail.modules ++ [node]
    resolutions := trail.resolutions ++ resolutions }

/-- The visited modules as the graph of an entry. -/
def graph (trail : Trail) (entry : Text) : Graph :=
  { entry, modules := trail.modules, resolutions := trail.resolutions }

/-- The ids of the loaded modules, in order. -/
def loads (trail : Trail) : List Text := trail.calls.filterMap Call.loaded?

end Trail

/-- How the message about a module without a text ends: with the module that imports it, if it has
a name. -/
def importedBy : Option Text → Text
  | none => []
  | some [] => []
  | some importer => " (imported by " ++ importer ++ ")"

/-- The failure of a module without a text. -/
def missing (id : Text) (importer : Option Text) : Failure :=
  .build {
    kind := .unresolved
    message := .str ("Could not load " ++ id ++ importedBy importer)
    moduleId := .str id }

/-- The failure of a module whose code ends inside a literal or a comment. -/
def unreadable (id : Text) (error : Script.ScanError) : Failure :=
  .build {
    kind := .link
    message := .str ("Could not parse " ++ id ++ ": " ++ error.message)
    name := .str "ParseError"
    moduleId := .str id }

/-- The module of transformed code, if its imports can be read. -/
def scanned (id : Text) (output : Transformed) : Except Failure GraphModule :=
  match output.code.asText "startswith" with
  | .error cause => .error (.misuse cause)
  | .ok code =>
    match Script.imports code with
    | .error error => .error (unreadable id error)
    | .ok imports => .ok { id, code, map := output.map, imports }

namespace Answers

variable (answers : Answers)

/-- Hooks with these answers that record their calls. -/
def hooks : Hooks (StateM (List Call)) where
  resolve requested importer := .ok (answers.resolve requested importer)
  load id := ExceptT.mk fun calls => pure (answers.load id, calls ++ [.load id])
  transform code id :=
    ExceptT.mk fun calls => pure (answers.transform code id, calls ++ [.transform code id])

/-- Load and transform a module and scan its imports; with the calls that are made for it. -/
def read (id : Text) (importer : Option Text) : Except Failure GraphModule × List Call :=
  match answers.load id with
  | .error failure => (.error failure, [.load id])
  | .ok none => (.error (missing id importer), [.load id])
  | .ok (some loaded) =>
    match answers.transform loaded id with
    | .error failure => (.error failure, [.load id, .transform loaded id])
    | .ok output =>
      (scanned id (output.getD { code := loaded }), [.load id, .transform loaded id])

/-- The targets of the imports of a module, in order. -/
def targets (node : GraphModule) : List Resolution :=
  node.imports.map fun specifier =>
    ⟨node.id, specifier, answers.resolve specifier (some node.id)⟩

/-- The modules that a module wants, in the order of its imports, with the importing module. -/
def wanted (node : GraphModule) : List (Text × Option Text) :=
  (answers.targets node).filterMap fun resolution =>
    if resolution.target.isExternal then none
    else some (resolution.target.moduleId, some resolution.importer)

/-- The visit of modules, one after the other: from which trail it comes to which end and which
trail. A module that is not visited yet is read and recorded, the modules it wants are visited in
the same way, and only then it is the turn of the next. The first failure is the end. -/
inductive Visits :
    List (Text × Option Text) → Trail → Except Failure Unit → Trail → Prop where
  /-- There is nothing to visit. -/
  | nil {trail : Trail} : Visits [] trail (.ok ()) trail
  /-- A module that is visited already is skipped. -/
  | skipped {next : Text × Option Text} {rest : List (Text × Option Text)} {trail later : Trail}
      {result : Except Failure Unit} (visited : trail.contains next.1 = true)
      (others : Visits rest trail result later) : Visits (next :: rest) trail result later
  /-- A module cannot be read. -/
  | unread {next : Text × Option Text} {rest : List (Text × Option Text)} {trail : Trail}
      {failure : Failure} {calls : List Call} (fresh : trail.contains next.1 = false)
      (read : answers.read next.1 next.2 = (.error failure, calls)) :
      Visits (next :: rest) trail (.error failure) (trail.called calls)
  /-- A module is read, and what it wants cannot be visited. -/
  | failed {next : Text × Option Text} {rest : List (Text × Option Text)} {trail later : Trail}
      {node : GraphModule} {failure : Failure} {calls : List Call}
      (fresh : trail.contains next.1 = false)
      (read : answers.read next.1 next.2 = (.ok node, calls))
      (wanted : Visits (answers.wanted node)
        ((trail.called calls).record node (answers.targets node)) (.error failure) later) :
      Visits (next :: rest) trail (.error failure) later
  /-- A module is read, what it wants is visited, and then the rest. -/
  | read {next : Text × Option Text} {rest : List (Text × Option Text)}
      {trail between later : Trail} {result : Except Failure Unit} {node : GraphModule}
      {calls : List Call} (fresh : trail.contains next.1 = false)
      (read : answers.read next.1 next.2 = (.ok node, calls))
      (wanted : Visits (answers.wanted node)
        ((trail.called calls).record node (answers.targets node)) (.ok ()) between)
      (others : Visits rest between result later) : Visits (next :: rest) trail result later

/-- The modules that can be reached from a root. -/
inductive Reachable (root : Text) : Text → Prop where
  /-- The root itself. -/
  | root : Reachable root root
  /-- What a module wants. -/
  | next {id : Text} {importer : Option Text} {node : GraphModule} {other : Text × Option Text}
      (known : Reachable root id) (read : (answers.read id importer).1 = .ok node)
      (member : other ∈ answers.wanted node) : Reachable root other.1

end Answers

/-! ## The walk, step by step -/

namespace Answers

variable {answers : Answers}

/-- A step behind another starts with the calls of the first. -/
theorem run_bind {α β : Type} (first : ExceptT Failure (StateM (List Call)) α)
    (next : α → ExceptT Failure (StateM (List Call)) β) (calls : List Call) :
    ((first >>= next).run.run calls : Id _) =
      match (first.run.run calls : Id _) with
      | (.error failure, later) => (.error failure, later)
      | (.ok value, later) => ((next value).run.run later : Id _) := by
  change (match (first.run.run calls : Id _) with
      | (result, later) => ((ExceptT.bindCont next result).run later : Id _)) = _
  cases (first.run.run calls : Id _) with
  | mk result later => cases result <;> rfl

/-- Loading a module is recorded. -/
theorem run_load (id : Text) (calls : List Call) :
    ((answers.hooks.load id).run.run calls : Id _) = (answers.load id, calls ++ [.load id]) :=
  rfl

/-- Transforming a module is recorded. -/
theorem run_transform (code : Textual) (id : Text) (calls : List Call) :
    ((answers.hooks.transform code id).run.run calls : Id _) =
      (answers.transform code id, calls ++ [.transform code id]) :=
  rfl

/-- What is decided calls nothing. -/
theorem run_decided {α : Type} (result : Except Failure α) (calls : List Call) :
    ((Graph.decided result : ExceptT Failure (StateM (List Call)) α).run.run calls : Id _) =
      (result, calls) :=
  rfl

/-- The walk fails as the visit does on a module without a text. -/
theorem build_unresolvedError (id : Text) (importer : Option Text) :
    Failure.build (Graph.unresolvedError id importer) = missing id importer := by
  cases importer with
  | none => rfl
  | some name => cases name <;> rfl

/-- The walk fails as the visit does on code that ends inside a literal or a comment. -/
theorem build_unreadableError (id : Text) (error : Script.ScanError) :
    Failure.build (Graph.unreadableError id error) = unreadable id error :=
  rfl

/-- Visiting a module calls the hooks as reading it does. -/
theorem run_visit (id : Text) (importer : Option Text) (calls : List Call) :
    ((Graph.visit answers.hooks id importer).run.run calls : Id _) =
      ((answers.read id importer).1, calls ++ (answers.read id importer).2) := by
  unfold Graph.visit read
  cases loaded : answers.load id with
  | error failure =>
    simp only [hooks, loaded]
    rfl
  | ok text =>
    cases text with
    | none =>
      rw [run_bind, run_load, loaded]
      simp only [build_unresolvedError]
      rfl
    | some text =>
      cases transformed : answers.transform text id with
      | error failure =>
        rw [run_bind, run_load, loaded]
        simp only
        rw [run_bind, run_transform, transformed]
        simp
      | ok output =>
        rw [run_bind, run_load, loaded]
        simp only
        rw [run_bind, run_transform, transformed]
        simp only [scanned, List.append_assoc, List.cons_append, List.nil_append]
        cases (output.getD { code := text }).code.asText "startswith" with
        | error cause => rfl
        | ok code =>
          rw [run_bind, run_decided]
          simp only [Except.mapError, build_unreadableError]
          cases Script.imports code <;> rfl

/-- All imports of a module have targets. -/
theorem resolveImports_hooks (node : GraphModule) :
    Graph.resolveImports answers.hooks node = .ok (answers.targets node) := by
  unfold Graph.resolveImports targets
  induction node.imports with
  | nil => rfl
  | cons specifier rest tail =>
    rw [List.mapM_cons, tail]
    rfl

/-- A walk ends when all pending modules are in the graph. -/
theorem run_walk_nil {trail : Trail} {pending : List (Text × Option Text)}
    (known : pending.dropWhile (fun next => trail.contains next.1) = []) (limit : Nat)
    (entry : Text) (calls : List Call) :
    ((Graph.walk answers.hooks limit (trail.graph entry) pending).run.run calls : Id _) =
      (.ok (trail.graph entry), calls) := by
  have known : pending.dropWhile (fun next => (trail.graph entry).contains next.1) = [] := known
  unfold Graph.walk
  rw [known]
  cases limit <;> rfl

/-- A walk reads the first pending module that is not in the graph, and goes on with what that
module wants. -/
theorem run_walk_cons {graph : Graph} {pending rest : List (Text × Option Text)}
    {next : Text × Option Text}
    (open_ : pending.dropWhile (fun next => graph.contains next.1) = next :: rest) (limit : Nat)
    (calls : List Call) :
    ((Graph.walk answers.hooks (limit + 1) graph pending).run.run calls : Id _) =
      match answers.read next.1 next.2 with
      | (.error failure, made) => (.error failure, calls ++ made)
      | (.ok node, made) =>
        let extended := graph.extend node (answers.targets node)
        ((Graph.walk answers.hooks limit extended
          (extended.pendingOf (answers.targets node) ++ rest)).run.run (calls ++ made) : Id _) := by
  obtain ⟨id, importer⟩ := next
  rw [Graph.walk.eq_def, open_]
  simp only
  rw [run_bind, run_visit]
  cases answers.read id importer with
  | mk result made =>
    cases result with
    | error failure => rfl
    | ok node =>
      simp only
      rw [run_bind, resolveImports_hooks, run_decided]

/-! ## The visit, step by step -/

/-- A visit comes to one end only. -/
theorem Visits.unique {pending : List (Text × Option Text)} {trail later other : Trail}
    {result second : Except Failure Unit} (visits : answers.Visits pending trail result later)
    (again : answers.Visits pending trail second other) : result = second ∧ later = other := by
  induction visits generalizing second other with
  | nil =>
    cases again
    exact ⟨rfl, rfl⟩
  | skipped visited _ tail =>
    cases again with
    | skipped _ others => exact tail others
    | unread fresh _ => simp [visited] at fresh
    | failed fresh _ _ => simp [visited] at fresh
    | read fresh _ _ _ => simp [visited] at fresh
  | unread fresh read =>
    cases again with
    | skipped visited _ => simp [visited] at fresh
    | unread _ same => simp_all
    | failed _ same _ => simp_all
    | read _ same _ _ => simp_all
  | failed fresh read _ inside =>
    cases again with
    | skipped visited _ => simp [visited] at fresh
    | unread _ same => simp_all
    | failed _ same wanted =>
      obtain ⟨rfl, rfl⟩ : _ ∧ _ := by simpa [read] using same
      exact inside wanted
    | read _ same wanted _ =>
      obtain ⟨rfl, rfl⟩ : _ ∧ _ := by simpa [read] using same
      obtain ⟨differ, _⟩ := inside wanted
      cases differ
  | read fresh read _ _ inside tail =>
    cases again with
    | skipped visited _ => simp [visited] at fresh
    | unread _ same => simp_all
    | failed _ same wanted =>
      obtain ⟨rfl, rfl⟩ : _ ∧ _ := by simpa [read] using same
      obtain ⟨differ, _⟩ := inside wanted
      cases differ
    | read _ same wanted others =>
      obtain ⟨rfl, rfl⟩ : _ ∧ _ := by simpa [read] using same
      obtain ⟨_, rfl⟩ := inside wanted
      exact tail others

/-- Modules in two parts are visited part by part. -/
theorem Visits.split {first second : List (Text × Option Text)} {trail later : Trail}
    {result : Except Failure Unit} (visits : answers.Visits (first ++ second) trail result later) :
    (∃ failure, result = .error failure ∧ answers.Visits first trail result later) ∨
      ∃ between, answers.Visits first trail (.ok ()) between ∧
        answers.Visits second between result later := by
  induction first generalizing trail with
  | nil => exact .inr ⟨trail, .nil, visits⟩
  | cons next rest tail =>
    cases visits with
    | skipped visited others =>
      rcases tail others with ⟨failure, failed, rest⟩ | ⟨between, rest, behind⟩
      · exact .inl ⟨failure, failed, .skipped visited rest⟩
      · exact .inr ⟨between, .skipped visited rest, behind⟩
    | unread fresh read => exact .inl ⟨_, rfl, .unread fresh read⟩
    | failed fresh read wanted => exact .inl ⟨_, rfl, .failed fresh read wanted⟩
    | read fresh read wanted others =>
      rcases tail others with ⟨failure, failed, rest⟩ | ⟨between, rest, behind⟩
      · exact .inl ⟨failure, failed, .read fresh read wanted rest⟩
      · exact .inr ⟨between, .read fresh read wanted rest, behind⟩

/-- A module that is read goes before the modules it wants, and these before the rest. -/
theorem Visits.of_read {trail later : Trail} {next : Text × Option Text}
    {rest : List (Text × Option Text)} {result : Except Failure Unit} {node : GraphModule}
    {calls : List Call} (fresh : trail.contains next.1 = false)
    (read : answers.read next.1 next.2 = (.ok node, calls))
    (visits : answers.Visits (answers.wanted node ++ rest)
      ((trail.called calls).record node (answers.targets node)) result later) :
    answers.Visits (next :: rest) trail result later := by
  rcases visits.split with ⟨failure, rfl, wanted⟩ | ⟨between, wanted, others⟩
  · exact .failed fresh read wanted
  · exact .read fresh read wanted others

/-! ## The walk and the visit -/

/-- Whether the first list is the second without some modules that are visited. -/
inductive Skims (trail : Trail) :
    List (Text × Option Text) → List (Text × Option Text) → Prop where
  /-- There is nothing to visit. -/
  | nil : Skims trail [] []
  /-- The first module of both. -/
  | keep {short long : List (Text × Option Text)} (next : Text × Option Text)
      (rest : Skims trail short long) : Skims trail (next :: short) (next :: long)
  /-- A visited module of the second only. -/
  | drop {short long : List (Text × Option Text)} {next : Text × Option Text}
      (visited : trail.contains next.1 = true) (rest : Skims trail short long) :
      Skims trail short (next :: long)

namespace Skims

variable {trail later : Trail} {short long : List (Text × Option Text)}

/-- With more modules visited, the first list still lacks visited ones only. -/
theorem mono (skims : Skims trail short long)
    (grown : ∀ id, trail.contains id = true → later.contains id = true) :
    Skims later short long := by
  induction skims with
  | nil => exact .nil
  | keep next rest tail => exact .keep next tail
  | drop visited rest tail => exact .drop (grown _ visited) tail

/-- Modules that are pending are those that a module wants without the visited ones. -/
theorem pending (resolutions : List Resolution) (skims : Skims trail short long) :
    Skims trail (Graph.pendingOf (trail.graph entry) resolutions ++ short)
      (resolutions.filterMap (fun resolution =>
        if resolution.target.isExternal then none
        else some (resolution.target.moduleId, some resolution.importer)) ++ long) := by
  induction resolutions with
  | nil => exact skims
  | cons resolution rest tail =>
    cases external : resolution.target.isExternal with
    | true => simpa [Graph.pendingOf, external] using tail
    | false =>
      cases visited : trail.contains resolution.target.moduleId with
      | true =>
        have known : (trail.graph entry).contains resolution.target.moduleId = true := visited
        simpa [Graph.pendingOf, external, known] using Skims.drop visited tail
      | false =>
        have open_ : (trail.graph entry).contains resolution.target.moduleId = false := visited
        simpa [Graph.pendingOf, external, open_] using Skims.keep _ tail

/-- Either everything in both lists is visited, or both go on with the same module. -/
theorem cases_next (answers : Answers) (skims : Skims trail short long) :
    (short.dropWhile (fun next => trail.contains next.1) = [] ∧
      answers.Visits long trail (.ok ()) trail) ∨
    ∃ next rest others, short.dropWhile (fun next => trail.contains next.1) = next :: rest ∧
      trail.contains next.1 = false ∧ Skims trail rest others ∧
      (∀ other ∈ next :: others, other ∈ long) ∧
      ∀ result later, answers.Visits (next :: others) trail result later →
        answers.Visits long trail result later := by
  induction skims with
  | nil => exact .inl ⟨rfl, .nil⟩
  | keep next rest tail =>
    rename_i short long
    cases visited : trail.contains next.1 with
    | true =>
      rw [List.dropWhile_cons, if_pos visited]
      rcases tail with ⟨all, visits⟩ | ⟨first, rest, others, same, fresh, skims, members, visits⟩
      · exact .inl ⟨all, .skipped visited visits⟩
      · exact .inr ⟨first, rest, others, same, fresh, skims,
          fun other member => List.mem_cons_of_mem _ (members other member),
          fun result later behind => .skipped visited (visits result later behind)⟩
    | false =>
      refine .inr ⟨next, short, long, ?_, visited, rest, fun _ member => member,
        fun _ _ visits => visits⟩
      rw [List.dropWhile_cons, if_neg (by simp [visited])]
  | drop visited rest tail =>
    rcases tail with ⟨all, visits⟩ | ⟨first, rest, others, same, fresh, skims, members, visits⟩
    · exact .inl ⟨all, .skipped visited visits⟩
    · exact .inr ⟨first, rest, others, same, fresh, skims,
        fun other member => List.mem_cons_of_mem _ (members other member),
        fun result later behind => .skipped visited (visits result later behind)⟩

end Skims

/-- The modules of a visit are loaded once each, and no others before a failure. -/
structure Tidy (trail : Trail) : Prop where
  /-- The loaded modules are the visited ones. -/
  loads : trail.loads = trail.modules.map GraphModule.id
  /-- No module is loaded twice. -/
  once : trail.loads.Nodup

/-- A module that is not transformed is read as its text. -/
theorem read_of_imports {id code : Text} {imports : List Text}
    (loaded : answers.load id = .ok (some (.text code)))
    (kept : answers.transform (.text code) id = .ok none)
    (found : Script.imports code = .ok imports) (importer : Option Text) :
    answers.read id importer =
      (.ok { id, code, imports }, [.load id, .transform (.text code) id]) := by
  rw [read, loaded]
  simp only [kept, scanned, Option.getD_none, Textual.asText, found]

/-- Reading a module loads this module. -/
theorem loads_read (id : Text) (importer : Option Text) :
    (answers.read id importer).2.filterMap Call.loaded? = [id] := by
  unfold read
  cases answers.load id with
  | error failure => rfl
  | ok text =>
    cases text with
    | none => rfl
    | some text =>
      simp only
      cases answers.transform text id <;> rfl

/-- The module that is read has the id it is read under. -/
theorem id_of_scanned {id : Text} {output : Transformed} {node : GraphModule}
    (made : scanned id output = .ok node) : node.id = id := by
  unfold scanned at made
  cases code : output.code.asText "startswith" with
  | error cause =>
    rw [code] at made
    cases made
  | ok text =>
    rw [code] at made
    simp only at made
    cases found : Script.imports text with
    | error error =>
      rw [found] at made
      cases made
    | ok imports =>
      rw [found] at made
      cases made
      rfl

/-- The module that is read has the id it is read under. -/
theorem id_of_read {id : Text} {importer : Option Text} {node : GraphModule}
    (read : (answers.read id importer).1 = .ok node) : node.id = id := by
  unfold Answers.read at read
  cases loaded : answers.load id with
  | error failure =>
    rw [loaded] at read
    cases read
  | ok text =>
    cases text with
    | none =>
      rw [loaded] at read
      cases read
    | some text =>
      rw [loaded] at read
      simp only at read
      cases transformed : answers.transform text id with
      | error failure =>
        rw [transformed] at read
        cases read
      | ok output =>
        rw [transformed] at read
        exact id_of_scanned read

/-- A module that is not visited is loaded for the first time. -/
theorem Tidy.read {trail : Trail} (tidy : Tidy trail) {id : Text}
    (fresh : trail.contains id = false) (answers : Answers) (importer : Option Text) :
    (trail.called (answers.read id importer).2).loads = trail.loads ++ [id] ∧
      (trail.loads ++ [id]).Nodup := by
  refine ⟨?_, ?_⟩
  · simp only [Trail.loads, Trail.called, List.filterMap_append, loads_read]
  · have unknown : id ∉ trail.loads := by
      rw [tidy.loads]
      intro member
      obtain ⟨node, known, same⟩ := List.mem_map.mp member
      have visited : trail.contains id = true :=
        List.any_eq_true.mpr ⟨node, known, beq_iff_eq.mpr same⟩
      rw [fresh] at visited
      cases visited
    exact List.nodup_append.mpr ⟨tidy.once, List.nodup_singleton id, by
      intro known member other same
      cases List.mem_singleton.mp same
      exact fun equal => unknown (equal ▸ member)⟩

/-- What is visited once a module is recorded. -/
theorem contains_record (trail : Trail) (calls : List Call) (node : GraphModule)
    (resolutions : List Resolution) (id : Text) :
    ((trail.called calls).record node resolutions).contains id =
      (trail.contains id || node.id == id) := by
  simp [Trail.contains, Trail.record, Trail.called]

/-- The modules among some that are not visited. -/
def unvisited (ids : Finset Text) (trail : Trail) : Finset Text :=
  ids.filter fun id => trail.contains id = false

/-- Recording a module leaves fewer that are not visited. -/
theorem unvisited_record {ids : Finset Text} {trail : Trail} {node : GraphModule}
    (known : node.id ∈ ids) (fresh : trail.contains node.id = false) (calls : List Call)
    (resolutions : List Resolution) :
    (unvisited ids ((trail.called calls).record node resolutions)).card <
      (unvisited ids trail).card := by
  apply Finset.card_lt_card
  refine ⟨?_, ?_⟩
  · intro id member
    simp only [unvisited, Finset.mem_filter, contains_record, Bool.or_eq_false_iff] at member ⊢
    exact ⟨member.1, member.2.1⟩
  · intro back
    have member := back (Finset.mem_filter.mpr ⟨known, fresh⟩)
    simp [unvisited, contains_record] at member

/-- A walk over the pending modules does what visiting them one after the other does. -/
theorem run_walk_of_visits {root : Text} {ids : Finset Text}
    (closed : ∀ id, answers.Reachable root id → id ∈ ids) (limit : Nat) {trail : Trail}
    {short long : List (Text × Option Text)} (skims : Skims trail short long)
    (reached : ∀ next ∈ long, answers.Reachable root next.1) (tidy : Tidy trail)
    (enough : (unvisited ids trail).card ≤ limit) :
    ∃ result later, answers.Visits long trail result later ∧
      later.loads.Nodup ∧
      ((Graph.walk answers.hooks limit (trail.graph root) short).run.run trail.calls : Id _) =
        (result.map fun _ => later.graph root, later.calls) := by
  induction limit generalizing trail short long with
  | zero =>
    rcases skims.cases_next answers with ⟨all, visits⟩ | ⟨next, _, _, _, fresh, _, members, _⟩
    · exact ⟨.ok (), trail, visits, tidy.once, run_walk_nil all 0 root trail.calls⟩
    · have known := closed next.1 (reached next (members next List.mem_cons_self))
      have member : next.1 ∈ unvisited ids trail := Finset.mem_filter.mpr ⟨known, fresh⟩
      have some_left := Finset.card_pos.mpr ⟨next.1, member⟩
      omega
  | succ limit tail =>
    rcases skims.cases_next answers with
      ⟨all, visits⟩ | ⟨next, rest, others, first, fresh, skims, members, visits⟩
    · exact ⟨.ok (), trail, visits, tidy.once, run_walk_nil all (limit + 1) root trail.calls⟩
    · have first : short.dropWhile (fun next => (trail.graph root).contains next.1) =
          next :: rest := first
      have here := reached next (members next List.mem_cons_self)
      obtain ⟨loads, once⟩ := tidy.read fresh answers next.2
      rw [run_walk_cons first]
      cases read : answers.read next.1 next.2 with
      | mk result made =>
        rw [read] at loads
        cases result with
        | error failure =>
          refine ⟨.error failure, trail.called made, visits _ _ (.unread fresh read), ?_, rfl⟩
          rw [loads]
          exact once
        | ok node =>
          have same : node.id = next.1 := id_of_read (by rw [read])
          let targets := answers.targets node
          let step := (trail.called made).record node targets
          have pending : Skims step ((step.graph root).pendingOf targets ++ rest)
              (answers.wanted node ++ others) := by
            refine Skims.pending targets (skims.mono ?_)
            intro id visited
            rw [contains_record, visited, Bool.true_or]
          have reached : ∀ other ∈ answers.wanted node ++ others,
              answers.Reachable root other.1 := by
            intro other member
            rcases List.mem_append.mp member with wanted | left
            · exact .next here (by rw [read]) wanted
            · exact reached other (members other (List.mem_cons_of_mem next left))
          have loaded : step.loads = trail.loads ++ [next.1] := loads
          have tidy : Tidy step := by
            refine ⟨?_, ?_⟩
            · change step.loads = (trail.modules ++ [node]).map GraphModule.id
              rw [loaded, tidy.loads, ← same, List.map_append]
              rfl
            · rw [loaded]
              exact once
          have fewer : (unvisited ids step).card < (unvisited ids trail).card :=
            unvisited_record (same ▸ closed next.1 here) (same ▸ fresh) made targets
          obtain ⟨result, later, behind, nodup, runs⟩ :=
            tail pending reached tidy (Nat.le_of_lt_succ (fewer.trans_le enough))
          exact ⟨result, later, visits _ _ (.of_read fresh read behind), nodup, runs⟩

/-- **The walk over a graph.** When finitely many modules can be reached from an entry, visiting
the entry comes to one end, and loads no module twice. Collecting the graph makes the same calls in
the same order and comes to the same modules and resolutions in the same order, or to the same
failure, as soon as it may come to as many modules. -/
theorem collect_eq_visit (answers : Answers) (entry : Text)
    (finite : {id | answers.Reachable (answers.resolve entry none).moduleId id}.Finite) :
    ∃ result trail,
      answers.Visits [((answers.resolve entry none).moduleId, none)] {} result trail ∧
      (∀ other later,
        answers.Visits [((answers.resolve entry none).moduleId, none)] {} other later →
          result = other ∧ trail = later) ∧
      trail.loads.Nodup ∧
      ∀ limit, finite.toFinset.card ≤ limit →
        ((Graph.collect limit answers.hooks entry).run.run [] : Id _) =
          (result.map fun _ => trail.graph (answers.resolve entry none).moduleId,
            trail.calls) := by
  let root := (answers.resolve entry none).moduleId
  have closed (id : Text) (reached : answers.Reachable root id) : id ∈ finite.toFinset :=
    finite.mem_toFinset.mpr reached
  have start : ∀ next ∈ [(root, (none : Option Text))], answers.Reachable root next.1 := by
    intro next member
    cases List.mem_singleton.mp member
    exact .root
  have fresh : Tidy {} := ⟨rfl, List.nodup_nil⟩
  have skims : Skims {} [(root, (none : Option Text))] [(root, none)] := .keep (root, none) .nil
  have every (limit : Nat) (enough : finite.toFinset.card ≤ limit) :=
    run_walk_of_visits closed limit skims start fresh
      ((Finset.card_filter_le _ _).trans enough)
  obtain ⟨result, trail, visits, once, _⟩ := every _ (Nat.le_refl _)
  refine ⟨result, trail, visits, fun _ _ => visits.unique, once, ?_⟩
  intro limit enough
  obtain ⟨others, later, again, _, runs⟩ := every limit enough
  obtain ⟨rfl, rfl⟩ := visits.unique again
  rw [Graph.collect, run_bind]
  exact runs

/-- Two modules that import each other, the first of them also one that has no text. -/
def ring : Answers where
  resolve requested _ := .file (if requested = "b" ∨ requested = "c" then requested else "a")
  load id :=
    .ok (if id = "a" then some (.text "import 'b'; import 'c';")
      else if id = "b" then some (.text "import 'a';")
      else none)
  transform _ _ := .ok none

/-- The first module of the ring. -/
def ringFirst : GraphModule where
  id := "a"
  code := "import 'b'; import 'c';"
  imports := ["b", "c"]

/-- The second module of the ring. -/
def ringSecond : GraphModule where
  id := "b"
  code := "import 'a';"
  imports := ["a"]

/-- The calls for the ring: the third module is loaded last, in vain. -/
def ringCalls : List Call :=
  [.load "a", .transform (.text "import 'b'; import 'c';") "a",
    .load "b", .transform (.text "import 'a';") "b", .load "c"]

/-- In the ring nothing but its three modules can be reached. -/
theorem reachable_ring {id : Text}
    (reached : ring.Reachable (ring.resolve "a" none).moduleId id) :
    id ∈ ({("a" : Text), ("b" : Text), ("c" : Text)} : Finset Text) := by
  cases reached with
  | root => decide
  | next known read member =>
    obtain ⟨resolution, target, wanted⟩ := List.mem_filterMap.mp member
    obtain ⟨specifier, _, rfl⟩ := List.mem_map.mp target
    cases Option.some.inj wanted
    change (if specifier = "b" ∨ specifier = "c" then specifier else "a") ∈ _
    split
    · rename_i named
      rcases named with rfl | rfl <;> decide
    · decide

/-- Finitely many modules of the ring can be reached. -/
theorem finite_ring : {id | ring.Reachable (ring.resolve "a" none).moduleId id}.Finite :=
  Set.Finite.subset (Finset.finite_toSet _) fun _ reached => reachable_ring reached

/-- The visit of the ring fails at the module that has no text. -/
theorem visits_ring : ∃ modules resolutions,
    ring.Visits [("a", none)] {} (.error (missing "c" (some "a")))
      ⟨ringCalls, modules, resolutions⟩ := by
  have first : ring.read "a" none =
      (.ok ringFirst, [.load "a", .transform (.text ringFirst.code) "a"]) :=
    read_of_imports rfl rfl (by decide +kernel) none
  have second : ring.read "b" (some "a") =
      (.ok ringSecond, [.load "b", .transform (.text ringSecond.code) "b"]) :=
    read_of_imports rfl rfl (by decide +kernel) (some "a")
  have third : ring.read "c" (some "a") = (.error (missing "c" (some "a")), [.load "c"]) := rfl
  exact ⟨_, _, .failed rfl first (.read rfl second (.skipped rfl .nil) (.unread rfl third))⟩

/-- The walk over the ring makes the calls of the visit, and fails as it does. -/
theorem collect_eq_visit_ring :
    ∃ trail, ring.Visits [("a", none)] {} (.error (missing "c" (some "a"))) trail ∧
      (∀ other later, ring.Visits [("a", none)] {} other later →
        .error (missing "c" (some "a")) = other ∧ trail = later) ∧
      trail.calls = ringCalls ∧ trail.loads.Nodup ∧
      ∀ limit, 3 ≤ limit →
        ((Graph.collect limit ring.hooks "a").run.run [] : Id _) =
          (.error (missing "c" (some "a")), ringCalls) := by
  obtain ⟨modules, resolutions, visited⟩ := visits_ring
  obtain ⟨result, trail, visits, unique, once, walks⟩ := collect_eq_visit ring "a" finite_ring
  obtain ⟨rfl, rfl⟩ := unique _ _ visited
  have few : finite_ring.toFinset.card ≤ 3 :=
    (Finset.card_le_card fun id reached =>
      reachable_ring (finite_ring.mem_toFinset.mp reached)).trans Finset.card_le_three
  exact ⟨_, visits, unique, rfl, once, fun limit enough => walks limit (few.trans enough)⟩

end Answers
end SiteBuild.Module
