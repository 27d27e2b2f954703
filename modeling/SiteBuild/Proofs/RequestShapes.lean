import SiteBuild.Build.Request
import SiteBuild.Proofs.Steps

/-!
# Shapes of requests

Every field of a request may hold a value of every type. Where it is read, a value of a wrong type
is refused, except where it is asked for a member without a look at its type: the head, the
bindings and their collections. Main statements: a request that fails otherwise than by a refusal
has a head, bindings or collections that are neither empty nor an object
(`Request.failsOnly_ofJson`), and no such request is ever built (`Request.shaped_of_ofJson`).
-/
namespace SiteBuild

/-- Whether a misuse is one that requests are refused for: not that a member is missing. -/
def Misuse.IsRefused : Misuse → Prop
  | .noMember _ _ => False
  | _ => True

/-- Whether a failure is one that requests are refused for. -/
def Failure.IsRefused : Failure → Prop
  | .misuse cause => cause.IsRefused
  | .badOption _ => True
  | _ => False

/-! ## Values as fields and items -/

namespace Json

/-- Whether a value can be asked for a member: it is an object, or it is empty. -/
def HasMembers (value : Json) : Prop := value.isEmpty = true ∨ ∃ fields, value = .obj fields

/-- A value is taken as an object exactly if it has members. -/
theorem exists_asObject_iff {member : String} {value : Json} :
    (∃ fields, value.asObject member = .ok fields) ↔ value.HasMembers := by
  unfold asObject HasMembers
  cases empty : value.isEmpty with
  | true => simp
  | false => cases value <;> simp

/-- An object is taken as it is. -/
theorem asObject_obj (member : String) (fields : Record) :
    (Json.obj fields).asObject member = .ok fields := by
  cases fields <;> rfl

/-- The fields of a value that is asked for a member are its own, or there are none. -/
theorem asObject_eq_ok {member : String} {value : Json} {fields : Record}
    (taken : value.asObject member = .ok fields) : fields = [] ∨ value = .obj fields := by
  unfold asObject at taken
  split at taken
  · cases taken
    exact .inl rfl
  · cases value <;> cases taken
    exact .inr rfl

/-- A value with members is taken as an object without failing. -/
theorem HasMembers.failsOnly_asObject {value : Json} (members : value.HasMembers)
    (member : String) (sort : Misuse → Prop) : FailsOnly sort (value.asObject member) := by
  obtain ⟨fields, taken⟩ := exists_asObject_iff.mpr members
  exact taken ▸ .ok fields

theorem failsOnly_asKey (value : Json) : FailsOnly Misuse.IsRefused value.asKey := by
  cases value <;> first | exact .ok _ | exact .error trivial

theorem failsOnly_asPair (index : Nat) (item : Json) :
    FailsOnly Misuse.IsRefused (item.asPair index) := by
  unfold asPair
  split
  · exact (failsOnly_asKey _).map
  all_goals first | exact .ok _ | exact .error trivial

theorem failsOnly_fieldsFrom (fields : Fields) (index : Nat) (items : List Json) :
    FailsOnly Misuse.IsRefused (fieldsFrom fields index items) := by
  induction items generalizing fields index with
  | nil => exact .ok _
  | cons item rest tail => exact .bind (failsOnly_asPair index item) fun pair _ => tail _ _

theorem failsOnly_asFields (value : Json) : FailsOnly Misuse.IsRefused value.asFields := by
  unfold asFields
  split
  · exact .ok _
  · split
    · exact .ok _
    · exact failsOnly_fieldsFrom _ _ _
    · exact failsOnly_fieldsFrom _ _ _
    · exact .error trivial

theorem failsOnly_asItems (value : Json) : FailsOnly Misuse.IsRefused value.asItems := by
  unfold asItems members
  split
  · exact .ok _
  · split <;> first | exact .ok _ | exact .error trivial

end Json

/-! ## Components and heads -/

namespace Page

theorem failsOnly_source (value : Json) : FailsOnly Misuse.IsRefused (Source.ofJson value) := by
  unfold Source.ofJson
  split
  · exact .ok _
  · exact (FailsOnly.bind (Json.failsOnly_asFields _) fun _ _ => .ok _).map
  · exact .error trivial

theorem failsOnly_sources (value : Json) : FailsOnly Misuse.IsRefused (Sources.ofJson value) := by
  unfold Sources.ofJson
  split
  · exact (FailsOnly.mapM fun item _ => failsOnly_source item).map
  · exact (failsOnly_source _).map

theorem failsOnly_head {value : Json} (members : value.HasMembers) :
    FailsOnly Misuse.IsRefused (Head.ofJson value) :=
  .bind (members.failsOnly_asObject _ _) fun _ _ =>
    .bind (Json.failsOnly_asFields _) fun _ _ => .ok _

/-- A head that is read has members. -/
theorem hasMembers_of_head {value : Json} {head : Head}
    (understood : Head.ofJson value = .ok head) : value.HasMembers := by
  obtain ⟨fields, taken, -⟩ := bind_eq_ok_iff.mp understood
  exact Json.exists_asObject_iff.mp ⟨fields, taken⟩

end Page

/-! ## Bindings -/

namespace Bindings

/-- Whether bindings and their collections can be asked for members. -/
structure Shaped (value : Json) : Prop where
  members : value.HasMembers
  data : ∀ fields, value = .obj fields → (Record.get fields "data").HasMembers

theorem failsOnly_collectionsOf (fields : Fields) :
    FailsOnly Misuse.IsRefused (collectionsOf fields) := by
  refine .mapM fun field _ => ?_
  unfold Collection.ofJson
  split
  · exact .ok _
  · exact (Json.failsOnly_asItems _).map.map
  · exact .error trivial

theorem failsOnly_ofJson {value : Json} (shaped : Shaped value) :
    FailsOnly Misuse.IsRefused (ofJson value) := by
  refine .bind (shaped.members.failsOnly_asObject _ _) fun fields taken => ?_
  have data : (Record.get fields "data").HasMembers := by
    rcases Json.asObject_eq_ok taken with rfl | rfl
    · exact .inl rfl
    · exact shaped.data fields rfl
  exact .bind (data.failsOnly_asObject _ _) fun _ _ =>
    .bind (failsOnly_collectionsOf _) fun _ _ =>
      .bind (Json.failsOnly_asFields _) fun _ _ =>
        .bind (Json.failsOnly_asFields _) fun _ _ => .ok _

/-- Bindings that are read can be asked for members, and so can their collections. -/
theorem shaped_of_ofJson {value : Json} {bindings : Bindings}
    (understood : ofJson value = .ok bindings) : Shaped value := by
  obtain ⟨raw, taken, rest⟩ := bind_eq_ok_iff.mp understood
  obtain ⟨collections, data, -⟩ := bind_eq_ok_iff.mp rest
  refine ⟨Json.exists_asObject_iff.mp ⟨raw, taken⟩, ?_⟩
  rintro fields rfl
  cases (Json.asObject_obj "get" fields).symm.trans taken
  exact Json.exists_asObject_iff.mp ⟨collections, data⟩

end Bindings

/-! ## Options -/

namespace Build

namespace Options

theorem failsOnly_valueOf? (raw : Json) (key : Text) :
    FailsOnly Misuse.IsRefused (valueOf? raw key) := by
  unfold valueOf?
  split
  · exact .ok _
  · split
    · exact .error trivial
    · exact .ok _
  · split
    · exact .error trivial
    · exact .ok _
  · exact .error trivial

theorem failsOnly_pick (raw : Json) (keys : List Text) :
    FailsOnly Misuse.IsRefused (pick raw keys) := by
  induction keys with
  | nil => exact .ok _
  | cons key rest tail =>
    refine .bind (failsOnly_valueOf? raw key) fun value _ => ?_
    cases value with
    | none => exact tail
    | some value => exact .ok _

theorem failsOnly_orMisuse {α : Type} {result : Except Misuse α}
    (known : FailsOnly Misuse.IsRefused result) : FailsOnly Failure.IsRefused (orMisuse result) :=
  known.mapError fun _ told => told

theorem failsOnly_exportNames (value : Json) :
    FailsOnly Failure.IsRefused (exportNames value) := by
  unfold exportNames
  split
  · exact .ok _
  · split
    · exact .ok _
    · exact .error trivial
  · exact .error trivial

theorem failsOnly_cssMode (value : Json) :
    FailsOnly Failure.IsRefused (Component.CssMode.ofJson value) := by
  unfold Component.CssMode.ofJson
  split
  · exact .error trivial
  · exact .error trivial
  · split
    · exact .ok _
    · split
      · exact .ok _
      · exact .error trivial

theorem failsOnly_checkFormat (value : Json) :
    FailsOnly Failure.IsRefused (checkFormat value) := by
  unfold checkFormat
  split
  · exact .error trivial
  · exact .error trivial
  · split
    · exact .ok _
    · exact .error trivial

/-- Options of every type are read or refused. -/
theorem failsOnly_ofJson (value : Json) : FailsOnly Failure.IsRefused (ofJson value) := by
  have flag (raw : Json) (keys : List Text) (default : Bool) :
      FailsOnly Failure.IsRefused (orMisuse (Options.flag raw keys default)) :=
    failsOnly_orMisuse (failsOnly_pick raw keys).map
  have value (raw : Json) (keys : List Text) := failsOnly_orMisuse (failsOnly_pick raw keys)
  exact .bind (flag _ _ _) fun _ _ => .bind (flag _ _ _) fun _ _ => .bind (value _ _) fun _ _ =>
    .bind (value _ _) fun _ _ => .bind (flag _ _ _) fun _ _ => .bind (flag _ _ _) fun _ _ =>
    .bind (value _ _) fun _ _ => .bind (failsOnly_exportNames _) fun _ _ =>
    .bind (failsOnly_cssMode _) fun _ _ => .bind (failsOnly_checkFormat _) fun _ _ => .ok _

/-- The names that options list are strings. -/
theorem strings_of_exportNames {value : Json} {names : List Json}
    (read : exportNames value = .ok names) : ∀ name ∈ names, ∃ text, name = .str text := by
  unfold exportNames at read
  split at read
  · rename_i name
    cases read
    simp
  · rename_i items
    split at read
    · rename_i strings
      cases read
      intro item member
      have string := List.all_eq_true.mp strings item member
      cases item <;> first | exact ⟨_, rfl⟩ | cases string
    · cases read
  · cases read

/-- The names that the options of a request list are strings. -/
theorem strings_of_ofJson {value : Json} {options : Options} (read : ofJson value = .ok options) :
    ∀ name ∈ options.runtimeExports, ∃ text, name = .str text := by
  -- The names are the eighth of ten parts.
  iterate 7 obtain ⟨_, -, read⟩ := bind_eq_ok_iff.mp read
  obtain ⟨names, exports, read⟩ := bind_eq_ok_iff.mp read
  iterate 2 obtain ⟨_, -, read⟩ := bind_eq_ok_iff.mp read
  cases read
  exact strings_of_exportNames exports

end Options

/-! ## Requests for a build -/

namespace Request

/-- Whether the parts of a request that are asked for members have some. -/
structure Shaped (payload : Record) : Prop where
  head : (Record.get payload "head").HasMembers
  bindings : Bindings.Shaped (Record.get payload "bindings")

/-- An object is read or refused, if the parts of it that are asked for members have some. -/
theorem failsOnly_ofJson {payload : Record} (shaped : Shaped payload) :
    FailsOnly Failure.IsRefused (ofJson (.obj payload)) :=
  .bind (Options.failsOnly_orMisuse (Options.failsOnly_pick _ _)) fun _ _ =>
    .bind (Options.failsOnly_orMisuse (Page.failsOnly_sources _)) fun _ _ =>
    .bind (Options.failsOnly_orMisuse (Page.failsOnly_head shaped.head)) fun _ _ =>
    .bind (Options.failsOnly_ofJson _) fun _ _ =>
    .bind (Options.failsOnly_orMisuse (Bindings.failsOnly_ofJson shaped.bindings)) fun _ _ => .ok _

/-- The parts of a request that is read. -/
theorem parts_of_ofJson {payload : Record} {request : Request}
    (read : ofJson (.obj payload) = .ok request) :
    Page.Head.ofJson (Record.get payload "head") = .ok request.head ∧
      Options.ofJson (Record.get payload "options") = .ok request.options ∧
      Bindings.ofJson (Record.get payload "bindings") = .ok request.bindings := by
  have unlifted {α : Type} {result : Except Misuse α} {value : α}
      (lifted : Options.orMisuse result = .ok value) : result = .ok value := by
    cases result <;> cases lifted
    rfl
  obtain ⟨_, -, read⟩ := bind_eq_ok_iff.mp read
  obtain ⟨_, -, read⟩ := bind_eq_ok_iff.mp read
  obtain ⟨head, first, read⟩ := bind_eq_ok_iff.mp read
  obtain ⟨options, second, read⟩ := bind_eq_ok_iff.mp read
  obtain ⟨bindings, third, read⟩ := bind_eq_ok_iff.mp read
  cases read
  exact ⟨unlifted first, second, unlifted third⟩

/-- The parts of a request that are asked for members have some, if it is read. -/
theorem shaped_of_ofJson {payload : Record} {request : Request}
    (read : ofJson (.obj payload) = .ok request) : Shaped payload := by
  obtain ⟨head, -, bindings⟩ := parts_of_ofJson read
  exact ⟨Page.hasMembers_of_head head, Bindings.shaped_of_ofJson bindings⟩

/-- The names that the options of a request list are strings. -/
theorem strings_of_ofJson {payload : Record} {request : Request}
    (read : ofJson (.obj payload) = .ok request) :
    ∀ name ∈ request.options.runtimeExports, ∃ text, name = .str text :=
  Options.strings_of_ofJson (parts_of_ofJson read).2.1

end Request
end Build
end SiteBuild
