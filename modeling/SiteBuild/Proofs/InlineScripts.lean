import SiteBuild.Proofs.ElementTexts
import SiteBuild.Proofs.WrittenData
import SiteBuild.Site.Document

/-!
# Inline scripts

The script that starts a page holds its code as a string literal. Of what a tokenizer looks for in
the text of a script, the literal hides end tags and line ends, so that only comments, and start
tags of scripts within them, are left (`ScriptData.afterPoint`). Main statements: at the end of the
literal a script within a comment goes on exactly if the code opens it and does not close the
comment (`ScriptData.settled_eq_doubleEscaped_iff`), and only then the script is not left at its own
end tag (`leave?_hydrationScript`).
-/
namespace SiteBuild.Html

open ScriptData

namespace ScriptData

/-- The state between tags and dashes: in the text, in a comment, or in a script within one. -/
def settled : ScriptData → ScriptData
  | .data | .lessThan | .endTagOpen | .endTagName _ | .escapeStart | .escapeStartDash => .data
  | .escaped | .escapedDash | .escapedDashDash | .escapedLessThan | .escapedEndTagOpen
  | .escapedEndTagName _ | .doubleEscapeStart _ => .escaped
  | .doubleEscaped | .doubleEscapedDash | .doubleEscapedDashDash | .doubleEscapedLessThan
  | .doubleEscapeEnd _ => .doubleEscaped

/-- Whether a less-than sign was read last. -/
def isOpened : ScriptData → Bool
  | .lessThan | .escapedLessThan | .doubleEscapedLessThan => true
  | _ => false

/-- Whether no end tag is being read. -/
def IsOutside : ScriptData → Prop
  | .endTagOpen | .endTagName _ | .escapedEndTagOpen | .escapedEndTagName _
  | .doubleEscapeEnd _ => False
  | _ => True

/-- The number of dashes that a comment needs no more to end. -/
def dashes : ScriptData → Nat
  | .escapedDash | .doubleEscapedDash => 1
  | .escapedDashDash | .doubleEscapedDashDash => 2
  | _ => 0

/-- Whether a point opens no tag and ends no comment. -/
def isSettling (point : CodePoint) : Bool := !(point == '<' || point == '-')

theorem isOutside_settled (state : ScriptData) : state.settled.IsOutside := by
  cases state <;> trivial

theorem settled_settled (state : ScriptData) : state.settled.settled = state.settled := by
  cases state <;> rfl

theorem isOpened_settled (state : ScriptData) : state.settled.isOpened = false := by
  cases state <;> rfl

/-- No end tag is opened unless a slash is read behind a less-than sign. -/
theorem exists_step {state : ScriptData} (outside : state.IsOutside) {point : CodePoint}
    (bare : ¬(state.isOpened ∧ point = .scalar '/')) :
    ∃ next, step state point = some next ∧ next.IsOutside ∧
      next.isOpened = (point == .scalar '<') := by
  by_cases less : point = .scalar '<'
  · subst less
    cases state <;> exact ⟨_, rfl, trivial, rfl⟩
  · have other : (point == .scalar '<') = false := by simpa using less
    cases state
    case endTagOpen | endTagName | escapedEndTagOpen | escapedEndTagName | doubleEscapeEnd =>
      cases outside
    all_goals
      refine ⟨_, rfl, ?_⟩
      simp only [readData, readEscaped, readDoubleEscaped, other]
      repeat' split
      all_goals simp_all [IsOutside, isOpened]

/-- A point that settles leaves a state between tags and dashes as it is. -/
theorem step_settled {point : CodePoint} (settles : isSettling point) (state : ScriptData) :
    step state.settled point = some state.settled := by
  obtain ⟨noLess, noDash⟩ : (point == .scalar '<') = false ∧ (point == .scalar '-') = false := by
    simpa [isSettling] using settles
  cases state <;> simp [settled, step, readData, readEscaped, readDoubleEscaped, noLess, noDash]

/-- A backslash or a quote leads back to the state between tags and dashes. -/
theorem step_of_mark (state : ScriptData) {point : CodePoint}
    (mark : point = .scalar '\\' ∨ point = .scalar '\x22') :
    step state point = some state.settled := by
  rcases mark with rfl | rfl <;> cases state <;> rfl

/-- Points that settle leave a state between tags and dashes as it is. -/
theorem foldlM_settled {points : Text} (settle : ∀ point ∈ points, isSettling point)
    (state : ScriptData) : points.foldlM step state.settled = some state.settled := by
  induction points with
  | nil => rfl
  | cons point points tail =>
    obtain ⟨here, others⟩ := List.forall_mem_cons.mp settle
    rw [List.foldlM_cons, step_settled here]
    exact tail others

/-! ## Strings in literals -/

open Json (writePoint)
open Script (shielded literal escapeEndTags_eq shielded_start)

/-- A point of a string is written as it is, or as a backslash and points that settle. -/
theorem writePoint_eq (point : CodePoint) :
    writePoint false point = [point] ∨
      ∃ more, writePoint false point = .scalar '\\' :: more ∧ ∀ other ∈ more, isSettling other := by
  cases point with
  | surrogate index => exact .inl rfl
  | scalar char =>
    cases short : Json.shortEscape? char with
    | some letter =>
      refine .inr ⟨[.scalar letter], by simp only [writePoint, short]; rfl, ?_⟩
      rw [List.forall_mem_singleton]
      unfold Json.shortEscape? at short
      split at short <;> cases short <;> rfl
    | none =>
      by_cases control : (CodePoint.scalar char).value < 0x20
      · have digits : ∀ digit < 16, isSettling (.scalar (Json.lowerHexDigit digit)) := by decide
        have digit (number : Nat) := digits (number % 16) (Nat.mod_lt _ (by decide))
        have written : writePoint false (.scalar char) =
            Text.ofChars (Json.unitEscape (CodePoint.scalar char).value) := by
          simp only [writePoint, short, control, true_or, if_true, Json.pointEscape,
            if_pos (Nat.lt_trans control (by decide : 0x20 < 0x10000))]
        rw [written]
        refine .inr ⟨_, rfl, ?_⟩
        simp only [List.forall_mem_cons, List.map]
        exact ⟨rfl, digit _, digit _, digit _, digit _, by simp⟩
      · left
        simp [writePoint, short, control]

/-- What reading a point of a string in a literal does. -/
def afterPoint (state : ScriptData) (point : CodePoint) : ScriptData :=
  if writePoint false point = [point] ∧ ¬(state.isOpened ∧ point = .scalar '/') then
    (step state point).getD state.settled
  else state.settled

/-- Points that settle hold no end tag. -/
theorem shielded_append_of_settling {points : Text} (settle : ∀ point ∈ points, isSettling point)
    (rest : Text) : shielded false (points ++ rest) = points ++ shielded false rest := by
  induction points with
  | nil => rfl
  | cons point points tail =>
    obtain ⟨here, others⟩ := List.forall_mem_cons.mp settle
    have noLess : (point == .scalar '<') = false := by
      rw [beq_eq_false_iff_ne]
      rintro rfl
      cases here
    rw [List.cons_append, shielded_start, noLess, tail others]
    rfl

theorem isOutside_afterPoint {state : ScriptData} (outside : state.IsOutside)
    (point : CodePoint) : (afterPoint state point).IsOutside := by
  unfold afterPoint
  split
  · rename_i plain
    obtain ⟨next, made, next_outside, _⟩ := exists_step outside plain.2
    rwa [made]
  · exact isOutside_settled state

theorem isOutside_foldl {state : ScriptData} (outside : state.IsOutside) (text : Text) :
    (text.foldl afterPoint state).IsOutside := by
  induction text generalizing state with
  | nil => exact outside
  | cons point text tail => exact tail (isOutside_afterPoint outside point)

/-- A point of a string is read as it is written. -/
theorem foldlM_writePoint {state : ScriptData} (outside : state.IsOutside) (point : CodePoint)
    (rest : Text) :
    (shielded state.isOpened (writePoint false point ++ rest)).foldlM step state =
      (shielded (afterPoint state point).isOpened rest).foldlM step (afterPoint state point) := by
  by_cases plain : writePoint false point = [point]
  · rw [plain, List.singleton_append]
    by_cases slash : state.isOpened ∧ point = .scalar '/'
    · obtain ⟨opened, rfl⟩ := slash
      have shield : shielded state.isOpened (.scalar '/' :: rest) =
          .scalar '\\' :: .scalar '/' :: shielded false rest := by
        rw [opened]
        rfl
      have settled : afterPoint state (.scalar '/') = state.settled := by
        simp [afterPoint, opened]
      rw [shield, List.foldlM_cons, step_of_mark state (.inl rfl), settled, isOpened_settled]
      change (_ :: _).foldlM step state.settled = _
      rw [List.foldlM_cons, step_settled rfl]
      rfl
    · obtain ⟨next, made, -, opened⟩ := exists_step outside slash
      have after : afterPoint state point = next := by
        rw [afterPoint, if_pos ⟨plain, slash⟩, made]
        rfl
      have bare : (state.isOpened && point == .scalar '/') = false := by simpa using slash
      rw [shielded, bare, if_neg Bool.false_ne_true, List.foldlM_cons, made, after, opened]
      rfl
  · obtain ⟨more, written, settle⟩ := (writePoint_eq point).resolve_left plain
    have settled : afterPoint state point = state.settled := if_neg fun known => plain known.1
    rw [written, List.cons_append, Script.shielded_of_head (by simp), shielded_start]
    change (_ :: shielded false (more ++ rest)).foldlM step state = _
    rw [shielded_append_of_settling settle, List.foldlM_cons, step_of_mark state (.inl rfl),
      settled, isOpened_settled]
    change (more ++ _).foldlM step state.settled = _
    rw [List.foldlM_append, foldlM_settled settle]
    rfl

/-- The points of a string are read as they are written. -/
theorem foldlM_writePoints {state : ScriptData} (outside : state.IsOutside) (text rest : Text) :
    (shielded state.isOpened (text.flatMap (writePoint false) ++ rest)).foldlM step state =
      (shielded (text.foldl afterPoint state).isOpened rest).foldlM step
        (text.foldl afterPoint state) := by
  induction text generalizing state with
  | nil => rfl
  | cons point text tail =>
    rw [List.flatMap_cons, List.append_assoc, foldlM_writePoint outside,
      tail (isOutside_afterPoint outside point)]
    rfl

/-- A string in a literal is read point by point. -/
theorem foldlM_literal (text : Text) :
    (literal (.str text)).foldlM step .data = some (text.foldl afterPoint .data).settled := by
  have written : (Json.str text).write .script =
      .scalar '\x22' :: (text.flatMap (writePoint false) ++ [.scalar '\x22']) := rfl
  rw [literal, written, escapeEndTags_eq, shielded_start, List.foldlM_cons]
  have start : IsOutside .data := trivial
  have ending (opened : Bool) : shielded opened [.scalar '\x22'] = [.scalar '\x22'] := by
    cases opened <;> rfl
  change (shielded (isOpened .data) _).foldlM step .data = _
  rw [foldlM_writePoints start, ending, List.foldlM_cons,
    step_of_mark _ (.inr rfl)]
  rfl

/-! ## Comments and scripts within them -/

/-- What was read of a tag or of the start of a comment, in small letters. -/
def pending : ScriptData → Text
  | .lessThan | .escapedLessThan => "<"
  | .escapeStart => "<!"
  | .escapeStartDash => "<!-"
  | .doubleEscapeStart name => "<" ++ name
  | _ => []

/-- The points at which the name of a tag ends and that are written in a string as they are. -/
def tagMarks : Text := " />"

theorem mem_tagMarks_iff {point : CodePoint} :
    point ∈ tagMarks ↔ isNameEnd point = true ∧ writePoint false point = [point] := by
  have marks : ∀ point ∈ tagMarks, isNameEnd point = true ∧ writePoint false point = [point] := by
    decide
  refine ⟨marks point, fun ⟨ends, plain⟩ => ?_⟩
  have others : ∀ point ∈ ([.scalar '\t', .scalar '\n', .scalar '\x0c', .scalar ' ', .scalar '/',
      .scalar '>'] : Text), writePoint false point = [point] → point ∈ tagMarks := by
    decide
  exact others point (by simpa [isNameEnd] using ends) plain

/-- Outside of comments nothing but a less-than sign starts a tag. -/
theorem continues_readData (state : ScriptData) (point : CodePoint) :
    (readData point).settled = .data ∧ Continues state.pending point (readData point).pending := by
  unfold readData
  split
  · rename_i less
    cases (beq_iff_eq.mp less)
    exact ⟨rfl, .inr (.inl rfl)⟩
  · exact ⟨rfl, .inl rfl⟩

/-- Outside of comments a point opens one only as its second dash. -/
theorem afterPoint_of_data {state : ScriptData} (outside : state.IsOutside)
    (data : state.settled = .data) (point : CodePoint) :
    ((afterPoint state point).settled = .data ∧ 
        Continues state.pending point (afterPoint state point).pending) ∨
      (state = .escapeStartDash ∧ point = .scalar '-' ∧
        afterPoint state point = .escapedDashDash) := by
  unfold afterPoint
  split
  · rename_i plain
    cases state with
    | data => exact .inl (continues_readData _ point)
    | lessThan =>
      have noSlash : (point == .scalar '/') = false := by simpa [isOpened] using plain.2
      simp only [step, noSlash, Bool.false_eq_true, if_false, Option.getD_some]
      split
      · rename_i mark
        cases (beq_iff_eq.mp mark)
        exact .inl ⟨rfl, .inr (.inr rfl)⟩
      · exact .inl (continues_readData _ point)
    | escapeStart =>
      simp only [step, Option.getD_some]
      split
      · rename_i mark
        cases (beq_iff_eq.mp mark)
        exact .inl ⟨rfl, .inr (.inr rfl)⟩
      · exact .inl (continues_readData _ point)
    | escapeStartDash =>
      simp only [step, Option.getD_some]
      split
      · rename_i mark
        exact .inr ⟨trivial, beq_iff_eq.mp mark, rfl⟩
      · exact .inl (continues_readData _ point)
    | endTagOpen | endTagName => exact outside.elim
    | _ => cases data
  · exact .inl ⟨(settled_settled state).trans data, .inl (by rw [data]; rfl)⟩

/-- Whether a state in a comment is behind a point what it should be: the dashes are counted, and a
script starts behind its name. -/
structure StaysIn (state : ScriptData) (point : CodePoint) (next : ScriptData) : Prop where
  comment : next.settled ≠ .data
  dashes : next.dashes = if point = .scalar '-' then min 2 (state.dashes + 1) else 0
  continues : Continues state.pending point next.pending
  script : next.settled = .doubleEscaped ↔
    state.settled = .doubleEscaped ∨ state.pending = "<" ++ scriptName ∧ point ∈ tagMarks

section Levels

variable {state next : ScriptData} {point : CodePoint}

/-- A comment goes on behind a point that starts no script. -/
theorem staysIn_comment (here : state.settled = .escaped) (level : next.settled = .escaped)
    (dashes : next.dashes = if point = .scalar '-' then min 2 (state.dashes + 1) else 0)
    (continues : Continues state.pending point next.pending)
    (other : ¬(state.pending = "<" ++ scriptName ∧ point ∈ tagMarks)) :
    StaysIn state point next where
  comment := by rw [level]; decide
  dashes := dashes
  continues := continues
  script := by simp [here, level, other]

/-- A script within a comment goes on, or starts behind its name. -/
theorem staysIn_script
    (inside : state.settled = .doubleEscaped ∨
      state.pending = "<" ++ scriptName ∧ point ∈ tagMarks)
    (level : next.settled = .doubleEscaped)
    (dashes : next.dashes = if point = .scalar '-' then min 2 (state.dashes + 1) else 0)
    (continues : Continues state.pending point next.pending) : StaysIn state point next where
  comment := by rw [level]; decide
  dashes := dashes
  continues := continues
  script := ⟨fun _ => inside, fun _ => level⟩

end Levels

/-- A comment goes on at a point by itself. -/
theorem staysIn_readEscaped {state : ScriptData} (level : state.settled = .escaped)
    {point : CodePoint} (counted : state.dashes = 0 ∨ point ≠ .scalar '-')
    (other : ¬(state.pending = "<" ++ scriptName ∧ point ∈ tagMarks)) :
    StaysIn state point (readEscaped point) := by
  unfold readEscaped
  split
  · rename_i dash
    have same := beq_iff_eq.mp dash
    have none := counted.resolve_right (by simp [same])
    exact staysIn_comment level rfl (by rw [if_pos same, none]; rfl) (.inl rfl) other
  · rename_i noDash
    have apart : point ≠ .scalar '-' := by simpa using noDash
    split
    · rename_i less
      cases (beq_iff_eq.mp less)
      exact staysIn_comment level rfl rfl (.inr (.inl rfl)) other
    · exact staysIn_comment level rfl (if_neg apart).symm (.inl rfl) other

/-- A script within a comment goes on at a point by itself. -/
theorem staysIn_readDoubleEscaped {state : ScriptData} (level : state.settled = .doubleEscaped)
    {point : CodePoint} (counted : state.dashes = 0 ∨ point ≠ .scalar '-') :
    StaysIn state point (readDoubleEscaped point) := by
  unfold readDoubleEscaped
  split
  · rename_i dash
    have same := beq_iff_eq.mp dash
    have none := counted.resolve_right (by simp [same])
    exact staysIn_script (.inl level) rfl (by rw [if_pos same, none]; rfl) (.inl rfl)
  · rename_i noDash
    have apart : point ≠ .scalar '-' := by simpa using noDash
    split
    · rename_i less
      cases (beq_iff_eq.mp less)
      exact staysIn_script (.inl level) rfl rfl (.inl rfl)
    · exact staysIn_script (.inl level) rfl (if_neg apart).symm (.inl rfl)

section Steps

variable {state : ScriptData} {point : CodePoint} (plain : writePoint false point = [point])
  (bare : ¬(state.isOpened ∧ point = .scalar '/'))
  (goes : ¬(point = .scalar '>' ∧ state.dashes = 2))

include plain

/-- The name of a tag in a comment goes on, or a script starts behind it if it is that of one. -/
theorem staysIn_step_name (name : Text) :
    StaysIn (doubleEscapeStart name) point
      ((step (doubleEscapeStart name) point).getD .escaped) := by
  simp only [step, Option.getD_some]
  split
  case isTrue ends =>
    have mark := mem_tagMarks_iff.mpr ⟨ends, plain⟩
    have noDash : point ≠ .scalar '-' := by
      rintro rfl
      cases ends
    by_cases named : name = scriptName
    · rw [named, beq_self_eq_true, if_pos rfl]
      exact staysIn_script (.inr ⟨rfl, mark⟩) rfl (if_neg noDash).symm (.inl rfl)
    · rw [beq_eq_false_iff_ne.mpr named, if_neg Bool.false_ne_true]
      exact staysIn_comment rfl rfl (if_neg noDash).symm (.inl rfl)
        (by simpa [pending, mark] using named)
  case isFalse noEnd =>
    have noMark : point ∉ tagMarks := fun mark => noEnd (mem_tagMarks_iff.mp mark).1
    split
    case isTrue letter =>
      have noDash : point ≠ .scalar '-' := by
        rintro rfl
        cases letter
      exact staysIn_comment rfl rfl (if_neg noDash).symm (.inr (.inr (by simp [pending])))
        (mt And.right noMark)
    case isFalse => exact staysIn_readEscaped rfl (.inl rfl) (mt And.right noMark)

include bare goes

/-- A comment goes on behind a point that is written as it is and does not end it. -/
theorem staysIn_step_comment (outside : state.IsOutside) (level : state.settled = .escaped) :
    StaysIn state point ((step state point).getD state.settled) := by
  have unnamed (short : state.pending ≠ "<" ++ scriptName) :
      ¬(state.pending = "<" ++ scriptName ∧ point ∈ tagMarks) := mt And.left short
  cases state with
  | escaped => exact staysIn_readEscaped rfl (.inl rfl) (unnamed (by decide))
  | escapedDash =>
    simp only [step, Option.getD_some]
    split
    case isTrue dash =>
      cases (beq_iff_eq.mp dash)
      exact staysIn_comment rfl rfl rfl (.inl rfl) (unnamed (by decide))
    case isFalse noDash =>
      exact staysIn_readEscaped rfl (.inr (by simpa using noDash)) (unnamed (by decide))
  | escapedDashDash =>
    simp only [step, Option.getD_some]
    split
    case isTrue dash =>
      cases (beq_iff_eq.mp dash)
      exact staysIn_comment rfl rfl rfl (.inl rfl) (unnamed (by decide))
    case isFalse noDash =>
      have closes : (point == .scalar '>') = false := by simpa [dashes] using goes
      rw [closes, if_neg Bool.false_ne_true]
      exact staysIn_readEscaped rfl (.inr (by simpa using noDash)) (unnamed (by decide))
  | escapedLessThan =>
    have noSlash : (point == .scalar '/') = false := by simpa [isOpened] using bare
    simp only [step, noSlash, Bool.false_eq_true, if_false, Option.getD_some]
    split
    case isTrue letter =>
      have noDash : point ≠ .scalar '-' := by
        rintro rfl
        cases letter
      exact staysIn_comment rfl rfl (if_neg noDash).symm (.inr (.inr rfl)) (unnamed (by decide))
    case isFalse => exact staysIn_readEscaped rfl (.inl rfl) (unnamed (by decide))
  | doubleEscapeStart name => exact staysIn_step_name plain name
  | escapedEndTagOpen | escapedEndTagName => exact outside.elim
  | _ => cases level

omit plain

/-- A script within a comment goes on behind a point that does not end the comment. -/
theorem staysIn_step_script (outside : state.IsOutside)
    (level : state.settled = .doubleEscaped) :
    StaysIn state point ((step state point).getD state.settled) := by
  cases state with
  | doubleEscaped => exact staysIn_readDoubleEscaped rfl (.inl rfl)
  | doubleEscapedDash =>
    simp only [step, Option.getD_some]
    split
    case isTrue dash =>
      cases (beq_iff_eq.mp dash)
      exact staysIn_script (.inl rfl) rfl rfl (.inl rfl)
    case isFalse noDash =>
      exact staysIn_readDoubleEscaped rfl (.inr (by simpa using noDash))
  | doubleEscapedDashDash =>
    simp only [step, Option.getD_some]
    split
    case isTrue dash =>
      cases (beq_iff_eq.mp dash)
      exact staysIn_script (.inl rfl) rfl rfl (.inl rfl)
    case isFalse noDash =>
      have closes : (point == .scalar '>') = false := by simpa [dashes] using goes
      rw [closes, if_neg Bool.false_ne_true]
      exact staysIn_readDoubleEscaped rfl (.inr (by simpa using noDash))
  | doubleEscapedLessThan =>
    have noSlash : (point == .scalar '/') = false := by simpa [isOpened] using bare
    simp only [step, noSlash, Bool.false_eq_true, if_false, Option.getD_some]
    exact staysIn_readDoubleEscaped rfl (.inl rfl)
  | doubleEscapeEnd => exact outside.elim
  | _ => cases level

end Steps

theorem settled_cases (state : ScriptData) :
    state.settled = .data ∨ state.settled = .escaped ∨ state.settled = .doubleEscaped := by
  cases state <;> simp [settled]

/-- A comment, or a script within it, goes on behind a point that does not end the comment. -/
theorem staysIn_afterPoint {state : ScriptData} (outside : state.IsOutside)
    (comment : state.settled ≠ .data) {point : CodePoint}
    (goes : ¬(point = .scalar '>' ∧ state.dashes = 2)) :
    StaysIn state point (afterPoint state point) := by
  by_cases plain : writePoint false point = [point] ∧ ¬(state.isOpened ∧ point = .scalar '/')
  · rw [afterPoint, if_pos plain]
    rcases (settled_cases state).resolve_left comment with level | level
    · exact staysIn_step_comment plain.1 plain.2 goes outside level
    · exact staysIn_step_script plain.2 goes outside level
  · rw [afterPoint, if_neg plain]
    have noDash : point ≠ .scalar '-' := by
      rintro rfl
      exact plain ⟨rfl, by simp⟩
    have noScript : ¬(state.pending = "<" ++ scriptName ∧ point ∈ tagMarks) := by
      rintro ⟨named, mark⟩
      obtain ⟨opened, -⟩ := Decidable.not_not.mp
        fun bare => plain ⟨(mem_tagMarks_iff.mp mark).2, bare⟩
      cases state <;> first | exact absurd named (by decide) | cases opened
    exact ⟨by rwa [settled_settled], by rw [if_neg noDash]; cases state <;> rfl,
      .inl (by cases state <;> rfl), by simp [settled_settled, noScript]⟩

/-! ## Running through texts -/

/-- What ends a comment. -/
def commentEnd : Text := "-->"

/-- What a comment starts with. -/
def commentStart : Text := "<!--"

/-- Dashes in front of a text. -/
def dashesBefore (count : Nat) (text : Text) : Text := List.replicate count (.scalar '-') ++ text

theorem dashesBefore_suffix {fewer more : Nat} (atMost : fewer ≤ more) (text : Text) :
    dashesBefore fewer text <:+ dashesBefore more text := by
  refine ⟨List.replicate (more - fewer) (.scalar '-'), ?_⟩
  rw [dashesBefore, ← List.append_assoc, List.replicate_append_replicate,
    Nat.sub_add_cancel atMost, dashesBefore]

/-- The dashes that count behind a point, and what is behind it, are an end of those before. -/
theorem StaysIn.suffix {state next : ScriptData} {point : CodePoint}
    (stays : StaysIn state point next) (rest : Text) :
    dashesBefore next.dashes rest <:+ dashesBefore state.dashes (point :: rest) := by
  rw [stays.dashes]
  split
  · rename_i dash
    have more :
        dashesBefore state.dashes (point :: rest) = dashesBefore (state.dashes + 1) rest := by
      rw [dash, dashesBefore, dashesBefore, List.replicate_succ', List.append_assoc]
      rfl
    rw [more]
    exact dashesBefore_suffix (Nat.min_le_right 2 _) rest
  · exact ⟨List.replicate state.dashes (.scalar '-') ++ [point], by simp [dashesBefore]⟩

/-- A comment without an end goes on, and so does a script within it. -/
theorem comment_foldl {state : ScriptData} (outside : state.IsOutside)
    (comment : state.settled ≠ .data) {text rest : Text}
    (endless : ¬commentEnd <:+: dashesBefore state.dashes (text ++ rest)) :
    let next := text.foldl afterPoint state
    next.settled ≠ .data ∧ (state.settled = .doubleEscaped → next.settled = .doubleEscaped) ∧
      ¬commentEnd <:+: dashesBefore next.dashes rest := by
  induction text generalizing state with
  | nil => exact ⟨comment, id, endless⟩
  | cons point text tail =>
    have goes : ¬(point = .scalar '>' ∧ state.dashes = 2) := by
      rintro ⟨rfl, two⟩
      rw [two] at endless
      exact endless ⟨[], text ++ rest, rfl⟩
    have stays := staysIn_afterPoint outside comment goes
    obtain ⟨within, script, still⟩ := tail (isOutside_afterPoint outside point) stays.comment
      fun ends => endless (ends.trans (stays.suffix (text ++ rest)).isInfix)
    exact ⟨within, fun double => script (stays.script.mpr (.inl double)), still⟩

/-- A comment is opened by its start, wherever it is read. -/
theorem foldl_commentStart {state : ScriptData} (outside : state.IsOutside) :
    (commentStart.foldl afterPoint state).settled ≠ .data ∧
      (commentStart.foldl afterPoint state).dashes = 2 := by
  cases state <;> first | exact outside.elim | exact ⟨nofun, rfl⟩

/-- A letter stands in a string as it is. -/
theorem writePoint_of_isLetter {point : CodePoint} (letter : isLetter point = true) :
    writePoint false point = [point] := by
  cases point with
  | surrogate index => rfl
  | scalar char =>
    have alpha : char.isAlpha = true := letter
    cases short : Json.shortEscape? char with
    | some escape =>
      unfold Json.shortEscape? at short
      split at short <;> first | exact absurd letter (by decide) | cases short
    | none =>
      have high : ¬(CodePoint.scalar char).value < 0x20 := by
        have bound : 0x41 ≤ char.toNat := by
          rcases Bool.or_eq_true_iff.mp alpha with capital | small
          · exact (of_decide_eq_true capital).1
          · have bound := of_decide_eq_true (Bool.and_eq_true_iff.mp small).1
            exact Nat.le_trans (by decide) (UInt32.le_iff_toNat_le.mp bound)
        exact Nat.not_lt.mpr (Nat.le_trans (by decide) bound)
      simp [writePoint, short, high]

/-- A letter is read as one of the name of a tag. -/
theorem afterPoint_of_isLetter {point : CodePoint} (letter : isLetter point = true) :
    afterPoint .escapedLessThan point = .doubleEscapeStart [lowered point] ∧
      ∀ name, afterPoint (.doubleEscapeStart name) point =
        .doubleEscapeStart (name ++ [lowered point]) := by
  have noSlash : point ≠ .scalar '/' := by
    rintro rfl
    cases letter
  have noEnd := isNameEnd_of_isLetter letter
  have plain := writePoint_of_isLetter letter
  exact ⟨by simp [afterPoint, plain, noSlash, step, letter], fun name => by
    simp [afterPoint, plain, noSlash, step, letter, noEnd]⟩

/-- Letters are read as the name of a tag. -/
theorem foldl_letters {letters : Text} (all : ∀ letter ∈ letters, isLetter letter = true)
    (name : Text) :
    letters.foldl afterPoint (.doubleEscapeStart name) =
      .doubleEscapeStart (name ++ letters.map lowered) := by
  induction letters generalizing name with
  | nil => simp
  | cons letter letters tail =>
    obtain ⟨here, others⟩ := List.forall_mem_cons.mp all
    rw [List.foldl_cons, (afterPoint_of_isLetter here).2, tail others, List.map_cons,
      List.append_assoc]
    rfl

/-- A start tag of a script, up to the point behind its name. -/
def IsScriptTag (tag : Text) : Prop :=
  ∃ name mark, name.map lowered = "<" ++ scriptName ∧ mark ∈ tagMarks ∧ tag = name ++ [mark]

/-- A script starts within a comment at its tag. -/
theorem foldl_scriptTag {state : ScriptData} (outside : state.IsOutside)
    (comment : state.settled ≠ .data) {tag : Text} (script : IsScriptTag tag) :
    (tag.foldl afterPoint state).settled = .doubleEscaped := by
  obtain ⟨name, mark, named, known, rfl⟩ := script
  obtain ⟨first, letters, rfl⟩ : ∃ first letters, name = first :: letters := by
    cases name with
    | nil => cases named
    | cons first letters => exact ⟨first, letters, rfl⟩
  obtain ⟨less, spelled⟩ : lowered first = .scalar '<' ∧ letters.map lowered = scriptName :=
    List.cons_eq_cons.mp named
  cases eq_of_lowered_eq less rfl
  have all : ∀ letter ∈ letters, isLetter letter = true := by
    have small : ∀ letter ∈ scriptName, isLetter letter = true := by decide
    rw [← spelled, List.forall_mem_map] at small
    simpa using small
  have opened : afterPoint state (.scalar '<') = .escapedLessThan ∨
      afterPoint state (.scalar '<') = .doubleEscapedLessThan := by
    cases state <;> first | exact absurd rfl comment | exact .inl rfl | exact .inr rfl
  rw [List.cons_append, List.foldl_cons]
  rcases opened with comment | double
  · have start : IsOutside (.doubleEscapeStart scriptName) := trivial
    have within : settled (.doubleEscapeStart scriptName) ≠ .data := nofun
    have goes : ¬(mark = .scalar '>' ∧ dashes (.doubleEscapeStart scriptName) = 2) :=
      fun known => nomatch known.2
    have ending := (staysIn_afterPoint start within goes).script.mpr (.inr ⟨rfl, known⟩)
    cases letters with
    | nil => cases spelled
    | cons letter letters =>
      obtain ⟨here, others⟩ := List.forall_mem_cons.mp all
      rw [comment, List.cons_append, List.foldl_cons, (afterPoint_of_isLetter here).1,
        List.foldl_append, foldl_letters others]
      rw [List.singleton_append, ← List.map_cons, spelled]
      exact ending
  · have start : IsOutside .doubleEscapedLessThan := trivial
    have within : settled .doubleEscapedLessThan ≠ .data := nofun
    have endless : ¬commentEnd <:+: dashesBefore (dashes .doubleEscapedLessThan)
        ((letters ++ [mark]) ++ []) := by
      intro ends
      rw [List.append_nil] at ends
      have dash : .scalar '-' ∈ letters ++ [mark] := ends.subset (by decide)
      rcases List.mem_append.mp dash with letter | last
      · cases all _ letter
      · cases List.mem_singleton.mp last
        revert known
        decide
    rw [double]
    exact (comment_foldl start within endless).2.1 rfl

/-- Whether a text opens a comment that does not end in it, and a script within. -/
def OpensScript (text : Text) : Prop :=
  ∃ before inner tag, text = before ++ commentStart ++ inner ∧
    ¬commentEnd <:+: dashesBefore 2 inner ∧ IsScriptTag tag ∧ tag <:+: inner

/-- A script within a comment goes on to the end of a text that opens it. -/
theorem settled_of_opensScript {text : Text} (opens : OpensScript text) :
    (text.foldl afterPoint .data).settled = .doubleEscaped := by
  obtain ⟨before, inner, tag, rfl, endless, script, front, behind, rfl⟩ := opens
  have start : IsOutside .data := trivial
  simp only [List.foldl_append]
  have first := isOutside_foldl start before
  obtain ⟨comment, two⟩ := foldl_commentStart first
  have second := isOutside_foldl first commentStart
  rw [← two, List.append_assoc] at endless
  obtain ⟨within, -, still⟩ := comment_foldl second comment endless
  have third := isOutside_foldl second front
  obtain ⟨inside, -, ended⟩ := comment_foldl third within still
  have double := foldl_scriptTag third within script
  have fourth := isOutside_foldl third tag
  rw [← List.append_nil behind] at ended
  exact (comment_foldl fourth inside ended).2.1 double

/-- A comment that is read, and a state in it: it has no end, the dashes at its end are counted,
what was read of a tag stands there, and a script that has started has its tag in it. -/
structure IsComment (inner : Text) (state : ScriptData) : Prop where
  endless : ¬commentEnd <:+: dashesBefore 2 inner
  counted : ∀ count ≤ 2, state.dashes < count →
    ¬List.replicate count (.scalar '-') <:+ dashesBefore 2 inner
  ends : EndsLowered inner state.pending
  script : state.settled = .doubleEscaped → ∃ tag, IsScriptTag tag ∧ tag <:+: inner

/-- A comment goes on behind a point that does not end it. -/
theorem IsComment.concat {inner : Text} {state next : ScriptData} {point : CodePoint}
    (comment : IsComment inner state) (goes : ¬(point = .scalar '>' ∧ state.dashes = 2))
    (stays : StaysIn state point next) : IsComment (inner ++ [point]) next := by
  have whole : dashesBefore 2 (inner ++ [point]) = dashesBefore 2 inner ++ [point] :=
    (List.append_assoc _ _ _).symm
  constructor
  case endless =>
    rw [whole, List.infix_concat_iff, List.suffix_concat_iff]
    rintro ((nothing | ⟨front, same, two⟩) | within)
    · cases nothing
    · obtain ⟨rfl, close⟩ : [.scalar '-', .scalar '-'] = front ∧ [.scalar '>'] = [point] :=
        List.append_inj' same rfl
      have greatest : state.dashes ≤ 2 := by cases state <;> simp [dashes]
      have few : state.dashes < 2 :=
        Nat.lt_of_le_of_ne greatest fun two => goes ⟨(List.singleton_inj.mp close).symm, two⟩
      exact comment.counted 2 (Nat.le_refl 2) few two
    · exact comment.endless within
  case counted =>
    intro count most fewer
    rw [whole, List.suffix_concat_iff]
    cases count with
    | zero => exact absurd fewer (Nat.not_lt_zero _)
    | succ count =>
      rw [List.replicate_succ']
      rintro (nothing | ⟨front, same, suffix⟩)
      · simp at nothing
      · obtain ⟨rfl, dash⟩ := List.append_inj' same rfl
        rw [stays.dashes, if_pos (List.singleton_inj.mp dash).symm] at fewer
        exact comment.counted count (by omega) (by omega) suffix
  case ends => exact stays.continues.endsLowered comment.ends
  case script =>
    intro double
    rcases stays.script.mp double with before | ⟨named, mark⟩
    · obtain ⟨tag, script, inside⟩ := comment.script before
      exact ⟨tag, script, inside.trans (List.prefix_append _ _).isInfix⟩
    · obtain ⟨raw, ⟨front, rfl⟩, same⟩ := comment.ends
      exact ⟨raw ++ [point], ⟨raw, point, same.trans named, mark, rfl⟩, front, [], by simp⟩

/-- What is read and the state behind it: outside of comments, or in one. -/
def Reads (text : Text) (state : ScriptData) : Prop :=
  (state.settled = .data ∧ EndsLowered text state.pending) ∨
    (state.settled ≠ .data ∧
      ∃ before inner, text = before ++ commentStart ++ inner ∧ IsComment inner state)

/-- What is read is kept by every point. -/
theorem Reads.concat {text : Text} {state : ScriptData} (outside : state.IsOutside)
    (reads : Reads text state) (point : CodePoint) :
    Reads (text ++ [point]) (afterPoint state point) := by
  rcases reads with ⟨data, ends⟩ | ⟨comment, before, inner, rfl, inside⟩
  · rcases afterPoint_of_data outside data point with ⟨still, goes⟩ | ⟨rfl, rfl, opened⟩
    · exact .inl ⟨still, goes.endsLowered ends⟩
    · obtain ⟨raw, ⟨before, rfl⟩, same⟩ := ends
      have start : raw = "<!-" := eq_of_map_lowered same (by decide)
      rw [opened, start]
      refine .inr ⟨nofun, before, [], by simp; rfl, by decide, ?_, ?_, nofun⟩
      · exact fun count most fewer => absurd most (Nat.not_le.mpr fewer)
      · exact ⟨[], List.nil_suffix, rfl⟩
  · by_cases closes : point = .scalar '>' ∧ state.dashes = 2
    · obtain ⟨rfl, two⟩ := closes
      have closed : afterPoint state (.scalar '>') = .data := by
        cases state <;> first | rfl | cases two
      rw [closed]
      exact .inl ⟨rfl, [], List.nil_suffix, rfl⟩
    · have stays := staysIn_afterPoint outside comment closes
      exact .inr ⟨stays.comment, before, inner ++ [point], by simp, inside.concat closes stays⟩

/-- A text is read to its end. -/
theorem reads_foldl (text : Text) : Reads text (text.foldl afterPoint .data) := by
  have start : IsOutside .data := trivial
  induction text using List.reverseRecOn with
  | nil => exact .inl ⟨rfl, [], List.nil_suffix, rfl⟩
  | append_singleton text point tail =>
    rw [List.foldl_append]
    exact tail.concat (isOutside_foldl start text) point

/-- **Scripts within comments.** At the end of a string a script within a comment goes on exactly if
the string opens it. -/
theorem settled_eq_doubleEscaped_iff (text : Text) :
    (text.foldl afterPoint .data).settled = .doubleEscaped ↔ OpensScript text := by
  refine ⟨fun double => ?_, settled_of_opensScript⟩
  rcases reads_foldl text with ⟨data, -⟩ | ⟨-, before, inner, whole, comment⟩
  · rw [double] at data
    cases data
  · obtain ⟨tag, script, inside⟩ := comment.script double
    exact ⟨before, inner, tag, whole, comment.endless, script, inside⟩

end ScriptData
end SiteBuild.Html

namespace SiteBuild.Site

open Html

/-- The start tag of the script that starts a page. -/
def scriptStart : Text := "\n    <script type=\"module\">"

/-- The end tag of a script. -/
def scriptEnd : Text := "</script>"

/-- What stands in the script in front of the code. -/
def beforeCode : Text := "\n        const code = "

/-- What stands in the script behind the code. -/
def behindCode : Text :=
  Text.unlines [
    ";",
    "        const blob = new Blob([code], \x7b type: 'text/javascript' \x7d);",
    "        const url = URL.createObjectURL(blob);",
    "        try \x7b",
    "            const mod = await import(url);",
    "            mod.hydrate(mod.default, \x7b target: document.getElementById('app') \x7d);",
    "        \x7d catch (e) \x7b",
    "            console.error('[pagesmith] hydration failed:', e);",
    "        \x7d finally \x7b",
    "            URL.revokeObjectURL(url);",
    "        \x7d",
    "    "
  ]

theorem hydrationScript_eq (code : Json) :
    hydrationScript code =
      scriptStart ++ (beforeCode ++ Script.literal code ++ behindCode) ++ scriptEnd := by
  simp only [hydrationScript, behindCode, Text.unlines, Text.join, List.intercalate,
    List.intersperse, List.flatten_cons, List.flatten_nil, List.append_assoc]
  rfl

/-- A script is left at its end tag, unless it is read as that of a script within a comment. -/
theorem leave?_scriptEnd (state : ScriptData) :
    leave? ScriptData.step state.settled scriptEnd =
      if state.settled = .doubleEscaped then none else some [] := by
  cases state <;> rfl

/-- Behind the code no tag is opened, no comment is ended, and no carriage return stands. -/
theorem isSettling_behindCode :
    ∀ point ∈ behindCode, ScriptData.isSettling point ∧ point ≠ .scalar '\r' := by
  decide +kernel

/-- The script is read up to its end tag, and the code decides what is behind it. -/
theorem foldlM_script (code : Text) :
    (beforeCode ++ Script.literal (.str code) ++ behindCode).foldlM ScriptData.step .data =
      some (code.foldl ScriptData.afterPoint .data).settled := by
  have before : beforeCode.foldlM ScriptData.step .data = some .data :=
    ScriptData.foldlM_settled (by decide) .data
  have settling := fun point member => (isSettling_behindCode point member).1
  have behind := ScriptData.foldlM_settled settling
    (code.foldl ScriptData.afterPoint .data)
  rw [List.foldlM_append, List.foldlM_append, before]
  change ((Script.literal (.str code)).foldlM ScriptData.step .data >>= _) = _
  rw [ScriptData.foldlM_literal]
  exact behind

/-- The script is written without carriage returns. -/
theorem not_mem_script (code : Text) :
    .scalar '\r' ∉ beforeCode ++ Script.literal (.str code) ++ behindCode ++ scriptEnd := by
  simp only [List.mem_append, not_or]
  refine ⟨⟨⟨by decide, fun member => ?_⟩, fun member => ?_⟩, by decide⟩
  · exact absurd (Script.le_value_of_mem_literal member) (by decide)
  · exact (isSettling_behindCode _ member).2 rfl

/-- **Inline scripts.** A tokenizer that reads the script that starts a page, from behind its start
tag on, leaves it exactly at the end tag that is written at its end, unless the code opens a comment
that does not end in it, and a script within; then it does not leave it at all. -/
theorem leave?_hydrationScript (code : Text) :
    ∃ inner, hydrationScript (.str code) = scriptStart ++ inner ++ scriptEnd ∧
      (leave? ScriptData.step .data (lineFeeds (inner ++ scriptEnd)) = some [] ↔
        ¬ScriptData.OpensScript code) ∧
      (leave? ScriptData.step .data (lineFeeds (inner ++ scriptEnd)) = none ↔
        ScriptData.OpensScript code) := by
  refine ⟨_, hydrationScript_eq _, ?_⟩
  rw [lineFeeds_of_not_mem (not_mem_script code), leave?_append _ (foldlM_script code),
    leave?_scriptEnd, ← ScriptData.settled_eq_doubleEscaped_iff]
  split <;> rename_i double <;> simp [double]

/-- A tokenizer does not leave the script of a bundle that holds a comment with a script in it: the
end tag is read as that of the script within. -/
theorem leave?_hydrationScript_comment :
    ∃ inner, hydrationScript (.str "export const t = '<!-- <script>';") =
        scriptStart ++ inner ++ scriptEnd ∧
      leave? ScriptData.step .data (lineFeeds (inner ++ scriptEnd)) = none := by
  refine ⟨_, hydrationScript_eq _, ?_⟩
  decide +kernel

end SiteBuild.Site
