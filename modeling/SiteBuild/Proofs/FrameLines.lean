import SiteBuild.Proofs.BuildOutcomes
import SiteBuild.Proofs.FrameRows

/-!
# Lines of code frames

What the rows of a frame are, one for each line near by and one for the pointer, which stands in the
column of the line as the row above shows it. Main statement: a frame around a line of a source has
these rows, if there is room for the pointer, and so has the frame in the message of a build whose
style sheet is rejected (`lines_codeFrame`).
-/
namespace SiteBuild

/-- What the row of a line begins with: two characters that mark it or not, its number and a bar. -/
def rowStart (marked : Bool) (number : Nat) : Text :=
  (if marked then "> " else "  ") ++ alignedRight 3 (Text.ofNat number) ++ " | "

/-- The rows of a line in a frame: the line itself, and below the marked one a pointer to a column,
which counts from zero, if there is one. -/
def shownRows (line : Nat) (column : Option Nat) (number : Nat) (content : Text) : List Text :=
  if number = line then
    (rowStart true number ++ content) ::
      (column.map fun place =>
        Text.blanks ((rowStart true number).length + place) ++ "^").toList
  else [rowStart false number ++ content]

/-- The numbers of the lines that a frame shows: from two above the line to two below it, as far as
there are lines. -/
def shownNumbers (count line : Nat) : List Nat :=
  let first := max 1 (line - 2)
  let last := min count (line + 2)
  List.range' first (last + 1 - first)

/-- The lines of a frame around one of several lines. -/
def frameLines (lines : List Text) (line : Nat) (column : Option Nat) : List Text :=
  (shownNumbers lines.length line).flatMap fun number =>
    shownRows line column number (lines.getD (number - 1) [])

/-- Whether there is room for the row that points at a column of a line. -/
def HasRoom (line : Nat) (column : Option Nat) : Prop :=
  ∀ place ∈ column, ((rowStart true line).length + place : Int) < widthLimits.1

/-! ## Rows -/

/-- What a row begins with is as long as the marker, the number and the bar. -/
theorem length_rowStart (marked : Bool) (number : Nat) :
    (rowStart marked number).length = 2 + (alignedRight 3 (Text.ofNat number)).length + 3 := by
  cases marked <;> simp only [rowStart, List.length_append] <;> rfl

/-- The pointer stands below the column if there is room for it. -/
theorem pointerRow_of_room {number place : Nat} (room : HasRoom number (some place)) :
    pointerRow number place =
      .ok (Text.blanks ((rowStart true number).length + place) ++ "^") := by
  have inside := room place rfl
  have limits : widthLimits.1 ≤ widthLimits.2 := by decide
  rw [length_rowStart] at inside ⊢
  have indent : (2 + ((alignedRight 3 (Text.ofNat number)).length : Int) + 3 + place).toNat =
      2 + (alignedRight 3 (Text.ofNat number)).length + 3 + place := by omega
  simp only [pointerRow]
  rw [if_neg (by omega), if_neg (by omega), indent]

/-- Without room there is no pointer. -/
theorem pointerRow_of_noRoom {number place : Nat} (noRoom : ¬HasRoom number (some place)) :
    ∃ beyond, pointerRow number place = .error (.tooWide beyond) := by
  have outside : widthLimits.1 ≤ ((rowStart true number).length + place : Int) := by
    refine Int.not_lt.mp fun inside => noRoom fun other same => ?_
    cases same
    exact inside
  rw [length_rowStart] at outside
  simp only [pointerRow]
  split
  · exact ⟨true, rfl⟩
  · rw [if_pos (by omega)]
    exact ⟨false, rfl⟩

/-- The rows of a line are the shown ones if there is room. -/
theorem frameRows_of_room {line : Nat} {column : Option Nat} (room : HasRoom line column)
    (number : Nat) (content : Text) :
    frameRows line (column.map Int.ofNat) number content =
      .ok (shownRows line column number content) := by
  by_cases same : number = line
  · subst same
    unfold frameRows
    rw [if_neg (not_not_intro rfl), shownRows, if_pos rfl]
    cases column with
    | none => rfl
    | some place =>
      have pointed := pointerRow_of_room room
      simp only [Option.map_some, Int.ofNat_eq_natCast, pointed]
      rfl
  · have other : (number : Int) ≠ line := by omega
    unfold frameRows
    rw [if_pos other, shownRows, if_neg same]
    rfl

/-- Without room the rows of the line itself are not made. -/
theorem frameRows_of_noRoom {line : Nat} {column : Option Nat} (noRoom : ¬HasRoom line column)
    (content : Text) :
    ∃ beyond, frameRows line (column.map Int.ofNat) line content = .error (.tooWide beyond) := by
  cases column with
  | none => exact absurd (by simp [HasRoom]) noRoom
  | some place =>
    obtain ⟨beyond, failed⟩ := pointerRow_of_noRoom noRoom
    refine ⟨beyond, ?_⟩
    unfold frameRows
    rw [if_neg (not_not_intro rfl)]
    simp only [Option.map_some, Int.ofNat_eq_natCast, failed]
    rfl

/-! ## Frames -/

/-- The lines near by, with their numbers, are those with the numbers that a frame shows. -/
theorem zipIdx_slice (lines : List Text) {line : Nat} (positive : 1 ≤ line) :
    ((lines.take (line + 2)).drop (line - 3)).zipIdx (line - 3 + 1) =
      (shownNumbers lines.length line).map fun number =>
        (lines.getD (number - 1) [], number) := by
  have first : max 1 (line - 2) = line - 3 + 1 := by omega
  refine List.ext_getElem ?_ fun index bound other => ?_
  · simp only [List.length_zipIdx, List.length_drop, List.length_take, List.length_map,
      shownNumbers, List.length_range']
    omega
  · simp only [List.length_zipIdx, List.length_drop, List.length_take] at bound
    have inside : line - 3 + index < lines.length := by omega
    have place : line - 3 + 1 + index - 1 = line - 3 + index := by omega
    simp only [List.getElem_zipIdx, List.getElem_drop, List.getElem_take, List.getElem_map,
      shownNumbers, List.getElem_range', first, Nat.one_mul, place,
      List.getD_eq_getElem?_getD, List.getElem?_eq_getElem inside, Option.getD_some]

/-- A frame shows the line it is around, if there is one. -/
theorem mem_shownNumbers {count line : Nat} (positive : 1 ≤ line) (within : line ≤ count) :
    line ∈ shownNumbers count line := by
  rw [shownNumbers, List.mem_range'_1]
  omega

/-- A frame consists of the lines around its own, if there is room for the pointer. -/
theorem codeFrame_of_room {source : Text} {line : Nat} {column : Option Nat}
    (positive : 1 ≤ line) (room : HasRoom line column) :
    codeFrame source line (column.map Int.ofNat) =
      .ok (Text.unlines (frameLines (Text.lines source) line column)) := by
  rw [codeFrame_eq positive, zipIdx_slice _ positive,
    mapM_eq_ok_map fun row _ => frameRows_of_room room row.2 row.1]
  simp only [Except.map, List.map_map, frameLines, List.flatMap_def]
  rfl

/-- Without room for the pointer there is no frame around a line of the source. -/
theorem codeFrame_of_noRoom {source : Text} {line : Nat} {column : Option Nat}
    (positive : 1 ≤ line) (within : line ≤ (Text.lines source).length)
    (noRoom : ¬HasRoom line column) :
    ∃ beyond, codeFrame source line (column.map Int.ofNat) = .error (.tooWide beyond) := by
  cases made : codeFrame source line (column.map Int.ofNat) with
  | error cause =>
    obtain ⟨_, _, beyond, _, rfl, _⟩ := codeFrame_eq_error made
    exact ⟨beyond, rfl⟩
  | ok frame =>
    obtain ⟨rows, all, rfl⟩ := exists_rows_of_codeFrame positive made
    rw [zipIdx_slice _ positive, List.forall₂_map_left_iff] at all
    obtain ⟨same, each⟩ := List.forall₂_iff_get.mp all
    obtain ⟨index, bound, here⟩ := List.mem_iff_getElem.mp (mem_shownNumbers positive within)
    have shown := each index bound (same ▸ bound)
    obtain ⟨beyond, failed⟩ := frameRows_of_noRoom noRoom
      ((Text.lines source).getD (line - 1) [])
    simp only [List.get_eq_getElem, here] at shown
    cases failed.symm.trans shown

/-- No row of a frame around a line runs over a line. -/
theorem not_mem_frameLines {source : Text} {line : Nat} {column : Option Nat}
    (room : HasRoom line column) :
    ∀ row ∈ frameLines (Text.lines source) line column, .scalar '\n' ∉ row := by
  intro row member
  obtain ⟨number, _, here⟩ := List.mem_flatMap.mp member
  refine not_mem_frameRows (frameRows_of_room room number _) ?_ row here
  rw [List.getD_eq_getElem?_getD]
  cases found : (Text.lines source)[number - 1]? with
  | none => simp
  | some content => exact Text.not_mem_of_mem_lines (List.mem_of_getElem? found)

/-- The row of the line itself is among those of its frame. -/
theorem mem_frameLines {lines : List Text} {line : Nat} (positive : 1 ≤ line)
    (within : line ≤ lines.length) (column : Option Nat) :
    rowStart true line ++ lines.getD (line - 1) [] ∈ frameLines lines line column :=
  List.mem_flatMap.mpr ⟨line, mem_shownNumbers positive within, by simp [shownRows]⟩

/-- The lines of a frame are those around its own, if that is one of the source. -/
theorem lines_of_room {source : Text} {line : Nat} {column : Option Nat}
    (positive : 1 ≤ line) (within : line ≤ (Text.lines source).length)
    (room : HasRoom line column) :
    ∃ frame, codeFrame source line (column.map Int.ofNat) = .ok frame ∧
      Text.lines frame = frameLines (Text.lines source) line column := by
  refine ⟨_, codeFrame_of_room positive room, Text.lines_unlines ?_ (not_mem_frameLines room)⟩
  exact List.ne_nil_of_mem (mem_frameLines positive within column)

/-! ## Builds -/

namespace Build

open Steps

variable {σ : Type} {services : Services (StateM σ)} {request : Request}

/-- The first failure of a build is that the style sheet of a section is rejected. -/
inductive RejectsStyle (services : Services (StateM σ)) (request : Request) (before : σ)
    (css : Text) (error : BuildError) (after : σ) : Prop where
  /-- It is rejected behind others that were flattened. -/
  | reject {earlier later : List Page.Source} {content : Page.Section} {flat : List Page.Source}
    {between : σ}
    (split : request.sources.toList = earlier ++ .parts content :: later)
    (flattened : Succeed (flattenSource services) earlier before flat between)
    (sheet : content.css = .text css) (some : css ≠ [])
    (rejected : (services.flatten (.text css) between : Id _) = (.error error, after))

/-- A rejected style sheet ends the build, with the error and its frame. -/
theorem build_rejectedStyle {before after : σ} {css : Text} {error : BuildError}
    (rejects : RejectsStyle services request before css error after) :
    (build services request before : Id _) =
      match framedStyleError (.text css) error with
      | .ok framed => (.ok { error := styleMessage framed }, after)
      | .error cause => (.error (.misuse cause), after) := by
  obtain ⟨split, flattened, sheet, some, rejected⟩ := rejects
  rename_i content _ between
  have failed : outcome (flattenSource services (.parts content)) between =
      (.error (styleFailure css error), after) := by
    have full : ¬(Textual.text css).isEmpty = true := by
      rw [Textual.isEmpty, List.isEmpty_iff]
      exact some
    unfold flattenSource
    simp only [sheet]
    rw [if_neg full, outcome_bind, outcome_flattenSheet, rejected]
  rw [build_stages, flattenStyles_of_fail split flattened failed, styleFailure]
  cases framedStyleError (.text css) error <;> rfl

/-- An error that tells a line and brings no frame gets one. -/
theorem framedStyleError_of_line {css : Text} {error : BuildError} (bare : error.frame = .null)
    {line : Nat} (told : error.line.int? = some ↑line) {column : Option Nat}
    (place : error.column.int? = column.map fun place : Nat => (place : Int) + 1) :
    framedStyleError (.text css) error =
      (codeFrame css line (column.map Int.ofNat)).map fun frame =>
        { error with frame := .str frame } := by
  have shifted : error.column.int?.map (· - 1) = column.map Int.ofNat := by
    rw [place, Option.map_map]
    cases column with
    | none => rfl
    | some place => exact congrArg some (Int.add_sub_cancel _ 1)
  unfold framedStyleError
  rw [bare, told]
  simp only [shifted, Key.toTextual, Key.toJson, Textual.exactly, Textual.asText, bind,
    Except.bind]
  cases codeFrame css line (column.map Int.ofNat) <;> rfl

/-- The message of a style error with a frame shows the frame below the error. -/
theorem styleMessage_of_frame (error : BuildError) {frame : Text} (full : frame ≠ []) :
    styleMessage { error with frame := .str frame } = error.text ++ "\n\n" ++ frame := by
  have shown : (Json.str frame).isEmpty = false := by
    rw [Json.isEmpty, List.isEmpty_eq_false_iff]
    exact full
  simp only [styleMessage, shown]
  rfl

end Build

/-- **Code frames.** A frame around a line of a source and a column, which counts from zero,
consists of one row for each line from two above to two below, with the marker, the number and the
line, and below the marked row of a pointer that stands in the column of the line. The frame in the
message of a build whose style sheet is rejected is the one around the line that the error tells,
and a column that counts from one. There is no frame, and no result of the build, if there is no
room for the row of the pointer. -/
theorem lines_codeFrame {source : Text} {line : Nat} (column : Option Nat) (positive : 1 ≤ line)
    (within : line ≤ (Text.lines source).length) :
    ((HasRoom line column → ∃ frame,
        codeFrame source line (column.map Int.ofNat) = .ok frame ∧
        Text.lines frame = frameLines (Text.lines source) line column) ∧
      (¬HasRoom line column → ∃ beyond,
        codeFrame source line (column.map Int.ofNat) = .error (.tooWide beyond))) ∧
    ∀ {σ : Type} (services : Build.Services (StateM σ)) (request : Build.Request)
      (before after : σ) (error : BuildError),
      Build.RejectsStyle services request before source error after → error.frame = .null →
      error.line.int? = some ↑line →
      error.column.int? = (column.map fun place : Nat => (place : Int) + 1) →
      (HasRoom line column → ∃ frame,
        (Build.build services request before : Id _) =
          (.ok { error := error.text ++ "\n\n" ++ frame }, after) ∧
        Text.lines frame = frameLines (Text.lines source) line column) ∧
      (¬HasRoom line column → ∃ beyond,
        (Build.build services request before : Id _) =
          (.error (.misuse (.tooWide beyond)), after)) := by
  refine ⟨⟨lines_of_room positive within, codeFrame_of_noRoom positive within⟩, ?_⟩
  intro σ services request before after error rejects bare told place
  rw [Build.build_rejectedStyle rejects, Build.framedStyleError_of_line bare told place]
  constructor
  · intro room
    obtain ⟨frame, made, shown⟩ := lines_of_room positive within room
    have full : frame ≠ [] := by
      rintro rfl
      -- The row of the line is not empty.
      have member := mem_frameLines positive within column
      rw [← shown] at member
      cases List.mem_singleton.mp member
    rw [made]
    refine ⟨frame, ?_, shown⟩
    simp only [Except.map, Build.styleMessage_of_frame error full]
  · intro noRoom
    obtain ⟨beyond, failed⟩ := codeFrame_of_noRoom positive within noRoom
    rw [failed]
    exact ⟨beyond, rfl⟩

/-- Tools that reject a style sheet at a column of its first line. -/
def rejecting (column : Int) : Build.Tools (StateM Unit) where
  run _ := fun _ =>
    (.ok (.obj [("error", .obj [("message", .str "Unknown word"), ("line", .int 1),
      ("column", .int column)])]), ())
  request _ := fun _ => (.error (.transport "no network"), ())

/-- A frame at the end of a source, and one in the message of a build. -/
theorem lines_codeFrame_rejecting :
    (∃ frame, codeFrame "p\nq\nr\nsame" 4 (some 2) = .ok frame ∧
      Text.lines frame = ["    2 | q", "    3 | r", ">   4 | same", "          ^"]) ∧
    ∃ frame after,
      (Build.build ((rejecting 3).services 9) Build.styled ({}, ()) : Id _) =
        (.ok { error := "CSS Error: Unknown word (line 1, column 3)\n\n" ++ frame }, after) ∧
      Text.lines frame = [">   1 | a \x7b color: red \x7d", "          ^"] := by
  have room (line : Nat) (small : line < 5) : HasRoom line (some 2) := by
    intro place same
    cases same
    revert line
    decide
  refine ⟨?_, ?_⟩
  · obtain ⟨⟨framed, -⟩, -⟩ := @lines_codeFrame "p\nq\nr\nsame" 4 (some 2) (by decide) (by decide)
    obtain ⟨frame, made, shown⟩ := framed (room 4 (by decide))
    exact ⟨frame, made, shown.trans (by decide)⟩
  · let error : BuildError :=
      { kind := .style, message := .str "Unknown word", line := .int 1, column := .int 3 }
    obtain ⟨after, rejects⟩ : ∃ after, Build.RejectsStyle ((rejecting 3).services 9) Build.styled
        ({}, ()) "a \x7b color: red \x7d" error after :=
      ⟨_, .reject rfl .nil rfl (by decide) rfl⟩
    obtain ⟨-, builds⟩ :=
      @lines_codeFrame "a \x7b color: red \x7d" 1 (some 2) (by decide) (by decide)
    obtain ⟨frame, built, shown⟩ := (builds _ _ _ _ _ rejects rfl rfl rfl).1 (room 1 (by decide))
    exact ⟨frame, after, built, shown.trans (by decide)⟩

/-- There is no frame for a column beyond all rows. -/
theorem codeFrame_beyond_all :
    codeFrame "a" 1 (some 9223372036854775808) = .error (.tooWide true) := by
  decide +kernel

end SiteBuild
