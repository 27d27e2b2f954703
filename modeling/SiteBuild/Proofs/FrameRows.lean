import SiteBuild.Proofs.FailureMessages

/-!
# Rows of code frames

A frame around a line consists of rows: one for each line of the source near by, and below the
marked one the row of the pointer. No row runs over a line, so that the rows can be read off the
frame again (`lines_unlines`). Main statement: the rows that are marked are the one of the line,
which shows it as the source has it, if the source has that line at all (`markedRows_codeFrame`).
-/
namespace SiteBuild

namespace Text

/-- The parts that end within the front of a text do not depend on what is behind it. -/
theorem getElem?_splitAt_append {α : Type} [BEq α] [LawfulBEq α] {mark : α} {front : List α}
    {index : Nat} (before : index < front.count mark) (first second : List α) :
    (splitAt mark (front ++ first))[index]? = (splitAt mark (front ++ second))[index]? := by
  induction front generalizing index with
  | nil => simp at before
  | cons char rest tail =>
    obtain ⟨part, parts, one⟩ :=
      List.exists_cons_of_ne_nil (splitAt_ne_nil mark (rest ++ first))
    obtain ⟨other, others, two⟩ :=
      List.exists_cons_of_ne_nil (splitAt_ne_nil mark (rest ++ second))
    simp only [List.cons_append, splitAt, one, two]
    rw [one, two] at tail
    by_cases same : char = mark
    · subst same
      simp only [beq_self_eq_true, if_true]
      cases index with
      | zero => rfl
      | succ index => exact tail (by simpa using before)
    · have within : index < rest.count mark := by simpa [List.count_cons, same] using before
      have apart : (char == mark) = false := by simpa using same
      have here := tail within
      simp only [apart, Bool.false_eq_true, if_false]
      cases index with
      | zero => simpa using here
      | succ index => simpa using here

/-- No line holds a line feed. -/
theorem not_mem_of_mem_lines {text line : Text} (member : line ∈ lines text) :
    .scalar '\n' ∉ line :=
  not_mem_of_mem_splitAt member

/-- Lines that are put together are the lines of the whole, unless there are none. -/
theorem lines_unlines {rows : List Text} (some : rows ≠ [])
    (single : ∀ row ∈ rows, .scalar '\n' ∉ row) : lines (unlines rows) = rows :=
  splitAt_join some single

end Text

/-- The items of a numbered list that have a number are the one in its place. -/
theorem filter_zipIdx {α : Type} (items : List α) (start number : Nat) :
    (items.zipIdx start).filter (·.2 = number) =
      if start ≤ number then (items[number - start]?).toList.map (·, number) else [] := by
  induction items generalizing start with
  | nil => simp
  | cons item rest tail =>
    rw [List.zipIdx_cons, List.filter_cons, tail]
    rcases Nat.lt_trichotomy start number with before | rfl | behind
    · obtain ⟨gap, rfl⟩ := Nat.exists_eq_add_of_lt before
      have next : start + gap + 1 - start = gap + 1 := by omega
      have other : start + gap + 1 - (start + 1) = gap := by omega
      have apart : start ≠ start + gap + 1 := by omega
      simp [next, other, apart]
      omega
    · have past : ¬ start + 1 ≤ start := Nat.not_succ_le_self start
      rw [if_neg past]
      simp
    · have apart : start ≠ number := by omega
      simp [apart, Nat.not_le.mpr behind]
      omega

/-! ## Rows -/

/-- Whether a row is marked. -/
def isMarkedRow (row : Text) : Bool := Text.startsWith ">" row

/-- The marked rows of a frame. -/
def markedRows (frame : Text) : List Text := (Text.lines frame).filter isMarkedRow

theorem isMarkedRow_frameRow (marked : Bool) (number : Nat) (content : Text) :
    isMarkedRow (frameRow marked number content) = marked := by
  cases marked <;> rfl

/-- The row of the pointer is not marked. -/
theorem isMarkedRow_pointerRow {number : Nat} {column : Int} {row : Text}
    (made : pointerRow number column = .ok row) : isMarkedRow row = false := by
  unfold pointerRow at made
  simp only at made
  split at made
  · cases made
  split at made
  · cases made
  · cases made
    cases (2 + (alignedRight 3 (Text.ofNat number)).length + 3 + column : Int).toNat <;> rfl

/-- The rows of a line: one that shows it, marked if it is the line of the frame, and others that
are not marked. -/
theorem filter_frameRows {line : Int} {column : Option Int} {number : Nat} {content : Text}
    {rows : List Text} (made : frameRows line column number content = .ok rows) :
    rows.filter isMarkedRow =
      if (number : Int) = line then [frameRow true number content] else [] := by
  unfold frameRows at made
  split at made
  · rename_i other
    cases made
    rw [if_neg other, List.filter_cons, isMarkedRow_frameRow]
    rfl
  · rename_i same
    rw [Decidable.not_not] at same
    rw [if_pos same]
    cases column with
    | none =>
      cases made
      rw [List.filter_cons, isMarkedRow_frameRow]
      rfl
    | some column =>
      cases pointed : pointerRow number column with
      | error cause =>
        simp only [pointed] at made
        cases made
      | ok pointer =>
        simp only [pointed] at made
        cases made
        rw [List.filter_cons, isMarkedRow_frameRow, List.filter_cons,
          isMarkedRow_pointerRow pointed]
        rfl

/-- The digits of a number run over no line. -/
theorem not_mem_ofNat (number : Nat) : .scalar '\n' ∉ Text.ofNat number := by
  intro member
  obtain ⟨digit, known, same⟩ := List.mem_map.mp member
  have decimal := Nat.isDigit_of_mem_toDigits (by decide) (by decide)
    (show digit ∈ Nat.toDigits 10 number by simpa [Nat.repr] using known)
  cases same
  cases decimal

/-- No row of a line that is one runs over a line. -/
theorem not_mem_frameRows {line : Int} {column : Option Int} {number : Nat} {content : Text}
    {rows : List Text} (made : frameRows line column number content = .ok rows)
    (single : .scalar '\n' ∉ content) : ∀ row ∈ rows, .scalar '\n' ∉ row := by
  have shown (marked : Bool) : .scalar '\n' ∉ frameRow marked number content := by
    have bar : .scalar '\n' ∉ Text.ofString " | " := by decide
    have mark : .scalar '\n' ∉ Text.ofString (if marked then "> " else "  ") := by
      cases marked <;> decide
    simp [frameRow, alignedRight, Text.blanks, not_mem_ofNat, single, bar, mark]
  unfold frameRows at made
  split at made
  · cases made
    simpa using shown false
  · cases column with
    | none =>
      cases made
      simpa using shown true
    | some column =>
      simp only [pointerRow] at made
      split at made
      · cases made
      split at made
      · cases made
      · cases made
        have pointer : .scalar '\n' ∉ Text.ofString "^" := by decide
        simp [shown, Text.blanks, pointer]

/-! ## Frames -/

/-- A frame shows the lines near by, from two above the line to two below it. -/
theorem codeFrame_eq {number : Nat} (positive : 1 ≤ number) (source : Text)
    (column : Option Int) :
    codeFrame source number column =
      (((((Text.lines source).take (number + 2)).drop (number - 3)).zipIdx (number - 3 + 1)).mapM
        fun row => frameRows number column row.2 row.1).map fun rows =>
          Text.unlines rows.flatten := by
  have start : (max 0 ((number : Int) - 3)).toNat = number - 3 := by omega
  have slice : sliceBetween (Text.lines source) (max 0 ((number : Int) - 3))
      (min ((Text.lines source).length : Int) (number + 2)) =
        ((Text.lines source).take (number + 2)).drop (number - 3) := by
    have first : ¬max 0 ((number : Int) - 3) < 0 := by omega
    have last : ¬min ((Text.lines source).length : Int) (number + 2) < 0 := by omega
    have bound : (min ((Text.lines source).length : Int) (number + 2)).toNat =
        min (number + 2) (Text.lines source).length := by omega
    simp only [sliceBetween, if_neg first, if_neg last, start, bound]
    rw [← List.take_eq_take_min]
  simp only [codeFrame, frameBetween, slice, start]

/-- A frame is made of the rows of the lines near by. -/
theorem exists_rows_of_codeFrame {source : Text} {number : Nat} {column : Option Int}
    {frame : Text} (positive : 1 ≤ number) (made : codeFrame source number column = .ok frame) :
    ∃ rows,
      List.Forall₂ (fun numbered rows => frameRows number column numbered.2 numbered.1 = .ok rows)
        ((((Text.lines source).take (number + 2)).drop (number - 3)).zipIdx (number - 3 + 1))
        rows ∧
      frame = Text.unlines rows.flatten := by
  rw [codeFrame_eq positive] at made
  cases numbered : ((((Text.lines source).take (number + 2)).drop (number - 3)).zipIdx
      (number - 3 + 1)).mapM fun row => frameRows number column row.2 row.1 with
  | error cause =>
    rw [numbered] at made
    cases made
  | ok rows =>
    rw [numbered] at made
    cases made
    exact ⟨rows, mapM_eq_ok_iff.mp numbered, rfl⟩

/-- The marked rows of lines are those of the lines with the number of the frame. -/
theorem filter_flatten_rows {line : Int} {column : Option Int} {numbered : List (Text × Nat)}
    {rows : List (List Text)}
    (made : List.Forall₂
      (fun numbered rows => frameRows line column numbered.2 numbered.1 = .ok rows) numbered rows) :
    rows.flatten.filter isMarkedRow =
      (numbered.filter fun entry => (entry.2 : Int) = line).map fun entry =>
        frameRow true entry.2 entry.1 := by
  induction made with
  | nil => rfl
  | cons here _ tail =>
    rw [List.flatten_cons, List.filter_append, filter_frameRows here, tail, List.filter_cons]
    split <;> simp_all

/-- **Marked rows.** The marked row of a frame is that of the line, which shows it as the source has
it; beyond the last line of the source nothing is marked. -/
theorem markedRows_codeFrame {source : Text} {number : Nat} {column : Option Int} {frame : Text}
    (positive : 1 ≤ number) (made : codeFrame source number column = .ok frame) :
    markedRows frame =
      ((Text.lines source)[number - 1]?).toList.map fun content =>
        frameRow true number content := by
  obtain ⟨rows, all, rfl⟩ := exists_rows_of_codeFrame positive made
  have marked : rows.flatten.filter isMarkedRow =
      ((Text.lines source)[number - 1]?).toList.map fun content =>
        frameRow true number content := by
    have same : (fun entry : Text × Nat => decide ((entry.2 : Int) = (number : Int))) =
        fun entry => decide (entry.2 = number) := by
      funext entry
      simp only [Int.natCast_inj]
    have place : number - 3 + (number - (number - 3 + 1)) = number - 1 := by omega
    rw [filter_flatten_rows all, same, filter_zipIdx, if_pos (by omega), List.getElem?_drop, place,
      List.getElem?_take_of_lt (by omega), List.map_map]
    rfl
  cases flat : rows.flatten with
  | nil =>
    -- A frame without rows is an empty line.
    rw [flat] at marked
    rw [← marked]
    rfl
  | cons first more =>
    have single : ∀ row ∈ rows.flatten, .scalar '\n' ∉ row := by
      intro row member
      obtain ⟨group, inside, here⟩ := List.mem_flatten.mp member
      obtain ⟨index, bound, rfl⟩ := List.mem_iff_getElem.mp inside
      obtain ⟨same, each⟩ := List.forall₂_iff_get.mp all
      refine not_mem_frameRows (each index (same ▸ bound) bound) ?_ row here
      have taken := List.mem_of_mem_drop (List.fst_mem_of_mem_zipIdx
        (List.getElem_mem (same ▸ bound)))
      exact Text.not_mem_of_mem_lines (List.mem_of_mem_take taken)
    rw [markedRows, ← flat, Text.lines_unlines (by simp [flat]) single, marked]

/-- The only marked row of a frame is that of a line with a content if the source has that content
there. -/
theorem markedRows_eq_singleton_iff {source line : Text} {number : Nat} {column : Option Int}
    {frame : Text} (positive : 1 ≤ number) (made : codeFrame source number column = .ok frame) :
    markedRows frame = [frameRow true number line] ↔
      (Text.lines source)[number - 1]? = some line := by
  rw [markedRows_codeFrame positive made]
  cases (Text.lines source)[number - 1]? with
  | none => simp
  | some other => simp [frameRow]

end SiteBuild
