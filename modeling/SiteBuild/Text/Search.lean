import SiteBuild.Text.CodePoint

/-!
# Searching and cutting

Looking for a part of a text, cutting a text at a character, and putting one part in place of
another. Parts of a cut text joined again by the character are the text (`join_splitAt`), and texts
without the character are the parts of their join (`splitAt_join`).
-/
namespace SiteBuild.Text

variable {α : Type} [BEq α]

/-- Whether a pattern stands somewhere in a text. -/
def holds (pattern : List α) : List α → Bool
  | [] => pattern.isEmpty
  | char :: rest => pattern.isPrefixOf (char :: rest) || holds pattern rest

/-- The parts of a text before and behind the first place of a pattern. -/
def cutAt? (pattern : List α) : List α → Option (List α × List α)
  | [] => if pattern.isEmpty then some ([], []) else none
  | char :: rest =>
    if pattern.isPrefixOf (char :: rest) then some ([], (char :: rest).drop pattern.length)
    else (cutAt? pattern rest).map fun parts => (char :: parts.1, parts.2)

/-- The parts of a text between the places of a character: always one part more than places. -/
def splitAt (mark : α) : List α → List (List α)
  | [] => [[]]
  | char :: rest =>
    if char == mark then [] :: splitAt mark rest
    else
      match splitAt mark rest with
      | [] => [[char]]
      | part :: parts => (char :: part) :: parts

/-- Put a replacement in place of every pattern, from the left. `skip` counts the characters that
a pattern already replaced still covers. -/
def replaceFrom (pattern replacement : List α) : Nat → List α → List α
  | _, [] => []
  | skip + 1, _ :: rest => replaceFrom pattern replacement skip rest
  | 0, char :: rest =>
    if pattern.isPrefixOf (char :: rest) then
      replacement ++ replaceFrom pattern replacement (pattern.length - 1) rest
    else char :: replaceFrom pattern replacement 0 rest

/-- Put a replacement in place of every pattern, which is not empty. -/
def replaceAll (pattern replacement text : List α) : List α :=
  replaceFrom pattern replacement 0 text

/-- The parts put together again, the mark between them. -/
def joinWith (mark : α) : List (List α) → List α
  | [] => []
  | [part] => part
  | part :: rest => part ++ mark :: joinWith mark rest

/-- A text is cut into one part at least. -/
theorem splitAt_ne_nil (mark : α) (text : List α) : splitAt mark text ≠ [] := by
  cases text with
  | nil => simp [splitAt]
  | cons char rest =>
    rw [splitAt]
    split
    · simp
    · split <;> simp

/-- The parts of a cut text make up the text. -/
theorem join_splitAt [LawfulBEq α] (mark : α) (text : List α) :
    joinWith mark (splitAt mark text) = text := by
  induction text with
  | nil => rfl
  | cons char rest tail =>
    rw [splitAt]
    split
    · rename_i same
      obtain ⟨part, parts, cut⟩ := List.exists_cons_of_ne_nil (splitAt_ne_nil mark rest)
      rw [cut] at tail ⊢
      simp [joinWith, eq_of_beq same, tail]
    · split
      · rename_i cut
        exact absurd cut (splitAt_ne_nil mark rest)
      · rename_i part parts cut
        rw [cut] at tail
        rw [← tail]
        cases parts <;> simp [joinWith]

/-- No part of a cut text holds the mark. -/
theorem not_mem_of_mem_splitAt [LawfulBEq α] {mark : α} {text part : List α}
    (member : part ∈ splitAt mark text) : mark ∉ part := by
  induction text generalizing part with
  | nil =>
    cases List.mem_singleton.mp member
    simp
  | cons char rest tail =>
    rw [splitAt] at member
    split at member
    · rcases List.mem_cons.mp member with rfl | behind
      · simp
      · exact tail behind
    · rename_i other
      have apart : mark ≠ char := fun same => other (by simp [same])
      split at member
      · cases List.mem_singleton.mp member
        simpa using apart
      · rename_i first parts cut
        rw [cut] at tail
        rcases List.mem_cons.mp member with rfl | behind
        · simpa [apart] using tail List.mem_cons_self
        · exact tail (List.mem_cons_of_mem _ behind)

/-- A text is cut at a mark that the text before it does not hold. -/
theorem splitAt_append [LawfulBEq α] {mark : α} {first : List α}
    (apart : mark ∉ first) (rest : List α) :
    splitAt mark (first ++ mark :: rest) = first :: splitAt mark rest := by
  induction first with
  | nil => simp [splitAt]
  | cons char first tail =>
    obtain ⟨other, behind⟩ : mark ≠ char ∧ mark ∉ first := by simpa using apart
    rw [List.cons_append, splitAt, tail behind, if_neg (by simpa using Ne.symm other)]

/-- A text that does not hold the mark is one part. -/
theorem splitAt_of_not_mem [LawfulBEq α] {mark : α} {text : List α}
    (apart : mark ∉ text) : splitAt mark text = [text] := by
  induction text with
  | nil => rfl
  | cons char rest tail =>
    obtain ⟨other, behind⟩ : mark ≠ char ∧ mark ∉ rest := by simpa using apart
    rw [splitAt, tail behind, if_neg (by simpa using Ne.symm other)]

/-- The text before the first place of a mark, all of it if there is none. -/
def before (mark : CodePoint) (text : Text) : Text := text.takeWhile (· != mark)

/-- No mark stands before its first place. -/
theorem not_mem_before (mark : CodePoint) (text : Text) : mark ∉ before mark text := by
  intro member
  rw [before] at member
  have other := List.all_eq_true.mp List.all_takeWhile mark member
  simp at other

/-- The text from the first place of a mark on. -/
def startingAt (mark : CodePoint) (text : Text) : Text := text.dropWhile (· != mark)

/-- A text without a mark has other points only. -/
theorem points_ne {mark : CodePoint} {text : Text} (apart : mark ∉ text) :
    ∀ point ∈ text, (point != mark) = true := fun _ member =>
  bne_iff_ne.mpr fun same => apart (same ▸ member)

/-- The text before a mark ends where the mark stands. -/
theorem before_append {mark : CodePoint} {front : Text} (apart : mark ∉ front) (rest : Text) :
    before mark (front ++ mark :: rest) = front := by
  rw [before, List.takeWhile_append_of_pos (points_ne apart)]
  simp

/-- The text from a mark on starts where the mark stands. -/
theorem startingAt_append {mark : CodePoint} {front : Text} (apart : mark ∉ front) (rest : Text) :
    startingAt mark (front ++ mark :: rest) = mark :: rest := by
  rw [startingAt, List.dropWhile_append_of_pos (points_ne apart)]
  simp

/-- The text behind the first place of a mark. -/
def behind (mark : CodePoint) (text : Text) : Text := (startingAt mark text).drop 1

/-- The text behind the last place of a mark, all of it if there is none. -/
def behindLast (mark : CodePoint) (text : Text) : Text := (before mark text.reverse).reverse

/-- The text without some marks. -/
def without (marks : List CodePoint) (text : Text) : Text :=
  text.filter fun point => !marks.contains point

/-- The text without the marks at its end. -/
def withoutEnd (mark : CodePoint) (text : Text) : Text :=
  (text.reverse.dropWhile (· == mark)).reverse

/-- Whether a text starts with another. -/
def startsWith (start text : Text) : Bool := start.isPrefixOf text

/-- Whether a text ends with another. -/
def endsWith (ending text : Text) : Bool := ending.isSuffixOf text

/-- The lines of a text, cut at line feeds. -/
def lines (text : Text) : List Text := splitAt (.scalar '\n') text

/-- The text of lines, line feeds between them. -/
def unlines (lines : List Text) : Text := join "\n" lines

/-- Texts put together are cut again at the mark between them, if none of them holds it. -/
theorem splitAt_join {mark : CodePoint} {parts : List Text} (some : parts ≠ [])
    (apart : ∀ part ∈ parts, mark ∉ part) : splitAt mark (join [mark] parts) = parts := by
  induction parts with
  | nil => exact absurd rfl some
  | cons first rest tail =>
    obtain ⟨here, others⟩ := List.forall_mem_cons.mp apart
    cases rest with
    | nil => simpa [join] using splitAt_of_not_mem here
    | cons second more =>
      rw [join, List.intercalate_cons_cons, List.append_assoc, List.singleton_append,
        splitAt_append here]
      exact congrArg _ (tail (by simp) others)

/-- A line by itself is a text. -/
theorem unlines_singleton (line : Text) : unlines [line] = line := by
  simp [unlines, join]

/-- Between two lines there is a line feed. -/
theorem unlines_cons_cons (first second : Text) (rest : List Text) :
    unlines (first :: second :: rest) = first ++ .scalar '\n' :: unlines (second :: rest) := by
  have feed : ofString "\n" = [.scalar '\n'] := rfl
  simp [unlines, join, feed]

end SiteBuild.Text
