import Mathlib.Data.List.TakeWhile
import SiteBuild.Text.Blank
import SiteBuild.Text.Lowercase
import SiteBuild.Text.Utf8

/-!
# What small letters leave as it is

The small form of a text is read character by character: a capital becomes one or two other
characters, and whatever has no case stays. So a mark stands in the small form exactly if it stands
in the text (`mem_lower_iff`), and a blank at an end of the text is at that end of the small form.
Trimming a text and cutting it into words leave all that is not blank (`mem_trim_iff`,
`flatten_words`).
-/
namespace SiteBuild.Text

/-! ## Characters without a case -/

/-- Whether a code point has no case and is no small form either: a character of ASCII that is no
letter, or a lone surrogate. -/
def IsCaseless : CodePoint → Prop
  | .scalar char => char.toNat < 128 ∧ ¬(0x41 ≤ char.toNat ∧ char.toNat ≤ 0x5A) ∧
      ¬(0x61 ≤ char.toNat ∧ char.toNat ≤ 0x7A)
  | .surrogate _ => True

instance : (point : CodePoint) → Decidable (IsCaseless point)
  | .scalar char => inferInstanceAs (Decidable (char.toNat < 128 ∧ _ ∧ _))
  | .surrogate _ => inferInstanceAs (Decidable True)

/-- Where the capitals of the runs are, and their small forms: those of ASCII are its letters, and
all of them are characters. -/
theorem capitalRuns_bounds : ∀ run ∈ capitalRuns,
    (0x41 ≤ run.first ∧ run.last ≤ 0x5A ∧ run.shift = 32 ∨ 0x80 ≤ run.first) ∧
      0x61 ≤ run.first + run.shift ∧
      (run.last + run.shift ≤ 0x7A ∨ 0x80 ≤ run.first + run.shift) ∧
      (run.last + run.shift < 0xD800 ∨
        0xE000 ≤ run.first + run.shift ∧ run.last + run.shift < 0x110000) := by
  decide +kernel

/-- No blank is a capital. -/
theorem blankRanges_apart : ∀ range ∈ blankRanges, ∀ run ∈ capitalRuns,
    range.2 < run.first ∨ run.last < range.1 := by
  decide +kernel

/-- What is in no run of capitals stays. -/
theorem lowerChar_eq_self {char : Char}
    (outside : ∀ run ∈ capitalRuns, char.toNat < run.first ∨ run.last < char.toNat) :
    lowerChar char = char := by
  have none : capitalRuns.find? (·.contains char.toNat) = none := by
    refine List.find?_eq_none.mpr fun run member => ?_
    have apart := outside run member
    simp only [CapitalRun.contains, Bool.and_eq_true, decide_eq_true_eq]
    omega
  rw [lowerChar, none]

/-- A character either stays or becomes a letter or a character beyond ASCII. -/
theorem lowerChar_cases (char : Char) :
    lowerChar char = char ∨ 0x61 ≤ (lowerChar char).toNat ∧
      ((lowerChar char).toNat ≤ 0x7A ∨ 0x80 ≤ (lowerChar char).toNat) := by
  cases found : capitalRuns.find? (·.contains char.toNat) with
  | none => exact .inl (by rw [lowerChar, found])
  | some run =>
    have inside := List.find?_some found
    simp only [CapitalRun.contains, Bool.and_eq_true, decide_eq_true_eq] at inside
    obtain ⟨-, least, letter, valid⟩ := capitalRuns_bounds run (List.mem_of_find?_eq_some found)
    have number : (Char.ofNat (char.toNat + run.shift).toNat).toNat =
        (char.toNat + run.shift).toNat := by
      rw [Char.ofNat, dif_pos (by rw [Nat.isValidChar]; omega)]
      rfl
    rw [lowerChar, found]
    simp only [number]
    omega

/-- A character without a case is the small form of itself alone. -/
theorem lowerChar_eq_iff {char mark : Char} (caseless : IsCaseless (.scalar mark)) :
    lowerChar char = mark ↔ char = mark := by
  obtain ⟨ascii, outside⟩ := caseless
  constructor
  · rintro rfl
    rcases lowerChar_cases char with same | letter
    · exact same.symm
    · omega
  · rintro rfl
    refine lowerChar_eq_self fun run member => ?_
    have bounds := (capitalRuns_bounds run member).1
    omega

/-- No blank has a small form. -/
theorem lowerChar_of_isBlank {char : Char} (blank : isBlank (.scalar char) = true) :
    lowerChar char = char := by
  obtain ⟨range, member, inside⟩ := List.any_eq_true.mp blank
  simp only [Bool.and_eq_true, decide_eq_true_eq] at inside
  refine lowerChar_eq_self fun run capital => ?_
  have apart := blankRanges_apart range member run capital
  omega

/-! ## Texts, character by character -/

/-- What the first character of a text becomes: itself, if it has no case or is a blank, and no
other character without a case. -/
theorem lowerFrom_cons (before : Text) (point : CodePoint) (rest : Text) :
    ∃ shown, lowerFrom before (point :: rest) = shown ++ lowerFrom (point :: before) rest ∧
      (IsCaseless point ∨ isBlank point = true → shown = [point]) ∧
      ∀ mark ∈ shown, IsCaseless mark → mark = point := by
  have noCase (char : Char) (cased : ¬IsCaseless (.scalar char))
      (solid : isBlank (.scalar char) = false) :
      ¬(IsCaseless (.scalar char) ∨ isBlank (.scalar char) = true) := by
    rintro (caseless | blank)
    · exact cased caseless
    · rw [solid] at blank
      cases blank
  by_cases dotted : point = .scalar '\u0130'
  · subst dotted
    refine ⟨['i', '\u0307'], by rw [lowerFrom]; rfl, fun kept => ?_, ?_⟩
    · exact absurd kept (noCase '\u0130' (by decide) (by decide))
    · decide
  by_cases sigma : point = .scalar '\u03a3'
  · subst sigma
    refine ⟨[.scalar (lowerSigma before rest)], by rw [lowerFrom]; rfl, fun kept => ?_, ?_⟩
    · exact absurd kept (noCase '\u03a3' (by decide) (by decide))
    · rintro mark member caseless
      rw [List.mem_singleton.mp member, lowerSigma] at caseless
      split at caseless <;> exact absurd caseless (by decide)
  cases point with
  | surrogate index =>
    refine ⟨[.surrogate index], by simp [lowerFrom], fun _ => rfl, fun mark member _ => ?_⟩
    exact List.mem_singleton.mp member
  | scalar char =>
    refine ⟨[.scalar (lowerChar char)], ?_, ?_, ?_⟩
    · rw [lowerFrom]
      · rfl
      · intro same
        exact dotted (congrArg CodePoint.scalar same)
      · intro same
        exact sigma (congrArg CodePoint.scalar same)
    · rintro (caseless | blank)
      · rw [(lowerChar_eq_iff caseless).mpr rfl]
      · rw [lowerChar_of_isBlank blank]
    · intro mark member caseless
      obtain rfl := List.mem_singleton.mp member
      have same : char = lowerChar char := (lowerChar_eq_iff caseless).mp rfl
      rw [← same]

/-- What the front of a text becomes stands in front of what becomes of the rest. -/
theorem lowerFrom_append (before front rest : Text) :
    ∃ shown, lowerFrom before (front ++ rest) =
      shown ++ lowerFrom (front.reverse ++ before) rest := by
  induction front generalizing before with
  | nil => exact ⟨[], rfl⟩
  | cons point front tail =>
    obtain ⟨first, here, -⟩ := lowerFrom_cons before point (front ++ rest)
    obtain ⟨shown, behind⟩ := tail (point :: before)
    refine ⟨first ++ shown, ?_⟩
    rw [List.cons_append, here, behind]
    simp

/-- A mark stands in the small form of a text exactly if it stands in the text. -/
theorem mem_lower_iff {mark : CodePoint} (caseless : IsCaseless mark) (text : Text) :
    mark ∈ lower text ↔ mark ∈ text := by
  suffices from_ : ∀ before, mark ∈ lowerFrom before text ↔ mark ∈ text from from_ []
  induction text with
  | nil => exact fun _ => .rfl
  | cons point rest tail =>
    intro before
    obtain ⟨shown, here, stays, others⟩ := lowerFrom_cons before point rest
    rw [here, List.mem_append, tail, List.mem_cons]
    refine or_congr ⟨fun member => others mark member caseless, ?_⟩ .rfl
    rintro rfl
    rw [stays (.inl caseless)]
    exact List.mem_singleton_self mark

/-- A blank at the start of a text is at the start of the small form. -/
theorem head?_lower_of_isBlank {point : CodePoint} (blank : isBlank point = true) (rest : Text) :
    (lower (point :: rest)).head? = some point := by
  obtain ⟨shown, here, stays, -⟩ := lowerFrom_cons [] point rest
  rw [lower, here, stays (.inr blank)]
  rfl

/-- A blank at the end of a text is at the end of the small form. -/
theorem getLast?_lower_of_isBlank {point : CodePoint} (blank : isBlank point = true)
    (front : Text) : (lower (front ++ [point])).getLast? = some point := by
  obtain ⟨shown, here⟩ := lowerFrom_append [] front [point]
  obtain ⟨last, there, stays, -⟩ := lowerFrom_cons (front.reverse ++ []) point []
  rw [lower, here, there, stays (.inr blank), lowerFrom, List.append_nil, List.getLast?_append]
  rfl

/-! ## Trimming, words and joining -/

/-- Trimming leaves what is not blank. -/
theorem mem_trim_iff {point : CodePoint} (solid : isBlank point = false) (text : Text) :
    point ∈ trim text ↔ point ∈ text := by
  have start (text : Text) : point ∈ text.dropWhile isBlank ↔ point ∈ text := by
    refine ⟨fun member => (List.dropWhile_sublist isBlank).mem member, fun member => ?_⟩
    rw [← List.takeWhile_append_dropWhile (p := isBlank) (l := text), List.mem_append] at member
    refine member.resolve_left fun blank => ?_
    rw [List.all_eq_true.mp List.all_takeWhile point blank] at solid
    cases solid
  rw [trim, trimEnd, List.mem_reverse, start, List.mem_reverse, trimStart, start]

/-- Whether a text neither starts nor ends with a blank. -/
structure IsTight (text : Text) : Prop where
  start : ∀ point ∈ text.head?, isBlank point = false
  stop : ∀ point ∈ text.getLast?, isBlank point = false

/-- Trimming takes the blanks around a text away. -/
theorem trim_append {before core behind : Text} (front : ∀ point ∈ before, isBlank point = true)
    (rear : ∀ point ∈ behind, isBlank point = true) (tight : IsTight core) :
    trim (before ++ core ++ behind) = core := by
  have start : (core ++ behind).dropWhile isBlank = [] ∧ core = [] ∨
      (core ++ behind).dropWhile isBlank = core ++ behind := by
    cases core with
    | nil => exact .inl ⟨List.dropWhile_eq_nil_iff.mpr rear, rfl⟩
    | cons first others =>
      have solid := tight.start first rfl
      exact .inr (by rw [List.cons_append, List.dropWhile_cons, if_neg (by simp [solid])])
  have stop : core.reverse.dropWhile isBlank = core.reverse := by
    cases shape : core.reverse with
    | nil => rfl
    | cons last others =>
      have solid := tight.stop last (by rw [← List.head?_reverse, shape]; rfl)
      rw [List.dropWhile_cons, if_neg (by simp [solid])]
  rw [trim, trimStart, List.append_assoc, List.dropWhile_append_of_pos front]
  rcases start with ⟨none, rfl⟩ | kept
  · rw [none]
    rfl
  · rw [kept, trimEnd, List.reverse_append, List.dropWhile_append_of_pos, stop,
      List.reverse_reverse]
    exact fun point member => rear point (List.mem_reverse.mp member)

/-- The words of a text are what is not blank in it. -/
theorem flatten_words (text : Text) : (words text).flatten = text.filter (!isBlank ·) := by
  suffices from_ : ∀ run, (wordsFrom text run).flatten = run.reverse ++ text.filter (!isBlank ·)
    from from_ []
  induction text with
  | nil =>
    intro run
    cases run <;> simp [wordsFrom]
  | cons point rest tail =>
    intro run
    rw [wordsFrom, List.filter_cons]
    cases blank : isBlank point with
    | false => simp [tail]
    | true =>
      cases run with
      | nil => simpa using tail []
      | cons last others => simp [tail]

/-- What stands in texts that are put together stands in one of them or in the separator. -/
theorem mem_of_mem_join {point : CodePoint} {separator : Text} {parts : List Text}
    (member : point ∈ join separator parts) :
    point ∈ separator ∨ ∃ part ∈ parts, point ∈ part := by
  induction parts with
  | nil => cases member
  | cons part others tail =>
    cases others with
    | nil => exact .inr ⟨part, List.mem_singleton_self part, by simpa [join] using member⟩
    | cons next others =>
      rw [join, List.intercalate_cons_cons, List.mem_append, List.mem_append] at member
      rcases member with (here | between) | behind
      · exact .inr ⟨part, List.mem_cons_self, here⟩
      · exact .inl between
      · obtain between | ⟨other, among, inside⟩ := tail behind
        · exact .inl between
        · exact .inr ⟨other, List.mem_cons_of_mem part among, inside⟩

/-- What stands in one of the texts that are put together stands in the whole. -/
theorem mem_join {point : CodePoint} {separator part : Text} {parts : List Text}
    (among : part ∈ parts) (member : point ∈ part) : point ∈ join separator parts := by
  induction parts with
  | nil => cases among
  | cons first others tail =>
    cases others with
    | nil =>
      obtain rfl := List.mem_singleton.mp among
      simpa [join] using member
    | cons next others =>
      rw [join, List.intercalate_cons_cons, List.mem_append, List.mem_append]
      rcases List.mem_cons.mp among with rfl | behind
      · exact .inl (.inl member)
      · exact .inr (tail behind)

end SiteBuild.Text
