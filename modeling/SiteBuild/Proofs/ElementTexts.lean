import Mathlib.Data.List.Induction
import Mathlib.Data.List.Infix
import SiteBuild.Text.Search

/-!
# Texts of elements

How a tokenizer reads the text of an element that holds no markup, character by character, from
behind its start tag on: in the text of a style element only the end tag counts, in that of a
script element also comments, and scripts within comments. The states are those of the HTML
standard. Main statements: text in front of the place where an element is left is read by itself
(`leave?_append`), and the one end tag that counts (`RawText.leave?_endTag_iff`).
-/
namespace SiteBuild.Html

/-- A text whose line ends are line feeds, which is what a tokenizer reads. -/
def lineFeeds : Text → Text
  | [] => []
  | .scalar '\r' :: .scalar '\n' :: rest => .scalar '\n' :: lineFeeds rest
  | .scalar '\r' :: rest => .scalar '\n' :: lineFeeds rest
  | point :: rest => point :: lineFeeds rest

/-- A point that is no carriage return stays as it is. -/
theorem lineFeeds_cons {point : CodePoint} (other : point ≠ .scalar '\r') (rest : Text) :
    lineFeeds (point :: rest) = point :: lineFeeds rest := by
  rw [lineFeeds]
  · exact fun _ same => absurd same other
  · exact other

/-- A text without carriage returns stays as it is. -/
theorem lineFeeds_append_of_not_mem {text : Text} (none : .scalar '\r' ∉ text) (rest : Text) :
    lineFeeds (text ++ rest) = text ++ lineFeeds rest := by
  induction text with
  | nil => rfl
  | cons point text tail =>
    obtain ⟨other, others⟩ : point ≠ .scalar '\r' ∧ .scalar '\r' ∉ text := by
      simpa [eq_comm] using none
    rw [List.cons_append, lineFeeds_cons other, tail others, List.cons_append]

/-- A text without carriage returns has line feeds for its line ends. -/
theorem lineFeeds_of_not_mem {text : Text} (none : .scalar '\r' ∉ text) :
    lineFeeds text = text := by
  simpa [lineFeeds] using lineFeeds_append_of_not_mem none []

/-- Texts one behind the other are read one by one, if no line end runs over both. -/
theorem lineFeeds_append {second : Text} (apart : second.head? ≠ some (.scalar '\n'))
    (first : Text) : lineFeeds (first ++ second) = lineFeeds first ++ lineFeeds second := by
  fun_induction lineFeeds first with
  | case1 => rfl
  | case2 rest tail => rw [List.cons_append, List.cons_append, lineFeeds, tail, List.cons_append]
  | case3 rest bare tail =>
    have next : (rest ++ second).head? ≠ some (.scalar '\n') := by
      cases rest with
      | nil => exact apart
      | cons point rest =>
        rintro same
        cases same
        exact bare rest rfl
    rw [List.cons_append, List.cons_append, ← tail, lineFeeds]
    intro other same
    rw [same] at next
    exact next rfl
  | case4 point rest pair single tail =>
    have other : point ≠ .scalar '\r' := single
    rw [List.cons_append, lineFeeds_cons other, tail, List.cons_append]

/-- Whether a point is a letter of the Latin alphabet. -/
def isLetter (point : CodePoint) : Bool := point.satisfies Char.isAlpha

/-- A point with a capital letter of the Latin alphabet as a small one. -/
def lowered : CodePoint → CodePoint
  | .scalar char => .scalar char.toLower
  | point => point

/-- A character is a small letter for a capital one, or the same. -/
theorem toLower_cases (char : Char) :
    (char.isAlpha = true ∧ char.toLower.isAlpha = true) ∨ char.toLower = char := by
  by_cases capital : char.val ≥ 'A'.val ∧ char.val ≤ 'Z'.val
  · left
    have low : 65 ≤ char.val.toNat := capital.1
    have high : char.val.toNat ≤ 90 := capital.2
    have gap : ('a'.val - 'A'.val).toNat = 32 := rfl
    have small : char.toLower.val.toNat = char.val.toNat + 32 := by
      have same : char.toLower.val = char.val + ('a'.val - 'A'.val) :=
        congrArg Char.val (dif_pos capital)
      rw [same, UInt32.toNat_add, gap]
      omega
    have first : 'a'.val ≤ char.toLower.val := UInt32.le_iff_toNat_le.mpr (by
      rw [small, show 'a'.val.toNat = 97 from rfl]
      omega)
    have last : char.toLower.val ≤ 'z'.val := UInt32.le_iff_toNat_le.mpr (by
      rw [small, show 'z'.val.toNat = 122 from rfl]
      omega)
    have isSmall : char.toLower.isLower = true :=
      Bool.and_eq_true_iff.mpr ⟨decide_eq_true first, decide_eq_true last⟩
    exact ⟨Bool.or_eq_true_iff.mpr (.inl (decide_eq_true capital)),
      Bool.or_eq_true_iff.mpr (.inr isSmall)⟩
  · exact .inr (dif_neg capital)

/-- A letter is one in small letters as well. -/
@[simp] theorem isLetter_lowered (point : CodePoint) :
    isLetter (lowered point) = isLetter point := by
  cases point with
  | surrogate index => rfl
  | scalar char =>
    change char.toLower.isAlpha = char.isAlpha
    rcases toLower_cases char with ⟨letter, small⟩ | same
    · rw [letter, small]
    · rw [same]

/-- What is no letter is the same in small letters. -/
theorem lowered_of_not_isLetter {point : CodePoint} (noLetter : isLetter point = false) :
    lowered point = point := by
  cases point with
  | surrogate index => rfl
  | scalar char =>
    rcases toLower_cases char with ⟨letter, -⟩ | same
    · cases letter.symm.trans noLetter
    · exact congrArg CodePoint.scalar same

/-- A mark that is no letter is only found in small letters where it was before. -/
theorem eq_of_lowered_eq {point mark : CodePoint} (same : lowered point = mark)
    (noLetter : isLetter mark = false) : point = mark := by
  rw [← same, isLetter_lowered] at noLetter
  rwa [lowered_of_not_isLetter noLetter] at same

/-- Marks that are no letters stand in small letters only for themselves. -/
theorem eq_of_map_lowered {raw marks : Text} (same : raw.map lowered = marks)
    (noLetters : ∀ mark ∈ marks, isLetter mark = false) : raw = marks := by
  subst same
  rw [List.forall_mem_map] at noLetters
  have each : ∀ point ∈ raw, lowered point = point := fun point member =>
    lowered_of_not_isLetter (by simpa using noLetters point member)
  rw [List.map_congr_left each, List.map_id']

/-- Whether a text ends with what is given in small letters. -/
def EndsLowered (text ending : Text) : Prop := ∃ raw, raw <:+ text ∧ raw.map lowered = ending

/-- Whether the name of a tag ends before a point. -/
def isNameEnd (point : CodePoint) : Bool :=
  ([.scalar '\t', .scalar '\n', .scalar '\x0c', .scalar ' ', .scalar '/', .scalar '>'] :
    Text).contains point

/-- No name of a tag ends before a letter. -/
theorem isNameEnd_of_isLetter {point : CodePoint} (letter : isLetter point = true) :
    isNameEnd point = false := by
  have marks : ∀ point, isNameEnd point = true → isLetter point = false := by
    simp only [isNameEnd, List.contains_iff_mem]
    decide
  rw [← Bool.not_eq_true]
  intro ends
  rw [marks point ends] at letter
  cases letter

/-- How what was read of a tag goes on behind a point: it is dropped, started or kept. -/
def Continues (pending : Text) (point : CodePoint) (next : Text) : Prop :=
  next = [] ∨ next = [lowered point] ∨ next = pending ++ [lowered point]

/-- What was read of a tag stands at the end of the text. -/
theorem Continues.endsLowered {pending next : Text} {point : CodePoint}
    (goes : Continues pending point next) {text : Text} (ends : EndsLowered text pending) :
    EndsLowered (text ++ [point]) next := by
  rcases goes with none | one | more
  · exact ⟨[], List.nil_suffix, none.symm⟩
  · exact ⟨[point], List.suffix_append _ _, one.symm⟩
  · obtain ⟨raw, ⟨front, rfl⟩, same⟩ := ends
    exact ⟨raw ++ [point], ⟨front, by simp⟩, by rw [List.map_append, same, more]; rfl⟩

/-! ## Leaving an element -/

section Leaving

variable {σ : Type} (step : σ → CodePoint → Option σ)

/-- The text behind the point at which the text of an element ends, if it does. A step gives no
state behind the name of the end tag. -/
def leave? (state : σ) : Text → Option Text
  | [] => none
  | point :: rest =>
    match step state point with
    | none => some rest
    | some next => leave? next rest

/-- Text that does not end the text of an element is read by itself. -/
theorem leave?_append {state next : σ} {front : Text}
    (inside : front.foldlM step state = some next) (rest : Text) :
    leave? step state (front ++ rest) = leave? step next rest := by
  induction front generalizing state with
  | nil =>
    cases inside
    rfl
  | cons point front tail =>
    rw [List.foldlM_cons] at inside
    rw [List.cons_append, leave?]
    cases made : step state point with
    | none =>
      rw [made] at inside
      cases inside
    | some between =>
      rw [made] at inside
      exact tail inside

/-- Text in which the text of an element ends is read no further than to its end. -/
theorem exists_leave? {state : σ} {front : Text} (left : front.foldlM step state = none) :
    ∃ behind, ∀ rest, leave? step state (front ++ rest) = some (behind ++ rest) := by
  induction front generalizing state with
  | nil => cases left
  | cons point front tail =>
    rw [List.foldlM_cons] at left
    cases made : step state point with
    | none => exact ⟨front, fun rest => by rw [List.cons_append, leave?, made]⟩
    | some next =>
      rw [made] at left
      obtain ⟨behind, ends⟩ := tail left
      exact ⟨behind, fun rest => by rw [List.cons_append, leave?, made]; exact ends rest⟩

end Leaving

/-! ## Style elements -/

/-- The states of a tokenizer in the text of a style element. -/
inductive RawText where
  /-- In the text. -/
  | text
  /-- Behind a less-than sign. -/
  | lessThan
  /-- Behind the slash of an end tag. -/
  | endTagOpen
  /-- In the name of an end tag. -/
  | endTagName (name : Text)
  deriving DecidableEq, Repr

namespace RawText

/-- Read a point in the text. -/
def read (point : CodePoint) : RawText := if point == '<' then .lessThan else .text

/-- Read a point; the end tag is that of the element with a name. -/
def step (name : Text) (state : RawText) (point : CodePoint) : Option RawText :=
  match state with
  | .text => some (read point)
  | .lessThan => some (if point == '/' then .endTagOpen else read point)
  | .endTagOpen =>
    some (if isLetter point then .endTagName [lowered point] else read point)
  | .endTagName tag =>
    if isNameEnd point && tag == name then none
    else some (if isLetter point then .endTagName (tag ++ [lowered point]) else read point)

/-- What was read of an end tag, in small letters. -/
def pending : RawText → Text
  | .text => []
  | .lessThan => "<"
  | .endTagOpen => "</"
  | .endTagName name => "</" ++ name

/-- Whether a text is an end tag of the elements with a name, up to the point behind the name. -/
def IsEndTag (name word : Text) : Prop :=
  ∃ tag mark, tag.map lowered = "</" ++ name ∧ isNameEnd mark = true ∧ word = tag ++ [mark]

/-- A point in the text starts an end tag, or none is read. -/
theorem continues_read (before : Text) (point : CodePoint) :
    Continues before point (read point).pending := by
  unfold read
  split
  · rename_i less
    cases (beq_iff_eq.mp less)
    exact .inr (.inl rfl)
  · exact .inl rfl

/-- What was read of an end tag goes on, or its name ends. -/
theorem continues_step (name : Text) (state : RawText) (point : CodePoint) :
    match step name state point with
    | some next => Continues state.pending point next.pending
    | none => state = .endTagName name ∧ isNameEnd point = true := by
  cases state with
  | text => exact continues_read _ point
  | lessThan =>
    simp only [step]
    split
    · rename_i slash
      cases (beq_iff_eq.mp slash)
      exact .inr (.inr rfl)
    · exact continues_read _ point
  | endTagOpen =>
    simp only [step]
    split
    · exact .inr (.inr rfl)
    · exact continues_read _ point
  | endTagName tag =>
    by_cases ends : (isNameEnd point && tag == name) = true
    · simp only [step, if_pos ends]
      simpa [and_comm] using ends
    · simp only [step, if_neg ends]
      split
      · exact .inr (.inr (by simp [pending]))
      · exact continues_read _ point

/-- Letters are read as the name of an end tag. -/
theorem foldlM_letters {letters : Text} (all : ∀ letter ∈ letters, isLetter letter = true)
    (name tag : Text) :
    letters.foldlM (step name) (.endTagName tag) =
      some (.endTagName (tag ++ letters.map lowered)) := by
  induction letters generalizing tag with
  | nil => simp [pure]
  | cons letter letters tail =>
    obtain ⟨here, others⟩ := List.forall_mem_cons.mp all
    have next : step name (.endTagName tag) letter =
        some (.endTagName (tag ++ [lowered letter])) := by
      simp [step, isNameEnd_of_isLetter here, here]
    rw [List.foldlM_cons, next]
    simpa using tail others (tag ++ [lowered letter])

/-- The name of an end tag is read behind its opening. -/
theorem foldlM_name {name letters : Text} (all : ∀ letter ∈ letters, isLetter letter = true)
    (named : letters ≠ []) (state : RawText) :
    (.scalar '<' :: .scalar '/' :: letters).foldlM (step name) state =
      some (.endTagName (letters.map lowered)) := by
  have opened : step name state (.scalar '<') = some .lessThan := by cases state <;> rfl
  obtain ⟨letter, more, rfl⟩ := List.exists_cons_of_ne_nil named
  obtain ⟨here, others⟩ := List.forall_mem_cons.mp all
  have started : step name .endTagOpen letter = some (.endTagName [lowered letter]) := by
    simp [step, here]
  rw [List.foldlM_cons, opened]
  change (letter :: more).foldlM (step name) .endTagOpen = _
  rw [List.foldlM_cons, started]
  exact foldlM_letters others name [lowered letter]

/-- An element is left at the end of its end tag, if not before. -/
theorem foldlM_endTag {name word : Text} (letters : ∀ letter ∈ name, isLetter letter = true)
    (named : name ≠ []) (endTag : IsEndTag name word) (state : RawText) :
    word.foldlM (step name) state = none := by
  obtain ⟨tag, mark, spelled, ends, rfl⟩ := endTag
  have opening : Text.ofString "</" ++ name = .scalar '<' :: .scalar '/' :: name := rfl
  rw [opening] at spelled
  obtain ⟨first, more, rfl, less, behind⟩ := List.map_eq_cons_iff.mp spelled
  obtain ⟨second, tag, rfl, slash, same⟩ := List.map_eq_cons_iff.mp behind
  cases eq_of_lowered_eq less rfl
  cases eq_of_lowered_eq slash rfl
  have all : ∀ letter ∈ tag, isLetter letter = true := by
    rw [← same, List.forall_mem_map] at letters
    simpa using letters
  have some : tag ≠ [] := by
    rintro rfl
    exact named same.symm
  rw [List.foldlM_append, foldlM_name all some, same]
  simp [step, ends]

/-- What was read is the end of an end tag behind which the element is left, or what is pending
stands at its end. -/
theorem endsLowered_foldlM {name text : Text} :
    match text.foldlM (step name) .text with
    | some state => EndsLowered text state.pending
    | none => ∃ word, IsEndTag name word ∧ word <:+: text := by
  induction text using List.reverseRecOn with
  | nil => exact ⟨[], List.nil_suffix, rfl⟩
  | append_singleton text point tail =>
    rw [List.foldlM_append]
    cases read : text.foldlM (step name) .text with
    | none =>
      rw [read] at tail
      obtain ⟨word, endTag, inside⟩ := tail
      exact ⟨word, endTag, inside.trans (List.prefix_append _ _).isInfix⟩
    | some state =>
      rw [read] at tail
      have goes := continues_step name state point
      cases made : step name state point with
      | some next =>
        rw [made] at goes
        simpa [made] using goes.endsLowered tail
      | none =>
        rw [made] at goes
        obtain ⟨rfl, ends⟩ := goes
        obtain ⟨raw, ⟨front, rfl⟩, same⟩ := tail
        have stops : (some (endTagName name) >>= fun state => [point].foldlM (step name) state) =
            none := by simp [made]
        rw [stops]
        exact ⟨raw ++ [point], ⟨raw, point, same, ends, rfl⟩, front, [], by simp⟩

/-- A text with an end tag is left before its end. -/
theorem foldlM_of_endTag {name text word : Text} (letters : ∀ letter ∈ name, isLetter letter = true)
    (named : name ≠ []) (endTag : IsEndTag name word) (inside : word <:+: text)
    (state : RawText) : text.foldlM (step name) state = none := by
  obtain ⟨front, behind, rfl⟩ := inside
  rw [List.foldlM_append, List.foldlM_append]
  cases front.foldlM (step name) state with
  | none => rfl
  | some between =>
    change (word.foldlM (step name) between >>= _) = none
    rw [foldlM_endTag letters named endTag]
    rfl

/-- **End tags.** An element whose text ends in a mark that belongs to no tag is left exactly at the
end tag behind it, if there is no end tag in the text. -/
theorem leave?_endTag_iff {name front : Text} (letters : ∀ letter ∈ name, isLetter letter = true)
    (small : name.map lowered = name) (named : name ≠ []) {last : CodePoint}
    (mark : isLetter last = false ∧ last ∉ ([.scalar '<', .scalar '/'] : Text)) (rest : Text) :
    leave? (step name) .text (front ++ [last] ++ ("</" ++ name ++ ">" ++ rest)) = some rest ↔
      ¬∃ word, IsEndTag name word ∧ word <:+: front ++ [last] := by
  obtain ⟨noLetter, noMark⟩ := mark
  have noLess : (last == .scalar '<') = false := by
    rw [beq_eq_false_iff_ne]
    rintro rfl
    exact noMark (by simp)
  have noSlash : (last == .scalar '/') = false := by
    rw [beq_eq_false_iff_ne]
    rintro rfl
    exact noMark (by simp)
  have whole := @endsLowered_foldlM name (front ++ [last])
  cases read : (front ++ [last]).foldlM (step name) .text with
  | none =>
    rw [read] at whole
    obtain ⟨behind, ends⟩ := exists_leave? (step name) read
    rw [ends, Option.some.injEq]
    refine ⟨fun same => ?_, fun none => absurd whole none⟩
    have longer := congrArg List.length same
    simp only [List.length_append] at longer
    have some : 0 < (Text.ofString ">").length := by decide
    omega
  | some state =>
    have settled : state = .text := by
      rw [List.foldlM_append] at read
      cases before : front.foldlM (step name) .text with
      | none =>
        rw [before] at read
        cases read
      | some between =>
        rw [before] at read
        have last_step : step name between last = some state := by simpa using read
        cases between with
        | endTagName tag =>
          simp only [step] at last_step
          split at last_step
          · cases last_step
          · simpa [noLetter, RawText.read, noLess] using last_step.symm
        | _ => simpa [step, noLetter, noSlash, RawText.read, noLess] using last_step.symm
    have none : ¬∃ word, IsEndTag name word ∧ word <:+: front ++ [last] := by
      rintro ⟨word, endTag, inside⟩
      rw [foldlM_of_endTag letters named endTag inside] at read
      cases read
    subst settled
    have tag : Text.ofString "</" ++ name ++ ">" ++ rest =
        (.scalar '<' :: .scalar '/' :: name) ++ .scalar '>' :: rest := by
      simp [show Text.ofString "</" = [.scalar '<', .scalar '/'] from rfl,
        show Text.ofString ">" = [.scalar '>'] from rfl]
    have ends : isNameEnd (.scalar '>') = true := rfl
    rw [leave?_append _ read, tag, leave?_append _ (foldlM_name letters named .text), small]
    simp only [none, not_false_eq_true, iff_true]
    simp [leave?, step, ends]

end RawText

/-! ## Script elements -/

/-- The states of a tokenizer in the text of a script element. -/
inductive ScriptData where
  /-- In the text. -/
  | data
  /-- Behind a less-than sign. -/
  | lessThan
  /-- Behind the slash of an end tag. -/
  | endTagOpen
  /-- In the name of an end tag. -/
  | endTagName (name : Text)
  /-- Behind the exclamation mark that may open a comment. -/
  | escapeStart
  /-- Behind the first dash that may open a comment. -/
  | escapeStartDash
  /-- In a comment. -/
  | escaped
  /-- Behind a dash of a comment. -/
  | escapedDash
  /-- Behind two dashes of a comment. -/
  | escapedDashDash
  /-- Behind a less-than sign of a comment. -/
  | escapedLessThan
  /-- Behind the slash of an end tag in a comment. -/
  | escapedEndTagOpen
  /-- In the name of an end tag in a comment. -/
  | escapedEndTagName (name : Text)
  /-- In the name of a start tag in a comment. -/
  | doubleEscapeStart (name : Text)
  /-- In a script within a comment. -/
  | doubleEscaped
  /-- Behind a dash of a script within a comment. -/
  | doubleEscapedDash
  /-- Behind two dashes of a script within a comment. -/
  | doubleEscapedDashDash
  /-- Behind a less-than sign of a script within a comment. -/
  | doubleEscapedLessThan
  /-- In the name of an end tag of a script within a comment. -/
  | doubleEscapeEnd (name : Text)
  deriving DecidableEq, Repr

namespace ScriptData

/-- The name of script elements. -/
def scriptName : Text := "script"

/-- Read a point in the text. -/
def readData (point : CodePoint) : ScriptData := if point == '<' then .lessThan else .data

/-- Read a point in a comment. -/
def readEscaped (point : CodePoint) : ScriptData :=
  if point == '-' then .escapedDash else if point == '<' then .escapedLessThan else .escaped

/-- Read a point in a script within a comment. -/
def readDoubleEscaped (point : CodePoint) : ScriptData :=
  if point == '-' then .doubleEscapedDash
  else if point == '<' then .doubleEscapedLessThan else .doubleEscaped

/-- Read a point. -/
def step (state : ScriptData) (point : CodePoint) : Option ScriptData :=
  match state with
  | .data => some (readData point)
  | .lessThan =>
    some (if point == '/' then .endTagOpen
      else if point == '!' then .escapeStart else readData point)
  | .endTagOpen =>
    some (if isLetter point then .endTagName [lowered point] else readData point)
  | .endTagName name =>
    if isNameEnd point && name == scriptName then none
    else some (if isLetter point then .endTagName (name ++ [lowered point]) else readData point)
  | .escapeStart => some (if point == '-' then .escapeStartDash else readData point)
  | .escapeStartDash => some (if point == '-' then .escapedDashDash else readData point)
  | .escaped => some (readEscaped point)
  | .escapedDash => some (if point == '-' then .escapedDashDash else readEscaped point)
  | .escapedDashDash =>
    some (if point == '-' then .escapedDashDash
      else if point == '>' then .data else readEscaped point)
  | .escapedLessThan =>
    some (if point == '/' then .escapedEndTagOpen
      else if isLetter point then .doubleEscapeStart [lowered point] else readEscaped point)
  | .escapedEndTagOpen =>
    some (if isLetter point then .escapedEndTagName [lowered point] else readEscaped point)
  | .escapedEndTagName name =>
    if isNameEnd point && name == scriptName then none
    else some (if isLetter point then .escapedEndTagName (name ++ [lowered point])
      else readEscaped point)
  | .doubleEscapeStart name =>
    some (if isNameEnd point then (if name == scriptName then .doubleEscaped else .escaped)
      else if isLetter point then .doubleEscapeStart (name ++ [lowered point])
      else readEscaped point)
  | .doubleEscaped => some (readDoubleEscaped point)
  | .doubleEscapedDash =>
    some (if point == '-' then .doubleEscapedDashDash else readDoubleEscaped point)
  | .doubleEscapedDashDash =>
    some (if point == '-' then .doubleEscapedDashDash
      else if point == '>' then .data else readDoubleEscaped point)
  | .doubleEscapedLessThan =>
    some (if point == '/' then .doubleEscapeEnd [] else readDoubleEscaped point)
  | .doubleEscapeEnd name =>
    some (if isNameEnd point then (if name == scriptName then .escaped else .doubleEscaped)
      else if isLetter point then .doubleEscapeEnd (name ++ [lowered point])
      else readDoubleEscaped point)

end ScriptData
end SiteBuild.Html
