import Mathlib.Data.List.Infix
import Mathlib.Data.List.TakeWhile
import SiteBuild.Component.GlobalStyle
import SiteBuild.Proofs.ElementTexts
import SiteBuild.Proofs.Spelling

/-!
# Style elements

The text of a component as its style elements and what is written between them. The attributes of an
element have names, and values with quotes or without, and an element is global if one of the names
is that word in either case. The attribute is looked for by its spelling alone, so an element is
evident if the spelling shows what is meant: no other attribute of a global element looks like the
end of the tag or, in front of the attribute, like the attribute itself, and nothing in another
element looks like a global one. Main statement: if all elements are evident, the rules of those
that are global are enclosed, with their other attributes kept, and all else is left as it is
(`encloseGlobalStyles_styled`).
-/
namespace SiteBuild.Component

open Script (Quote)

/-! ## Words -/

/-- A code point in the case that words are compared in: small, the long s as an s. -/
def folded (point : CodePoint) : CodePoint :=
  if point = .scalar '\u017f' then .scalar 's' else Html.lowered point

/-- Whether a text starts with a word, in either case. -/
def startsWithWord (word text : Text) : Bool := (text.take word.length).map folded == word

/-- Whether a word is somewhere in a text, in either case. -/
def holdsWord (word text : Text) : Bool := text.tails.any (startsWithWord word)

/-! ## Attributes -/

/-- The blanks that separate attributes. -/
def separators : Text := [.scalar '\t', .scalar '\n', .scalar '\x0c', .scalar '\r', .scalar ' ']

/-- What is written as the value of an attribute. -/
inductive AttributeValue where
  /-- A value without quotes. -/
  | bare (text : Text) (nonempty : text ≠ [])
    (points : ∀ point ∈ text, point ∉ separators ++ [.scalar '\x22', .scalar '\x27', .scalar '=',
      .scalar '<', .scalar '>', .scalar '\x60'])
  /-- A value in quotes. -/
  | quoted (quote : Quote) (text : Text) (closed : quote.point ∉ text)

/-- The characters of a value. -/
def AttributeValue.text : AttributeValue → Text
  | .bare text _ _ => text
  | .quoted quote text _ => quote.point :: (text ++ [quote.point])

/-- Whether a value does not end before it is meant to: without quotes it has no white space. -/
def AttributeValue.isWhole : AttributeValue → Bool
  | .bare text _ _ => !text.any Text.isBlank
  | .quoted _ _ _ => true

/-- An equals sign between blanks, and a value. -/
structure Assignment where
  /-- The blanks in front of the sign. -/
  before : Text
  /-- The blanks behind it. -/
  after : Text
  /-- The value. -/
  value : AttributeValue
  /-- There are blanks only. -/
  blanks : ∀ point ∈ before ++ after, point ∈ separators

/-- The characters of an assignment. -/
def Assignment.text (assignment : Assignment) : Text :=
  assignment.before ++ .scalar '=' :: (assignment.after ++ assignment.value.text)

/-- Whether an assignment can be told from other attributes: it has no blanks. -/
def Assignment.isTight (assignment : Assignment) : Bool :=
  assignment.before.isEmpty && assignment.after.isEmpty && assignment.value.isWhole

/-- An attribute, and what separates it from what is before it. -/
structure Attribute where
  /-- The blanks in front of it. -/
  gap : Text
  /-- Its name. -/
  name : Text
  /-- Its value, if it has one. -/
  assignment : Option Assignment
  /-- There is a blank at least. -/
  apart : gap ≠ []
  /-- There are blanks only. -/
  blanks : ∀ point ∈ gap, point ∈ separators
  /-- The name is not empty. -/
  named : name ≠ []
  /-- The name goes on to the blanks or marks behind it. -/
  points : ∀ point ∈ name, point ∉ separators ++ [.scalar '\x22', .scalar '\x27', .scalar '>',
    .scalar '/', .scalar '=']

namespace Attribute

/-- The characters of an attribute, the blanks in front of it included. -/
def text (item : Attribute) : Text :=
  item.gap ++ (item.name ++ item.assignment.elim [] Assignment.text)

/-- Whether its name is the word global, in either case. -/
def isGlobal (item : Attribute) : Bool := item.name.map folded == "global"

end Attribute

/-! ## Elements -/

/-- A style element. -/
structure StyleElement where
  /-- Its name in the start tag. -/
  name : Text
  /-- Its attributes. -/
  attributes : List Attribute
  /-- The blanks behind the attributes. -/
  blanks : Text
  /-- Its rules. -/
  body : Text
  /-- Its name in the end tag. -/
  endName : Text
  /-- The name is the word, in either case. -/
  named : name.map folded = "style"
  /-- There are blanks only. -/
  separated : ∀ point ∈ blanks, point ∈ separators
  /-- The rules do not hold the end tag. -/
  free : holdsWord "</style>" body = false
  /-- The name is the word in the end tag as well. -/
  endNamed : endName.map folded = "style"

/-- The characters of attributes. -/
def attributesText (attributes : List Attribute) : Text := attributes.flatMap Attribute.text

/-- Attributes put together have the characters of both. -/
theorem attributesText_append (first second : List Attribute) :
    attributesText (first ++ second) = attributesText first ++ attributesText second :=
  List.flatMap_append

namespace StyleElement

/-- The characters of an element in front of a text. -/
def textBefore (element : StyleElement) (rest : Text) : Text :=
  .scalar '<' :: (element.name ++ (attributesText element.attributes ++ (element.blanks ++
    .scalar '>' :: (element.body ++
      .scalar '<' :: .scalar '/' :: (element.endName ++ .scalar '>' :: rest)))))

/-- The characters of an element. -/
def text (element : StyleElement) : Text := element.textBefore []

/-- Whether an element is global. -/
def isGlobal (element : StyleElement) : Bool := element.attributes.any Attribute.isGlobal

/-- The element with its rules inside a block, if it is global. -/
def enclosed (element : StyleElement) : Text :=
  if element.isGlobal then
    wrapped (attributesText (element.attributes.filter (!·.isGlobal))) element.body
  else element.text

end StyleElement

/-- Whether a text starts with blanks and the name of the attribute. -/
def startsGlobal (text : Text) : Bool :=
  let name := text.dropWhile Text.isBlank
  text.head?.any Text.isBlank && startsWithWord "global" name && !goesOn (name.drop 6)

/-- Whether blanks and the name of the attribute are somewhere in a text. -/
def holdsGlobal (text : Text) : Bool := text.tails.any startsGlobal

/-- Whether nothing in a text looks like the start tag of a global element. -/
def isInert (text : Text) : Bool :=
  text.tails.all fun tail =>
    !(startsWithWord "<style" tail && holdsGlobal (Text.before '>' (tail.drop 6)))

/-- Whether a text does not end with a blank. -/
def isSolid (text : Text) : Bool := text.getLast?.all (!Text.isBlank ·)

/-- The attribute that makes an element global, where the spelling shows it. -/
structure StyleElement.Marked (element : StyleElement) where
  /-- The attributes in front of it. -/
  earlier : List Attribute
  /-- The attribute. -/
  chosen : Attribute
  /-- The attributes behind it. -/
  later : List Attribute
  /-- The attributes of the element are these. -/
  cut : element.attributes = earlier ++ chosen :: later
  /-- The attribute makes the element global. -/
  isGlobal : chosen.isGlobal
  /-- No other attribute does. -/
  others : (earlier ++ later).all (!·.isGlobal)
  /-- Its value can be told from the other attributes. -/
  tight : chosen.assignment.all (·.isTight)
  /-- The other attributes do not look like the end of the tag. -/
  sameTag : .scalar '>' ∉ attributesText (earlier ++ later)
  /-- Those in front of it do not look like it. -/
  noGlobal : holdsGlobal (attributesText earlier) = false
  /-- They do not end with a blank. -/
  solid : isSolid (attributesText earlier)
  /-- Nor do the others put together. -/
  solidAll : isSolid (attributesText (earlier ++ later))

/-- An element whose spelling shows what is meant. -/
inductive StyleElement.IsEvident (element : StyleElement) : Prop where
  /-- Nothing in an element that is not global looks like a global one. -/
  | plain (noGlobal : element.isGlobal = false) (inert : isInert element.text)
  /-- The attribute of a global element is shown by its spelling. -/
  | global (marked : element.Marked)

/-- The text of a component: style elements, and what is written between them. -/
structure Styled where
  /-- What is in front of the first element. -/
  first : Text
  /-- Each element, and what is behind it. -/
  elements : List (StyleElement × Text)
  /-- No other element begins anywhere. -/
  free : ∀ text ∈ first :: elements.map Prod.snd, holdsWord "<style" text = false

namespace Styled

/-- The characters of a component. -/
def text (styled : Styled) : Text :=
  styled.first ++ styled.elements.flatMap fun part => part.1.text ++ part.2

/-- The characters of a component, the rules of its global elements inside blocks. -/
def enclosed (styled : Styled) : Text :=
  styled.first ++ styled.elements.flatMap fun part => part.1.enclosed ++ part.2

end Styled

/-! ## Words that are read -/

/-- A letter is matched by the points that are the letter in small. -/
theorem isLetter_iff {letter : CodePoint} (small : folded letter = letter) (point : CodePoint) :
    isLetter letter point = true ↔ folded point = letter := by
  constructor
  · intro matched
    rcases Bool.or_eq_true_iff.mp matched with same | matched
    · rw [eq_of_beq same, small]
    · cases point with
      | surrogate index => cases matched
      | scalar char =>
        rcases Bool.or_eq_true_iff.mp matched with low | long
        · have low : letter = .scalar char.toLower := eq_of_beq low
          have other : CodePoint.scalar char ≠ .scalar '\u017f' := by
            intro long
            rw [low, CodePoint.scalar.inj long] at small
            exact absurd small (by decide)
          rw [folded, if_neg other, low]
          rfl
        · obtain ⟨isS, long⟩ := Bool.and_eq_true_iff.mp long
          rw [eq_of_beq isS, eq_of_beq long]
          rfl
  · intro same
    cases point with
    | surrogate index => exact Bool.or_eq_true_iff.mpr (.inl (beq_iff_eq.mpr same))
    | scalar char =>
      refine Bool.or_eq_true_iff.mpr (.inr (Bool.or_eq_true_iff.mpr ?_))
      by_cases long : CodePoint.scalar char = .scalar '\u017f'
      · rw [folded, if_pos long] at same
        exact .inr (Bool.and_eq_true_iff.mpr ⟨beq_iff_eq.mpr same.symm,
          beq_iff_eq.mpr (CodePoint.scalar.inj long)⟩)
      · rw [folded, if_neg long] at same
        exact .inl (beq_iff_eq.mpr same.symm)

/-- What is behind a word is what is left if the text starts with it. -/
theorem behindWord?_eq_some_iff {word : Text} (small : ∀ letter ∈ word, folded letter = letter)
    {text behind : Text} :
    behindWord? word text = some behind ↔
      startsWithWord word text = true ∧ text.drop word.length = behind := by
  induction word generalizing text with
  | nil => simp [behindWord?, startsWithWord]
  | cons letter word tail =>
    obtain ⟨here, others⟩ := List.forall_mem_cons.mp small
    cases text with
    | nil => simp [behindWord?, startsWithWord]
    | cons point text =>
      rw [behindWord?]
      by_cases same : folded point = letter
      · rw [if_pos ((isLetter_iff here point).mpr same), tail others]
        simp [startsWithWord, same]
      · rw [if_neg fun letter => same ((isLetter_iff here point).mp letter)]
        simp [startsWithWord, same]

/-- Behind a whole word there is the rest. -/
theorem behindWord?_append_of_map {word text : Text}
    (small : ∀ letter ∈ word, folded letter = letter) (whole : text.map folded = word)
    (rest : Text) : behindWord? word (text ++ rest) = some rest := by
  have length : word.length = text.length := by rw [← whole, List.length_map]
  refine (behindWord?_eq_some_iff small).mpr ?_
  rw [startsWithWord, length, List.take_left, List.drop_left, whole]
  exact ⟨beq_self_eq_true word, rfl⟩

/-- A word that is not in a text is not at the start of what is left of the text. -/
theorem behindWord?_of_not_holdsWord {word text tail : Text}
    (small : ∀ letter ∈ word, folded letter = letter) (free : holdsWord word text = false)
    (suffix : tail <:+ text) : behindWord? word tail = none := by
  refine Option.eq_none_iff_forall_ne_some.mpr fun behind found => ?_
  have starts := ((behindWord?_eq_some_iff small).mp found).1
  exact List.any_eq_false.mp free tail ((List.mem_tails _ _).mpr suffix) starts

/-- A word is not read across a mark that matches none of its letters. -/
theorem behindWord?_append {word : Text} {mark : CodePoint}
    (apart : ∀ letter ∈ word, isLetter letter mark = false) (text rest : Text) :
    behindWord? word (text ++ mark :: rest) =
      (behindWord? word text).map (· ++ mark :: rest) := by
  induction word generalizing text with
  | nil => rfl
  | cons letter word tail =>
    obtain ⟨here, others⟩ := List.forall_mem_cons.mp apart
    cases text with
    | nil => simp [behindWord?, here]
    | cons point text =>
      rw [List.cons_append, behindWord?, behindWord?]
      split
      · exact tail others text
      · rfl

/-- Behind the first letter a word is not read across a mark that matches none of the others. -/
theorem behindWord?_cons_append {letter : CodePoint} {word : Text} {mark : CodePoint}
    (apart : ∀ other ∈ word, isLetter other mark = false) (point : CodePoint) (text rest : Text) :
    behindWord? (letter :: word) (point :: (text ++ mark :: rest)) =
      (behindWord? (letter :: word) (point :: text)).map (· ++ mark :: rest) := by
  rw [behindWord?, behindWord?]
  split
  · exact behindWord?_append apart text rest
  · rfl

/-- A text is cut at the first place of a word, if its first letter alone could match the mark
there. -/
theorem cutAtWord?_append {letter : CodePoint} {word : Text} {mark : CodePoint} {rest behind : Text}
    (apart : ∀ other ∈ word, isLetter other mark = false)
    (here : behindWord? (letter :: word) (mark :: rest) = some behind) {text : Text}
    (free : ∀ tail, tail <:+ text → behindWord? (letter :: word) tail = none) :
    cutAtWord? (letter :: word) (text ++ mark :: rest) = some (text, behind) := by
  induction text with
  | nil => rw [List.nil_append, cutAtWord?, here]
  | cons point text tail =>
    have noWord := free _ List.suffix_rfl
    have others := tail fun tail suffix => free tail (suffix.trans (List.suffix_cons _ _))
    rw [List.cons_append, cutAtWord?, behindWord?_cons_append apart, noWord, Option.map_none,
      others]
    rfl

/-! ## Marks -/

/-- A blank between attributes is white space. -/
theorem isBlank_of_mem_separators {point : CodePoint} (member : point ∈ separators) :
    Text.isBlank point = true :=
  (by decide : ∀ point ∈ separators, Text.isBlank point = true) point member

/-- A mark that ends a name: the end of the tag, or a blank. -/
def endMarks : Text := .scalar '>' :: separators

/-- No letter of the name of the attribute matches a mark that ends a name. -/
theorem isLetter_global_of_mem_endMarks {mark : CodePoint} (ends : mark ∈ endMarks) :
    ∀ letter ∈ ("global" : Text), isLetter letter mark = false := by
  have each : ∀ mark ∈ endMarks, ∀ letter ∈ ("global" : Text), isLetter letter mark = false := by
    decide
  exact each mark ends

/-- Whether a name goes on is decided by what is in front of a mark that ends it. -/
theorem goesOn_append {mark : CodePoint} (ends : mark ∈ endMarks) (text rest : Text) :
    goesOn (text ++ mark :: rest) = goesOn text := by
  cases text with
  | cons point text => rfl
  | nil =>
    have each : ∀ mark ∈ endMarks, (Text.isWordChar mark || mark == '-') = false := by
      decide +kernel
    exact each mark ends

/-- A letter of the Latin alphabet is not a blank. -/
theorem isBlank_of_isAlpha {char : Char} (letter : char.isAlpha = true) :
    Text.isBlank (.scalar char) = false := by
  have bounds : (65 ≤ char.toNat ∧ char.toNat ≤ 90) ∨ (97 ≤ char.toNat ∧ char.toNat ≤ 122) := by
    rcases Bool.or_eq_true_iff.mp letter with capital | small
    · exact .inl (of_decide_eq_true capital)
    · obtain ⟨low, high⟩ := Bool.and_eq_true_iff.mp small
      exact .inr ⟨of_decide_eq_true low, of_decide_eq_true high⟩
  have apart : ∀ range ∈ Text.blankRanges, char.toNat < range.1 ∨ range.2 < char.toNat := by
    simp only [Text.blankRanges, List.forall_mem_cons]
    exact ⟨by omega, by omega, by omega, by omega, by omega, by omega, by omega, by omega,
      by omega, by omega, nofun⟩
  refine List.any_eq_false.mpr fun range member => ?_
  have outside := apart range member
  simp only [Bool.and_eq_true, decide_eq_true_eq]
  omega

/-- The first letter of the name of the attribute is not a blank, in either case. -/
theorem isBlank_of_folded {point : CodePoint} (first : folded point = .scalar 'g') :
    Text.isBlank point = false := by
  cases point with
  | surrogate index => rfl
  | scalar char =>
    refine isBlank_of_isAlpha ?_
    by_cases long : CodePoint.scalar char = .scalar '\u017f'
    · rw [folded, if_pos long] at first
      exact absurd first (by decide)
    · rw [folded, if_neg long] at first
      have low : char.toLower = 'g' := CodePoint.scalar.inj first
      rcases Html.toLower_cases char with ⟨letter, -⟩ | same
      · exact letter
      · rw [← same, low]
        rfl

/-- What is behind the first point of a text that does not end with a blank does not either. -/
theorem isSolid_of_cons {point : CodePoint} {text : Text} (solid : isSolid (point :: text)) :
    isSolid text := by
  cases text with
  | nil => rfl
  | cons second text => simpa [isSolid] using solid

/-- Blanks behind a text that does not end with one are cut off. -/
theorem trimEnd_append {text blanks : Text} (solid : isSolid text)
    (all : ∀ point ∈ blanks, Text.isBlank point = true) :
    Text.trimEnd (text ++ blanks) = text := by
  rw [Text.trimEnd, List.reverse_append, List.dropWhile_append_of_pos (by simpa using all)]
  cases text using List.reverseRecOn with
  | nil => rfl
  | append_singleton text last _ =>
    have other : Text.isBlank last = false := by simpa [isSolid] using solid
    rw [List.reverse_concat, List.dropWhile_cons, other]
    simp

/-! ## Start tags -/

/-- The attribute is not found where a text does not start with it, up to a mark that ends
names. -/
theorem globalAttribute?_append {mark : CodePoint} (ends : mark ∈ endMarks) {text : Text}
    (blank : text.head?.any Text.isBlank) (other : startsGlobal text = false)
    (solid : mark = .scalar '>' ∨ isSolid text) (rest : Text) :
    globalAttribute? (text ++ mark :: rest) = none := by
  have skipped : (text ++ mark :: rest).dropWhile Text.isBlank =
      text.dropWhile Text.isBlank ++ mark :: rest := by
    rw [List.dropWhile_append]
    split
    · rename_i nothing
      have allBlank : ∀ point ∈ text, Text.isBlank point = true :=
        List.dropWhile_eq_nil_iff.mp (List.isEmpty_iff.mp nothing)
      rcases solid with rfl | solid
      · rw [List.isEmpty_iff.mp nothing]
        rfl
      · have nonempty : text ≠ [] := by
          rintro rfl
          cases blank
        have last : Text.isBlank (text.getLast nonempty) = false := by
          simpa [isSolid, List.getLast?_eq_some_getLast nonempty] using solid
        cases last.symm.trans (allBlank _ (List.getLast_mem nonempty))
    · rfl
  rw [globalAttribute?, skipped,
    behindWord?_append (isLetter_global_of_mem_endMarks ends)]
  cases found : behindWord? "global" (text.dropWhile Text.isBlank) with
  | none => rfl
  | some behind =>
    obtain ⟨starts, left⟩ := (behindWord?_eq_some_iff (by decide)).mp found
    have name : (text.dropWhile Text.isBlank).drop 6 = behind := left
    have more : goesOn behind = true := by simpa [startsGlobal, blank, starts, name] using other
    simp [goesOn_append ends, more]

/-- The search for the attribute passes over a text that does not hold it. -/
theorem globalElement?_append {mark : CodePoint} (ends : mark ∈ endMarks) {front : Text}
    (sameTag : .scalar '>' ∉ front) (noGlobal : holdsGlobal front = false)
    (solid : mark = .scalar '>' ∨ isSolid front) (before rest : Text) :
    globalElement? before (front ++ mark :: rest) =
      globalElement? (front.reverse ++ before) (mark :: rest) := by
  induction front generalizing before with
  | nil => rfl
  | cons point front tail =>
    rw [List.mem_cons, not_or] at sameTag
    have inTag : (point == .scalar '>') = false := beq_eq_false_iff_ne.mpr (Ne.symm sameTag.1)
    have here : startsGlobal (point :: front) = false ∧ holdsGlobal front = false := by
      simpa [holdsGlobal] using noGlobal
    have passed : (if Text.isBlank point then globalAttribute? (point :: (front ++ mark :: rest))
        else none) = none := by
      split
      · rename_i blank
        exact @globalAttribute?_append mark ends (point :: front) blank here.1 solid rest
      · rfl
    rw [List.cons_append, globalElement?, inTag, if_neg Bool.false_ne_true, passed]
    rw [tail sameTag.2 here.2 (solid.imp_right isSolid_of_cons), List.reverse_cons,
      List.append_assoc, List.singleton_append]

/-- Nothing is found in front of the end of a tag that does not hold the attribute. -/
theorem globalElement?_eq_none {front : Text} (sameTag : .scalar '>' ∉ front)
    (noGlobal : holdsGlobal front = false) (rest : Text) :
    globalElement? [] (front ++ .scalar '>' :: rest) = none := by
  rw [globalElement?_append (List.mem_cons_self) sameTag noGlobal (.inl rfl)]
  rfl

/-- Behind the attribute the tag goes on to its end, and the rules to the end tag. -/
theorem restOfElement?_append {after body endName : Text} (sameTag : .scalar '>' ∉ after)
    (free : holdsWord "</style>" body = false) (endNamed : endName.map folded = "style")
    (rest : Text) :
    restOfElement? (after ++ .scalar '>' :: (body ++
        .scalar '<' :: .scalar '/' :: (endName ++ .scalar '>' :: rest))) =
      some (after, body, rest) := by
  have closes : behindWord? "</style>"
      (.scalar '<' :: .scalar '/' :: (endName ++ .scalar '>' :: rest)) = some rest := by
    have whole : (CodePoint.scalar '<' :: .scalar '/' :: (endName ++ [.scalar '>'])).map folded =
        "</style>" := by
      rw [List.map_cons, List.map_cons, List.map_append, endNamed]
      decide
    simpa using behindWord?_append_of_map (by decide) whole rest
  have cut := cutAtWord?_append (by decide) closes fun tail suffix =>
    behindWord?_of_not_holdsWord (by decide) free suffix
  rw [restOfElement?, Text.startingAt_append sameTag, Text.before_append sameTag]
  exact congrArg (Option.map _) cut

/-- Nothing is passed over where there is no equals sign. -/
theorem behindAttribute?_of_ne {mark : CodePoint} (other : mark ≠ .scalar '=') (rest : Text) :
    behindAttribute? (mark :: rest) = restOfElement? (mark :: rest) := by
  have unquoted (quote : CodePoint) : behindQuoted? quote (mark :: rest) = none := by
    rw [behindQuoted?]
    rintro first more same
    cases same
    exact other rfl
  have bare : behindBare (mark :: rest) = mark :: rest := by
    rw [behindBare]
    rintro more same
    cases same
    exact other rfl
  rw [behindAttribute?, unquoted, unquoted, bare]
  simp

/-- A value in quotes goes on to the quote that closes it. -/
theorem behindQuoted?_quoted {quote : CodePoint} {text : Text} (closed : quote ∉ text)
    (rest : Text) :
    behindQuoted? quote (.scalar '=' :: quote :: (text ++ quote :: rest)) = some rest := by
  simp [behindQuoted?, Text.behind, Text.startingAt_append closed]

/-- A value without quotes goes on to a mark that ends names. -/
theorem behindBare_append {text : Text} {mark : CodePoint} (ends : mark ∈ endMarks)
    (inside : ∀ point ∈ text, Text.isBlank point = false ∧ point ≠ .scalar '>') (rest : Text) :
    behindBare (.scalar '=' :: (text ++ mark :: rest)) = mark :: rest := by
  have outside : ∀ mark ∈ endMarks, (!Text.isBlank mark && mark != .scalar '>') = false := by
    decide
  have within : ∀ point ∈ text, (!Text.isBlank point && point != .scalar '>') = true := by
    simpa using inside
  rw [behindBare, List.dropWhile_append_of_pos within, List.dropWhile_cons, outside mark ends]
  rfl

/-- A whole value is passed over, if the element goes on behind it. -/
theorem behindAttribute?_value {value : AttributeValue} (whole : value.isWhole)
    {mark : CodePoint} (ends : mark ∈ endMarks) {rest : Text} {parts : Text × Text × Text}
    (goes : restOfElement? (mark :: rest) = some parts) :
    behindAttribute? (.scalar '=' :: (value.text ++ mark :: rest)) = some parts := by
  have unquoted {quote first : CodePoint} (other : first ≠ quote) (more : Text) :
      behindQuoted? quote (.scalar '=' :: first :: more) = none := by
    simp [behindQuoted?, other]
  cases value with
  | bare text nonempty points =>
    have inside : ∀ point ∈ text, Text.isBlank point = false ∧ point ≠ .scalar '>' := by
      intro point member
      refine ⟨?_, ?_⟩
      · simp only [AttributeValue.isWhole, Bool.not_eq_true', List.any_eq_false,
          Bool.not_eq_true] at whole
        exact whole point member
      · rintro rfl
        exact points _ member (by decide)
    have passed := behindBare_append ends inside rest
    obtain ⟨first, more, rfl⟩ := List.exists_cons_of_ne_nil nonempty
    have double : first ≠ .scalar '\x22' := by
      rintro rfl
      exact points _ List.mem_cons_self (by decide)
    have single : first ≠ .scalar '\x27' := by
      rintro rfl
      exact points _ List.mem_cons_self (by decide)
    rw [List.cons_append] at passed
    rw [behindAttribute?, AttributeValue.text, List.cons_append, unquoted double, unquoted single,
      passed]
    simp [goes]
  | quoted quote text closed =>
    have passed := behindQuoted?_quoted closed (mark :: rest)
    rw [AttributeValue.text, List.cons_append, List.append_assoc, List.singleton_append]
    cases quote with
    | double =>
      rw [behindAttribute?, show behindQuoted? '\x22' _ = _ from passed]
      simp [goes]
    | single =>
      rw [behindAttribute?, unquoted (by decide), show behindQuoted? '\x27' _ = _ from passed]
      simp [goes]

/-- An assignment that can be told is an equals sign and a whole value. -/
theorem Assignment.text_of_isTight {assignment : Assignment} (tight : assignment.isTight) :
    assignment.text = .scalar '=' :: assignment.value.text ∧ assignment.value.isWhole = true := by
  obtain ⟨before, after, value, blanks⟩ := assignment
  have parts : (before = [] ∧ after = []) ∧ value.isWhole = true := by
    simpa [Assignment.isTight] using tight
  obtain ⟨⟨rfl, rfl⟩, whole⟩ := parts
  exact ⟨rfl, whole⟩

/-- An assignment that can be told is passed over, and so is none. -/
theorem behindAttribute?_append {assignment : Option Assignment}
    (tight : assignment.all (·.isTight)) {mark : CodePoint} (ends : mark ∈ endMarks) {rest : Text}
    {parts : Text × Text × Text} (goes : restOfElement? (mark :: rest) = some parts) :
    behindAttribute? (assignment.elim [] Assignment.text ++ mark :: rest) = some parts := by
  cases assignment with
  | none =>
    have other : mark ≠ .scalar '=' := by
      rintro rfl
      exact absurd ends (by decide)
    exact (behindAttribute?_of_ne other rest).trans goes
  | some assignment =>
    obtain ⟨text, whole⟩ := Assignment.text_of_isTight tight
    rw [Option.elim_some, text]
    exact behindAttribute?_value whole ends goes

/-- The attribute that makes an element global is found, and passed over with its value. -/
theorem Attribute.globalAttribute?_text {chosen : Attribute} (isGlobal : chosen.isGlobal)
    (tight : chosen.assignment.all (·.isTight)) {mark : CodePoint} (ends : mark ∈ endMarks)
    {rest : Text} {parts : Text × Text × Text} (goes : restOfElement? (mark :: rest) = some parts) :
    globalAttribute? (chosen.text ++ mark :: rest) = some parts := by
  have whole : chosen.name.map folded = "global" := eq_of_beq isGlobal
  have skipped : (chosen.text ++ mark :: rest).dropWhile Text.isBlank =
      chosen.name ++ (chosen.assignment.elim [] Assignment.text ++ mark :: rest) := by
    rw [Attribute.text, List.append_assoc, List.append_assoc, List.dropWhile_append_of_pos
      fun point member => isBlank_of_mem_separators (chosen.blanks point member)]
    obtain ⟨first, more, same⟩ := List.exists_cons_of_ne_nil chosen.named
    rw [same] at whole
    rw [same, List.cons_append, List.dropWhile_cons,
      isBlank_of_folded (List.cons.inj whole).1, if_neg Bool.false_ne_true]
  have ended : goesOn (chosen.assignment.elim [] Assignment.text ++ mark :: rest) = false := by
    cases assigned : chosen.assignment with
    | none => exact goesOn_append ends [] rest
    | some assignment =>
      rw [assigned] at tight
      rw [Option.elim_some, (Assignment.text_of_isTight tight).1]
      change (Text.isWordChar '=' || CodePoint.scalar '=' == '-') = false
      decide +kernel
  rw [globalAttribute?, skipped, behindWord?_append_of_map (by decide) whole]
  simp [ended, behindAttribute?_append tight ends goes]

/-- An attribute starts with a blank. -/
theorem Attribute.exists_text (item : Attribute) :
    ∃ mark more, item.text = mark :: more ∧ mark ∈ separators := by
  obtain ⟨mark, more, same⟩ := List.exists_cons_of_ne_nil item.apart
  refine ⟨mark, _, congrArg (· ++ _) same, item.blanks mark ?_⟩
  rw [same]
  exact List.mem_cons_self

/-- Behind an attribute there is another one, a blank or the end of the tag. -/
theorem exists_mark_behind (attributes : List Attribute) {blanks : Text}
    (separated : ∀ point ∈ blanks, point ∈ separators) (rest : Text) :
    ∃ mark more, attributesText attributes ++ (blanks ++ .scalar '>' :: rest) = mark :: more ∧
      mark ∈ endMarks := by
  cases attributes with
  | cons item others =>
    obtain ⟨mark, more, same, blank⟩ := item.exists_text
    rw [attributesText, List.flatMap_cons, same]
    exact ⟨mark, _, rfl, List.mem_cons_of_mem _ blank⟩
  | nil =>
    cases blanks with
    | cons mark more =>
      exact ⟨mark, _, rfl, List.mem_cons_of_mem _ (separated mark List.mem_cons_self)⟩
    | nil => exact ⟨.scalar '>', _, rfl, List.mem_cons_self⟩

/-- Behind what is passed over, the attribute makes the element global. -/
theorem Attribute.globalElement?_append_text {chosen : Attribute} (isGlobal : chosen.isGlobal)
    (tight : chosen.assignment.all (·.isTight)) {front : Text} (sameTag : .scalar '>' ∉ front)
    (noGlobal : holdsGlobal front = false) (solid : isSolid front) {mark : CodePoint}
    (ends : mark ∈ endMarks) {rest after body behind : Text}
    (goes : restOfElement? (mark :: rest) = some (after, body, behind)) :
    globalElement? [] (front ++ (chosen.text ++ mark :: rest)) =
      some (Text.trimEnd (front ++ after), body, behind) := by
  have found := chosen.globalAttribute?_text isGlobal tight ends goes
  obtain ⟨gap, more, same, blank⟩ := chosen.exists_text
  have inTag : (gap == .scalar '>') = false := by
    refine beq_eq_false_iff_ne.mpr ?_
    rintro rfl
    exact absurd blank (by decide)
  rw [same, List.cons_append] at found
  rw [same, List.cons_append,
    globalElement?_append (List.mem_cons_of_mem _ blank) sameTag noGlobal (.inr solid),
    globalElement?, inTag, if_neg Bool.false_ne_true, isBlank_of_mem_separators blank, if_pos rfl,
    found]
  simp

/-! ## Global elements -/

namespace StyleElement

/-- The characters of an element in front of a text are its own and those of the text. -/
theorem textBefore_eq (element : StyleElement) (rest : Text) :
    element.textBefore rest = element.text ++ rest := by
  simp [textBefore, text]

namespace Marked

variable {element : StyleElement} (marked : element.Marked)

/-- The other attributes are those that do not make the element global. -/
theorem filter_attributes :
    element.attributes.filter (!·.isGlobal) = marked.earlier ++ marked.later := by
  rw [marked.cut, List.filter_append, List.filter_cons_of_neg (by simp [marked.isGlobal]),
    ← List.filter_append]
  exact List.filter_eq_self.mpr (List.all_eq_true.mp marked.others)

/-- The element is global, and what is meant is known. -/
theorem enclosed_eq :
    element.enclosed = wrapped (attributesText (marked.earlier ++ marked.later)) element.body := by
  have isGlobal : element.isGlobal = true :=
    List.any_eq_true.mpr ⟨marked.chosen, by simp [marked.cut], marked.isGlobal⟩
  rw [enclosed, if_pos isGlobal, marked.filter_attributes]

/-- The blanks behind the other attributes are cut off. -/
theorem trimEnd_attributes :
    Text.trimEnd (attributesText marked.earlier ++
        (attributesText marked.later ++ element.blanks)) =
      attributesText (marked.earlier ++ marked.later) := by
  rw [← List.append_assoc, ← attributesText_append]
  exact trimEnd_append marked.solidAll fun point member =>
    isBlank_of_mem_separators (element.separated point member)

/-- What is behind the name of the element is read as its other attributes and its rules. -/
theorem globalElement?_attributes (rest : Text) :
    globalElement? [] (attributesText element.attributes ++ (element.blanks ++
        .scalar '>' :: (element.body ++
          .scalar '<' :: .scalar '/' :: (element.endName ++ .scalar '>' :: rest)))) =
      some (attributesText (marked.earlier ++ marked.later), element.body, rest) := by
  have sameTag := marked.sameTag
  rw [attributesText_append, List.mem_append, not_or] at sameTag
  have noClose : .scalar '>' ∉ attributesText marked.later ++ element.blanks := by
    rw [List.mem_append, not_or]
    exact ⟨sameTag.2, fun member => absurd (element.separated _ member) (by decide)⟩
  have goes := restOfElement?_append noClose element.free element.endNamed rest
  rw [List.append_assoc] at goes
  obtain ⟨mark, more, same, ends⟩ := exists_mark_behind marked.later element.separated
    (element.body ++ .scalar '<' :: .scalar '/' :: (element.endName ++ .scalar '>' :: rest))
  rw [same] at goes
  have texts : attributesText element.attributes = attributesText marked.earlier ++
      (marked.chosen.text ++ attributesText marked.later) := by
    rw [marked.cut, attributesText_append]
    rfl
  rw [texts, List.append_assoc, List.append_assoc, same, ← marked.trimEnd_attributes]
  exact marked.chosen.globalElement?_append_text marked.isGlobal marked.tight sameTag.1
    marked.noGlobal marked.solid ends goes

end Marked

/-- The rules of a global element are enclosed, and its other attributes kept. -/
theorem Marked.enclosedElement?_text {element : StyleElement} (marked : element.Marked)
    (rest : Text) :
    enclosedElement? (element.text ++ rest) = some (element.enclosed, rest) := by
  have opened (inside : Text) :
      behindWord? "<style" (.scalar '<' :: (element.name ++ inside)) = some inside := by
    have whole : (CodePoint.scalar '<' :: element.name).map folded = "<style" := by
      rw [List.map_cons, element.named]
      decide
    exact behindWord?_append_of_map (by decide) whole inside
  rw [← textBefore_eq, textBefore, enclosedElement?, opened]
  simp only [Option.bind_eq_bind, Option.bind_some, marked.globalElement?_attributes,
    marked.enclosed_eq]
  rfl

end StyleElement

/-- A global element gives way to the one with its rules enclosed. -/
theorem encloseGlobalStyles_of_enclosedElement? {front rest element : Text} (nonempty : front ≠ [])
    (here : enclosedElement? (front ++ rest) = some (element, rest)) :
    encloseGlobalStyles (front ++ rest) = element ++ encloseGlobalStyles rest := by
  have covered : ∀ front : Text, encloseFrom front.length (front ++ rest) = encloseFrom 0 rest := by
    intro front
    induction front with
    | nil => rfl
    | cons point front tail => exact tail
  obtain ⟨point, front, rfl⟩ := List.exists_cons_of_ne_nil nonempty
  rw [List.cons_append] at here
  rw [encloseGlobalStyles, List.cons_append, encloseFrom, here]
  simp only [List.length_append, Nat.add_sub_cancel]
  rw [covered, encloseGlobalStyles]

/-! ## All else -/

/-- A text in which no element begins is left as it is, in front of an element or at the end. -/
theorem encloseGlobalStyles_of_free {text rest : Text} (free : holdsWord "<style" text = false)
    (begins : rest = [] ∨ ∃ more, rest = .scalar '<' :: more) :
    encloseGlobalStyles (text ++ rest) = text ++ encloseGlobalStyles rest := by
  refine encloseGlobalStyles_append fun front behind cut nonempty => ?_
  have noWord := behindWord?_of_not_holdsWord (by decide) free ⟨front, cut.symm⟩
  have none : behindWord? "<style" (behind ++ rest) = none := by
    rcases begins with rfl | ⟨more, rfl⟩
    · rwa [List.append_nil]
    · obtain ⟨point, behind, rfl⟩ := List.exists_cons_of_ne_nil nonempty
      have whole := @behindWord?_cons_append '<' "style" '<' (by decide) point behind more
      exact whole.trans (congrArg (Option.map _) noWord)
  rw [enclosedElement?, none]
  rfl

/-- Nothing is found at the start of a text that ends a tag, if what is in front of the end of the
first tag does not hold the attribute. -/
theorem enclosedElement?_of_inert {front : Text}
    (inert : !(startsWithWord "<style" (front ++ [CodePoint.scalar '>']) &&
      holdsGlobal (Text.before '>' ((front ++ [CodePoint.scalar '>']).drop 6)))) (rest : Text) :
    enclosedElement? (front ++ .scalar '>' :: rest) = none := by
  have whole (rest : Text) := @behindWord?_append "<style" '>' (by decide) front rest
  rw [enclosedElement?, whole]
  cases found : behindWord? "<style" front with
  | none => rfl
  | some inside =>
    obtain ⟨starts, left⟩ := (behindWord?_eq_some_iff (by decide)).mp
      ((whole []).trans (congrArg (Option.map _) found))
    have left : (front ++ [CodePoint.scalar '>']).drop 6 = inside ++ [.scalar '>'] := left
    obtain ⟨tag, more, cut, sameTag⟩ : ∃ tag more, inside ++ [.scalar '>'] =
        tag ++ .scalar '>' :: more ∧ .scalar '>' ∉ tag :=
      List.eq_append_cons_of_mem (List.mem_append_right _ (List.mem_singleton_self _))
    have noGlobal : holdsGlobal tag = false := by
      simpa [starts, left, cut, Text.before_append sameTag] using inert
    have goesOn : inside ++ .scalar '>' :: rest = tag ++ .scalar '>' :: (more ++ rest) := by
      rw [← List.singleton_append, ← List.append_assoc, cut, List.append_assoc, List.cons_append]
    simp only [Option.map_some, Option.bind_eq_bind, Option.bind_some, goesOn,
      globalElement?_eq_none sameTag noGlobal, Option.bind_none]

/-- A text that ends a tag is left as it is if nothing in it looks like a global element. -/
theorem encloseGlobalStyles_of_isInert {text : Text} (closed : text.getLast? = some (.scalar '>'))
    (inert : isInert text) (rest : Text) :
    encloseGlobalStyles (text ++ rest) = text ++ encloseGlobalStyles rest := by
  refine encloseGlobalStyles_append fun front behind cut nonempty => ?_
  have last : behind.getLast? = some (.scalar '>') := by
    rwa [cut, List.getLast?_append_of_ne_nil _ nonempty] at closed
  obtain ⟨inside, rfl⟩ := List.getLast?_eq_some_iff.mp last
  have here := List.all_eq_true.mp inert _ ((List.mem_tails _ _).mpr ⟨front, cut.symm⟩)
  rw [List.append_assoc, List.singleton_append]
  exact enclosedElement?_of_inert here rest

/-! ## Components -/

/-- An evident element is as it is meant to be, with its rules enclosed if it is global. -/
theorem StyleElement.IsEvident.encloseGlobalStyles_text {element : StyleElement}
    (evident : element.IsEvident) (rest : Text) :
    encloseGlobalStyles (element.text ++ rest) = element.enclosed ++ encloseGlobalStyles rest := by
  cases evident with
  | plain noGlobal inert =>
    have closed : element.text.getLast? = some (.scalar '>') := by
      simp [StyleElement.text, StyleElement.textBefore, List.getLast?_cons]
    rw [encloseGlobalStyles_of_isInert closed inert, StyleElement.enclosed, noGlobal,
      if_neg Bool.false_ne_true]
  | global marked =>
    have nonempty : element.text ≠ [] := List.cons_ne_nil _ _
    exact encloseGlobalStyles_of_enclosedElement? nonempty (marked.enclosedElement?_text rest)

/-- Evident elements and the texts behind them, one after the other. -/
theorem encloseGlobalStyles_parts (parts : List (StyleElement × Text))
    (evident : ∀ part ∈ parts, part.1.IsEvident) {text : Text}
    (free : ∀ between ∈ text :: parts.map Prod.snd, holdsWord "<style" between = false) :
    encloseGlobalStyles (text ++ parts.flatMap fun part => part.1.text ++ part.2) =
      text ++ parts.flatMap fun part => part.1.enclosed ++ part.2 := by
  induction parts generalizing text with
  | nil =>
    rw [List.flatMap_nil, encloseGlobalStyles_of_free (free text List.mem_cons_self) (.inl rfl)]
    rfl
  | cons part parts tail =>
    obtain ⟨here, others⟩ := List.forall_mem_cons.mp evident
    obtain ⟨freeText, freeParts⟩ := List.forall_mem_cons.mp free
    have begins (rest : Text) : ∃ more, part.1.text ++ rest = .scalar '<' :: more := ⟨_, rfl⟩
    rw [List.flatMap_cons, List.append_assoc,
      encloseGlobalStyles_of_free freeText (.inr (begins _)), here.encloseGlobalStyles_text,
      tail others freeParts, List.flatMap_cons, List.append_assoc]

/-- **Global styles.** In a component whose style elements are evident, the rules of those that are
global are enclosed, their other attributes kept in order, and all else is left as it is. -/
theorem encloseGlobalStyles_styled (styled : Styled)
    (evident : ∀ part ∈ styled.elements, part.1.IsEvident) :
    encloseGlobalStyles styled.text = styled.enclosed :=
  encloseGlobalStyles_parts styled.elements evident styled.free

/-- A global element behind a paragraph, with another attribute, and an element that is not global
with a value that names a part of the word. -/
theorem encloseGlobalStyles_styled_paragraph :
    ∃ styled : Styled,
      styled.text = "<p>hi</p><style lang='postcss' Global=\"a > b\" >p</style>\n" ++
        "<STYLE title=\"not global-ish\">b</STYLE>" ∧
      (∀ part ∈ styled.elements, part.1.IsEvident) ∧
      encloseGlobalStyles styled.text =
        "<p>hi</p><style lang='postcss'>\n:global \x7b\np\n\x7d\n</style>\n" ++
          "<STYLE title=\"not global-ish\">b</STYLE>" := by
  let lang : Attribute := ⟨[' '], "lang", some ⟨[], [], .quoted .single "postcss" (by decide),
    by decide⟩, by decide, by decide, by decide, by decide⟩
  let chosen : Attribute := ⟨[' '], "Global", some ⟨[], [], .quoted .double "a > b" (by decide),
    by decide⟩, by decide, by decide, by decide, by decide⟩
  let title : Attribute := ⟨[' '], "title", some ⟨[], [],
    .quoted .double "not global-ish" (by decide), by decide⟩, by decide, by decide, by decide,
    by decide⟩
  let paragraph : StyleElement := ⟨"style", [lang, chosen], [' '], "p", "style", by decide,
    by decide, by decide, by decide⟩
  let bold : StyleElement := ⟨"STYLE", [title], [], "b", "STYLE", by decide, by decide, by decide,
    by decide⟩
  let styled : Styled := ⟨"<p>hi</p>", [(paragraph, "\n"), (bold, [])], by decide⟩
  have evident : ∀ part ∈ styled.elements, part.1.IsEvident := by
    refine List.forall_mem_cons.mpr ⟨?_, List.forall_mem_singleton.mpr ?_⟩
    · exact .global ⟨[lang], chosen, [], rfl, by decide, by decide, by decide, by decide,
        by decide, by decide, by decide⟩
    · exact .plain (by decide) (by decide +kernel)
  refine ⟨styled, by decide +kernel, evident, (encloseGlobalStyles_styled styled evident).trans ?_⟩
  decide +kernel

/-- A global element is left as it is if the value in front of the attribute has the mark that ends
tags. -/
theorem encloseGlobalStyles_title :
    ∃ styled : Styled, styled.text = "<style title=\"a > b\" global>p</style>" ∧
      styled.enclosed = "<style title=\"a > b\">\n:global \x7b\np\n\x7d\n</style>" ∧
      encloseGlobalStyles styled.text = styled.text := by
  let title : Attribute := ⟨[' '], "title", some ⟨[], [], .quoted .double "a > b" (by decide),
    by decide⟩, by decide, by decide, by decide, by decide⟩
  let chosen : Attribute := ⟨[' '], "global", none, by decide, by decide, by decide, by decide⟩
  let paragraph : StyleElement := ⟨"style", [title, chosen], [], "p", "style", by decide,
    by decide, by decide, by decide⟩
  exact ⟨⟨[], [(paragraph, [])], by decide⟩, by decide +kernel, by decide +kernel,
    by decide +kernel⟩

end SiteBuild.Component
