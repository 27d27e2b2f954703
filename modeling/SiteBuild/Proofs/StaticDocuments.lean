import SiteBuild.Proofs.ElementTexts
import SiteBuild.Proofs.PercentEscapes
import SiteBuild.Site.Document

/-!
# Static documents

A document without code for the browser. Its title and its fonts are escaped, so that tags only come
from the rendered page and from the style of the design, in which the names and the values of the
tokens stand as they are. Main statement: such a document holds a script, or leaves its style
before the end tag that is written for it, exactly if a token holds what begins or ends it
(`renderDocument_static`).
-/
namespace SiteBuild

/-- Lines with a line feed behind each of them. -/
theorem Text.unlines_append_feed {lines : List Text} (some : lines ≠ []) (rest : Text) :
    unlines lines ++ .scalar '\n' :: rest = lines.flatMap (· ++ [.scalar '\n']) ++ rest := by
  induction lines with
  | nil => exact absurd rfl some
  | cons first lines tail =>
    cases lines with
    | nil => simp [unlines_singleton]
    | cons second more =>
      rw [unlines_cons_cons, List.append_assoc, List.cons_append, tail (by simp)]
      simp

namespace Html

/-! ## Tags in texts -/

/-- Whether one of some words stands in a text. -/
def Holds (words : Text → Prop) (text : Text) : Prop := ∃ word, words word ∧ word <:+: text

/-- Whether words begin with a less-than sign and go on without some points. -/
def OpensWith (words : Text → Prop) (breaks : Text) : Prop :=
  ∀ word, words word → ∃ rest, word = .scalar '<' :: rest ∧ ∀ point ∈ breaks, point ∉ rest

/-- A text that does not hold a point begins a text before the point. -/
theorem prefix_of_prefix_append {start front rest : Text} {point : CodePoint}
    (begins : start <+: front ++ point :: rest) (apart : point ∉ start) : start <+: front := by
  rcases List.prefix_or_prefix_of_prefix begins (List.prefix_append front _) with short | long
  · exact short
  · obtain ⟨more, rfl⟩ := long
    cases more with
    | nil => simp
    | cons first more =>
      obtain ⟨rfl, -⟩ := List.cons_prefix_cons.mp ((List.prefix_append_right_inj front).mp begins)
      exact absurd (by simp) apart

section Holds

variable {words : Text → Prop} {breaks : Text} (opens : OpensWith words breaks)

include opens

/-- A word does not begin with another point. -/
theorem holds_cons {point : CodePoint} (other : point ≠ .scalar '<') (rest : Text) :
    Holds words (point :: rest) ↔ Holds words rest := by
  constructor
  · rintro ⟨word, known, inside⟩
    obtain ⟨more, rfl, -⟩ := opens word known
    rcases List.infix_cons_iff.mp inside with ⟨behind, same⟩ | within
    · cases same
      exact absurd rfl other
    · exact ⟨_, known, within⟩
  · rintro ⟨word, known, inside⟩
    exact ⟨word, known, List.infix_cons_iff.mpr (.inr inside)⟩

/-- No word begins in a text without less-than signs. -/
theorem holds_append {front : Text} (none : .scalar '<' ∉ front) (rest : Text) :
    Holds words (front ++ rest) ↔ Holds words rest := by
  induction front with
  | nil => rfl
  | cons point front tail =>
    obtain ⟨other, others⟩ : point ≠ .scalar '<' ∧ .scalar '<' ∉ front := by
      simpa [eq_comm] using none
    rw [List.cons_append, holds_cons opens other, tail others]

/-- No word stands in a text without less-than signs. -/
theorem not_holds {text : Text} (none : .scalar '<' ∉ text) : ¬Holds words text := by
  rintro ⟨word, known, inside⟩
  obtain ⟨more, rfl, -⟩ := opens word known
  exact none (inside.subset List.mem_cons_self)

/-- No word runs over a point that no word goes on with. -/
theorem holds_append_cons {point : CodePoint} (known : point ∈ breaks) (front rest : Text) :
    Holds words (front ++ point :: rest) ↔ Holds words front ∨ Holds words (point :: rest) := by
  constructor
  · rintro ⟨word, holds, inside⟩
    obtain ⟨more, rfl, apart⟩ := opens word holds
    induction front with
    | nil => exact .inr ⟨_, holds, inside⟩
    | cons first front tail =>
      rcases List.infix_cons_iff.mp inside with start | behind
      · obtain ⟨rfl, goes⟩ := List.cons_prefix_cons.mp start
        have short := prefix_of_prefix_append goes (apart point known)
        exact .inl ⟨_, holds, (List.cons_prefix_cons.mpr ⟨rfl, short⟩).isInfix⟩
      · refine (tail behind).imp_left fun ⟨word, here, within⟩ => ?_
        exact ⟨word, here, List.infix_cons_iff.mpr (.inr within)⟩
  · rintro (⟨word, holds, inside⟩ | ⟨word, holds, inside⟩)
    · exact ⟨word, holds, inside.trans (List.prefix_append _ _).isInfix⟩
    · exact ⟨word, holds, inside.trans (List.suffix_append _ _).isInfix⟩

/-- A word stands in lines if it stands in one of them. -/
theorem holds_unlines (feed : .scalar '\n' ∈ breaks) (lines : List Text) :
    Holds words (Text.unlines lines) ↔ ∃ line ∈ lines, Holds words line := by
  induction lines with
  | nil => simpa using not_holds opens (by simp [Text.unlines, Text.join])
  | cons first rest tail =>
    cases rest with
    | nil => simp [Text.unlines_singleton]
    | cons second more =>
      rw [Text.unlines_cons_cons, holds_append_cons opens feed, holds_cons opens (by decide), tail]
      simp

end Holds

/-! ## End tags and line ends -/

/-- Whether a text is an end tag of the elements with a name, up to the point behind the name, which
may also be a carriage return. -/
def IsWrittenEndTag (name word : Text) : Prop :=
  ∃ tag mark, tag.map lowered = "</" ++ name ∧
    (isNameEnd mark = true ∨ mark = .scalar '\r') ∧ word = tag ++ [mark]

/-- A carriage return is read as a line feed. -/
theorem exists_lineFeeds_return (rest : Text) :
    ∃ behind, lineFeeds (.scalar '\r' :: rest) = .scalar '\n' :: behind := by
  cases rest with
  | nil => exact ⟨[], rfl⟩
  | cons point rest =>
    by_cases feed : point = .scalar '\n'
    · subst feed
      exact ⟨lineFeeds rest, rfl⟩
    · refine ⟨lineFeeds (point :: rest), ?_⟩
      rw [lineFeeds]
      rintro _ same
      cases same
      exact feed rfl

/-- The end tags at the start of a text are those with line feeds for its line ends. -/
theorem prefix_lineFeeds_iff {tag : Text} (plain : .scalar '\r' ∉ tag ∧ .scalar '\n' ∉ tag)
    (text : Text) :
    (∃ mark, isNameEnd mark = true ∧ tag ++ [mark] <+: lineFeeds text) ↔
      ∃ mark, (isNameEnd mark = true ∨ mark = .scalar '\r') ∧ tag ++ [mark] <+: text := by
  induction tag generalizing text with
  | nil =>
    cases text with
    | nil => simp [lineFeeds]
    | cons point rest =>
      by_cases same : point = .scalar '\r'
      · subst same
        obtain ⟨behind, whole⟩ := exists_lineFeeds_return rest
        have ends : isNameEnd (.scalar '\n') = true := rfl
        simp [whole, ends]
      · simp [lineFeeds_cons same, same]
  | cons first tag tail =>
    simp only [List.mem_cons, not_or] at plain
    obtain ⟨⟨noReturn, others⟩, noFeed, others'⟩ := plain
    cases text with
    | nil => simp [lineFeeds]
    | cons point rest =>
      by_cases same : point = .scalar '\r'
      · subst same
        obtain ⟨behind, whole⟩ := exists_lineFeeds_return rest
        simp [whole, Ne.symm noReturn, Ne.symm noFeed]
      · have apart (ends : CodePoint → Prop) (rest : Text) :
            (∃ mark, ends mark ∧ first = point ∧ tag ++ [mark] <+: rest) ↔
              first = point ∧ ∃ mark, ends mark ∧ tag ++ [mark] <+: rest := by
          constructor
          · rintro ⟨mark, ends, here, goes⟩
            exact ⟨here, mark, ends, goes⟩
          · rintro ⟨here, mark, ends, goes⟩
            exact ⟨mark, ends, here, goes⟩
        simp only [lineFeeds_cons same, List.cons_append, List.cons_prefix_cons]
        exact ((apart _ _).trans (and_congr_right fun _ => tail ⟨others, others'⟩ rest)).trans
          (apart _ _).symm

/-- A tag is no line end, and its slash and its letters are none. -/
theorem not_mem_tag {name tag : Text} (letters : ∀ letter ∈ name, isLetter letter = true)
    (spelled : tag.map lowered = "</" ++ name) {point : CodePoint}
    (noLetter : isLetter point = false) (noMark : point ∉ ("</" : Text)) : point ∉ tag := by
  intro member
  have known : lowered point ∈ Text.ofString "</" ++ name := by
    rw [← spelled]
    exact List.mem_map_of_mem member
  rw [lowered_of_not_isLetter noLetter] at known
  rcases List.mem_append.mp known with mark | letter
  · exact noMark mark
  · rw [letters point letter] at noLetter
    cases noLetter

/-- End tags begin with a less-than sign and go on with a slash, letters and the mark behind. -/
theorem opensWith_endTag {name : Text} (letters : ∀ letter ∈ name, isLetter letter = true) :
    OpensWith (IsWrittenEndTag name) ":;\x7d" := by
  rintro word ⟨tag, mark, spelled, ends, rfl⟩
  have inside : ∀ point ∈ (":;\x7d" : Text), point ∉ tag := by
    have known : ∀ point ∈ (":;\x7d" : Text),
        isLetter point = false ∧ point ∉ ("</" : Text) := by decide
    exact fun point member => not_mem_tag letters spelled (known point member).1
      (known point member).2
  have behind : ∀ point ∈ (":;\x7d" : Text), point ≠ mark := by
    rintro point member rfl
    have known : ∀ point ∈ (":;\x7d" : Text),
        ¬(isNameEnd point = true ∨ point = .scalar '\r') := by decide
    exact known point member ends
  have opening : Text.ofString "</" ++ name = .scalar '<' :: .scalar '/' :: name := rfl
  rw [opening] at spelled
  obtain ⟨first, more, rfl, less, -⟩ := List.map_eq_cons_iff.mp spelled
  cases eq_of_lowered_eq less rfl
  refine ⟨more ++ [mark], rfl, fun point member => ?_⟩
  have apart := inside point member
  simp only [List.mem_cons, not_or] at apart
  simpa using ⟨apart.2, behind point member⟩

/-- A word stands in a text at its start or behind its first point. -/
theorem holds_cons_iff {words : Text → Prop} {point : CodePoint} {rest : Text} :
    Holds words (point :: rest) ↔
      (∃ word, words word ∧ word <+: point :: rest) ∨ Holds words rest := by
  constructor
  · rintro ⟨word, known, inside⟩
    exact (List.infix_cons_iff.mp inside).imp (fun start => ⟨word, known, start⟩)
      fun behind => ⟨word, known, behind⟩
  · rintro (⟨word, known, start⟩ | ⟨word, known, behind⟩)
    · exact ⟨word, known, start.isInfix⟩
    · exact ⟨word, known, List.infix_cons_iff.mpr (.inr behind)⟩

/-- An end tag stands at the start of a text if it does so with line feeds for its line ends. -/
theorem exists_prefix_lineFeeds_iff {name : Text}
    (letters : ∀ letter ∈ name, isLetter letter = true) (text : Text) :
    (∃ word, RawText.IsEndTag name word ∧ word <+: lineFeeds text) ↔
      ∃ word, IsWrittenEndTag name word ∧ word <+: text := by
  have plain {tag : Text} (spelled : tag.map lowered = "</" ++ name) :
      .scalar '\r' ∉ tag ∧ .scalar '\n' ∉ tag :=
    ⟨not_mem_tag letters spelled rfl (by decide), not_mem_tag letters spelled rfl (by decide)⟩
  constructor
  · rintro ⟨_, ⟨tag, mark, spelled, ends, rfl⟩, start⟩
    obtain ⟨mark, ends, start⟩ := (prefix_lineFeeds_iff (plain spelled) _).mp ⟨mark, ends, start⟩
    exact ⟨_, ⟨tag, mark, spelled, ends, rfl⟩, start⟩
  · rintro ⟨_, ⟨tag, mark, spelled, ends, rfl⟩, start⟩
    obtain ⟨mark, ends, start⟩ := (prefix_lineFeeds_iff (plain spelled) _).mpr ⟨mark, ends, start⟩
    exact ⟨_, ⟨tag, mark, spelled, ends, rfl⟩, start⟩

/-- End tags stand in a text where they stand in it with line feeds for its line ends. -/
theorem holds_lineFeeds_iff {name : Text} (letters : ∀ letter ∈ name, isLetter letter = true)
    (text : Text) :
    Holds (RawText.IsEndTag name) (lineFeeds text) ↔ Holds (IsWrittenEndTag name) text := by
  have written := opensWith_endTag letters
  have read : OpensWith (RawText.IsEndTag name) ":;\x7d" :=
    fun word ⟨tag, mark, spelled, ends, same⟩ =>
      written word ⟨tag, mark, spelled, .inl ends, same⟩
  fun_induction lineFeeds text with
  | case1 => simp [not_holds written, not_holds read]
  | case2 rest tail =>
    rw [holds_cons read (by decide), holds_cons written (by decide),
      holds_cons written (by decide)]
    exact tail
  | case3 rest bare tail =>
    rw [holds_cons read (by decide), holds_cons written (by decide)]
    exact tail
  | case4 point rest pair single tail =>
    have other : point ≠ .scalar '\r' := single
    have start := exists_prefix_lineFeeds_iff letters (point :: rest)
    rw [lineFeeds_cons other] at start
    rw [holds_cons_iff, holds_cons_iff]
    exact or_congr start tail

end Html

namespace Site

open Html

/-- Whether a token is named, and a word stands in its name or its value. -/
def TokenHolds (words : Text → Prop) (token : DesignToken) : Prop :=
  token.cssVar.isEmpty = false ∧ (Holds words token.cssVar.shown ∨ Holds words token.value)

section Design

variable {words : Text → Prop} {breaks : Text} (opens : OpensWith words breaks)
  (marks : ∀ point ∈ (":;\x7d" : Text), point ∈ breaks)

include opens marks

/-- A word stands in the line of a token if it stands in the name or the value. -/
theorem holds_propertyLine {token : DesignToken} {line : Text}
    (made : propertyLine? token = some line) (rest : Text) :
    Holds words (line ++ rest) ↔ TokenHolds words token ∨ Holds words rest := by
  unfold propertyLine? at made
  split at made
  · cases made
  · rename_i named
    have colon : Text.ofString ": " = [.scalar ':', .scalar ' '] := rfl
    have semicolon : Text.ofString ";" = [.scalar ';'] := rfl
    have tab : Text.ofString "\t" = [.scalar '\t'] := rfl
    cases made
    simp only [List.append_assoc, colon, semicolon, tab, List.cons_append, List.nil_append]
    rw [holds_cons opens (by decide), holds_append_cons opens (marks _ (by decide)),
      holds_cons opens (by decide), holds_cons opens (by decide),
      holds_append_cons opens (marks _ (by decide)), holds_cons opens (by decide), TokenHolds]
    simp [Bool.not_eq_true _ ▸ named, or_assoc]

/-- A word stands in the lines of a design if it stands in the name or the value of a token. -/
theorem holds_propertyLines (design : List DesignToken) (rest : Text) :
    Holds words ((design.filterMap propertyLine?).flatMap (· ++ [.scalar '\n']) ++ rest) ↔
      (∃ token ∈ design, TokenHolds words token) ∨ Holds words rest := by
  induction design with
  | nil => simp
  | cons token design tail =>
    cases made : propertyLine? token with
    | none =>
      have unnamed : ¬TokenHolds words token := by
        rintro ⟨named, -⟩
        simp [propertyLine?, named] at made
      simp [made, tail, unnamed]
    | some line =>
      simp only [List.filterMap_cons, made, List.flatMap_cons, List.append_assoc,
        List.singleton_append, List.exists_mem_cons_iff]
      rw [holds_propertyLine opens marks made, List.cons_append,
        holds_cons opens (by decide), tail, or_assoc]

/-- A word stands in the style of a design if it stands in the name or the value of a token. -/
theorem holds_designCss (design : List DesignToken) :
    Holds words (designCss design) ↔ ∃ token ∈ design, TokenHolds words token := by
  have lines := holds_propertyLines opens marks design "\x7d"
  have close : ¬Holds words "\x7d" := not_holds opens (by decide)
  unfold designCss
  split
  · rename_i none
    simp only [none, List.flatMap_nil, List.nil_append, close, or_false] at lines
    rw [← lines]
    simp [not_holds opens (show .scalar '<' ∉ Text.ofString ":root \x7b\x7d" by decide)]
  · rename_i some
    have feed : Text.ofString "\n\x7d" = .scalar '\n' :: "\x7d" := rfl
    rw [List.append_assoc, holds_append opens (by decide), feed, Text.unlines_append_feed some,
      lines]
    simp [close]

end Design

/-! ## Documents -/

/-- The lines of a document in front of its style. -/
def linesBeforeStyle (title fonts : Text) : List Text := [
  "<!DOCTYPE html>",
  "<html>",
  "<head>",
  "    <meta charset=\"utf-8\">",
  "    <meta name=\"viewport\" content=\"width=device-width, initial-scale=1\">",
  "    <title>" ++ title ++ "</title>",
  "    <link rel=\"stylesheet\" href=\"" ++ normalizeUrl ++ "\">",
  "    " ++ fonts]

/-- The lines of a document behind its style. -/
def linesBehindStyle (head imports body script : Text) : List Text := [
  "    " ++ head,
  "    " ++ imports,
  "</head>",
  "<body>",
  "    <div id=\"app\">" ++ body ++ "</div>" ++ script,
  "</body>",
  "</html>"]

/-- A document is its style between other lines. -/
theorem documentText_eq (parts : DocumentParts) :
    documentText parts =
      Text.unlines (linesBeforeStyle parts.title parts.fonts) ++ "\n    " ++ "<style>" ++
        parts.style ++ ("</style>" ++ .scalar '\n' ::
          Text.unlines (linesBehindStyle parts.head parts.imports parts.body parts.script)) := by
  simp only [documentText, linesBeforeStyle, linesBehindStyle, Text.unlines, Text.join,
    List.intercalate, List.intersperse, List.flatten_cons, List.flatten_nil, List.append_assoc]
  rfl

/-- The points that stand in no name of a tag and divide a document. -/
def dividers : Text := "\n<>=:;\x7d"

/-- Tags begin with a less-than sign and go on with letters. -/
theorem opensWith_tag {name : Text} (letters : ∀ letter ∈ name, isLetter letter = true) :
    OpensWith (· = .scalar '<' :: name) dividers := by
  rintro word rfl
  refine ⟨name, rfl, fun point member inside => ?_⟩
  have marks : ∀ point ∈ dividers, isLetter point = false := by decide
  have letter := letters point inside
  rw [marks point member] at letter
  cases letter

/-- A title holds no tag. -/
theorem not_mem_escapeMarkup (text : Text) : .scalar '<' ∉ escapeMarkup text := by
  intro member
  obtain ⟨point, -, here⟩ := List.mem_flatMap.mp member
  unfold escapedMarkup at here
  split at here
  · revert here; decide
  · revert here; decide
  · revert here; decide
  · revert here; decide
  · revert here; decide
  · rename_i less _ _ _
    cases List.mem_singleton.mp here
    exact less rfl

/-- The names of the elements that a static document is about. -/
def tagNames : List Text := ["script", "style"]

section Tags

variable {name : Text} (known : name ∈ tagNames)

include known

/-- The names are made of letters. -/
theorem isLetter_of_mem_tagNames : ∀ letter ∈ name, isLetter letter = true := by
  have each : ∀ name ∈ tagNames, ∀ letter ∈ name,
      isLetter letter = true := by decide
  exact each name known

/-- A tag stands between two others only if it stands in the text between them. -/
theorem holds_between {front behind : Text}
    (before : ¬.scalar '<' :: name <:+: front)
    (after : ¬.scalar '<' :: name <:+: .scalar '<' :: behind) (inner : Text) :
    Holds (· = .scalar '<' :: name) (front ++ .scalar '>' :: inner ++ .scalar '<' :: behind) ↔
      Holds (· = .scalar '<' :: name) inner := by
  have opens := opensWith_tag (isLetter_of_mem_tagNames known)
  rw [holds_append_cons opens (by decide), holds_append_cons opens (by decide),
    holds_cons opens (by decide)]
  simp [Holds, before, after]

/-- A fixed text holds no tag of the names if none of them stands in it. -/
theorem not_holds_fixed {text : Text}
    (free : ∀ name ∈ tagNames, ¬.scalar '<' :: name <:+: text) :
    ¬Holds (· = .scalar '<' :: name) text := by
  rintro ⟨word, rfl, inside⟩
  exact free name known inside

/-- The links to web fonts hold no tag of the names. -/
theorem not_holds_fontLinks {design : List DesignToken} {fonts : Text}
    (made : fontLinks design = .ok fonts) : ¬Holds (· = .scalar '<' :: name) fonts := by
  have opens := opensWith_tag (isLetter_of_mem_tagNames known)
  unfold fontLinks at made
  split at made
  · cases made
    exact not_holds opens (by simp)
  · cases done : Url.escaped "" (Text.join "|" ((webFonts design).map fontParameter)) with
    | error run =>
      rw [done] at made
      cases made
    | ok families =>
      rw [done] at made
      cases made
      have whole : ("<link rel=\"stylesheet\" href=\"" ++ fontsUrl ++ "?family=" ++ families ++
          "&display=swap\">" : Text) =
          Text.ofString "<link rel=\"stylesheet\" href=\"https://fonts.bunny.net/css?family" ++
            .scalar '=' :: (families ++ Text.ofString "&display=swap\">") := by
        rw [List.append_assoc]
        rfl
      have plain : .scalar '<' ∉ families :=
        Url.not_mem_of_escaped (by decide) (by decide) (by decide) done
      rw [whole, holds_append_cons opens (by decide), holds_cons opens (by decide),
        holds_append opens plain]
      exact not_or.mpr ⟨not_holds_fixed known (by decide), not_holds_fixed known (by decide)⟩

/-- In front of the style there is no tag of the names. -/
theorem not_holds_linesBeforeStyle {title fonts : Text} (plain : .scalar '<' ∉ title)
    (links : ¬Holds (· = .scalar '<' :: name) fonts) :
    ¬Holds (· = .scalar '<' :: name) (Text.unlines (linesBeforeStyle title fonts)) := by
  have opens := opensWith_tag (isLetter_of_mem_tagNames known)
  have fixed {text : Text} (free : ∀ name ∈ tagNames,
      ¬.scalar '<' :: name <:+: text) := not_holds_fixed known free
  have titled : ¬Holds (· = .scalar '<' :: name)
      ("    <title>" ++ title ++ "</title>" : Text) := by
    have whole : ("    <title>" ++ title ++ "</title>" : Text) =
        "    <title" ++ .scalar '>' :: title ++ .scalar '<' :: Text.ofString "/title>" := rfl
    have front : ∀ name ∈ tagNames, ¬.scalar '<' :: name <:+: Text.ofString "    <title" := by
      decide
    have behind : ∀ name ∈ tagNames,
        ¬.scalar '<' :: name <:+: .scalar '<' :: Text.ofString "/title>" := by decide
    rw [whole, holds_between known (front name known) (behind name known)]
    exact not_holds opens plain
  have linked : ¬Holds (· = .scalar '<' :: name) ("    " ++ fonts) := by
    rwa [holds_append opens (by decide)]
  rw [holds_unlines opens (by decide)]
  simp only [linesBeforeStyle, List.exists_mem_cons_iff, List.not_mem_nil, false_and, exists_false,
    titled, linked, or_false, not_or]
  exact ⟨fixed (by decide), fixed (by decide), fixed (by decide), fixed (by decide),
    fixed (by decide +kernel), not_false, fixed (by decide +kernel)⟩

/-- Behind the style a tag of the names stands only in the head or the body. -/
theorem not_holds_linesBehindStyle {head body : Text}
    (plainHead : ¬.scalar '<' :: name <:+: head) (plainBody : ¬.scalar '<' :: name <:+: body) :
    ¬Holds (· = .scalar '<' :: name) (Text.unlines (linesBehindStyle head [] body [])) := by
  have opens := opensWith_tag (isLetter_of_mem_tagNames known)
  have fixed {text : Text} (free : ∀ name ∈ tagNames, ¬.scalar '<' :: name <:+: text) :=
    not_holds_fixed known free
  have bodied : ¬Holds (· = .scalar '<' :: name)
      ("    <div id=\"app\">" ++ body ++ "</div>" ++ ([] : Text) : Text) := by
    have whole : ("    <div id=\"app\">" ++ body ++ "</div>" : Text) =
        "    <div id=\"app\"" ++ .scalar '>' :: body ++ .scalar '<' :: Text.ofString "/div>" := rfl
    have front : ∀ name ∈ tagNames,
        ¬.scalar '<' :: name <:+: Text.ofString "    <div id=\"app\"" := by decide
    have behind : ∀ name ∈ tagNames,
        ¬.scalar '<' :: name <:+: .scalar '<' :: Text.ofString "/div>" := by decide
    rw [List.append_nil, whole, holds_between known (front name known) (behind name known)]
    rintro ⟨word, rfl, inside⟩
    exact plainBody inside
  have headed : ¬Holds (· = .scalar '<' :: name) ("    " ++ head) := by
    rw [holds_append opens (by decide)]
    rintro ⟨word, rfl, inside⟩
    exact plainHead inside
  rw [holds_unlines opens (by decide)]
  simp only [linesBehindStyle, List.exists_mem_cons_iff, List.not_mem_nil, false_and, exists_false,
    bodied, headed, or_false, not_or]
  exact ⟨not_false, fixed (by decide), fixed (by decide), fixed (by decide), not_false,
    fixed (by decide), fixed (by decide)⟩

end Tags

/-- A script stands in a document without code for the browser only where it stands in the style,
given that the other parts do not hold it. -/
theorem holds_documentText_iff {title fonts head body : Text} (plain : .scalar '<' ∉ title)
    (links : ¬Holds (· = .scalar '<' :: "script") fonts)
    (plainHead : ¬.scalar '<' :: Text.ofString "script" <:+: head)
    (plainBody : ¬.scalar '<' :: Text.ofString "script" <:+: body) (style : Text) :
    Holds (· = .scalar '<' :: "script")
        (documentText { title, fonts, style, head, imports := [], body, script := [] }) ↔
      Holds (· = .scalar '<' :: "script") style := by
  have known : Text.ofString "script" ∈ tagNames := by decide
  have opens := opensWith_tag (isLetter_of_mem_tagNames known)
  have before := not_holds_linesBeforeStyle known plain links
  have behind := not_holds_linesBehindStyle known plainHead plainBody
  have alone {text : Text} (free : ¬.scalar '<' :: Text.ofString "script" <:+: text) :
      ¬Holds (· = .scalar '<' :: "script") text := by
    rintro ⟨word, rfl, inside⟩
    exact free inside
  have start : ¬Holds (· = .scalar '<' :: "script") "    <style" := alone (by decide)
  have close : ¬Holds (· = .scalar '<' :: "script") (.scalar '<' :: "/style>") := alone (by decide)
  have ending : ¬Holds (· = .scalar '<' :: "script") (.scalar '<' :: (Text.ofString "/style>" ++
      .scalar '\n' :: Text.unlines (linesBehindStyle head [] body []))) := by
    rw [← List.cons_append, holds_append_cons opens (by decide)]
    exact not_or.mpr ⟨close, (holds_cons opens (by decide) _).not.mpr behind⟩
  have whole : documentText { title, fonts, style, head, imports := [], body, script := [] } =
      Text.unlines (linesBeforeStyle title fonts) ++ .scalar '\n' :: (Text.ofString "    <style" ++
        .scalar '>' :: (style ++ .scalar '<' :: (Text.ofString "/style>" ++
          .scalar '\n' :: Text.unlines (linesBehindStyle head [] body [])))) := by
    rw [documentText_eq]
    simp only [List.append_assoc]
    rfl
  rw [whole, holds_append_cons opens (by decide), holds_cons opens (by decide),
    holds_append_cons opens (by decide), holds_cons opens (by decide),
    holds_append_cons opens (by decide)]
  simp only [before, start, ending, false_or, or_false]

/-- Whether a word stands in a named token of the design. -/
def DesignHolds (words : Text → Prop) (config : Config) : Prop :=
  ∃ token ∈ config.design, TokenHolds words token

/-- The document of a page without code for the browser. -/
def staticDocument (config : Config) (name fonts head body : Text) : Text :=
  documentText {
    title := escapeMarkup name, fonts, style := designCss config.design, head, imports := [], body
    script := [] }

/-- A document without code for the browser is made if its fonts have an address. -/
theorem renderDocument_of_static {config : Config} {name : Text} (named : config.name = .text name)
    (body head : Text) :
    renderDocument (.text body) config (.text head) (.text []) =
      ((fontLinks config.design).mapError .unencodable).map fun fonts =>
        staticDocument config name fonts head body := by
  unfold renderDocument
  rw [named]
  cases fontLinks config.design <;> rfl

/-- The style of a design ends in a brace. -/
theorem exists_designCss (design : List DesignToken) :
    ∃ front, designCss design = front ++ [.scalar '\x7d'] := by
  unfold designCss
  split
  · exact ⟨":root \x7b", rfl⟩
  · rename_i lines _
    have ending : Text.ofString "\n\x7d" = Text.ofString "\n" ++ [.scalar '\x7d'] := rfl
    exact ⟨":root \x7b\n" ++ Text.unlines (design.filterMap propertyLine?) ++ "\n", by
      rw [ending]
      simp only [List.append_assoc]⟩

/-- A tokenizer leaves the style of a document at the end tag behind it, if no named token holds an
end tag. -/
theorem leave?_style_iff (config : Config) (rest : Text) :
    leave? (RawText.step "style") .text
        (lineFeeds (designCss config.design ++ ("</style>" ++ rest))) = some (lineFeeds rest) ↔
      ¬DesignHolds (IsWrittenEndTag "style") config := by
  have letters : ∀ letter ∈ ("style" : Text), isLetter letter = true := by decide
  have small : ("style" : Text).map lowered = "style" := rfl
  have mark : isLetter (.scalar '\x7d') = false ∧
      CodePoint.scalar '\x7d' ∉ ([.scalar '<', .scalar '/'] : Text) := by decide
  obtain ⟨front, ending⟩ := exists_designCss config.design
  have fed : lineFeeds (front ++ [.scalar '\x7d']) = lineFeeds front ++ [.scalar '\x7d'] :=
    lineFeeds_append (by decide) front
  have tag : lineFeeds ("</style>" ++ rest) = "</" ++ "style" ++ ">" ++ lineFeeds rest :=
    lineFeeds_append_of_not_mem (by decide) rest
  have left := @RawText.leave?_endTag_iff "style" (lineFeeds front) letters small (by decide) _
    mark (lineFeeds rest)
  have apart : (Text.ofString "</style>" ++ rest).head? ≠ some (.scalar '\n') := nofun
  rw [lineFeeds_append apart, tag, ending, fed, left, ← fed, ← ending]
  change ¬Holds (RawText.IsEndTag "style") (lineFeeds (designCss config.design)) ↔ _
  rw [holds_lineFeeds_iff letters,
    holds_designCss (opensWith_endTag letters) (fun _ member => member) config.design]
  rfl

/-- **Static documents.** A document without code for the browser is made if its fonts have an
address. Its style then stands behind text without another one; the document holds a script exactly
if a named token of the design does, given that the rendered page does not; and a tokenizer leaves
the style exactly at the end tag that is written behind it if no named token holds an end tag. -/
theorem renderDocument_static {config : Config} {name body head : Text}
    (named : config.name = .text name) (plainBody : ¬Text.ofString "<script" <:+: body)
    (plainHead : ¬Text.ofString "<script" <:+: head) :
    (∀ run, fontLinks config.design = .error run →
      renderDocument (.text body) config (.text head) (.text []) = .error (.unencodable run)) ∧
    ∀ fonts, fontLinks config.design = .ok fonts → ∃ front behind document,
      renderDocument (.text body) config (.text head) (.text []) = .ok document ∧
      document = front ++ "<style>" ++ designCss config.design ++ ("</style>" ++ behind) ∧
      ¬Text.ofString "<style" <:+: front ∧
      (Text.ofString "<script" <:+: document ↔ DesignHolds (· = "<script") config) ∧
      (leave? (RawText.step "style") .text
          (lineFeeds (designCss config.design ++ ("</style>" ++ behind))) =
            some (lineFeeds behind) ↔
        ¬DesignHolds (IsWrittenEndTag "style") config) := by
  have script : Text.ofString "script" ∈ tagNames := by decide
  have opens := opensWith_tag (isLetter_of_mem_tagNames script)
  have rendered := renderDocument_of_static named body head
  refine ⟨fun run failed => by rw [rendered, failed]; rfl, fun fonts made => ?_⟩
  have titled := not_mem_escapeMarkup name
  refine ⟨Text.unlines (linesBeforeStyle (escapeMarkup name) fonts) ++ "\n    ",
    .scalar '\n' :: Text.unlines (linesBehindStyle head [] body []),
    staticDocument config name fonts head body, ?_, ?_, ?_, ?_, leave?_style_iff config _⟩
  · rw [rendered, made]
    rfl
  · exact documentText_eq _
  · have style : Text.ofString "style" ∈ tagNames := by decide
    have opens := opensWith_tag (isLetter_of_mem_tagNames style)
    intro inside
    have front : Holds (· = .scalar '<' :: Text.ofString "style")
        (Text.unlines (linesBeforeStyle (escapeMarkup name) fonts) ++ .scalar '\n' :: "    ") :=
      ⟨_, rfl, inside⟩
    rw [holds_append_cons opens (by decide)] at front
    exact front.elim
      (not_holds_linesBeforeStyle style titled (not_holds_fontLinks style made))
      (not_holds opens (by decide))
  · have whole := holds_documentText_iff titled (not_holds_fontLinks script made) plainHead
      plainBody (designCss config.design)
    rw [holds_designCss opens (by decide)] at whole
    refine Iff.trans ⟨fun inside => ⟨_, rfl, inside⟩, ?_⟩ whole
    rintro ⟨word, rfl, inside⟩
    exact inside

/-- A page with a design of two tokens: it holds no script, and its style is left at its end. -/
theorem renderDocument_static_two_tokens :
    let config : Config := {
      name := "A & <B>"
      design := [{ cssVar := "--accent", value := "red" },
        { cssVar := "--text", value := "Open Sans", type := "font" }] }
    ∃ front behind document,
      renderDocument (.text "<h1>Hi</h1>") config (.text "<meta name=a>") (.text []) =
        .ok document ∧
      document = front ++ "<style>" ++ designCss config.design ++ ("</style>" ++ behind) ∧
      ¬Text.ofString "<style" <:+: front ∧ ¬Text.ofString "<script" <:+: document ∧
      leave? (RawText.step "style") .text
        (lineFeeds (designCss config.design ++ ("</style>" ++ behind))) =
          some (lineFeeds behind) := by
  intro config
  have plain : ∀ token ∈ config.design,
      .scalar '<' ∉ token.cssVar.shown ∧ .scalar '<' ∉ token.value := by decide
  have free {words : Text → Prop} {breaks : Text} (opens : OpensWith words breaks) :
      ¬DesignHolds words config := by
    rintro ⟨token, member, -, holds⟩
    exact holds.elim (not_holds opens (plain token member).1)
      (not_holds opens (plain token member).2)
  have letters : ∀ letter ∈ ("style" : Text), isLetter letter = true := by decide
  have script : Text.ofString "script" ∈ tagNames := by decide
  obtain ⟨-, made⟩ := @renderDocument_static config "A & <B>" "<h1>Hi</h1>" "<meta name=a>" rfl
    (by decide) (by decide)
  obtain ⟨front, behind, document, rendered, whole, first, scripts, left⟩ := made _ rfl
  have unscripted := mt scripts.mp (free (opensWith_tag (isLetter_of_mem_tagNames script)))
  exact ⟨front, behind, document, rendered, whole, first, unscripted,
    left.mpr (free (opensWith_endTag letters))⟩

/-- A token whose value ends the style: the page holds the script behind it, and its style is left
in front of it. -/
theorem renderDocument_static_closing_value :
    let config : Config := {
      name := "A", design := [{ cssVar := "--a", value := "</style><script>alert(1)</script>" }] }
    ∃ front behind document,
      renderDocument (.text []) config (.text []) (.text []) = .ok document ∧
      document = front ++ "<style>" ++ designCss config.design ++ ("</style>" ++ behind) ∧
      ¬Text.ofString "<style" <:+: front ∧ Text.ofString "<script" <:+: document ∧
      leave? (RawText.step "style") .text
        (lineFeeds (designCss config.design ++ ("</style>" ++ behind))) =
          some ("<script>alert(1)</script>;\n\x7d</style>" ++ lineFeeds behind) := by
  intro config
  exact ⟨Text.unlines (linesBeforeStyle "A" []) ++ "\n    ",
    .scalar '\n' :: Text.unlines (linesBehindStyle [] [] [] []), _, rfl, documentText_eq _,
    by decide +kernel, by decide +kernel, by decide +kernel⟩

end Site
end SiteBuild
