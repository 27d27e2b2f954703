import Mathlib.Data.List.Induction
import SiteBuild.Proofs.ClosedGraphs
import SiteBuild.Proofs.LoneSurrogates
import SiteBuild.Proofs.PercentEscapes
import SiteBuild.Proofs.SmallLetters
import SiteBuild.Proofs.Spelling
import SiteBuild.Site.Fonts

/-!
# Lists of font families

The value of a font token is a list of families, and the first of them is the font that is meant.
A family by itself is taken for a font of the system only if it is written without quotes and
blanks around it, and of a list of several families the name of the first one is not taken at all:
the whole list is the name of the web font, unless it starts with the font of the system. Main
statement: the first families that no system brings along are asked for, and nothing else, exactly
if each font token is understood (`asksForFamilies_iff`).
-/
namespace SiteBuild

namespace Site

open Text

/-! ## Families -/

/-- The marks that a name in a list cannot hold: commas and quotes. -/
def listMarks : List CodePoint := [.scalar ',', .scalar '\x27', .scalar '\x22']

/-- A font family as it is written in a list. -/
structure Family where
  /-- The name. -/
  name : Text
  /-- The quotes around the name, if there are any. -/
  quote : Option Script.Quote := none
  /-- The blanks before it. -/
  front : Text := []
  /-- The blanks behind it. -/
  rear : Text := []
  /-- The name holds no commas and no quotes. -/
  plain : ∀ mark ∈ listMarks, mark ∉ name
  /-- A name without quotes is there, and the blanks around it are none of its own. -/
  bare : quote = none → name ≠ [] ∧ IsTight name
  /-- What stands before the family is blank. -/
  blankFront : ∀ point ∈ front, isBlank point = true
  /-- So is what stands behind it. -/
  blankRear : ∀ point ∈ rear, isBlank point = true

namespace Family

/-- The name in its quotes. -/
def core (family : Family) : Text :=
  match family.quote with
  | none => family.name
  | some quote => quote.point :: (family.name ++ [quote.point])

/-- The family as it is written. -/
def text (family : Family) : Text := family.front ++ family.core ++ family.rear

/-- Whether a system brings the family along, in whatever letters its name is written. -/
def IsSystem (family : Family) : Prop := lower family.name ∈ systemFonts

/-- Whether nothing is written but the name. -/
def IsBare (family : Family) : Prop :=
  family.quote = none ∧ family.front = [] ∧ family.rear = []

/-- No comma is written in a family. -/
theorem comma_not_mem_text (family : Family) : .scalar ',' ∉ family.text := by
  have solid : isBlank (.scalar ',') = false := by decide
  have outside {blanks : Text} (blank : ∀ point ∈ blanks, isBlank point = true) :
      .scalar ',' ∉ blanks := by
    intro member
    rw [blank _ member] at solid
    cases solid
  have inside : .scalar ',' ∉ family.core := by
    have plain := family.plain (.scalar ',') (by decide)
    unfold core
    split
    · exact plain
    · rename_i quote _
      cases quote <;> simpa [Script.Quote.point] using plain
  simp only [text, List.mem_append, not_or]
  exact ⟨⟨outside family.blankFront, inside⟩, outside family.blankRear⟩

/-- Something is written between the blanks. -/
theorem core_ne_nil (family : Family) : family.core ≠ [] := by
  unfold core
  split
  · rename_i none
    exact (family.bare none).1
  · exact List.cons_ne_nil _ _

/-- The blanks around a family are none of its own. -/
theorem isTight_core (family : Family) : IsTight family.core := by
  unfold core
  split
  · rename_i none
    exact (family.bare none).2
  · rename_i quote _
    have solid : isBlank quote.point = false := by cases quote <;> decide
    constructor
    · rintro point ⟨⟩
      exact solid
    · rw [← List.cons_append, List.getLast?_concat]
      rintro point ⟨⟩
      exact solid

/-- Without the blanks around it and without quotes, a family is its name. -/
theorem unquoted_text (family : Family) : unquoted family.text = family.name := by
  have kept : without ['\x22', '\x27'] family.name = family.name := by
    refine List.filter_eq_self.mpr fun point member => ?_
    have single := family.plain (.scalar '\x27') (by decide)
    have double := family.plain (.scalar '\x22') (by decide)
    have other : point ≠ .scalar '\x22' ∧ point ≠ .scalar '\x27' :=
      ⟨fun same => double (same ▸ member), fun same => single (same ▸ member)⟩
    simpa using other
  rw [unquoted, text, trim_append family.blankFront family.blankRear family.isTight_core, core]
  split
  · exact kept
  · rename_i quote _
    cases quote <;> simpa [without, Script.Quote.point] using kept

/-- A family of which nothing but the name is written is its name. -/
theorem text_of_isBare {family : Family} (bare : family.IsBare) : family.text = family.name := by
  obtain ⟨none, front, rear⟩ := bare
  rw [text, core, none, front, rear, List.append_nil, List.nil_append]

end Family

/-- The value of a font token: families and commas between them. -/
def listText (families : List Family) : Text := join "," (families.map Family.text)

/-- A list of one family is the family. -/
theorem listText_singleton (family : Family) : listText [family] = family.text := by
  simp [listText, join]

/-- Behind the first of several families there is a comma. -/
theorem listText_cons_cons (first second : Family) (rest : List Family) :
    listText (first :: second :: rest) =
      first.text ++ .scalar ',' :: listText (second :: rest) := by
  have comma : ofString "," = [.scalar ','] := rfl
  simp [listText, join, comma]

/-! ## Fonts of the system -/

/-- The names of the fonts of systems hold no commas and no quotes, and there are no blanks
around them. -/
theorem systemFonts_plain : ∀ font ∈ systemFonts,
    (∀ mark ∈ listMarks, mark ∉ font) ∧
      (∀ point ∈ font.head?, isBlank point = false) ∧
      ∀ point ∈ font.getLast?, isBlank point = false := by
  decide

/-- The font of the system is one of those that systems bring along. -/
theorem lower_mem_systemFonts : ∀ name ∈ systemNames, lower name ∈ systemFonts := by
  decide

/-- The marks of lists have no case. -/
theorem isCaseless_of_mem_listMarks : ∀ mark ∈ listMarks, IsCaseless mark := by
  decide

/-- A text with one of the marks of lists is no font of a system. -/
theorem lower_not_mem_systemFonts {mark : CodePoint} {text : Text} (known : mark ∈ listMarks)
    (member : mark ∈ text) : lower text ∉ systemFonts := fun system =>
  (systemFonts_plain _ system).1 mark known
    ((mem_lower_iff (isCaseless_of_mem_listMarks mark known) text).mpr member)

/-- A family by itself is taken for a font of a system only if nothing is written but its name. -/
theorem isSystemFont_text (family : Family) :
    isSystemFont family.text = true ↔ family.IsBare ∧ family.IsSystem := by
  have comma := family.comma_not_mem_text
  have some : family.text ≠ [] := by simp [Family.text, family.core_ne_nil]
  have system : isSystemFont family.text = true ↔ lower family.text ∈ systemFonts := by
    simp [isSystemFont, startsWithSystem, comma, some]
  rw [system]
  constructor
  · intro named
    obtain ⟨-, start, stop⟩ := systemFonts_plain _ named
    have bare : family.IsBare := by
      refine ⟨?_, ?_, ?_⟩
      · cases quoted : family.quote with
        | none => rfl
        | some quote =>
          have known : quote.point ∈ listMarks := by cases quote <;> decide
          refine absurd named (lower_not_mem_systemFonts known ?_)
          simp [Family.text, Family.core, quoted]
      · cases front : family.front with
        | nil => rfl
        | cons point rest =>
          have blank := family.blankFront point (by simp [front])
          have first := head?_lower_of_isBlank blank (rest ++ family.core ++ family.rear)
          have solid := start point (by simpa [Family.text, front] using first)
          rw [blank] at solid
          cases solid
      · cases rear : family.rear using List.reverseRecOn with
        | nil => rfl
        | append_singleton rest point =>
          have blank := family.blankRear point (by simp [rear])
          have last := getLast?_lower_of_isBlank blank (family.front ++ family.core ++ rest)
          have solid := stop point (by simpa [Family.text, rear] using last)
          rw [blank] at solid
          cases solid
    rw [Family.text_of_isBare bare] at named
    exact ⟨bare, named⟩
  · rintro ⟨bare, named⟩
    rw [Family.text_of_isBare bare]
    exact named

/-- Of several families the first one has to be the font of the system. -/
theorem isSystemFont_several (first second : Family) (rest : List Family) :
    isSystemFont (listText (first :: second :: rest)) = true ↔ first.name ∈ systemNames := by
  have comma : .scalar ',' ∈ listText (first :: second :: rest) := by
    simp [listText_cons_cons]
  have none := lower_not_mem_systemFonts (by decide) comma
  have start : Text.before ',' (listText (first :: second :: rest)) = first.text := by
    rw [listText_cons_cons]
    exact before_append first.comma_not_mem_text _
  have some : listText (first :: second :: rest) ≠ [] := List.ne_nil_of_mem comma
  simp [isSystemFont, startsWithSystem, comma, none, some, start, Family.unquoted_text]

/-! ## Fields of a design -/

/-- A field of a design: a list of font families, or anything but a font. -/
inductive FontField where
  /-- A list of families. -/
  | fonts (cssVar : Textual) (families : List Family)
  /-- A field that is no font. -/
  | other (token : DesignToken) (noFont : token.type.toJson.isString "font" = false)

namespace FontField

/-- The design token of a field. -/
def token : FontField → DesignToken
  | .fonts cssVar families => { cssVar := cssVar, value := listText families, type := "font" }
  | .other token _ => token

/-- The family that a font field means. -/
def first? : FontField → Option Family
  | .fonts _ families => families.head?
  | .other _ _ => none

end FontField

/-- A family in the address of a style sheet. -/
def familyKey (font : Text) : Text := join "-" (words (lower font))

/-- The families that a link to a style sheet asks for; no link asks for none. -/
def requested? (link : Text) : Option (List Text) :=
  match cutAt? "?family=" link with
  | none => some []
  | some (_, query) =>
    (Url.unescaped? (Text.before '&' query)).map fun families =>
      (splitAt (.scalar '|') families).map (Text.before ':')

/-- Whether the web fonts of a design are the first families of its fonts, less those that systems
bring along. -/
structure AsksForFamilies (fields : List FontField) : Prop where
  /-- Every web font is the first family of a font. -/
  first : ∀ name ∈ webFonts (fields.map FontField.token),
    ∃ field ∈ fields, ∃ family, field.first? = some family ∧ family.name = name
  /-- No system brings a web font along, in whatever letters its name is written. -/
  noSystem : ∀ name ∈ webFonts (fields.map FontField.token), lower name ∉ systemFonts
  /-- Every web font is named once. -/
  once : (webFonts (fields.map FontField.token)).Nodup
  /-- The first family of a font is a web font, if no system brings it along. -/
  all : ∀ field ∈ fields, ∀ family, field.first? = some family → ¬family.IsSystem →
    family.name ∈ webFonts (fields.map FontField.token)
  /-- The link asks for exactly these families. -/
  requested : ∃ link, fontLinks (fields.map FontField.token) = .ok link ∧
    requested? link = some ((webFonts (fields.map FontField.token)).map familyKey)

/-- Whether a name can be read back from the address of a style sheet. -/
structure IsRequestable (name : Text) : Prop where
  /-- The name has bytes. -/
  encodable : name.Encodable
  /-- It holds no bar, which stands between families. -/
  noBar : .scalar '|' ∉ name
  /-- It holds no colon, which stands before the weights. -/
  noColon : .scalar ':' ∉ name

/-- Whether a field of a design is understood as it is meant. -/
def FontField.IsUnderstood : FontField → Prop
  | .fonts _ [family] =>
    (family.IsSystem → family.IsBare) ∧
      (¬family.IsSystem → family.name ≠ [] ∧ IsRequestable family.name)
  | .fonts _ (first :: _ :: _) => first.name ∈ systemNames
  | _ => True

/-! ## Web fonts -/

/-- The web fonts of a design are those that its tokens ask for. -/
theorem mem_webFonts {fields : List FontField} {name : Text} :
    name ∈ webFonts (fields.map FontField.token) ↔
      ∃ field ∈ fields, webFont? field.token = some name := by
  simp [webFonts, List.mem_eraseDups]

/-- A web font has a name. -/
theorem ne_nil_of_mem_webFonts {design : List DesignToken} {name : Text}
    (member : name ∈ webFonts design) : name ≠ [] := by
  rw [webFonts, List.mem_eraseDups] at member
  obtain ⟨token, -, asked⟩ := List.mem_filterMap.mp member
  rintro rfl
  unfold webFont? at asked
  split at asked
  · cases asked
  · by_cases none : unquoted token.value = [] <;> simp [none] at asked

/-- A font asks for its value, unless it is taken for a font of a system. -/
theorem webFont?_fonts {cssVar : Textual} {families : List Family} {name : Text} :
    webFont? (FontField.fonts cssVar families).token = some name ↔
      ¬isSystemFont (listText families) = true ∧ name ≠ [] ∧
        unquoted (listText families) = name := by
  have font : (Textual.toJson ("font" : String)).isString "font" = true := rfl
  by_cases system : isSystemFont (listText families) = true
  · simp [webFont?, FontField.token, font, system]
  · have asked : webFont? (FontField.fonts cssVar families).token =
        if unquoted (listText families) = [] then none
        else some (unquoted (listText families)) := by
      simp [webFont?, FontField.token, font, system]
    rw [asked]
    by_cases none : unquoted (listText families) = []
    · simp +contextual [none]
    · simp only [none, if_false, Option.some.injEq, system, true_and, Bool.false_eq_true,
        not_false_eq_true]
      refine ⟨?_, And.right⟩
      rintro rfl
      exact ⟨none, rfl⟩

/-- A family by itself asks for its name, unless it is taken for a font of a system. -/
theorem webFont?_one {cssVar : Textual} {family : Family} {name : Text} :
    webFont? (FontField.fonts cssVar [family]).token = some name ↔
      ¬(family.IsBare ∧ family.IsSystem) ∧ name ≠ [] ∧ family.name = name := by
  rw [webFont?_fonts, listText_singleton, isSystemFont_text, family.unquoted_text]

/-- Several families ask for all of themselves, unless they start with the font of the system. -/
theorem webFont?_several {cssVar : Textual} {first second : Family} {rest : List Family}
    {name : Text} :
    webFont? (FontField.fonts cssVar (first :: second :: rest)).token = some name ↔
      first.name ∉ systemNames ∧ name ≠ [] ∧
        unquoted (listText (first :: second :: rest)) = name := by
  rw [webFont?_fonts, isSystemFont_several]

/-- A comma is left without the blanks around a text and without quotes. -/
theorem comma_mem_unquoted {text : Text} (member : .scalar ',' ∈ text) :
    .scalar ',' ∈ unquoted text := by
  have solid : isBlank (.scalar ',') = false := by decide
  exact List.mem_filter.mpr ⟨(mem_trim_iff solid text).mpr member, by decide⟩

/-! ## The address of the style sheet -/

/-- A mark without a case, which is neither blank nor put between words, stands in the key of a
family exactly if it stands in the name. -/
theorem mem_familyKey_iff {mark : CodePoint} (caseless : IsCaseless mark)
    (solid : isBlank mark = false) (other : mark ≠ .scalar '-') (name : Text) :
    mark ∈ familyKey name ↔ mark ∈ name := by
  have joined : mark ∈ familyKey name ↔ mark ∈ (words (lower name)).flatten := by
    rw [List.mem_flatten]
    constructor
    · intro member
      rcases mem_of_mem_join member with between | inside
      · exact absurd (List.mem_singleton.mp between) other
      · exact inside
    · rintro ⟨word, among, member⟩
      exact mem_join among member
  rw [joined, flatten_words, List.mem_filter, mem_lower_iff caseless]
  simp [solid]

/-- The weights that are asked for, behind a colon. -/
theorem fontParameter_eq (font : Text) :
    fontParameter font = familyKey font ++ .scalar ':' :: "400,500,600,700" :=
  rfl

/-- The key of a family is made of characters exactly if the name is. -/
theorem encodable_familyKey_iff (name : Text) : (familyKey name).Encodable ↔ name.Encodable := by
  have lone (text : Text) : text.Encodable ↔ ∀ index, .surrogate index ∉ text := by
    constructor
    · intro encodable index member
      cases encodable _ member
    · intro apart point member
      cases point with
      | scalar char => rfl
      | surrogate index => exact absurd member (apart index)
  have kept (index : Fin 2048) : .surrogate index ∈ familyKey name ↔ .surrogate index ∈ name :=
    have caseless : IsCaseless (.surrogate index) := trivial
    mem_familyKey_iff caseless rfl (by simp) name
  simp only [lone, kept]

/-- What an address asks for is made of characters exactly if all names are. -/
theorem encodable_parameters_iff (names : List Text) :
    (join "|" (names.map fontParameter)).Encodable ↔ ∀ name ∈ names, name.Encodable := by
  have parameter (name : Text) : lone (fontParameter name) = [] ↔ name.Encodable := by
    rw [fontParameter, lone_append, lone_ofString, List.append_nil, lone_eq_nil_iff]
    exact encodable_familyKey_iff name
  rw [← lone_eq_nil_iff, lone_join (lone_ofString _), List.flatMap_eq_nil_iff]
  simp only [List.forall_mem_map, parameter]

/-- The link to the style sheet of families that are written in an address. -/
def styleLink (families : Text) : Text :=
  "<link rel=\"stylesheet\" href=\"" ++ fontsUrl ++ "?family=" ++ families ++ "&display=swap\">"

/-- A link asks for what its address writes. -/
theorem requested?_styleLink {families url : Text} (done : Url.escaped "" families = .ok url) :
    requested? (styleLink url) =
      some ((splitAt (.scalar '|') families).map (Text.before ':')) := by
  have amp : .scalar '&' ∉ url := Url.not_mem_of_escaped (by decide) (by decide) (by decide) done
  have cut : ∃ front, cutAt? "?family=" (styleLink url) = some (front, url ++ "&display=swap\">") :=
    ⟨_, rfl⟩
  obtain ⟨front, cut⟩ := cut
  have stop : Text.before '&' (url ++ "&display=swap\">") = url := before_append amp _
  simp only [requested?, cut, stop, Url.unescaped?_of_escaped (by decide) done, Option.map_some]

/-- The link to the style sheet of a design, if there are web fonts in it. -/
theorem fontLinks_of_ne_nil {design : List DesignToken} (some : webFonts design ≠ []) :
    fontLinks design =
      (Url.escaped "" (join "|" ((webFonts design).map fontParameter))).map styleLink := by
  obtain ⟨first, rest, fonts⟩ := List.exists_cons_of_ne_nil some
  rw [fontLinks, fonts]
  change (do
    let families ← Url.escaped "" (join "|" ((first :: rest).map fontParameter))
    return styleLink families) = _
  cases Url.escaped "" (join "|" ((first :: rest).map fontParameter)) <;> rfl

/-- The names of families that a link asks for can be read back. -/
theorem isRequestable_of_requested {names : List Text} {url : Text}
    (done : Url.escaped "" (join "|" (names.map fontParameter)) = .ok url)
    (asked : requested? (styleLink url) = some (names.map familyKey)) :
    ∀ name ∈ names, IsRequestable name := by
  have encodable := (encodable_parameters_iff names).mp (Url.encodable_of_escaped done)
  rw [requested?_styleLink done, Option.some.injEq] at asked
  intro name member
  have key : familyKey name ∈ names.map familyKey := List.mem_map_of_mem member
  rw [← asked] at key
  obtain ⟨part, cut, start⟩ := List.mem_map.mp key
  refine ⟨encodable name member, fun inside => ?_, fun inside => ?_⟩
  · have kept : .scalar '|' ∈ familyKey name :=
      (mem_familyKey_iff (by decide) (by decide) (by decide) name).mpr inside
    rw [← start] at kept
    exact not_mem_of_mem_splitAt cut ((List.takeWhile_sublist _).mem kept)
  · have kept : .scalar ':' ∈ familyKey name :=
      (mem_familyKey_iff (by decide) (by decide) (by decide) name).mpr inside
    rw [← start] at kept
    exact not_mem_before _ _ kept

/-- Names that can be read back are asked for. -/
theorem requested_of_isRequestable {names : List Text} (named : names ≠ [])
    (clear : ∀ name ∈ names, IsRequestable name) :
    ∃ url, Url.escaped "" (join "|" (names.map fontParameter)) = .ok url ∧
      requested? (styleLink url) = some (names.map familyKey) := by
  have encodable : (join "|" (names.map fontParameter)).Encodable :=
    (encodable_parameters_iff names).mpr fun name member => (clear name member).encodable
  have bars : ∀ parameter ∈ names.map fontParameter, .scalar '|' ∉ parameter := by
    intro parameter among
    obtain ⟨name, member, rfl⟩ := List.mem_map.mp among
    rw [fontParameter_eq, List.mem_append, not_or,
      mem_familyKey_iff (by decide) (by decide) (by decide)]
    exact ⟨(clear name member).noBar, by decide⟩
  have starts : (names.map fontParameter).map (Text.before ':') = names.map familyKey := by
    rw [List.map_map]
    refine List.map_congr_left fun name member => ?_
    have apart : .scalar ':' ∉ familyKey name := by
      rw [mem_familyKey_iff (by decide) (by decide) (by decide)]
      exact (clear name member).noColon
    exact before_append apart _
  obtain ⟨url, done⟩ := Url.exists_escaped "" encodable
  refine ⟨url, done, ?_⟩
  rw [requested?_styleLink done]
  exact congrArg some ((congrArg _ (splitAt_join (by simpa using named) bars)).trans starts)

/-- A link asks for the web fonts of a design exactly if their names can be read back. -/
theorem requested_iff (design : List DesignToken) :
    (∃ link, fontLinks design = .ok link ∧
      requested? link = some ((webFonts design).map familyKey)) ↔
        ∀ name ∈ webFonts design, IsRequestable name := by
  by_cases none : webFonts design = []
  · simp only [fontLinks, none, List.map_nil, List.not_mem_nil, false_imp_iff, implies_true,
      iff_true]
    exact ⟨[], rfl, rfl⟩
  · rw [fontLinks_of_ne_nil none]
    constructor
    · rintro ⟨link, linked, asked⟩
      cases done : Url.escaped "" (join "|" ((webFonts design).map fontParameter)) with
      | error run =>
        rw [done] at linked
        cases linked
      | ok url =>
        rw [done] at linked
        cases linked
        exact isRequestable_of_requested done asked
    · intro clear
      obtain ⟨url, done, asked⟩ := requested_of_isRequestable none clear
      exact ⟨styleLink url, by rw [done]; rfl, asked⟩

/-! ## Designs -/

/-- A field that is understood asks for its first family, unless a system brings it along. -/
theorem webFont?_of_isUnderstood {field : FontField} (understood : field.IsUnderstood)
    {name : Text} : webFont? field.token = some name ↔
      ∃ family, field.first? = some family ∧ ¬family.IsSystem ∧ family.name = name := by
  match field with
  | .other token noFont =>
    simp [webFont?, FontField.token, FontField.first?, noFont]
  | .fonts cssVar [] =>
    have empty : isSystemFont (listText []) = true := rfl
    rw [webFont?_fonts]
    simp [FontField.first?, empty]
  | .fonts cssVar [family] =>
    obtain ⟨system, foreign⟩ := understood
    rw [webFont?_one]
    simp only [FontField.first?, List.head?_cons, Option.some.injEq, exists_eq_left']
    constructor
    · rintro ⟨other, -, same⟩
      exact ⟨fun known => other ⟨system known, known⟩, same⟩
    · rintro ⟨other, rfl⟩
      exact ⟨fun known => other known.2, (foreign other).1, rfl⟩
  | .fonts cssVar (first :: second :: rest) =>
    have known : first.name ∈ systemNames := understood
    have system : first.IsSystem := lower_mem_systemFonts _ known
    rw [webFont?_several]
    simp [FontField.first?, known, system]

/-- The family that a field asks for can be read back from an address, if the field is
understood. -/
theorem isRequestable_of_isUnderstood {field : FontField} (understood : field.IsUnderstood)
    {family : Family} (first : field.first? = some family) (foreign : ¬family.IsSystem) :
    IsRequestable family.name := by
  match field with
  | .other token noFont => cases first
  | .fonts cssVar [] => cases first
  | .fonts cssVar [single] =>
    cases first
    exact (understood.2 foreign).2
  | .fonts cssVar (_ :: second :: rest) =>
    cases first
    exact absurd (lower_mem_systemFonts _ understood) foreign

/-- In a design that asks for its fonts, every field is understood. -/
theorem isUnderstood_of_asksForFamilies {fields : List FontField} (asks : AsksForFamilies fields)
    {field : FontField} (member : field ∈ fields) : field.IsUnderstood := by
  have clear := (requested_iff _).mp asks.requested
  match field with
  | .other token noFont => trivial
  | .fonts cssVar [] => trivial
  | .fonts cssVar [family] =>
    constructor
    · intro system
      by_contra written
      have some : family.name ≠ [] := by
        intro none
        rw [Family.IsSystem, none] at system
        exact absurd system (by decide)
      have asked : family.name ∈ webFonts (fields.map FontField.token) :=
        mem_webFonts.mpr ⟨_, member, webFont?_one.mpr ⟨fun known => written known.1, some, rfl⟩⟩
      exact asks.noSystem _ asked system
    · intro foreign
      have asked := asks.all _ member family rfl foreign
      exact ⟨ne_nil_of_mem_webFonts asked, clear _ asked⟩
  | .fonts cssVar (first :: second :: rest) =>
    by_contra other
    have comma : .scalar ',' ∈ unquoted (listText (first :: second :: rest)) :=
      comma_mem_unquoted (by simp [listText_cons_cons])
    have asked : unquoted (listText (first :: second :: rest)) ∈
        webFonts (fields.map FontField.token) :=
      mem_webFonts.mpr
        ⟨_, member, webFont?_several.mpr ⟨other, List.ne_nil_of_mem comma, rfl⟩⟩
    obtain ⟨_, _, family, -, same⟩ := asks.first _ asked
    rw [← same] at comma
    exact family.plain (.scalar ',') (by decide) comma

/-- **Which designs ask for their fonts.** The web fonts of a design are the first families of its
fonts, less those that systems bring along, exactly if each family by itself and each start of
several families is understood: a font of a system is written without quotes and blanks, the name
of another can be read back from an address, and several families start with the font of the
system. -/
theorem asksForFamilies_iff (fields : List FontField) :
    AsksForFamilies fields ↔ ∀ field ∈ fields, field.IsUnderstood := by
  refine ⟨fun asks field member => isUnderstood_of_asksForFamilies asks member, fun all => ?_⟩
  have asked {name : Text} : name ∈ webFonts (fields.map FontField.token) ↔
      ∃ field ∈ fields, ∃ family, field.first? = some family ∧ ¬family.IsSystem ∧
        family.name = name := by
    rw [mem_webFonts]
    exact exists_congr fun field =>
      and_congr_right fun member => webFont?_of_isUnderstood (all field member)
  refine ⟨fun name member => ?_, fun name member => ?_, Module.nodup_eraseDups _,
    fun field member family first foreign => ?_, (requested_iff _).mpr fun name member => ?_⟩
  · obtain ⟨field, among, family, first, -, same⟩ := asked.mp member
    exact ⟨field, among, family, first, same⟩
  · obtain ⟨_, _, family, _, foreign, rfl⟩ := asked.mp member
    exact foreign
  · exact asked.mpr ⟨field, member, family, first, foreign, rfl⟩
  · obtain ⟨field, among, family, first, foreign, rfl⟩ := asked.mp member
    exact isRequestable_of_isUnderstood (all field among) first foreign

/-- A font of systems in quotes. -/
def quotedArial : Family where
  name := "Arial"
  quote := some .single
  plain := by decide
  bare := nofun
  blankFront := by decide
  blankRear := by decide

/-- A font that no system brings along. -/
def inter : Family where
  name := "Inter"
  plain := by decide
  bare := fun _ => ⟨by decide, by decide, by decide⟩
  blankFront := by decide
  blankRear := by decide

/-- A font that systems bring along behind another family. -/
def sansSerif : Family where
  name := "sans-serif"
  front := " "
  plain := by decide
  bare := fun _ => ⟨by decide, by decide, by decide⟩
  blankFront := by decide
  blankRear := by decide

/-- A font of systems in quotes is asked for, and so is a list as if it were the name of a
family. -/
theorem not_asksForFamilies_quoted_or_several :
    ¬AsksForFamilies [.fonts "--f" [quotedArial]] ∧
      ¬AsksForFamilies [.fonts "--f" [inter, sansSerif]] := by
  constructor
  · intro asks
    have asked : webFonts ([FontField.fonts "--f" [quotedArial]].map FontField.token) =
        ["Arial"] := by decide
    exact asks.noSystem "Arial" (by rw [asked]; decide) (by decide)
  · intro asks
    have asked : webFonts ([FontField.fonts "--f" [inter, sansSerif]].map FontField.token) =
        ["Inter, sans-serif"] := by decide
    obtain ⟨_, _, family, -, same⟩ := asks.first "Inter, sans-serif" (by rw [asked]; decide)
    exact family.plain (.scalar ',') (by decide) (by rw [same]; decide)

end Site
end SiteBuild
