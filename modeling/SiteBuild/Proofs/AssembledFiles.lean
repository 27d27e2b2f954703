import SiteBuild.Proofs.ShellScripts

/-!
# Files that fit together

The files of a page and the values it is rendered with are made apart from each other, and name the
same things. Main statement: the entry module names the shell, the shell names the components of all
sections, and what each script takes from the values of the page is what they hold for it
(`localFiles_fit`).
-/
namespace SiteBuild

/-! ## Finding fields -/

namespace Fields

/-- No value is found if no key is the same. -/
theorem find?_eq_none {fields : Fields} {key : Key}
    (absent : ∀ field ∈ fields, field.1.same key = false) : Fields.find? fields key = none := by
  induction fields with
  | nil => rfl
  | cons field rest tail =>
    obtain ⟨here, others⟩ := List.forall_mem_cons.mp absent
    rw [find?, here]
    exact tail others

/-- The value is found that every field with the key has. -/
theorem find?_eq_some {fields : Fields} {key : Key} {value : Json}
    (known : ∃ field ∈ fields, field.1.same key = true)
    (only : ∀ field ∈ fields, field.1.same key = true → field.2 = value) :
    Fields.find? fields key = some value := by
  induction fields with
  | nil =>
    obtain ⟨field, member, -⟩ := known
    cases member
  | cons field rest tail =>
    obtain ⟨here, others⟩ := List.forall_mem_cons.mp only
    rw [find?]
    by_cases same : field.1.same key = true
    · rw [if_pos same, here same]
    · rw [if_neg same]
      obtain ⟨other, member, alike⟩ := known
      rcases List.mem_cons.mp member with rfl | later
      · exact absurd alike same
      · exact tail ⟨other, later, alike⟩ others

end Fields

/-- Keys that are texts are the same if the texts are. -/
theorem Key.same_text_iff (first second : Text) :
    Key.same (.text first) (.text second) = true ↔ first = second := by
  simp [Key.same, Key.canonical]

/-- A list without duplicates stays as it is. -/
theorem eraseDups_of_nodup {α : Type} [BEq α] [LawfulBEq α] {items : List α}
    (distinct : items.Nodup) : items.eraseDups = items := by
  induction items with
  | nil => rfl
  | cons item rest tail =>
    obtain ⟨apart, others⟩ := List.nodup_cons.mp distinct
    have kept : rest.filter (fun other => !other == item) = rest := by
      refine List.filter_eq_self.mpr fun other member => ?_
      have differ : other ≠ item := fun same => apart (same ▸ member)
      simpa using differ
    rw [List.eraseDups_cons, kept, tail others]

namespace Page

open Script

/-! ## Values of the page -/

/-- The keys that are not empty of the values that a page is rendered with under a name; if there
are no values, there are no keys. -/
def propKeys (props : Fields) (name : Text) : List Text :=
  match Fields.find? props (.text name) with
  | some (.obj record) => (record.map Prod.fst).filter fun key => !key.isEmpty
  | _ => []

/-- The keys of values are the names of their fields. -/
theorem HasWordKeys.keys_toRecord {data : Fields} (words : HasWordKeys data) :
    ((Fields.toRecord data).map Prod.fst).filter (fun key => !key.isEmpty) = fieldNames data := by
  have same : ∀ key ∈ data.map Prod.fst, (!key.name.isEmpty) = !key.isEmpty := by
    intro key member
    obtain ⟨field, listed, rfl⟩ := List.mem_map.mp member
    obtain ⟨name, text, -⟩ := words field listed
    rw [text]
    rfl
  have names : (Fields.toRecord data).map Prod.fst = (data.map Prod.fst).map Key.name := by
    simp [Fields.toRecord]
  rw [names, List.filter_map, fieldNames, fieldKeys]
  exact congrArg _ (List.filter_congr same)

theorem propKeys_eq_nil {props : Fields} {name : Text}
    (absent : Fields.find? props (.text name) = none) : propKeys props name = [] := by
  rw [propKeys, absent]

theorem propKeys_eq_fieldNames {props : Fields} {name : Text} {data : Fields}
    (found : Fields.find? props (.text name) = some (.obj data.toRecord))
    (words : HasWordKeys data) : propKeys props name = fieldNames data := by
  rw [propKeys, found]
  exact words.keys_toRecord

/-- The values of a page are those of its sections that have any, and those of its head. -/
theorem mem_renderProps_iff {sections : List Source} {head : Option Head} {field : Key × Json} :
    field ∈ renderProps (.list sections) head ↔
      (∃ index content, sections[index]? = some (.parts content) ∧ content.data ≠ [] ∧
        field = (.text (ShellName.values index).text, .obj content.data.toRecord)) ∨
      field = (.text ShellName.head.text, .obj (head.getD {}).data.toRecord) := by
  have ofHead : (head.map Head.data).getD [] = (head.getD {}).data := by cases head <;> rfl
  rw [renderProps, ofHead, List.mem_append, List.mem_singleton]
  refine or_congr ?_ Iff.rfl
  rw [sectionProps, List.mem_filterMap]
  constructor
  · rintro ⟨⟨source, index⟩, listed, made⟩
    have known := List.mem_zipIdx_iff_getElem?.mp listed
    cases source with
    | text value => cases made
    | parts content =>
      by_cases empty : content.data.isEmpty = true
      · simp [empty] at made
      · simp only [empty, Bool.false_eq_true, if_false, Option.some.injEq] at made
        exact ⟨index, content, known, by simpa using empty, made.symm⟩
  · rintro ⟨index, content, known, filled, rfl⟩
    refine ⟨(.parts content, index), List.mem_zipIdx_iff_getElem?.mpr known, ?_⟩
    simp only [List.isEmpty_iff, filled, if_false]
    rfl

/-- The keys of the values of a section are the names of its fields. -/
theorem propKeys_section {sections : List Source} (head : Option Head) {index : Nat}
    {content : Section} (listed : sections[index]? = some (.parts content))
    (words : HasWordKeys content.data) :
    propKeys (renderProps (.list sections) head) (sectionPropsName index) =
      fieldNames content.data := by
  have alike : ∀ field ∈ renderProps (.list sections) head,
      field.1.same (.text (ShellName.values index).text) = true →
        content.data ≠ [] ∧ field.2 = .obj content.data.toRecord := by
    intro field member same
    rcases mem_renderProps_iff.mp member with ⟨other, found, known, filled, rfl⟩ | rfl
    · cases ShellName.text_injective ((Key.same_text_iff _ _).mp same)
      cases listed.symm.trans known
      exact ⟨filled, rfl⟩
    · cases ShellName.text_injective ((Key.same_text_iff _ _).mp same)
  by_cases filled : content.data = []
  · have absent : Fields.find? (renderProps (.list sections) head)
        (.text (ShellName.values index).text) = none :=
      Fields.find?_eq_none fun field member =>
        Bool.eq_false_iff.mpr fun same => (alike field member same).1 filled
    rw [filled]
    exact propKeys_eq_nil absent
  · refine propKeys_eq_fieldNames (Fields.find?_eq_some ⟨_, mem_renderProps_iff.mpr
      (.inl ⟨index, content, listed, filled, rfl⟩), (Key.same_text_iff _ _).mpr rfl⟩ ?_) words
    exact fun field member same => (alike field member same).2

/-- The keys of the values of the head are the names of its fields. -/
theorem propKeys_head (sections : List Source) {head : Option Head}
    (words : HasWordKeys (head.getD {}).data) :
    propKeys (renderProps (.list sections) head) "head_props" =
      fieldNames (head.getD {}).data := by
  refine propKeys_eq_fieldNames (Fields.find?_eq_some ⟨_, mem_renderProps_iff.mpr (.inr rfl),
    (Key.same_text_iff _ _).mpr rfl⟩ fun field member same => ?_) words
  rcases mem_renderProps_iff.mp member with ⟨index, content, -, -, rfl⟩ | rfl
  · have own : (ShellName.values index).text = ShellName.head.text :=
      (Key.same_text_iff _ _).mp same
    cases ShellName.text_injective own
  · rfl

/-! ## Scripts of sections -/

/-- What is read of the line that takes the values of a section takes them. -/
theorem isCutInto_valuesLine {names : List Text} (some : names ≠ [])
    (words : ∀ name ∈ names, IsWord name) :
    IsCutInto [] (valuesLine names) (Declared.fields names propsCall).tokens [] := by
  refine (IsCutInto.fields some words .props).congr ?_ rfl
  simp only [valuesLine, List.append_assoc]
  rfl

/-- The names that fields of the component's values take are taken in front of others. -/
theorem takenNames_fields {names : List Text} (some : names ≠ []) (rest : List Token) :
    takenNames ((Declared.fields names propsCall).tokens ++ rest) = names ++ takenNames rest := by
  have whole : ∀ declared ∈ [Declared.fields names propsCall], declared.IsWhole :=
    List.forall_mem_singleton.mpr (Declared.isWhole_fields some (by decide))
  have read := declarations_append whole rest
  rw [List.flatMap_singleton] at read
  have taken : (Declared.fields names propsCall).taken = names := by simp [Declared.taken]
  rw [takenNames, read, List.flatMap_append, List.flatMap_singleton, taken]
  rfl

/-- The names that a section's script takes are those of its values, and what its own script takes
besides. -/
theorem takenNames_sectionScript {names : List Text} (words : ∀ name ∈ names, IsWord name)
    (js : Text) :
    (readTokens? (Text.ownLines (sectionScript names js))).map takenNames =
      (readTokens? (Text.ownLines js)).map fun own => names ++ takenNames own := by
  by_cases none : names = []
  · have same : sectionScript names js = js := by
      cases js <;> simp [sectionScript, sectionLines, none, Text.unlines, Text.join]
    rw [same, none]
    rfl
  have line := isCutInto_valuesLine none words
  rw [readTokens?_ownLines, readTokens?_ownLines]
  cases js with
  | nil =>
    have only : sectionScript names [] = valuesLine names := by
      simp [sectionScript, sectionLines, none, Text.unlines, Text.join]
    have taken := takenNames_fields none []
    rw [List.append_nil] at taken
    rw [only, line.cut_ownLines, IsCutInto.nil.cut_ownLines]
    exact congrArg some taken
  | cons point js =>
    have both : sectionScript names (point :: js) =
        valuesLine names ++ .scalar '\n' :: (point :: js) := by
      simp [sectionScript, sectionLines, none, Text.unlines_cons_cons, Text.unlines_singleton]
    rw [both, line.cut_ownLines_append (operandBehind_tokens _ _)]
    cases cut .start (Text.ownLines (point :: js)) with
    | error fault => rfl
    | ok own => exact congrArg some (takenNames_fields none own)

/-! ## The entry module -/

/-- The tokens of the entry module. -/
def entryTokens (exports : List Text) : List Token :=
  exportTokens ["default"] appFile ++
    if exports = [] then [] else exportTokens exports Builtin.packageName

/-- The entry module is cut into its tokens. -/
theorem isCutInto_entryText {exports : List Text} (words : ∀ name ∈ exports, IsWord name) :
    IsCutInto [] (entryText exports) (entryTokens exports) [] := by
  have page : IsCutInto [] (exportLine ["default"] appFile) (exportTokens ["default"] appFile) [] :=
    .exported (List.cons_ne_nil _ _) (by decide) (by decide)
  rw [entryText, runtimeLine, entryTokens, List.append_assoc]
  by_cases none : exports = []
  · rw [if_pos none, if_pos none]
    exact page.below .nil
  · rw [if_neg none, if_neg none]
    have runtime : IsCutInto [] (exportLine exports Builtin.packageName)
        (exportTokens exports Builtin.packageName) [] := .exported none words (by decide)
    have line := runtime.below .nil
    rw [List.append_nil] at line
    exact page.below line

/-- The entry module names the shell, and the runtime if it hands on names from it. -/
theorem imports_entryText {exports : List Text} (words : ∀ name ∈ exports, IsWord name)
    (plain : ∀ name ∈ exports, isDeclarationKeyword name = false) :
    imports (entryText exports) =
      .ok (appFile :: if exports = [] then [] else [Builtin.packageName]) := by
  have noLine : Text.startsWith "#!" (entryText exports) = false := rfl
  rw [(imports_of_cut noLine (isCutInto_entryText words).cut_start).2, entryTokens,
    sourcesFrom_exportTokens (List.cons_ne_nil _ _) (by decide)]
  by_cases none : exports = []
  · rw [if_pos none, if_pos none]
    rfl
  · have source := sourcesFrom_exportTokens none plain Builtin.packageName []
    rw [List.append_nil] at source
    rw [if_neg none, if_neg none, source]
    rfl

/-! ## Files that fit together -/

/-- The files of a page have the names of its sections, of the shell and of the entry module. -/
theorem names_pageTexts (sections : List Source) (head : Head) (exports : List Text) :
    (pageTexts (.list sections) head exports).map Prod.fst =
      (List.range sections.length).map sectionFile ++ [appFile, entryFile] := by
  have indices : sections.zipIdx.map Prod.snd = List.range sections.length := by
    rw [List.zipIdx_map_snd, List.range_eq_range']
  rw [pageTexts, componentTexts, List.append_assoc, List.map_append, List.map_map, ← indices,
    List.map_map]
  rfl

/-- Different sections have different files. -/
theorem sectionFile_injective : Function.Injective sectionFile := by
  intro first second same
  exact Text.ofNat_injective (List.append_cancel_left (List.append_cancel_right same))

/-- No section has the file of the shell or of the entry module. -/
theorem nodup_fileNames (count : Nat) :
    ((List.range count).map sectionFile ++ [appFile, entryFile]).Nodup := by
  have sections : ((List.range count).map sectionFile).Nodup :=
    List.nodup_range.map sectionFile_injective
  rw [List.nodup_append]
  refine ⟨sections, by decide, fun name listed other own same => ?_⟩
  obtain ⟨index, -, rfl⟩ := List.mem_map.mp listed
  subst same
  have third : (sectionFile index)[2]? = some (.scalar 'C') := rfl
  simp only [List.mem_cons, List.not_mem_nil, or_false] at own
  rcases own with app | entry
  · rw [app] at third
    exact absurd third (by decide)
  · rw [entry] at third
    exact absurd third (by decide)

/-- Whether the keys of a component's values are words, or empty. -/
def Source.HasWordKeys : Source → Prop
  | .text _ => True
  | .parts content => Page.HasWordKeys content.data

/-- Whether files fit together and with the values of the page they are made for. -/
structure FitTogether (sections : List Source) (head : Option Head) (exports : List Text)
    (files : List (Text × Text)) : Prop where
  /-- There is a file for each section, one for the shell and one for the entry module. -/
  names : files.map Prod.fst = (List.range sections.length).map sectionFile ++ [appFile, entryFile]
  /-- No two files have the same name. -/
  distinct : (files.map Prod.fst).Nodup
  /-- The entry module imports the shell, and the runtime if it hands on names from it. -/
  entry : ∃ text, (entryFile, text) ∈ files ∧
    imports text = .ok (appFile :: if exports = [] then [] else [Builtin.packageName])
  /-- The shell has a script. -/
  shell : ∃ elements, (appFile, "<svelte:head>\n" ++ (head.getD {}).code.shown ++
    "\n</svelte:head>\n" ++ scriptElement (shellBlock sections (head.getD {})) ++ elements) ∈ files
  /-- The script of the shell imports the components of the sections, in order. -/
  imported : imports (shellBlock sections (head.getD {})) =
    .ok ((List.range sections.length).map sectionFile)
  /-- The script of the shell reads the fields that the values of the head have. -/
  fields : ∃ read, readTokens? (shellBlock sections (head.getD {})) = some read ∧
    readFields "head_props" read = propKeys (renderProps (.list sections) head) "head_props"
  /-- The file of a section whose markup has no script has one, and what this takes are the values
  that the page has for the section, and what the section's own script takes besides. -/
  values : ∀ index content, sections[index]? = some (.parts content) →
    Text.holds "<script" content.html.shown = false →
      (∃ behind, (sectionFile index, content.html.shown ++ "\n" ++
        scriptElement (sectionBlock content) ++ behind) ∈ files) ∧
      (readTokens? (sectionBlock content)).map takenNames =
        (readTokens? (Text.ownLines content.js.shown)).map fun own =>
          propKeys (renderProps (.list sections) head) (sectionPropsName index) ++ takenNames own

/-- The file of a section that has no script in its markup. -/
theorem mem_pageTexts {sections : List Source} (head : Head) (exports : List Text) {index : Nat}
    {content : Section} (listed : sections[index]? = some (.parts content))
    (plain : Text.holds "<script" content.html.shown = false) :
    (sectionFile index, content.html.shown ++ "\n" ++ scriptElement (sectionBlock content) ++
      sectionStyle content.css) ∈ pageTexts (.list sections) head exports := by
  have text : componentText (.parts content) = content.html.shown ++ "\n" ++
      scriptElement (sectionBlock content) ++ sectionStyle content.css := by
    rw [componentText, plain]
    rfl
  rw [← text]
  exact List.mem_append_left _ (List.mem_append_left _ (List.mem_map.mpr
    ⟨(.parts content, index), List.mem_zipIdx_iff_getElem?.mpr listed, rfl⟩))

/-- The shell imports the components of the sections, in order. -/
theorem imports_shellBlock (sections : List Source) {head : Head} (words : HasWordKeys head.data) :
    imports (shellBlock sections head) = .ok ((List.range sections.length).map sectionFile) := by
  have whole := isWhole_shellDeclared sections.length (fieldNames head.data)
  have calm := isCalm_shellDeclared sections.length (fieldNames head.data)
  have noLine : Text.startsWith "#!" (shellBlock sections head) = false := rfl
  rw [(imports_of_cut noLine (cut_shellBlock sections words)).2,
    Declared.sourcesFrom_flatMap_tokens fun declared member =>
      ⟨calm declared member, (whole declared member).names⟩,
    sources_shellDeclared, eraseDups_of_nodup (List.nodup_range.map sectionFile_injective)]

/-- The files of a page with readable sections are made, and fit together and with the values of
the page. -/
theorem localFiles_fit {sections : List Source} {head : Option Head} {exports : List Text}
    (readable : ∀ source ∈ sections, source.IsReadable ∧ source.HasWordKeys)
    (headKeys : HasWordKeys (head.getD {}).data)
    (identifiers : ∀ name ∈ exports, IsWord name ∧ isDeclarationKeyword name = false) :
    ∃ files, localFiles (.list sections) (head.getD {}) (exports.map .str) =
        .ok (.ofTexts files) ∧
      FitTogether sections head exports files := by
  refine ⟨_, localFiles_eq (head.getD {}) exports fun source member => (readable source member).1, {
    names := names_pageTexts sections (head.getD {}) exports
    distinct := by
      rw [names_pageTexts]
      exact nodup_fileNames sections.length
    entry := ⟨entryText exports, by simp [pageTexts],
      imports_entryText (fun name member => (identifiers name member).1)
        fun name member => (identifiers name member).2⟩
    shell := ⟨_, by
      rw [← appShell_eq]
      simp [pageTexts, componentTexts]⟩
    imported := imports_shellBlock sections headKeys
    fields := ⟨_, readTokens?_shellBlock sections headKeys, ?_⟩
    values := fun index content listed plain =>
      ⟨⟨_, mem_pageTexts (head.getD {}) exports listed plain⟩, ?_⟩ }⟩
  · rw [readFields, declarations_tokens (isWhole_shellDeclared _ _), read_shellDeclared,
      propKeys_head sections headKeys]
  · have words : HasWordKeys content.data :=
      (readable (.parts content) (List.mem_of_getElem? listed)).2
    rw [propKeys_section head listed words]
    exact takenNames_sectionScript words.isWord content.js.shown

/-- A page with a text, a section with values and a script, a title and a name that is handed on. -/
theorem localFiles_fit_sections :
    ∃ files, localFiles (.list [.text "<p/>", .parts ⟨"<h1/>", "", "let first = title[0];",
        [("title", .str "Home"), ("", .null)], "", ""⟩])
        ⟨"<title/>", [("title", .str "Home")]⟩ [.str "hydrate"] = .ok (.ofTexts files) ∧
      FitTogether [.text "<p/>", .parts ⟨"<h1/>", "", "let first = title[0];",
        [("title", .str "Home"), ("", .null)], "", ""⟩]
        (some ⟨"<title/>", [("title", .str "Home")]⟩) ["hydrate"] files := by
  have title : ∃ key : Text, Key.text "title" = .text key ∧ (key = [] ∨ IsWord key) :=
    ⟨"title", rfl, .inr (by decide)⟩
  have words : HasWordKeys [("title", .str "Home"), ("", .null)] :=
    List.forall_mem_cons.mpr ⟨title, List.forall_mem_singleton.mpr ⟨[], rfl, .inl rfl⟩⟩
  have readable : Section.IsReadable ⟨"<h1/>", "", "let first = title[0];",
      [("title", .str "Home"), ("", .null)], "", ""⟩ :=
    ⟨⟨_, rfl⟩, ⟨_, rfl⟩, List.forall_mem_cons.mpr ⟨⟨_, rfl⟩,
      List.forall_mem_singleton.mpr ⟨_, rfl⟩⟩⟩
  exact @localFiles_fit _ (some ⟨"<title/>", [("title", .str "Home")]⟩) ["hydrate"]
    (List.forall_mem_cons.mpr ⟨⟨trivial, trivial⟩,
      List.forall_mem_singleton.mpr ⟨readable, words⟩⟩)
    (List.forall_mem_singleton.mpr title)
    (List.forall_mem_singleton.mpr ⟨by decide, by decide⟩)

/-- A section whose own script takes a value takes one that the page does not have. -/
theorem takenNames_own_script :
    ∃ files read,
      localFiles (.list [.parts ⟨"<p/>", "", "let \x7b x \x7d = $props();", [], "", ""⟩]) {} [] =
        .ok (.ofTexts files) ∧
      (sectionFile 0, "<p/>\n" ++ scriptElement "\nlet \x7b x \x7d = $props();\n") ∈ files ∧
      readTokens? "\nlet \x7b x \x7d = $props();\n" = some read ∧ takenNames read = ["x"] ∧
      propKeys (renderProps (.list [.parts ⟨"<p/>", "", "let \x7b x \x7d = $props();", [], "", ""⟩])
        none) (sectionPropsName 0) = [] := by
  have some : (["x"] : List Text) ≠ [] := List.cons_ne_nil _ _
  have line : IsCutInto [] (valuesLine ["x"]) (Declared.fields ["x"] propsCall).tokens [] :=
    isCutInto_valuesLine some (by decide)
  have read := takenNames_fields some []
  rw [List.append_nil] at read
  have readable : ∀ source ∈ [Source.parts ⟨"<p/>", "", "let \x7b x \x7d = $props();", [], "", ""⟩],
      source.IsReadable :=
    List.forall_mem_singleton.mpr ⟨⟨_, rfl⟩, ⟨_, rfl⟩, nofun⟩
  have block : ("\nlet \x7b x \x7d = $props();\n" : Text) = Text.ownLines (valuesLine ["x"]) := rfl
  refine ⟨_, _, localFiles_eq {} [] readable, List.mem_cons_self, ?_, read, rfl⟩
  rw [block, readTokens?_ownLines, line.cut_ownLines]
  rfl

end Page
end SiteBuild
