import SiteBuild.Page.Assembly
import SiteBuild.Proofs.Steps

/-!
# Names and texts of page files

The files that a build starts from are named relative to the page, whatever the page is made of
(`head?_localFile`). If the fields of its sections that are put together are texts, then all files
are made, and their texts are those of the components, of the shell and of the entry module
(`localFiles_eq`).
-/
namespace SiteBuild

/-- Keys that are texts are put together like texts. -/
theorem Key.map_toTextual {keys : List Key} (known : ∀ key ∈ keys, ∃ text, key = .text text) :
    keys.map Key.toTextual = (keys.map Key.name).map .text := by
  rw [List.map_map]
  apply List.map_congr_left
  intro key member
  obtain ⟨text, rfl⟩ := known key member
  rfl

/-- A text on lines of its own. -/
def Text.ownLines (text : Text) : Text := .scalar '\n' :: (text ++ [.scalar '\n'])

namespace Page

/-- What is found under a name is a file of that name. -/
theorem Files.mem_of_find? {files : Files} {name : Text} {content : Textual}
    (found : files.find? name = some content) : (name, content) ∈ files := by
  induction files with
  | nil => cases found
  | cons file rest tail =>
    rw [Files.find?] at found
    split at found
    · cases found
      rename_i same
      exact same ▸ List.mem_cons_self
    · exact List.mem_cons_of_mem _ (tail found)

/-! ## Names -/

/-- The files of components are named relative to the page. -/
theorem head?_componentFile {sources : Sources} {head : Head} {files : Files}
    (made : componentFiles sources head = .ok files) :
    ∀ file ∈ files, file.1.head? = some (.scalar '.') := by
  cases sources with
  | single source =>
    rw [componentFiles] at made
    cases assembled : assemble source with
    | error cause =>
      rw [assembled] at made
      cases made
    | ok content =>
      rw [assembled] at made
      cases made
      simp only [List.mem_singleton, forall_eq]
      rfl
  | list sections =>
    rw [componentFiles] at made
    cases parts : sections.zipIdx.mapM fun item =>
        (assemble item.1).map fun content => (sectionFile item.2, content) with
    | error cause =>
      rw [parts] at made
      cases made
    | ok files =>
      rw [parts] at made
      cases made
      simp only [List.mem_append, List.mem_singleton, or_imp, forall_and, forall_eq]
      refine ⟨?_, rfl⟩
      generalize sections.zipIdx = items at parts
      induction mapM_eq_ok_iff.mp parts with
      | nil => simp
      | @cons item file _ _ first others tail =>
        refine List.forall_mem_cons.mpr ⟨?_, tail (mapM_eq_ok_iff.mpr others)⟩
        cases assembled : assemble item.1 with
        | error cause =>
          rw [assembled] at first
          cases first
        | ok content =>
          rw [assembled] at first
          cases first
          rfl

/-- All files of a page are named relative to it. -/
theorem head?_localFile {sources : Sources} {head : Head} {runtimeExports : List Json}
    {files : Files} (made : localFiles sources head runtimeExports = .ok files) {name : Text}
    (found : (files.find? name).isSome) : name.head? = some (.scalar '.') := by
  obtain ⟨content, found⟩ := Option.isSome_iff_exists.mp found
  have member := Files.mem_of_find? found
  rw [localFiles] at made
  cases parts : componentFiles sources head with
  | error cause =>
    rw [parts] at made
    cases made
  | ok components =>
    rw [parts] at made
    cases entry : entryModule runtimeExports with
    | error cause =>
      rw [entry] at made
      cases made
    | ok text =>
      rw [entry] at made
      cases made
      rcases List.mem_append.mp member with component | only
      · exact head?_componentFile parts _ component
      · cases List.mem_singleton.mp only
        rfl

/-! ## Texts -/

/-- Whether the fields of a section that are put together are texts. -/
structure Section.IsReadable (content : Section) : Prop where
  html : ∃ text, content.html = .text text
  js : ∃ text, content.js = .text text
  keys : ∀ field ∈ content.data, ∃ text, field.1 = .text text

/-- Whether a component is a text or a section that is put together from texts. -/
def Source.IsReadable : Source → Prop
  | .text _ => True
  | .parts content => content.IsReadable

/-- The names of the fields that have one. -/
def fieldNames (data : Fields) : List Text := (fieldKeys data).map Key.name

/-- The line of a section's script that takes its values. -/
def valuesLine (names : List Text) : Text :=
  "let \x7b " ++ Text.join ", " names ++ " \x7d = $props();"

/-- The lines of the script of a section: the one that takes its values if it has any, and its own
script. -/
def sectionLines (names : List Text) (js : Text) : List Text :=
  (if names.isEmpty then [] else [valuesLine names]) ++ (if js.isEmpty then [] else [js])

/-- The script of a section. -/
def sectionScript (names : List Text) (js : Text) : Text := Text.unlines (sectionLines names js)

/-- A script element. -/
def scriptElement (block : Text) : Text := "<script>" ++ block ++ "</script>"

/-- What stands in the script element of a section. -/
def sectionBlock (content : Section) : Text :=
  Text.ownLines (sectionScript (fieldNames content.data) content.js.shown)

/-- The style element of a section on a line of its own, if it has a style sheet. -/
def sectionStyle (css : Textual) : Text :=
  if css.isEmpty then [] else "\n<style>" ++ css.shown ++ "</style>"

/-- The text of the file of a component. -/
def componentText : Source → Text
  | .text value => value
  | .parts content =>
    if Text.holds "<script" content.html.shown then content.html.shown
    else
      content.html.shown ++ "\n" ++ scriptElement (sectionBlock content) ++ sectionStyle content.css

/-- The files of the components of a page. -/
def componentTexts (sources : Sources) (head : Head) : List (Text × Text) :=
  match sources with
  | .single source => [(appFile, componentText source)]
  | .list sections =>
    sections.zipIdx.map (fun item => (sectionFile item.2, componentText item.1)) ++
      [(appFile, appShell sections head)]

/-- The line that hands on names from a module. -/
def exportLine (names : List Text) (source : Text) : Text :=
  "export \x7b " ++ Text.join ", " names ++ " \x7d from '" ++ source ++ "';"

/-- The line that hands on names from the runtime, if there are any. -/
def runtimeLine (exports : List Text) : Text :=
  if exports = [] then [] else exportLine exports Builtin.packageName ++ "\n"

/-- The text of the entry module. -/
def entryText (exports : List Text) : Text :=
  exportLine ["default"] appFile ++ "\n" ++ runtimeLine exports

/-- The files of a page. -/
def pageTexts (sources : Sources) (head : Head) (exports : List Text) : List (Text × Text) :=
  componentTexts sources head ++ [(entryFile, entryText exports)]

/-- Files that are texts. -/
def Files.ofTexts (texts : List (Text × Text)) : Files :=
  texts.map fun file => (file.1, .text file.2)

/-- The lines of the script of a readable section. -/
theorem scriptLines_eq {content : Section} (readable : content.IsReadable) :
    scriptLines content =
      .ok ((sectionLines (fieldNames content.data) content.js.shown).map .text) := by
  obtain ⟨js, script⟩ := readable.js
  have known : ∀ key ∈ fieldKeys content.data, ∃ text, key = .text text := by
    intro key member
    obtain ⟨field, listed, rfl⟩ := List.mem_map.mp (List.mem_filter.mp member).1
    exact readable.keys field listed
  have empty : (fieldNames content.data).isEmpty = (fieldKeys content.data).isEmpty := by
    rw [fieldNames, List.isEmpty_map]
  simp only [scriptLines, Key.map_toTextual known, Textual.join_texts, script, bind, Except.bind,
    pure, Except.pure, sectionLines, empty]
  cases (fieldKeys content.data).isEmpty <;> cases js <;> rfl

/-- The file of a readable component is its text. -/
theorem assemble_eq {source : Source} (readable : source.IsReadable) :
    assemble source = .ok (.text (componentText source)) := by
  cases source with
  | text value => rfl
  | parts content =>
    have sound : content.IsReadable := readable
    obtain ⟨html, markup⟩ := sound.html
    have text : componentText (.parts content) =
        if Text.holds "<script" html then html
        else html ++ "\n" ++ scriptElement (sectionBlock content) ++ sectionStyle content.css := by
      simp only [componentText, markup, Textual.shown]
    have script : ("<script>\n" ++ Text.join "\n" (sectionLines (fieldNames content.data)
        content.js.shown) ++ "\n</script>" : Text) = scriptElement (sectionBlock content) := by
      simp only [scriptElement, sectionBlock, Text.ownLines, sectionScript, Text.unlines,
        List.append_assoc, List.cons_append]
      rfl
    have two := Textual.join_texts "\n" [html, scriptElement (sectionBlock content)]
    have three := Textual.join_texts "\n" [html, scriptElement (sectionBlock content),
      "<style>" ++ content.css.shown ++ "</style>"]
    simp only [List.map_cons, List.map_nil] at two three
    rw [text]
    simp only [assemble, assembleSection, markup, Textual.holds, scriptLines_eq sound,
      Textual.join_texts, script, bind, Except.bind, pure, Except.pure]
    by_cases own : Text.holds "<script" html = true
    · simp only [own, if_true]
    by_cases unstyled : content.css.isEmpty = true
    · simp only [own, unstyled, sectionStyle, if_true, Bool.false_eq_true, if_false, two]
      simp [Text.join]
    · have style : ("\n<style>" : Text) = "\n" ++ "<style>" := rfl
      simp only [own, unstyled, sectionStyle, Bool.false_eq_true, if_false, List.cons_append,
        List.nil_append, three]
      simp [Text.join, style]

/-- The files of readable components are their texts. -/
theorem componentFiles_eq {sources : Sources} (head : Head)
    (readable : ∀ source ∈ sources.toList, source.IsReadable) :
    componentFiles sources head = .ok (.ofTexts (componentTexts sources head)) := by
  cases sources with
  | single source =>
    rw [componentFiles, assemble_eq (readable source List.mem_cons_self)]
    rfl
  | list sections =>
    have made : (sections.zipIdx.mapM fun item =>
        (assemble item.1).map fun content => (sectionFile item.2, content)) =
        .ok (sections.zipIdx.map fun item =>
          (sectionFile item.2, .text (componentText item.1))) := by
      refine mapM_eq_ok_map fun item member => ?_
      rw [assemble_eq (readable item.1 (List.fst_mem_of_mem_zipIdx member))]
      rfl
    rw [componentFiles, made]
    simp [Files.ofTexts, componentTexts, bind, Except.bind, pure, Except.pure]

/-- The entry module hands on the page, and names that are texts from the runtime. -/
theorem entryModule_eq (exports : List Text) :
    entryModule (exports.map .str) = .ok (entryText exports) := by
  have texts : (exports.map Json.str).map Textual.exactly = exports.map .text := by
    rw [List.map_map]
    rfl
  have page : ("export \x7b default \x7d from './App.svelte';\n" : Text) =
      exportLine ["default"] appFile ++ "\n" := rfl
  rw [entryModule, entryText, runtimeLine, texts, Textual.join_texts, List.isEmpty_map, page]
  cases exports with
  | nil => simp [pure, Except.pure]
  | cons name more =>
    simp only [List.isEmpty_cons, reduceCtorEq, if_false, exportLine, List.append_assoc]
    rfl

/-- The files of a page whose components are readable are its texts. -/
theorem localFiles_eq {sources : Sources} (head : Head) (exports : List Text)
    (readable : ∀ source ∈ sources.toList, source.IsReadable) :
    localFiles sources head (exports.map .str) =
      .ok (.ofTexts (pageTexts sources head exports)) := by
  rw [localFiles, componentFiles_eq head readable, entryModule_eq]
  simp [Files.ofTexts, pageTexts, bind, Except.bind, pure, Except.pure]

/-- The files of a page whose components are readable are texts, if names that are handed on are
texts too. -/
theorem localFiles_of_readable {sources : Sources} (head : Head) {runtimeExports : List Json}
    (readable : ∀ source ∈ sources.toList, source.IsReadable)
    (names : ∀ name ∈ runtimeExports, ∃ text, name = .str text) :
    ∃ files, localFiles sources head runtimeExports = .ok files ∧
      ∀ file ∈ files, ∃ text, file.2 = .text text := by
  have texts : ∃ exports : List Text, runtimeExports = exports.map .str := by
    refine ⟨runtimeExports.map fun name => name.string?.getD [], ?_⟩
    rw [List.map_map, eq_comm]
    refine (List.map_congr_left fun name member => ?_).trans (List.map_id _)
    obtain ⟨text, rfl⟩ := names name member
    rfl
  obtain ⟨exports, rfl⟩ := texts
  refine ⟨_, localFiles_eq head exports readable, fun file member => ?_⟩
  obtain ⟨text, -, rfl⟩ := List.mem_map.mp member
  exact ⟨text.2, rfl⟩

end Page
end SiteBuild
