import SiteBuild.Module.Loader
import SiteBuild.Proofs.Cuts
import SiteBuild.Proofs.WrittenData

/-!
# Modules that hold data

A tame text is cut into tokens none of which is a keyword of a dependency, and the braces that are
open behind it are those that were open before (`Tame.isCut`). So the modules that are made around
data are cut to their end and depend on nothing, whatever the data is, and the runtime of a server
render depends on the one address it is made for. Main statement:
`data_introduces_no_imports`.
-/
namespace SiteBuild.Script

/-! ## Tokens of data -/

/-- A mark that begins nothing else is cut off the text behind it. -/
theorem cut_mark (state : LexerState) {mark : CodePoint} (bare : Text.isBlank mark = false)
    (quiet : mark ∉ loudPoints) (noName : isNamePoint mark = false) (rest : Text) :
    ∃ operand, cut state (mark :: rest) =
      (cut ⟨state.braces, operand⟩ rest).map (⟨.mark, [mark], 0⟩ :: ·) := by
  simp only [loudPoints, List.mem_cons, List.not_mem_nil, or_false, not_or] at quiet
  obtain ⟨single, double, backtick, slash, -, opening, closing, -⟩ := quiet
  refine ⟨mark != ')' && mark != ']', ?_⟩
  rw [cut_point state bare (by simp [single, double, backtick, slash]) noName
    (fun same => absurd same closing)]
  simp only [markLexeme, beq_eq_false_iff_ne.mpr opening, beq_eq_false_iff_ne.mpr closing]
  rfl

/-- Whether a token is no keyword of a dependency. -/
def Token.IsQuiet (token : Token) : Prop :=
  token.isName "import" = false ∧ token.isName "export" = false

instance (token : Token) : Decidable token.IsQuiet :=
  inferInstanceAs (Decidable (_ ∧ _))

/-- Whether a text is cut into tokens that are no keywords of dependencies, and leaves the braces
that are open as they are, in front of every text that does not go on with a name. -/
def IsCut (text : Text) : Prop :=
  ∀ braces operand rest, ¬GoesOn rest →
    ∃ tokens after, (∀ token ∈ tokens, token.IsQuiet) ∧
      cut ⟨braces, operand⟩ (text ++ rest) = (cut ⟨braces, after⟩ rest).map (tokens ++ ·)

/-- A name without one of the points that stand in each keyword is none of them. -/
theorem isQuiet_name {name : Text} (quiet : ∀ point ∈ name, point ∉ loudPoints) (offset : Nat) :
    (Token.mk .name name offset).IsQuiet := by
  constructor
  · rw [Token.isName, Bool.and_eq_false_iff]
    refine .inr (beq_eq_false_iff_ne.mpr ?_)
    rintro rfl
    exact quiet (.scalar 'p') (by decide) (by decide)
  · rw [Token.isName, Bool.and_eq_false_iff]
    refine .inr (beq_eq_false_iff_ne.mpr ?_)
    rintro rfl
    exact quiet (.scalar 'p') (by decide) (by decide)

/-- What is cut off first is followed by what is behind it. -/
theorem IsCut.cons {text text' : Text} {braces : List Bool} {operand after : Bool} {first : Token}
    (behind : IsCut text') (quiet : first.IsQuiet) {rest : Text} (apart : ¬GoesOn rest)
    (here : cut ⟨braces, operand⟩ (text ++ rest) =
      (cut ⟨braces, after⟩ (text' ++ rest)).map (first :: ·)) :
    ∃ tokens after, (∀ token ∈ tokens, token.IsQuiet) ∧
      cut ⟨braces, operand⟩ (text ++ rest) = (cut ⟨braces, after⟩ rest).map (tokens ++ ·) := by
  obtain ⟨tokens, last, calm, same⟩ := behind braces after rest apart
  refine ⟨first :: tokens, last, List.forall_mem_cons.mpr ⟨quiet, calm⟩, ?_⟩
  rw [here, same]
  cases cut ⟨braces, last⟩ rest <;> rfl

/-- The points of a name at the start of a tame text stand in no keyword. -/
theorem Tame.takeWhile_quiet {text : Text} (tame : Tame text) :
    ∀ point ∈ text.takeWhile isNamePoint, point ∉ loudPoints := by
  induction tame with
  | nil => simp
  | @point point rest quiet _ tail =>
    rw [List.takeWhile_cons]
    split
    · exact List.forall_mem_cons.mpr ⟨quiet, tail⟩
    · simp
  | string =>
    have noName : isNamePoint Quote.double.point = false := by decide
    simp [noName]
  | braces =>
    have noName : isNamePoint (.scalar '\x7b') = false := by decide
    simp [noName]

/-- The empty text is cut. -/
theorem IsCut.nil : IsCut [] := by
  intro braces operand rest _
  refine ⟨[], operand, by simp, ?_⟩
  rw [List.nil_append]
  cases cut ⟨braces, operand⟩ rest <;> rfl

/-- A quiet point is cut before a text that is cut, if what is behind the name that the text starts
with is cut too: a point of a name is cut with the others. -/
theorem IsCut.point {point : CodePoint} {rest : Text} (quiet : point ∉ loudPoints)
    (others : ∀ other ∈ rest.takeWhile isNamePoint, other ∉ loudPoints) (whole : IsCut rest)
    (behind : IsCut (rest.dropWhile isNamePoint)) : IsCut (point :: rest) := by
  intro braces operand text apart
  cases bare : Text.isBlank point with
  | true =>
    rw [List.cons_append, cut_blank _ bare]
    exact whole braces operand text apart
  | false =>
    cases named : isNamePoint point with
    | true =>
      let name := rest.takeWhile isNamePoint
      have split : point :: rest ++ text =
          point :: (name ++ (rest.dropWhile isNamePoint ++ text)) := by
        rw [← List.append_assoc, List.takeWhile_append_dropWhile, List.cons_append]
      have points : ∀ other ∈ point :: name, isNamePoint other :=
        List.forall_mem_cons.mpr ⟨named, List.all_eq_true.mp List.all_takeWhile⟩
      have calm : ∀ other ∈ point :: name, other ∉ loudPoints :=
        List.forall_mem_cons.mpr ⟨quiet, others⟩
      have here := cut_name ⟨braces, operand⟩ bare points (not_goesOn_dropWhile rest apart)
      rw [← split] at here
      exact behind.cons (isQuiet_name calm 0) apart here
    | false =>
      obtain ⟨after, here⟩ := cut_mark ⟨braces, operand⟩ bare quiet named (rest ++ text)
      exact whole.cons ⟨by simp [Token.isName], by simp [Token.isName]⟩ apart here

/-- A string is cut before a text that is cut. -/
theorem IsCut.string {units : List Written} {rest : Text} (clean : CleanUnits units)
    (behind : IsCut rest) :
    IsCut (Quote.double.point :: (spell units ++ Quote.double.point :: rest)) := by
  intro braces operand text apart
  have here : cut ⟨braces, operand⟩ (Quote.double.point ::
      (spell units ++ [Quote.double.point]) ++ (rest ++ text)) =
      (cut ⟨braces, false⟩ (rest ++ text)).map
        (⟨.string, units.flatMap Written.value, 0⟩ :: ·) :=
    @cut_spelled _ (.string .double ⟨units, clean⟩) _ trivial trivial
  refine behind.cons ⟨rfl, rfl⟩ apart (.trans ?_ here)
  simp

/-- A text that is cut is cut in braces before another one: they are closed behind it. -/
theorem IsCut.braces {inner rest : Text} (inside : IsCut inner) (behind : IsCut rest) :
    IsCut (.scalar '\x7b' :: (inner ++ .scalar '\x7d' :: rest)) := by
  intro braces operand text apart
  have closed : ¬GoesOn (.scalar '\x7d' :: (rest ++ text)) :=
    Bool.not_eq_true _ ▸ (rfl : isNamePoint (.scalar '\x7d') = false)
  obtain ⟨within, after, calm, inner_cut⟩ := inside (false :: braces) true _ closed
  obtain ⟨others, last, calm', rest_cut⟩ := behind braces true text apart
  let opening : Token := ⟨.mark, [.scalar '\x7b'], 0⟩
  let closing : Token := ⟨.mark, [.scalar '\x7d'], 0⟩
  have opens : cut ⟨braces, operand⟩
      (.scalar '\x7b' :: (inner ++ .scalar '\x7d' :: (rest ++ text))) =
      (cut ⟨false :: braces, true⟩ (inner ++ .scalar '\x7d' :: (rest ++ text))).map
        (opening :: ·) :=
    @cut_spelled _ (.mark .opening) _ trivial (by simp [Spelled.Apart])
  have closes : cut ⟨false :: braces, after⟩ (.scalar '\x7d' :: (rest ++ text)) =
      (cut ⟨braces, true⟩ (rest ++ text)).map (closing :: ·) :=
    @cut_spelled _ (.mark .closing) _ (by simp [Spelled.FitsIn]) (by simp [Spelled.Apart])
  refine ⟨opening :: (within ++ closing :: others), last, ?_, ?_⟩
  · simp only [List.forall_mem_cons, List.forall_mem_append]
    exact ⟨⟨rfl, rfl⟩, calm, ⟨rfl, rfl⟩, calm'⟩
  · have whole : .scalar '\x7b' :: (inner ++ .scalar '\x7d' :: rest) ++ text =
        .scalar '\x7b' :: (inner ++ .scalar '\x7d' :: (rest ++ text)) := by simp
    rw [whole, opens, inner_cut, closes, rest_cut]
    cases cut ⟨braces, last⟩ text <;> simp [Except.map]

/-- A tame text is cut into tokens that are no keywords, and so is what is behind the name that it
starts with. -/
theorem Tame.isCut {text : Text} (tame : Tame text) :
    IsCut text ∧ IsCut (text.dropWhile isNamePoint) := by
  -- A name goes on over several points: what is behind all of them is carried along.
  induction tame with
  | nil => exact ⟨.nil, .nil⟩
  | @point point rest quiet tame tail =>
    obtain ⟨whole, behind⟩ := tail
    have first : IsCut (point :: rest) := .point quiet tame.takeWhile_quiet whole behind
    refine ⟨first, ?_⟩
    rw [List.dropWhile_cons]
    split
    · exact behind
    · exact first
  | string clean _ tail => exact ⟨.string clean tail.1, .string clean tail.1⟩
  | braces _ _ inside tail => exact ⟨.braces inside.1 tail.1, .braces inside.1 tail.1⟩

/-! ## Sources around data -/

/-- Without a source among tokens there is none behind a point either. -/
theorem sourcesFrom_member {tokens : List Token} (none : sourcesFrom false tokens = [])
    (member : Bool) : sourcesFrom member tokens = [] := by
  cases tokens with
  | nil => rfl
  | cons token rest =>
    cases member with
    | false => exact none
    | true =>
      rw [sourcesFrom] at none ⊢
      exact (List.append_eq_nil_iff.mp none).2

/-- Tokens that are no keywords name no sources. -/
theorem sourcesFrom_quiet {tokens rest : List Token} (quiet : ∀ token ∈ tokens, token.IsQuiet)
    (none : sourcesFrom false rest = []) (member : Bool) :
    sourcesFrom member (tokens ++ rest) = [] := by
  induction tokens generalizing member with
  | nil => exact sourcesFrom_member none member
  | cons token tokens tail =>
    obtain ⟨⟨noImport, noExport⟩, others⟩ := List.forall_mem_cons.mp quiet
    rw [List.cons_append, sourcesFrom, tail others]
    cases member <;> simp [noImport, noExport]

/-- Whether a text is cut into tokens to its end and has no imports. -/
def StandsAlone (code : Text) : Prop :=
  (∃ read, tokens code = .ok read) ∧ imports code = .ok []

/-- Whether a text is cut to its end and names no sources. -/
def isSourceless (state : LexerState) (text : Text) : Bool :=
  match cut state text with
  | .ok read => (sourcesFrom false read).isEmpty
  | .error _ => false

/-- The tokens of such a text. -/
theorem exists_cut {state : LexerState} {text : Text} (known : isSourceless state text = true) :
    ∃ read, cut state text = .ok read ∧ sourcesFrom false read = [] := by
  unfold isSourceless at known
  split at known
  · rename_i read found
    exact ⟨read, found, List.isEmpty_iff.mp known⟩
  · cases known

/-- Whether the text behind data is cut to its end and names no sources, whatever the data ends
with. -/
structure Settles (tail : Text) : Prop where
  /-- It does not go on with a name. -/
  apart : ¬GoesOn tail
  /-- It is cut to its end, whether an operand is expected or not. -/
  cut : ∀ operand, ∃ read, Script.cut ⟨[], operand⟩ tail = .ok read ∧ sourcesFrom false read = []

/-- Whether a text starts with a token that is neither part of a name nor of a comment nor of a
regular expression, and is cut to its end without sources. -/
def settles (tail : Text) : Bool :=
  !decide (GoesOn tail) &&
    (match readGap .blank tail with
      | .ok (_, first :: _) => first != '/'
      | _ => false) &&
    isSourceless .start tail

/-- Such a text can stand behind data. -/
theorem Settles.of_settles {tail : Text} (known : settles tail = true) : Settles tail := by
  simp only [settles, Bool.and_eq_true, Bool.not_eq_true', decide_eq_false_iff_not] at known
  obtain ⟨⟨apart, begins⟩, ends⟩ := known
  refine ⟨apart, fun operand => ?_⟩
  split at begins
  · rename_i gap first more skipped
    rw [cut_operand skipped (by simpa using begins) [] operand true]
    exact exists_cut ends
  · cases begins

/-- Whether tokens can open a module whose data is outside of braces. -/
structure Opens (opening : List Spelled) : Prop where
  /-- Each token fits. -/
  fits : Fits .start opening
  /-- No brace is open behind them. -/
  outside : (opening.foldl Spelled.after .start).braces = []
  /-- They name no interpreter. -/
  noLine : ∀ rest, Text.startsWith "#!" (spaced opening ++ rest) = false

/-- Tokens that open a module are cut off what it holds. -/
theorem Opens.cut {opening : List Spelled} (opens : Opens opening) :
    ∃ operand, ∀ rest, Script.cut .start (spaced opening ++ rest) =
      (Script.cut ⟨[], operand⟩ rest).map (opening.map Spelled.token ++ ·) := by
  refine ⟨(opening.foldl Spelled.after .start).operandNext, fun rest => ?_⟩
  rw [cut_spaced opens.fits, ← opens.outside]

/-- Data between tokens that open a declaration without a source and a text that settles: the whole
stands alone. -/
theorem Tame.standsAlone {data tail : Text} (tame : Tame data) (settled : Settles tail)
    {opening : List Spelled} (opens : Opens opening)
    (noSource : ∀ rest, sourcesFrom false rest = [] →
      sourcesFrom false (opening.map Spelled.token ++ rest) = []) :
    StandsAlone (spaced opening ++ data ++ tail) := by
  obtain ⟨operand, opened⟩ := opens.cut
  obtain ⟨within, after, quiet, same⟩ := tame.isCut.1 [] operand tail settled.apart
  obtain ⟨behind, found, none⟩ := settled.cut after
  have whole : cut .start (spaced opening ++ (data ++ tail)) =
      .ok (opening.map Spelled.token ++ (within ++ behind)) := by
    rw [opened, same, found]
    rfl
  rw [List.append_assoc]
  obtain ⟨placed, read⟩ := imports_of_cut (opens.noLine _) whole
  rw [noSource _ (sourcesFrom_quiet quiet none false)] at read
  exact ⟨placed, read⟩

/-- A module that exports data and nothing else stands alone. -/
theorem Tame.standsAlone_exported {data : Text} (tame : Tame data) :
    StandsAlone ("export default " ++ data ++ ";") := by
  have opens : Opens [.word exportWord, .word defaultWord] :=
    ⟨⟨trivial, trivial, trivial⟩, rfl, fun _ => rfl⟩
  have settled : Settles ";" := .of_settles (by decide +kernel)
  refine tame.standsAlone settled opens fun rest none => ?_
  have quiet : ∀ token ∈ [Token.mk .name "default" 0], token.IsQuiet := by decide
  exact sourcesFrom_quiet quiet none false

/-- A module that declares data as a constant in front of a text that settles stands alone. -/
theorem Tame.standsAlone_constant {data tail : Text} (tame : Tame data)
    (settled : Settles tail) (name : Word) (plain : (⟨.name, name.text, 0⟩ : Token).IsQuiet) :
    StandsAlone (spaced [.word constWord, .word name, .mark .equals] ++ data ++ tail) := by
  have opens : Opens [.word constWord, .word name, .mark .equals] :=
    ⟨⟨trivial, trivial, trivial, trivial⟩, rfl, fun _ => rfl⟩
  have quiet : ∀ token ∈ [Spelled.word constWord, .word name, .mark .equals].map Spelled.token,
      token.IsQuiet := by
    simp only [List.forall_mem_map, List.forall_mem_cons, List.not_mem_nil, false_implies,
      implies_true, and_true]
    exact ⟨by decide, plain, by decide⟩
  exact tame.standsAlone settled opens fun rest none => sourcesFrom_quiet quiet none false

/-- A string literal between the words of an export of everything and a text that settles: the
whole has the one import that the string stands for. -/
theorem imports_of_exportAll (content : Quoted .double) {tail : Text} (settled : Settles tail) :
    imports (spaced [.word exportWord, .mark .star, .word fromWord] ++
      (Spelled.string .double content).raw ++ tail) =
      .ok [content.units.flatMap Written.value] := by
  have opens : Opens [.word exportWord, .mark .star, .word fromWord] :=
    ⟨⟨trivial, trivial, trivial, trivial⟩, rfl, fun _ => rfl⟩
  obtain ⟨operand, opened⟩ := opens.cut
  obtain ⟨behind, found, none⟩ := settled.cut false
  let source : Token := ⟨.string, content.units.flatMap Written.value, 0⟩
  let opening : List Token := [⟨.mark, "*", 0⟩, ⟨.name, "from", 0⟩, source]
  have whole : cut .start (spaced [.word exportWord, .mark .star, .word fromWord] ++
      ((Spelled.string .double content).raw ++ tail)) =
      .ok (⟨.name, "export", 0⟩ :: (opening ++ behind)) := by
    have string : cut ⟨[], operand⟩ ((Spelled.string .double content).raw ++ tail) =
        (cut ⟨[], false⟩ tail).map (source :: ·) := cut_spelled trivial trivial
    rw [opened, string, found]
    rfl
  have sources : sourcesFrom false (⟨.name, "export", 0⟩ :: (opening ++ behind)) =
      [content.units.flatMap Written.value] := by
    have quiet : ∀ token ∈ opening, token.IsQuiet := by
      simp only [opening, List.forall_mem_cons, List.not_mem_nil, false_implies, implies_true,
        and_true]
      exact ⟨by decide, by decide, ⟨rfl, rfl⟩⟩
    have others := sourcesFrom_quiet quiet none false
    change [_] ++ sourcesFrom false (opening ++ behind) = _
    rw [others]
    rfl
  rw [List.append_assoc, (imports_of_cut (opens.noLine _) whole).2, sources]
  rfl

end SiteBuild.Script

namespace SiteBuild

open Script

/-! ## Modules -/

/-- Lines with data on the first one are the same behind it as with other data there. -/
theorem Text.unlines_around (head data sample close second : Text) (others : List Text) :
    unlines ((head ++ data ++ close) :: second :: others) =
      head ++ data ++
        (unlines ((head ++ sample ++ close) :: second :: others)).drop (head ++ sample).length := by
  have line (data : Text) : unlines ((head ++ data ++ close) :: second :: others) =
      head ++ data ++ (close ++ ("\n" ++ unlines (second :: others))) := by
    simp [unlines, join]
  rw [line, line, List.drop_left]

namespace Bindings

/-- What is behind the records in the collections of a server render. -/
def serverDataTail : Text :=
  (serverDataModule .null).drop (Text.ofString "const _snapshot = " ++ Script.literal .null).length

/-- What is behind the id of the project in the module of the host. -/
def siteTail : Text :=
  (siteModule []).drop (Text.ofString "const PROJECT_ID = " ++ Script.literal (.str [])).length

/-- The text behind the records settles. -/
theorem settles_serverDataTail : Settles serverDataTail :=
  .of_settles (by decide +kernel)

/-- The text behind the id of the project settles. -/
theorem settles_siteTail : Settles siteTail :=
  .of_settles (by decide +kernel)

/-- The collections of a server render stand alone. -/
theorem standsAlone_serverDataModule (snapshot : Json) :
    StandsAlone (serverDataModule snapshot) := by
  let name : Word := ⟨"_snapshot", by decide, by decide⟩
  have opening : Text.ofString "const _snapshot = " =
      spaced [.word constWord, .word name, .mark .equals] := by decide
  have whole : serverDataModule snapshot =
      Text.ofString "const _snapshot = " ++ Script.literal snapshot ++ serverDataTail :=
    Text.unlines_around _ _ _ _ _ _
  rw [whole, opening]
  exact (tame_literal snapshot).standsAlone_constant settles_serverDataTail name (by decide)

/-- The module of the host stands alone. -/
theorem standsAlone_siteModule (projectId : Text) : StandsAlone (siteModule projectId) := by
  let name : Word := ⟨"PROJECT_ID", by decide, by decide⟩
  have opening : Text.ofString "const PROJECT_ID = " =
      spaced [.word constWord, .word name, .mark .equals] := by decide
  have whole : siteModule projectId =
      Text.ofString "const PROJECT_ID = " ++ Script.literal (.str projectId) ++ siteTail := by
    have around := Text.unlines_around "const PROJECT_ID = " (Script.literal (.str projectId))
      (Script.literal (.str [])) []
    simp only [List.append_nil] at around
    exact around _ _
  rw [whole, opening]
  exact (tame_literal (.str projectId)).standsAlone_constant settles_siteTail name (by decide)

/-- The functions of the host stand alone. -/
theorem standsAlone_serverBackendModule : StandsAlone serverBackendModule := by
  obtain ⟨read, found, none⟩ := exists_cut (by decide +kernel :
    isSourceless .start serverBackendModule = true)
  obtain ⟨placed, same⟩ := imports_of_cut (by decide) found
  rw [none] at same
  exact ⟨placed, same⟩

/-- The module of every binding stands alone. -/
theorem standsAlone_serverModule (bindings : Bindings) (binding : Binding) :
    StandsAlone (bindings.serverModule binding) := by
  cases binding with
  | content => exact (tame_literal _).standsAlone_exported
  | design => exact (tame_literal _).standsAlone_exported
  | data => exact standsAlone_serverDataModule bindings.snapshot
  | site => exact standsAlone_siteModule bindings.projectId
  | backend => exact standsAlone_serverBackendModule

end Bindings

/-- The runtime of a server render has one import, the address it is made for. -/
theorem Builtin.imports_serverRuntimeModule {url : Text}
    (high : ∀ point ∈ url, 0x20 ≤ point.value) :
    imports (serverRuntimeModule url) = .ok [url] := by
  obtain ⟨content, written, value⟩ := exists_literal_str high
  have opening : Text.ofString "export * from " =
      spaced [.word exportWord, .mark .star, .word fromWord] := by decide
  let sample := Script.literal (.str [])
  have settled : Settles ((serverRuntimeModule []).drop
      (Text.ofString "export * from " ++ sample).length) :=
    .of_settles (by decide +kernel)
  have whole : serverRuntimeModule url = Text.ofString "export * from " ++
      Script.literal (.str url) ++ (serverRuntimeModule []).drop
        (Text.ofString "export * from " ++ sample).length :=
    Text.unlines_around _ _ _ _ _ _
  rw [whole, opening, written, ← value]
  exact imports_of_exportAll content settled

/-- **Data introduces no imports.** Whatever values, collections and project id the bindings hold,
the module of every reserved name is cut into tokens to its end and has no imports; neither has the
module that is made of a fetched text of data; and the runtime of a server render has one import,
the address it is made for. -/
theorem data_introduces_no_imports :
    (∀ bindings : Bindings, ∀ name ∈ (["$content", "$design", "$data", "$site", "$backend"] :
        List Text), ∃ code, bindings.serverModule? name = some code ∧ StandsAlone code) ∧
    (∀ (loader : Module.Loader) (fetch : Text → ExceptT Failure Id Text) (url text : Text)
        (value : Json), loader.origin url = .fetched url → Module.Loader.isData url = true →
        fetch url = pure text → Json.read text = .ok value →
      ∃ code, loader.load fetch url = pure (some (.text code)) ∧ StandsAlone code) ∧
    ∀ url : Text, (∀ point ∈ url, 0x20 ≤ point.value) →
      imports (Builtin.serverRuntimeModule url) = .ok [url] := by
  refine ⟨fun bindings name reserved => ?_,
    fun loader fetch url text value origin data reply read => ?_,
    fun url high => Builtin.imports_serverRuntimeModule high⟩
  · obtain ⟨binding, -, rfl⟩ : ∃ binding ∈ Binding.all, binding.name = name :=
      List.mem_map.mp reserved
    refine ⟨bindings.serverModule binding, ?_, bindings.standsAlone_serverModule binding⟩
    rw [Bindings.serverModule?, Binding.ofName?_name]
    rfl
  · have made : Module.Loader.fetchedModule url text =
        .ok ("export default " ++ value.write .plain ++ ";") := by
      rw [Module.Loader.fetchedModule, if_pos data, Module.Loader.dataModule, read]
    refine ⟨_, ?_, (Json.tame_write Json.Style.isInline_plain value).standsAlone_exported⟩
    rw [Module.Loader.load, origin]
    simp only [reply, made, pure_bind]

/-- A title, a fetched text and an address that look like imports. -/
theorem data_introduces_no_imports_lookalike :
    (∃ code, Bindings.serverModule?
        { content := [(.text "title", .str "</script>import 'a'")] } "$content" = some code ∧
      imports code = .ok []) ∧
    (∃ code, Module.Loader.load { files := [], bindings := {}, server := true }
        (fun _ => pure "[\"\\\"; import 'a'\"]" : Text → ExceptT Failure Id Text)
        "https://a.b/c.json?d" = pure (some (.text code)) ∧ imports code = .ok []) ∧
    imports (Builtin.serverRuntimeModule "https://a.b/\"; import 'a'") =
      .ok ["https://a.b/\"; import 'a'"] := by
  obtain ⟨bindings, fetched, runtime⟩ := data_introduces_no_imports
  obtain ⟨code, made, alone⟩ := bindings
    { content := [(.text "title", .str "</script>import 'a'")] } "$content" (by decide)
  have accepted : (Json.read "[\"\\\"; import 'a'\"]").isOk = true := by
    -- Behind the bracket a string is left to read.
    cbv
    decide +kernel
  cases read : Json.read "[\"\\\"; import 'a'\"]" with
  | error fault =>
    rw [read] at accepted
    cases accepted
  | ok value =>
    obtain ⟨data, loaded, apart⟩ := fetched
      { files := [], bindings := {}, server := true }
      (fun _ => pure "[\"\\\"; import 'a'\"]") "https://a.b/c.json?d" _ value rfl
      (by decide +kernel) rfl read
    exact ⟨⟨code, made, alone.2⟩, ⟨data, loaded, apart.2⟩, runtime _ (by decide)⟩

end SiteBuild
