import SiteBuild.Proofs.FrameRows
import SiteBuild.Proofs.LoadedTargets
import SiteBuild.Proofs.ReportedErrors

/-!
# Rejected components

The components that a build has compiled, each with the module it is and the text that the compiler
was handed, which is the source with its global styles enclosed. Only the lines in front of those
styles stay where they are (`getElem?_lines_encloseGlobalStyles`). A component that is rejected ends
the build (`build_of_compilation`), and the lines around the place are those of the file, not of
the text that was handed in. Main statement: when the marked row of the message shows the line that
the compiler complained about (`reported_line_marked_iff`).
-/
namespace SiteBuild

namespace Component

/-- The lines in front of the first global style element stay as they are. -/
theorem getElem?_lines_encloseGlobalStyles {front rest : Text}
    (free : ∀ first second, front = first ++ second → second ≠ [] →
      enclosedElement? (second ++ rest) = none) {index : Nat}
    (before : index < front.count (.scalar '\n')) :
    (Text.lines (encloseGlobalStyles (front ++ rest)))[index]? =
      (Text.lines (front ++ rest))[index]? := by
  rw [encloseGlobalStyles_append free]
  exact Text.getElem?_splitAt_append before _ _

end Component

namespace Diagnostic

/-- The lines around a place that has none of its own are a frame of the source, if there is one. -/
theorem shownFrame_eq_ok_iff {diagnostic : Diagnostic} {number : Int} {source : Option Textual}
    {frame : Text} (none : diagnostic.frame.getD [] = [])
    (placed : diagnostic.line.int? = some number) (some : frame ≠ []) :
    diagnostic.shownFrame source = .ok frame ↔
      ∃ shown, source = .some (.text shown) ∧ shown ≠ [] ∧
        codeFrame shown number diagnostic.column.int? = .ok frame := by
  have empty : (.ok [] : Except Misuse Text) ≠ .ok frame :=
    fun same => some (Except.ok.inj same).symm
  unfold shownFrame
  simp only [none, placed, List.isEmpty_nil, Bool.not_true, Bool.false_eq_true, if_false]
  rcases source with _ | shown | value
  · simp [empty]
  · cases shown with
    | nil => simp [Textual.isEmpty, empty]
    | cons point rest =>
      simp [Textual.isEmpty, Textual.asText, bind, Except.bind]
  · simp only [Textual.asText, bind, Except.bind]
    split <;> simp [empty]

end Diagnostic

namespace Build

open Steps SiteBuild.Module

variable {σ : Type}

/-- A component that a build has compiled. -/
structure Compilation where
  /-- The module it is. -/
  moduleId : Option Text
  /-- Its source. -/
  source : Text
  /-- The text that the compiler is handed. -/
  text : Text
  /-- The answer of the compiler. -/
  answer : Except Failure Json

namespace Compilation

/-- The report that the compiler gives in place of a result. -/
def report? (component : Compilation) : Option Record := Exchange.reportIn? component.answer

/-- The failure of a component that is rejected. -/
def failure? (component : Compilation) : Option Failure :=
  component.report?.map fun report => .build (Component.errorOfDiagnostic
    (.ofReport report (Json.ofString? component.moduleId)))

/-- Whether a component is a module that is loaded, and the compiler is handed its source with its
global styles enclosed. -/
structure IsOf (loader : Loader) (component : Compilation) (id : Text) : Prop where
  moduleId : component.moduleId = some id
  backed : loader.Backs id (.text component.source)
  text : component.text = Component.encloseGlobalStyles component.source

end Compilation

/-! ## Watching the compiler -/

/-- A session with its surroundings, and the components compiled in it. -/
abbrev Watched (σ : Type) : Type := (Session × σ) × List Compilation

/-- A step that compiles nothing. -/
def aside {α : Type} (action : StateM (Session × σ) α) : StateM (Watched σ) α :=
  fun (before, notes) =>
    let (value, after) := (action before : Id _)
    (value, (after, notes))

/-- What is written down about a source that is compiled. -/
def Tools.notesOf (tools : Tools (StateM σ)) (source : Textual) (options : Component.Options)
    (moduleId : Option Text) (before : σ) : List Compilation :=
  match source with
  | .other _ => []
  | .text source =>
    let text := Component.encloseGlobalStyles source
    let (answer, _) := (tools.run (.compile text options.toJson) before : Id _)
    [{ moduleId, source, text, answer }]

/-- The services of a session, which write down what they compile. -/
def Tools.watched (limit : Nat) (tools : Tools (StateM σ)) : Services (StateM (Watched σ)) where
  limit := limit
  flatten css := aside ((tools.services limit).flatten css)
  fetch url := aside ((tools.services limit).fetch url)
  compile source options moduleId := fun (before, notes) =>
    let (result, after) :=
      ((tools.services limit).compile source options moduleId before : Id _)
    (result, (after, notes ++ tools.notesOf source options moduleId before.2))
  link payload := aside ((tools.services limit).link payload)

variable {tools : Tools (StateM σ)}

variable (tools) in
/-- Services that write down what they compile answer as they do otherwise. -/
theorem shows_watched (limit : Nat) :
    (tools.watched limit).Shows Prod.fst (tools.services limit) where
  limit := rfl
  answer question before := by cases question <;> rfl

/-- The components that are compiled in a build. -/
def compilations (limit : Nat) (tools : Tools (StateM σ)) (request : Request)
    (before : Session × σ) : List Compilation :=
  (build (tools.watched limit) request (before, []) : Id _).2.2

/-- Whether a component is a module that is loaded, and the steps fail if it is rejected. -/
def Fits (loader : Loader) (α : Type) (result : Except Failure α) (component : Compilation) :
    Prop :=
  (∃ id, component.IsOf loader id) ∧
    ∀ failure, component.failure? = some failure → result = .error failure

/-- Fitting components are a property of steps that are put together of steps with it. -/
theorem Fits.compositional (loader : Loader) :
    Compositional (σ := Watched σ) (fun _ => True) (Logged Prod.snd (Fits loader)) :=
  Logged.compositional Prod.snd (Fits loader)
    (fun _ fits => ⟨fits.1, fun failure rejected => nomatch fits.2 failure rejected⟩)
    (fun fits => ⟨fits.1, fun failure rejected => by
      cases fits.2 failure rejected
      rfl⟩)

/-- Steps aside write nothing down. -/
theorem logged_aside {α : Type} (fits : (α : Type) → Except Failure α → Compilation → Prop)
    (action : StateM (Session × σ) (Except Failure α)) :
    Logged Prod.snd fits α (step (aside action)) := by
  rintro ⟨before, notes⟩ result after done
  cases done
  exact ⟨[], by simp, by simp⟩

/-- A component is written down as what the compiler is handed, and it is not compiled if the
compiler gives a report. -/
theorem logged_compile (limit : Nat) {loader : Loader} {source : Textual}
    (options : Component.Options) {id : Text} (backed : loader.Backs id source) :
    Logged Prod.snd (Fits loader) _
      (step ((tools.watched limit).compile source options (some id))) := by
  rintro ⟨⟨session, before⟩, notes⟩ result after done
  change (match ((tools.services limit).compile source options (some id) (session, before) : Id _)
    with | (result, after) => (result, (after, notes ++ _))) = _ at done
  rw [compile_services] at done
  cases source with
  | other value =>
    cases done
    exact ⟨[], rfl, by simp⟩
  | text source =>
    rcases answered : (tools.run (.compile (Component.encloseGlobalStyles source) options.toJson)
      before : Id _) with ⟨answer, later⟩
    simp only [Tools.notesOf, answered] at done
    cases done
    refine ⟨_, rfl, fun component member => ?_⟩
    cases List.mem_singleton.mp member
    refine ⟨⟨id, rfl, backed, rfl⟩, fun failure rejected => ?_⟩
    obtain ⟨report, reported, rfl⟩ := Option.map_eq_some_iff.mp rejected
    obtain ⟨fields, rfl, told, some⟩ := Exchange.reportIn?_eq_some reported
    simp [Component.ofAnswer, told, some, Diagnostic.ofAnswer]

/-- A bundle writes down the components of its modules, and fails if one of them is rejected. -/
theorem logged_bundleOf (limit : Nat) (request : Request) (files : Page.Files) (target : Target) :
    Logged Prod.snd (Fits (loaderOf request files target)) _
      (bundleOf (tools.watched limit) request files target) := by
  have whole := Fits.compositional (σ := σ) (loaderOf request files target)
  refine holds_bundleOf whole (fun _ _ => trivial) request files target
    (fun url => logged_aside _ _)
    (fun source options id backed => logged_compile limit options backed)
    fun graph options => whole.bind (logged_aside _ _) fun answer => ?_
  cases bundleOfAnswer answer with
  | ok code => exact whole.pure code
  | error failure => exact whole.throw trivial

/-- Flattening the styles of a page writes nothing down. -/
theorem logged_flattenStyles (limit : Nat) (sources : Page.Sources) :
    Logged (σ := Watched σ) Prod.snd (fun _ _ _ => False) _
      (flattenStyles (tools.watched limit) sources) := by
  refine holds_flattenStyles
    (Logged.compositional Prod.snd (fun _ _ _ => False) (fun _ none => none) fun none => none)
    (fun css => ?_) sources
  intro before result after done
  rcases after_flattenSheet done with rfl | ⟨sheet, rfl⟩
  · exact ⟨[], by simp, by simp⟩
  · exact ⟨[], (List.append_nil _).symm, by simp⟩

/-- Bundles one after the other write down the components of their modules, and end at the first
that is rejected. -/
theorem logged_bundleAll (limit : Nat) (request : Request) (files : Page.Files)
    (targets : List Target) (result : Result) (before : Watched σ) {answer after}
    (done : (bundleAll (tools.watched limit) request files result targets before : Id _) =
      (answer, after)) :
    ∃ new, after.2 = before.2 ++ new ∧
      ∀ component ∈ new, (∃ target id, component.IsOf (loaderOf request files target) id) ∧
        ∀ failure, component.failure? = some failure → answer = failedResult files failure := by
  induction targets generalizing result before with
  | nil =>
    cases done
    exact ⟨[], by simp, by simp⟩
  | cons target rest tail =>
    rw [bundleAll_cons] at done
    rcases first : outcome (bundleOf (tools.watched limit) request files target) before with
      ⟨failure | code, between⟩
    · rw [first] at done
      cases done
      obtain ⟨new, notes, fits⟩ := logged_bundleOf limit request files target before _ _ first
      refine ⟨new, notes, fun component member => ⟨⟨target, (fits component member).1⟩, ?_⟩⟩
      intro failure rejected
      cases (fits component member).2 failure rejected
      rfl
    · rw [first] at done
      obtain ⟨new, notes, fits⟩ := logged_bundleOf limit request files target before _ _ first
      obtain ⟨more, others, all⟩ := tail _ between done
      refine ⟨new ++ more, by rw [others, notes, List.append_assoc], ?_⟩
      rw [List.forall_mem_append]
      refine ⟨fun component member => ⟨⟨target, (fits component member).1⟩, ?_⟩, all⟩
      intro failure rejected
      cases (fits component member).2 failure rejected

/-- A component that is a file of the page has the text of the file. -/
theorem Compilation.IsOf.file {request : Request} {files : Page.Files} {target : Target}
    {component : Compilation} {id : Text}
    (known : component.IsOf (loaderOf request files target) id)
    (relative : ∀ name, (files.find? name).isSome → name.head? = some (.scalar '.'))
    {content : Textual} (file : files.find? id = some content) :
    content = .text component.source := by
  obtain ⟨other, plain⟩ := Target.not_generated (relative id (by simp [file])) (by decide)
  have origin : (loaderOf request files target).origin id = .text content := by
    simp [Loader.origin, loaderOf, other, plain, file]
  rcases known.backed with here | ⟨url, away⟩
  · cases origin.symm.trans here
    rfl
  · cases origin.symm.trans away

/-- What is written down makes no difference to a build. -/
theorem build_watched (limit : Nat) (request : Request) (before : Session × σ) :
    (build (tools.watched limit) request (before, []) : Id _).1 =
      (build (tools.services limit) request before : Id _).1 :=
  congrArg Prod.fst ((shows_watched tools limit).build request (before, []))

variable (tools) in
/-- What is written down makes no difference to the styles of a page. -/
theorem flattenStyles_watched (limit : Nat) (sources : Page.Sources) (before : Session × σ) :
    (outcome (flattenStyles (tools.watched limit) sources) (before, [])).1 =
        (outcome (flattenStyles (tools.services limit) sources) before).1 :=
  congrArg Prod.fst ((shows_watched tools limit).flattenStyles sources (before, []))

/-- **Rejected components.** Every component that is compiled in a build is a module, which has the
text of the file if it is a file of the page, and the compiler is handed its text with its global
styles enclosed. If it is rejected, this is the failure that the build ends with. -/
theorem build_of_compilation (limit : Nat) (request : Request) (before : Session × σ)
    {component : Compilation} (member : component ∈ compilations limit tools request before) :
    ∃ sources middle files id,
      outcome (flattenStyles (tools.services limit) request.sources) before =
        (.ok sources, middle) ∧
      Page.localFiles sources request.head request.options.runtimeExports = .ok files ∧
      component.moduleId = some id ∧
      component.text = Component.encloseGlobalStyles component.source ∧
      (∀ content, files.find? id = some content → content = .text component.source) ∧
      ∀ failure, component.failure? = some failure →
        (build (tools.services limit) request before : Id _).1 = failedResult files failure := by
  rcases built : (build (tools.watched limit) request (before, []) : Id _) with ⟨answer, after⟩
  rw [← build_watched, built]
  rw [compilations, built] at member
  rw [build_stages] at built
  have flat := flattenStyles_watched tools limit request.sources before
  rcases watched : outcome (flattenStyles (tools.watched limit) request.sources) (before, []) with
    ⟨failure | sources, between⟩
  all_goals
    obtain ⟨none, notes, silent⟩ := logged_flattenStyles limit request.sources _ _ _ watched
    obtain rfl : none = [] := List.eq_nil_iff_forall_not_mem.mpr silent
    simp only [List.append_nil] at notes
    rw [watched] at built flat
  · cases failure <;> cases built <;> simp [notes] at member
  · simp only at built
    cases assembled : Page.localFiles sources request.head request.options.runtimeExports with
    | error cause =>
      rw [assembled] at built
      cases built
      simp [notes] at member
    | ok files =>
      rw [assembled] at built
      obtain ⟨new, all, fits⟩ := logged_bundleAll limit request files _ {} between built
      rw [all, notes] at member
      obtain ⟨⟨target, id, known⟩, ends⟩ := fits component (by simpa using member)
      rcases real : outcome (flattenStyles (tools.services limit) request.sources) before with
        ⟨result, middle⟩
      rw [real] at flat
      cases flat
      exact ⟨sources, middle, files, id, rfl, assembled, known.moduleId, known.text,
        fun content file => known.file (fun name => Page.head?_localFile assembled) file, ends⟩

/-! ## Marked lines -/

open Diagnostic (framePart compileName)

/-- The result of a failure is its message, if the module can be looked up. -/
theorem failedResult_eq {error : BuildError} (files : Page.Files) :
    failedResult files (.build error) =
      if isNoKey error.moduleId then .error (.misuse (.badKey error.moduleId.typeName))
      else resultOf
        (formatFailure (.build error) error.moduleId (sourceOf files error.moduleId)) := rfl

/-- A result shows a frame below a text if the frame is that of its message. -/
theorem exists_frame_iff {made : Except Misuse Text} {lead : Text} {fits : Text → Prop}
    (some : ∀ frame, fits frame → frame ≠ []) :
    (∃ frame, resultOf (made.map fun frame => lead ++ framePart frame) =
        .ok { error := lead ++ "\n\n" ++ frame } ∧ fits frame) ↔
      ∃ frame, made = .ok frame ∧ fits frame := by
  have below {frame : Text} (shown : frame ≠ []) : framePart frame = "\n\n" ++ frame := by
    simp [framePart, shown]
  cases made with
  | error cause => simp [resultOf, Except.map]
  | ok made =>
    constructor
    · rintro ⟨frame, same, fit⟩
      refine ⟨frame, ?_, fit⟩
      have tails : framePart made = "\n\n" ++ frame := by
        simpa [resultOf, Except.map] using same
      by_cases empty : made = []
      · rw [empty] at tails
        cases tails
      · rw [below empty] at tails
        rw [List.append_cancel_left tails]
    · rintro ⟨frame, same, fit⟩
      cases same
      exact ⟨made, by simp [resultOf, Except.map, below (some made fit)], fit⟩

/-- A file of the page is not one of the modules that come with it. -/
theorem sourceOf_file {sources : Page.Sources} {head : Page.Head} {runtimeExports : List Json}
    {files : Page.Files}
    (made : Page.localFiles sources head runtimeExports = .ok files) {id : Text}
    {content : Textual} (file : files.find? id = some content) :
    sourceOf files (.str id) = some content := by
  have relative : id.head? = some (.scalar '.') :=
    Page.head?_localFile made (by simp [file])
  have other : (id == Builtin.iconId) = false := by
    rw [beq_eq_false_iff_ne]
    rintro rfl
    cases relative
  simp [sourceOf, Json.string?, other, file]

/-- There is no source for what is no name of a module. -/
theorem sourceOf_of_isNoKey {files : Page.Files} {id : Json} (key : isNoKey id = true) :
    sourceOf files id = none := by
  cases id with
  | arr items => rfl
  | obj fields => rfl
  | _ => cases key

/-- **Marked lines.** If a component is rejected with a report that tells a line of the text that
the compiler was handed, and no lines around it, then the message shows a frame in which that line
is marked, and no other, exactly if there is a source for the module of the report that has the
same line in that place, and there is room for the pointer. For a component that is a file of the
page, and a report that names no module, it is the source before its global styles are enclosed. -/
theorem reported_line_marked_iff (limit : Nat) (tools : Tools (StateM σ)) (request : Request)
    (session : Session) (before : σ) (component : Compilation)
    (member : component ∈ compilations limit tools request (session, before)) (report : Record)
    (reported : component.report? = some report)
    (frameless : (Diagnostic.trimmedFrame? (Record.get report "frame")).getD [] = []) :
    ∃ sources middle files id,
      outcome (flattenStyles (tools.services limit) request.sources) (session, before) =
        (.ok sources, middle) ∧
      Page.localFiles sources request.head request.options.runtimeExports = .ok files ∧
      component.moduleId = some id ∧
      component.text = Component.encloseGlobalStyles component.source ∧
      let whole := Diagnostic.ofReport report (.str id)
      (((Record.get report "id").isEmpty ∧ (files.find? id).isSome) →
        sourceOf files whole.moduleId = some (.text component.source)) ∧
      ∀ (number : Nat) (line : Text), 1 ≤ number →
        (Text.lines component.text)[number - 1]? = some line →
        whole.line.int? = some (number : Int) →
        ((∃ frame,
            (inSession.carry (build (Services.ofTools limit tools) request)
                (session, before) : Id _).1 =
              .ok { error :=
                { whole with name := compileName whole.name }.headline ++ whole.positionPart ++
                  "\n\n" ++ frame } ∧
            markedRows frame = [frameRow true number line]) ↔
          ∃ shown, sourceOf files whole.moduleId = some (.text shown) ∧ shown ≠ [] ∧
            (Text.lines shown)[number - 1]? = some line ∧
            ∃ frame, codeFrame shown number whole.column.int? = .ok frame) := by
  obtain ⟨sources, middle, files, id, flattened, assembled, named, handed, own, ends⟩ :=
    build_of_compilation limit request (session, before) member
  refine ⟨sources, middle, files, id, flattened, assembled, named, handed, ?_, ?_⟩
  · rintro ⟨unnamed, present⟩
    obtain ⟨content, file⟩ := Option.isSome_iff_exists.mp present
    have module : (Diagnostic.ofReport report (.str id)).moduleId = .str id := by
      simp [Diagnostic.ofReport, Json.orElse, unnamed]
    rw [module, sourceOf_file assembled file, own content file]
  intro number line positive place placed
  have rejected : component.failure? = some (.build (Component.errorOfDiagnostic
      (.ofReport report (.str id)))) := by
    rw [Compilation.failure?, reported, named]
    rfl
  have failed : (inSession.carry (build (Services.ofTools limit tools) request)
      (session, before) : Id _).1 = _ :=
    (congrArg (fun steps => (steps (session, before) : Id _).1)
      (inSession.carry_build _ request)).trans (ends _ rejected)
  rw [failed, failedResult_eq]
  have some (frame : Text) (marked : markedRows frame = [frameRow true number line]) :
      frame ≠ [] := by
    rintro rfl
    cases marked
  have message := Diagnostic.formatFailure_compileError report (.str id)
    (sourceOf files (Diagnostic.ofReport report (.str id)).moduleId)
  have module : (Component.errorOfDiagnostic (.ofReport report (.str id))).moduleId =
      (Diagnostic.ofReport report (.str id)).moduleId := rfl
  rw [module]
  change (Diagnostic.ofReport report (.str id)).frame.getD [] = [] at frameless
  generalize Diagnostic.ofReport report (.str id) = whole at *
  by_cases key : isNoKey whole.moduleId
  · simp [key, sourceOf_of_isNoKey key]
  rw [if_neg key, message, exists_frame_iff some]
  constructor
  · rintro ⟨frame, made, marked⟩
    obtain ⟨shown, source, filled, made⟩ :=
      (Diagnostic.shownFrame_eq_ok_iff frameless placed (some frame marked)).mp made
    exact ⟨shown, source, filled, (markedRows_eq_singleton_iff positive made).mp marked, frame,
      made⟩
  · rintro ⟨shown, source, filled, same, frame, made⟩
    have marked := (markedRows_eq_singleton_iff positive made).mpr same
    exact ⟨frame, (Diagnostic.shownFrame_eq_ok_iff frameless placed (some frame marked)).mpr
      ⟨shown, source, filled, made⟩, marked⟩

/-- The only component of the page of markup. -/
def markupComponent : Compilation where
  moduleId := some Page.appFile
  source := "<p>Hello</p>"
  text := "<p>Hello</p>"
  answer := .ok (.obj [("error", .obj missingExport)])

theorem compilations_markup :
    compilations 9 (reporting false) markup ({}, ()) = [markupComponent] := by
  with_unfolding_all rfl

/-- The message of the missing export shows the only line of the page. -/
theorem reported_line_marked_iff_markup :
    markupComponent ∈ compilations 9 (reporting false) markup ({}, ()) ∧
      ∃ frame,
        (inSession.carry (build (Services.ofTools 9 (reporting false)) markup) ({}, ()) : Id _).1 =
          .ok { error := "MISSING_EXPORT: x is not exported" ++ "\nline 1" ++ "\n\n" ++ frame } ∧
        markedRows frame = [frameRow true 1 "<p>Hello</p>"] := by
  have member : markupComponent ∈ compilations 9 (reporting false) markup ({}, ()) := by
    rw [compilations_markup]
    exact List.mem_singleton_self _
  refine ⟨member, ?_⟩
  obtain ⟨sources, middle, files, id, flattened, assembled, named, handed, file, shows⟩ :=
    reported_line_marked_iff 9 (reporting false) markup {} () markupComponent member missingExport
      rfl rfl
  obtain rfl : Page.appFile = id := Option.some.inj named
  have known : (files.find? Page.appFile).isSome := by
    have start : outcome (flattenStyles ((reporting false).services 9) markup.sources) ({}, ()) =
      (.ok markup.sources, ({}, ())) := rfl
    obtain ⟨rfl, rfl⟩ : markup.sources = sources ∧ _ = middle := by
      simpa using start.symm.trans flattened
    have found : ((Page.localFiles markup.sources markup.head markup.options.runtimeExports).map
        fun files => (files.find? Page.appFile).isSome).toOption = some true := by
      decide +kernel
    rw [assembled] at found
    exact Option.some.inj found
  refine (shows 1 "<p>Hello</p>" (by decide) (by decide) rfl).mpr ?_
  exact ⟨_, file ⟨rfl, known⟩, by decide, by decide, _, rfl⟩

/-- The report of an element that is left open, in the sixth line of what the compiler is handed. -/
def leftOpen : Record :=
  [("message", .str "<p> was left open"), ("start", .obj [("line", .int 6)])]

/-- Tools that answer with that report. -/
def rejecting : Tools (StateM Unit) where
  run _ := fun _ => (.ok (.obj [("error", .obj leftOpen)]), ())
  request _ := fun _ => (.error (.transport "no network"), ())

/-- A page with a global style and an element that is left open in its second line. -/
def globallyStyled : Request where
  sources := .single (.text
    "<style global>a\x7b\x7d</style>\n<p>\n<b></b>\n<i></i>\n<u></u>\n<s></s>")

/-- The line that the compiler complains about is not the one that is marked, which is the sixth of
the page and not of what the compiler was handed. -/
theorem reported_line_of_global_style :
    (compilations 9 rejecting globallyStyled (({}, ()) : Session × Unit)).map
        (fun component => (component.moduleId, (Text.lines component.text)[5]?,
          component.report?.isSome)) = [(some Page.appFile, some ("<p>" : Text), true)] ∧
    (Diagnostic.ofReport leftOpen .null).line.int? = some 6 ∧
    (Record.get leftOpen "frame").isNull = true ∧
    (inSession.carry (build (Services.ofTools 9 rejecting) globallyStyled)
        (({}, ()) : Session × Unit) : Id _).1.toOption =
      some { error := "CompileError: <p> was left open\nline 6\n\n" ++
        "    4 | <i></i>\n    5 | <u></u>\n>   6 | <s></s>" } := by
  decide +kernel

end Build
end SiteBuild
