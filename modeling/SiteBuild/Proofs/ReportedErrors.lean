import Mathlib.Data.List.DropRight
import SiteBuild.Proofs.Exchanges

/-!
# Errors that tools report

The message about a report of a tool consists of parts: the plugin, the headline, the position, the
frame, and the pages that document the error (`format_ofReport`). A link error keeps all of them but
the pages (`formatFailure_linkError`), a compile error drops the plugin as well
(`formatFailure_compileError`). Main statement: what remains of a report in the result of a build
(`build_keeps_of_report`).
-/
namespace SiteBuild

/-- A text without blanks at its ends is left as it is. -/
theorem Text.trim_trim (text : Text) : trim (trim text) = trim text := by
  have same (text : Text) : trimEnd text = List.rdropWhile isBlank text := rfl
  have start : trimStart (trimEnd (trimStart text)) = trimEnd (trimStart text) := by
    obtain ⟨rest, whole⟩ : trimEnd (trimStart text) <+: trimStart text :=
      List.rdropWhile_prefix isBlank _
    have first := List.head?_dropWhile_not isBlank text
    rw [show text.dropWhile isBlank = trimStart text from rfl, ← whole] at first
    cases trimmed : trimEnd (trimStart text) with
    | nil => rfl
    | cons point more =>
      have solid : isBlank point = false := by simpa [trimmed] using first
      rw [trimStart, List.dropWhile_cons, solid, if_neg Bool.false_ne_true]
  change trimEnd (trimStart (trimEnd (trimStart text))) = trimEnd (trimStart text)
  rw [start, same, same]
  exact List.rdropWhile_idempotent isBlank _

namespace Json

/-- A value in place of itself is the value. -/
theorem orElse_self (value : Json) : value.orElse value = value := by
  unfold orElse
  split <;> rfl

/-- A value is no empty one if another is put in place of those. -/
theorem isEmpty_orElse {value other : Json} (some : other.isEmpty = false) :
    (value.orElse other).isEmpty = false := by
  unfold orElse
  split
  · exact some
  · rwa [Bool.not_eq_true] at *

end Json

namespace Diagnostic

/-! ## Parts of messages -/

section Parts

variable (diagnostic : Diagnostic)

/-- The part of the tool that reported the error. -/
def pluginPart : Text :=
  if diagnostic.plugin.isEmpty then [] else "[" ++ diagnostic.plugin.shown ++ "] "

/-- What the error is. -/
def headline : Text := diagnostic.name.shown ++ ": " ++ diagnostic.message.shown

/-- The line and the column below the headline. -/
def positionPart : Text :=
  if diagnostic.position.isEmpty then [] else "\n" ++ diagnostic.position

/-- The lines around the place. -/
def framePart (frame : Text) : Text := if frame.isEmpty then [] else "\n\n" ++ frame

/-- The pages that document the error. -/
def linkPart : Text :=
  if diagnostic.links.isEmpty then []
  else "\n\n" ++ Text.join "\n" (diagnostic.sortedLinks.map Key.name)

variable {diagnostic}

/-- A message is made of its parts, if the links are texts. -/
theorem format_eq (known : ∀ link ∈ diagnostic.sortedLinks, ∃ text, link = .text text)
    (source : Option Textual) :
    diagnostic.format source = (diagnostic.shownFrame source).map fun frame =>
      diagnostic.pluginPart ++ diagnostic.headline ++ diagnostic.positionPart ++
        framePart frame ++ diagnostic.linkPart := by
  have list : diagnostic.linkList =
      .ok (Text.join "\n" (diagnostic.sortedLinks.map Key.name)) := by
    rw [linkList, Key.map_toTextual known, Textual.join_texts]
  unfold format
  rw [list]
  cases diagnostic.shownFrame source with
  | error cause => rfl
  | ok frame =>
    simp only [bind, Except.bind, pure, Except.pure, Except.map, pluginPart, headline,
      positionPart, framePart, linkPart, List.append_assoc]

/-- Without links there are no pages at the end of a message, and only then. -/
theorem linkPart_eq_nil_iff : diagnostic.linkPart = [] ↔ diagnostic.links = [] := by
  have gap : ("\n\n" : Text) ≠ [] := by decide
  unfold linkPart
  split
  · rename_i none
    simpa using none
  · rename_i some
    simpa [gap] using some

end Parts

/-! ## Diagnostics of reports -/

section Reports

variable (report : Record) (moduleId : Json)

/-- The links of a report are texts. -/
theorem sortedLinks_ofReport :
    ∀ link ∈ (ofReport report moduleId).sortedLinks, ∃ text, link = .text text := by
  intro link member
  rw [sortedLinks, List.mem_mergeSort, ofReport, Key.eraseDupsBy_map_text] at member
  obtain ⟨text, _, rfl⟩ := List.mem_map.mp member
  exact ⟨text, rfl⟩

/-- The message about a report is made of its parts. -/
theorem format_ofReport (source : Option Textual) :
    formatAnswer (.obj report) moduleId source =
      let whole := ofReport report moduleId
      (whole.shownFrame source).map fun frame =>
        whole.pluginPart ++ whole.headline ++ whole.positionPart ++ framePart frame ++
          whole.linkPart :=
  format_eq (sortedLinks_ofReport report moduleId) source

/-- The frame of a report is without blanks at its ends as it stands. -/
theorem trimmedFrame?_ofReport :
    trimmedFrame? (Json.ofString? (ofReport report moduleId).frame) =
      (ofReport report moduleId).frame := by
  change trimmedFrame? (Json.ofString? (trimmedFrame? _)) = trimmedFrame? _
  cases Record.get report "frame" <;> simp [trimmedFrame?, Json.string?, Json.ofString?,
    Text.trim_trim]

/-- The name under which an error of the compiler is shown. -/
def compileName (name : Json) : Json :=
  if name.isString "BuildError" then .str "CompileError" else name

/-- The diagnostic of the link error of a report is that of the report without the links. -/
theorem ofFailure_linkError :
    let whole := ofReport report moduleId
    ofFailure (.build (Module.linkError whole)) whole.moduleId =
      .ok { whole with links := [] } := by
  simp only [ofFailure, ofBuildError, errorLinks, Module.linkError, Json.isEmpty, if_true,
    trimmedFrame?_ofReport, Json.orElse_self]
  rfl

/-- The diagnostic of the compile error of a report is that of the report without the links and the
plugin, under its own name. -/
theorem ofFailure_compileError :
    let whole := ofReport report moduleId
    ofFailure (.build (Component.errorOfDiagnostic whole)) whole.moduleId =
      .ok { whole with name := compileName whole.name, plugin := .null, links := [] } := by
  have named : ((compileName (ofReport report moduleId).name).orElse (.str "CompileError")) =
      compileName (ofReport report moduleId).name := by
    have some : (compileName (ofReport report moduleId).name).isEmpty = false := by
      unfold compileName
      split
      · rfl
      · exact Json.isEmpty_orElse rfl
    rw [Json.orElse, some]
    rfl
  simp only [ofFailure, ofBuildError, errorLinks, Component.errorOfDiagnostic, Json.isEmpty,
    if_true, trimmedFrame?_ofReport, Json.orElse_self]
  rw [← compileName, named]
  rfl

end Reports

/-! ## Messages of wrapped reports -/

/-- The message about a link error is that about the report without the links. -/
theorem formatFailure_linkError (report : Record) (source : Option Textual) :
    let whole := ofReport report .null
    formatFailure (.build (Module.linkError whole)) whole.moduleId source =
      (whole.shownFrame source).map fun frame =>
        whole.pluginPart ++ whole.headline ++ whole.positionPart ++ framePart frame := by
  simp only
  rw [formatFailure, ofFailure_linkError]
  refine (format_eq (by simp [sortedLinks]) source).trans ?_
  simp only [linkPart, List.isEmpty_nil, if_true, List.append_nil]
  rfl

/-- The message about a compile error is that about the report without the plugin and the links. -/
theorem formatFailure_compileError (report : Record) (moduleId : Json) (source : Option Textual) :
    let whole := ofReport report moduleId
    formatFailure (.build (Component.errorOfDiagnostic whole)) whole.moduleId source =
      (whole.shownFrame source).map fun frame =>
        { whole with name := compileName whole.name }.headline ++ whole.positionPart ++
          framePart frame := by
  simp only
  rw [formatFailure, ofFailure_compileError]
  refine (format_eq (by simp [sortedLinks]) source).trans ?_
  have none : Json.null.isEmpty = true := rfl
  simp only [pluginPart, none, linkPart, List.isEmpty_nil, if_true, List.nil_append,
    List.append_nil]
  rfl

end Diagnostic

namespace Build

open Diagnostic (framePart compileName)
open Steps (outcome)

variable {σ : Type}

/-- The result of a message, or why there is none. -/
def resultOf : Except Misuse Text → Except Failure Result
  | .ok message => .ok { error := message }
  | .error cause => .error (.misuse cause)

/-- What is put behind each message is put behind the one there is. -/
theorem map_append (frame : Except Misuse Text) (message : Text → Text) (behind : Text) :
    (frame.map fun frame => message frame ++ behind) = (frame.map message).map (· ++ behind) := by
  cases frame <;> rfl

/-- Messages of which one has something behind it are one result only if this is nothing. -/
theorem resultOf_eq_append_iff (message : Except Misuse Text) (behind : Text) :
    resultOf message = resultOf (message.map (· ++ behind)) ↔
      behind = [] ∨ ∃ cause, message = .error cause := by
  cases message <;> simp [resultOf, Except.map]

/-- The result of an error whose module is a text is its message. -/
theorem failedResult_build {error : BuildError} (url : error.url = .null)
    (named : error.moduleId.IsTextOrNull) (files : Page.Files) :
    failedResult files (.build error) =
      resultOf (formatFailure (.build error) error.moduleId (sourceOf files error.moduleId)) := by
  have documented : (Failure.build error).Documented := ⟨.inl url, named⟩
  rw [failedResult_of_documented documented]
  rfl

/-- **What remains of a report.** If the compiler or the linker gives a report in a build, whatever
else happens in it, the result is made of the report; it is the result of the tools themselves,
since the exchanges are only written down. From the linker, it is the message about the
report without the pages that document the error, so that it is the message itself only if there
are none. From the compiler, it has the headline, the position and the frame of that message, and
neither the plugin nor the pages. -/
theorem build_keeps_of_report (limit : Nat) (tools : Tools (StateM σ)) (request : Request)
    (session : Session) (before : σ) (answer : Except Failure Result) (after : Noted σ)
    (built : (inSession.carry (build (Services.ofTools limit tools.noted) request)
      (session, (before, [])) : Id _) = (answer, after))
    (exchange : Exchange) (member : exchange ∈ after.2.2) (report : Record)
    (reported : exchange.report? = some report) (named : (Record.get report "id").IsTextOrNull) :
    (inSession.carry (build (Services.ofTools limit tools) request) (session, before) : Id _) =
      (answer, after.bare) ∧
    ∃ sources middle files,
      outcome (flattenStyles (tools.noted.services limit) request.sources)
        (session, (before, [])) = (.ok sources, middle) ∧
      Page.localFiles sources request.head request.options.runtimeExports = .ok files ∧
      (∀ payload, exchange.call = .link payload →
        let whole := Diagnostic.ofReport report .null
        let source := sourceOf files whole.moduleId
        let kept := (whole.shownFrame source).map fun frame =>
          whole.pluginPart ++ whole.headline ++ whole.positionPart ++ framePart frame
        answer = resultOf kept ∧
        formatAnswer (.obj report) .null source = kept.map (· ++ whole.linkPart) ∧
        (answer = resultOf (formatAnswer (.obj report) .null source) ↔
          whole.links = [] ∨ ∃ cause, kept = .error cause)) ∧
      ∀ text options, exchange.call = .compile text options → ∃ id,
        let whole := Diagnostic.ofReport report (Json.ofString? id)
        answer = resultOf ((whole.shownFrame (sourceOf files whole.moduleId)).map fun frame =>
          { whole with name := compileName whole.name }.headline ++ whole.positionPart ++
            framePart frame) ∧
        ∀ source, formatAnswer (.obj report) .null source =
          (whole.shownFrame source).map fun frame =>
            whole.pluginPart ++ whole.headline ++ whole.positionPart ++ framePart frame ++
              whole.linkPart := by
  have plain := build_noted limit tools request (session, (before, []))
  rw [built] at plain
  refine ⟨plain.symm, ?_⟩
  rw [inSession.carry_build] at built
  obtain ⟨new, notes, told⟩ := build_of_report limit request (session, (before, [])) built
  obtain rfl : after.2.2 = new := notes
  obtain ⟨sources, middle, files, error, flattened, assembled, becomes, same⟩ :=
    told exchange member report reported
  have moduleNamed {id : Json} (given : id.IsTextOrNull) :
      (Diagnostic.ofReport report id).moduleId.IsTextOrNull := named.orElse given
  refine ⟨sources, middle, files, flattened, assembled, fun payload call => ?_,
    fun text options call => ?_⟩
  · simp only [Exchange.Becomes, call] at becomes
    subst becomes
    rw [failedResult_build rfl (moduleNamed .null)] at same
    have kept := same.trans (congrArg resultOf (Diagnostic.formatFailure_linkError report _))
    have whole := (Diagnostic.format_ofReport report .null
      (sourceOf files (Diagnostic.ofReport report .null).moduleId)).trans (map_append _ _ _)
    refine ⟨kept, whole, ?_⟩
    rw [kept, whole, ← Diagnostic.linkPart_eq_nil_iff]
    exact resultOf_eq_append_iff _ _
  · simp only [Exchange.Becomes, call] at becomes
    obtain ⟨id, rfl⟩ := becomes
    rw [failedResult_build rfl (moduleNamed (.ofString? id))] at same
    exact ⟨id, same.trans (congrArg resultOf (Diagnostic.formatFailure_compileError report _ _)),
      Diagnostic.format_ofReport report .null⟩

/-- The report of an export that is missing, by a part of the tool, with the page about it. -/
def missingExport : Record :=
  [("code", .str "MISSING_EXPORT"), ("message", .str "x is not exported"),
    ("plugin", .str "resolve"), ("line", .int 1), ("url", .str "https://rollupjs.org/missing")]

/-- Tools that answer with code, or with that report if they are asked to link or to compile. -/
def reporting (atLink : Bool) : Tools (StateM Unit) where
  run call := fun _ =>
    let reports : Bool :=
      match call with
      | .link _ => atLink
      | _ => !atLink
    (.ok (.obj [if reports then ("error", .obj missingExport)
      else ("code", .str "export default 1;")]), ())
  request _ := fun _ => (.error (.transport "no network"), ())

/-- A page that is put together from nothing but markup. -/
def markup : Request where
  sources := .single (.text "<p>Hello</p>")

/-- Whether the linker gives a report that names no module and a page that documents it. -/
def Exchange.isDocumented (exchange : Exchange) : Bool :=
  match exchange.call, exchange.report? with
  | .link _, some report =>
    (Record.get report "id").isNull && !(Diagnostic.ofReport report .null).links.isEmpty
  | _, _ => false

/-- The linker tells of the missing export: the result is the message without the page. -/
theorem build_keeps_of_report_link :
    ∃ answer after exchange report payload files,
      (inSession.carry (build (Services.ofTools 9 (reporting true).noted) markup)
        ({}, ((), [])) : Id _) = (answer, after) ∧
      (inSession.carry (build (Services.ofTools 9 (reporting true)) markup) ({}, ()) : Id _) =
        (answer, Noted.bare after) ∧
      exchange ∈ after.2.2 ∧ exchange.report? = some report ∧ exchange.call = .link payload ∧
      let whole := Diagnostic.ofReport report .null
      whole.links ≠ [] ∧
      answer = resultOf ((whole.shownFrame (sourceOf files whole.moduleId)).map fun frame =>
        whole.pluginPart ++ whole.headline ++ whole.positionPart ++ framePart frame) := by
  rcases built : (inSession.carry (build (Services.ofTools 9 (reporting true).noted) markup)
    ({}, ((), [])) : Id _) with ⟨answer, after⟩
  have documented : (inSession.carry (build (Services.ofTools 9 (reporting true).noted) markup)
      ({}, ((), [])) : Id _).2.2.2.any Exchange.isDocumented = true := by
    decide +kernel
  rw [built] at documented
  obtain ⟨exchange, member, known⟩ := List.any_eq_true.mp documented
  unfold Exchange.isDocumented at known
  split at known
  · rename_i payload report call reported
    simp only [Bool.and_eq_true, Bool.not_eq_true', List.isEmpty_eq_false_iff] at known
    obtain ⟨unnamed, links⟩ := known
    have named : (Record.get report "id").IsTextOrNull := by
      refine .inl ?_
      cases id : Record.get report "id" <;> rw [id] at unnamed <;> cases unnamed
    obtain ⟨plain, _, _, files, _, _, linked, _⟩ := build_keeps_of_report 9 (reporting true) markup
      {} () answer after built exchange member report reported named
    exact ⟨answer, after, exchange, report, payload, files, rfl, plain, member, reported, call,
      links, (linked payload call).1⟩
  · cases known

/-- What a linker or a compiler says about where its error is documented is not in the result. -/
theorem build_loses_page_of_report :
    (formatAnswer (.obj missingExport) .null none).toOption =
      some "[resolve] MISSING_EXPORT: x is not exported\nline 1\n\nhttps://rollupjs.org/missing" ∧
    (inSession.carry (build (Services.ofTools 9 (reporting true)) markup)
      ({}, ()) : Id _).1.toOption =
        some { error := "[resolve] MISSING_EXPORT: x is not exported\nline 1" } ∧
    (inSession.carry (build (Services.ofTools 9 (reporting false)) markup)
      ({}, ()) : Id _).1.toOption =
        some { error := "MISSING_EXPORT: x is not exported\nline 1\n\n" ++
          ">   1 | <p>Hello</p>" } := by
  refine ⟨by decide +kernel, by decide +kernel, ?_⟩
  decide +kernel

end Build
end SiteBuild
