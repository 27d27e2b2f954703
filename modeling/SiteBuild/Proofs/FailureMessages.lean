import SiteBuild.Build.Run
import SiteBuild.Proofs.PageFiles

/-!
# Messages of failures

A failure is documented if the address and the module it names are texts. The message for the
author of a documented failure is never empty. There is one way only in which it is not made: a
frame points at a column so far to the right that there is no row for the pointer. Main
statements: `formatFailure_ne_nil`, `formatFailure_eq_error`, and the same for style errors, whose
frames are made before (`styleMessage_ne_nil`, `framedStyleError_eq_error`).
-/
namespace SiteBuild

/-- Whether a value is a text or null. -/
def Json.IsTextOrNull (value : Json) : Prop := value = .null ∨ ∃ text, value = .str text

/-- What is known of a build error whose address and module are as they are documented. -/
structure BuildError.Documented (error : BuildError) : Prop where
  url : error.url.IsTextOrNull
  moduleId : error.moduleId.IsTextOrNull

/-- Whether a failure is documented. -/
def Failure.Documented : Failure → Prop
  | .build error => error.Documented
  | _ => True

/-- The column that a failure tells, counted from zero. -/
def Failure.column? : Failure → Option Int
  | .build error => error.column.int?
  | _ => none

/-- Whether a column is so far to the right that there is no room for the row that points at it,
below a line with a number. -/
def TooFarRight (column : Option Int) (cause : Misuse) : Prop :=
  ∃ place number beyondAll, column = some place ∧ cause = .tooWide beyondAll ∧
    widthLimits.1 ≤ 2 + (alignedRight 3 (Text.ofNat number)).length + 3 + place

namespace Json.IsTextOrNull

theorem null : IsTextOrNull .null := .inl rfl

theorem str (text : Text) : IsTextOrNull (.str text) := .inr ⟨text, rfl⟩

theorem ofString? (text : Option Text) : IsTextOrNull (Json.ofString? text) := by
  cases text with
  | none => exact null
  | some text => exact str text

theorem orElse {value other : Json} (first : value.IsTextOrNull) (second : other.IsTextOrNull) :
    (value.orElse other).IsTextOrNull := by
  unfold Json.orElse
  split
  · exact second
  · exact first

end Json.IsTextOrNull

/-! ## Frames -/

/-- A row that points at a column is not made only if there is no room for it. -/
theorem pointerRow_eq_error {number : Nat} {place : Int} {cause : Misuse}
    (failed : pointerRow number place = .error cause) : TooFarRight (some place) cause := by
  have limits : widthLimits.1 ≤ widthLimits.2 := by decide
  unfold pointerRow at failed
  simp only at failed
  split at failed
  · cases failed
    exact ⟨place, number, true, rfl, rfl, Int.le_trans limits ‹_›⟩
  · split at failed
    · cases failed
      exact ⟨place, number, false, rfl, rfl, ‹_›⟩
    · cases failed

/-- A frame is not made only for a column that is too far to the right. -/
theorem codeFrame_eq_error {source : Text} {line : Int} {column : Option Int} {cause : Misuse}
    (failed : codeFrame source line column = .error cause) : TooFarRight column cause := by
  unfold codeFrame frameBetween at failed
  simp only at failed
  obtain ⟨row, _, here⟩ := exists_of_mapM_eq_error (map_eq_error_iff.mp failed)
  unfold frameRows at here
  split at here
  · cases here
  · cases column with
    | none => cases here
    | some place => exact pointerRow_eq_error (map_eq_error_iff.mp here)

namespace Diagnostic

variable {diagnostic : Diagnostic}

/-- The frame of a diagnostic is not made only for a column that is too far to the right, if the
source is a text. -/
theorem shownFrame_eq_error {source : Option Textual} {cause : Misuse}
    (readable : ∀ value, source ≠ some (.other value))
    (failed : diagnostic.shownFrame source = .error cause) :
    TooFarRight diagnostic.column.int? cause := by
  unfold shownFrame at failed
  simp only at failed
  split at failed
  · cases failed
  · split at failed
    · rename_i source line _
      split at failed
      · cases failed
      · cases source with
        | other value => exact absurd rfl (readable value)
        | text source => exact codeFrame_eq_error failed
    · cases failed

/-- Links that are texts make a list. -/
theorem linkList_eq_ok (known : ∀ link ∈ diagnostic.sortedLinks, ∃ text, link = .text text) :
    ∃ list, diagnostic.linkList = .ok list := by
  exact ⟨_, by rw [linkList, Key.map_toTextual known, Textual.join_texts]⟩

/-- A message is not made only for a column that is too far to the right, if the links and the
source are texts. -/
theorem format_eq_error {source : Option Textual} {cause : Misuse}
    (links : ∀ link ∈ diagnostic.sortedLinks, ∃ text, link = .text text)
    (readable : ∀ value, source ≠ some (.other value))
    (failed : diagnostic.format source = .error cause) :
    TooFarRight diagnostic.column.int? cause := by
  obtain ⟨list, listed⟩ := linkList_eq_ok links
  unfold format at failed
  rw [listed] at failed
  cases frame : diagnostic.shownFrame source with
  | error other =>
    rw [frame] at failed
    cases failed
    exact shownFrame_eq_error readable frame
  | ok frame =>
    simp only [frame] at failed
    cases failed

/-- A message has a headline. -/
theorem format_ne_nil {source : Option Textual} {message : Text}
    (made : diagnostic.format source = .ok message) : message ≠ [] := by
  unfold format at made
  cases frame : diagnostic.shownFrame source with
  | error cause =>
    rw [frame] at made
    cases made
  | ok frame =>
    cases links : diagnostic.linkList with
    | error cause =>
      rw [frame, links] at made
      cases made
    | ok links =>
      simp only [frame, links] at made
      cases made
      have colon : (": " : Text) ≠ [] := by decide
      simp [colon]

end Diagnostic

/-! ## Messages of failures -/

/-- A documented build error has one link at most, and it is a text. -/
theorem errorLinks_of_documented {error : BuildError} (documented : error.Documented) :
    Diagnostic.errorLinks error = .ok [] ∨
      ∃ text, Diagnostic.errorLinks error = .ok [.text text] := by
  unfold Diagnostic.errorLinks
  split
  · exact .inl rfl
  · rcases documented.url with unknown | ⟨url, known⟩
    · simp_all [Json.isEmpty]
    · exact .inr ⟨url, by rw [known]; rfl⟩

/-- The diagnostic of a documented failure has texts for its links, and the column of the
failure. -/
theorem ofFailure_of_documented {failure : Failure} (documented : failure.Documented)
    (id : Json) :
    ∃ diagnostic, Diagnostic.ofFailure failure id = .ok diagnostic ∧
      (∀ link ∈ diagnostic.sortedLinks, ∃ text, link = .text text) ∧
      diagnostic.column.int? = failure.column? := by
  cases failure with
  | build error =>
    rcases errorLinks_of_documented documented with links | ⟨url, links⟩
    · refine ⟨_, by rw [Diagnostic.ofFailure, Diagnostic.ofBuildError, links]; rfl, ?_, rfl⟩
      simp [Diagnostic.sortedLinks]
    · refine ⟨_, by rw [Diagnostic.ofFailure, Diagnostic.ofBuildError, links]; rfl, ?_, rfl⟩
      have only : List.eraseDupsBy Key.same [Key.text url] = [.text url] := rfl
      simp [Diagnostic.sortedLinks, only]
  | _ => exact ⟨_, rfl, by simp [Diagnostic.sortedLinks], rfl⟩

/-- The message of a documented failure is not made only for a column that is too far to the
right. -/
theorem formatFailure_eq_error {failure : Failure} {id : Json} {source : Option Textual}
    {cause : Misuse} (documented : failure.Documented)
    (readable : ∀ value, source ≠ some (.other value))
    (failed : formatFailure failure id source = .error cause) :
    TooFarRight failure.column? cause := by
  obtain ⟨diagnostic, whole, links, column⟩ := ofFailure_of_documented documented id
  rw [formatFailure, whole] at failed
  exact column ▸ Diagnostic.format_eq_error links readable failed

/-- The message of a failure is not empty. -/
theorem formatFailure_ne_nil {failure : Failure} {id : Json} {source : Option Textual}
    {message : Text} (made : formatFailure failure id source = .ok message) : message ≠ [] := by
  rw [formatFailure] at made
  cases whole : Diagnostic.ofFailure failure id with
  | error cause =>
    rw [whole] at made
    cases made
  | ok diagnostic =>
    rw [whole] at made
    exact Diagnostic.format_ne_nil made

namespace Build

/-- Where all files are texts, the source that belongs to a failure is a text. -/
theorem sourceOf_ne_other {files : Page.Files}
    (texts : ∀ file ∈ files, ∃ text, file.2 = .text text) (id value : Json) :
    sourceOf files id ≠ some (.other value) := by
  unfold sourceOf
  split
  · simp
  · split
    · simp
    · intro found
      obtain ⟨text, content⟩ := texts _ (Page.Files.mem_of_find? found)
      cases content

/-- The module of a documented failure can be looked up. -/
theorem isNoKey_of_documented {failure : Failure} (documented : failure.Documented) :
    isNoKey failure.moduleId = false := by
  cases failure with
  | build error =>
    rcases documented.moduleId with unknown | ⟨id, known⟩
    · simp [Failure.moduleId, unknown, isNoKey]
    · simp [Failure.moduleId, known, isNoKey]
  | _ => rfl

/-- The result of a bundle that failed in a documented way is made of its message. -/
theorem failedResult_of_documented {failure : Failure} (documented : failure.Documented)
    (files : Page.Files) :
    failedResult files failure =
      match formatFailure failure failure.moduleId (sourceOf files failure.moduleId) with
      | .ok message => .ok { error := message }
      | .error cause => .error (.misuse cause) := by
  simp only [failedResult, isNoKey_of_documented documented]
  rfl

/-! ## Messages of style errors -/

/-- A style error of a sheet that is a text stays as it is, or gets a frame. -/
theorem framedStyleError_text (css : Text) (error : BuildError) :
    framedStyleError (.text css) error = .ok error ∨
      ∃ line, framedStyleError (.text css) error =
        (codeFrame css line (error.column.int?.map (· - 1))).map fun frame =>
          { error with frame := .str frame } := by
  unfold framedStyleError
  split
  · rename_i line _ _
    refine .inr ⟨line, ?_⟩
    simp only [Key.toTextual, Key.toJson, Textual.exactly, Textual.asText, bind, Except.bind]
    cases codeFrame css line (error.column.int?.map (· - 1)) <;> rfl
  · exact .inl rfl

/-- The frame of a style error is not made only for a column that is too far to the right; it
counts from one there. -/
theorem framedStyleError_eq_error {css : Text} {error : BuildError} {cause : Misuse}
    (failed : framedStyleError (.text css) error = .error cause) :
    TooFarRight (error.column.int?.map (· - 1)) cause := by
  rcases framedStyleError_text css error with same | ⟨line, framed⟩
  · cases same.symm.trans failed
  · exact codeFrame_eq_error (map_eq_error_iff.mp (framed.symm.trans failed))

/-- A frame changes nothing but the frame. -/
theorem kind_of_framedStyleError {css : Text} {error framed : BuildError}
    (done : framedStyleError (.text css) error = .ok framed) : framed.kind = error.kind := by
  rcases framedStyleError_text css error with same | ⟨line, made⟩
  · cases same.symm.trans done
    rfl
  · rw [made] at done
    cases frame : codeFrame css line (error.column.int?.map (· - 1)) with
    | error cause =>
      rw [frame] at done
      cases done
    | ok frame =>
      rw [frame] at done
      cases done
      rfl

/-- The message of a style error is not empty. -/
theorem styleMessage_ne_nil {error : BuildError} (style : error.kind = .style) :
    styleMessage error ≠ [] := by
  have told : error.text ≠ [] := by
    have label : ("CSS Error: " : Text) ≠ [] := by decide
    simp [BuildError.text, style, label]
  unfold styleMessage
  split
  · exact told
  · simp [told]

end Build
end SiteBuild
