import Mathlib.Data.List.TakeWhile
import SiteBuild.Proofs.FrameRows
import SiteBuild.Proofs.Resolution

/-!
# Origins

What makes a text an address is its authority: everything else of it is cut off without a check
(`split_eq`), so only an importing module with a wrong authority keeps a specifier from being
resolved (`resolve_eq_error_iff`). A path that is joined to an absolute address has no dot segments
left and does not look like an authority (`hasSegments_resolvePath`), so the parts of the joined
address are read off it again, and what a module imports by a path stays on the server of the
module. Main statement: `resolve_stays_at_origin`.
-/
namespace SiteBuild

namespace Text

/-- What stands before a mark is of the text and is not the mark. -/
theorem mem_of_mem_before {mark point : CodePoint} {text : Text}
    (member : point ∈ before mark text) : point ∈ text ∧ point ≠ mark :=
  ⟨List.takeWhile_subset _ member,
    by simpa using List.all_eq_true.mp List.all_takeWhile point member⟩

/-- A text without a mark is all before it. -/
theorem before_of_not_mem {mark : CodePoint} {text : Text} (apart : mark ∉ text) :
    before mark text = text :=
  List.takeWhile_eq_self_iff.mpr (points_ne apart)

/-- The points of a part of a cut text are points of the text. -/
theorem subset_of_mem_splitAt {mark : CodePoint} {text part : Text}
    (member : part ∈ splitAt mark text) : part ⊆ text := by
  induction text generalizing part with
  | nil => simp_all [splitAt]
  | cons point rest tail =>
    rw [splitAt] at member
    split at member
    · rcases List.mem_cons.mp member with rfl | behind
      · simp
      · exact List.subset_cons_of_subset _ (tail behind)
    · split at member
      · cases List.mem_singleton.mp member
        simp
      · rename_i first parts cut
        rw [cut] at tail
        rcases List.mem_cons.mp member with rfl | behind
        · exact List.cons_subset_cons _ (tail List.mem_cons_self)
        · exact List.subset_cons_of_subset _ (tail (List.mem_cons_of_mem _ behind))

end Text

namespace Url

/-! ## Parts of an address -/

/-- The characters that are left out of an address wherever they stand. -/
def breaks : Text := ['\t', '\n', '\r']

/-- The authority of an address. -/
def authorityOf (text : Text) : Text := (splitAuthority (splitScheme (cleaned text)).2).1

/-- The path of an address, the parameters of its last segment included. -/
def pathOf (text : Text) : Text :=
  Text.before '?' (Text.before '#' (splitAuthority (splitScheme (cleaned text)).2).2)

/-- Check whether an authority may stand in an address. -/
def checkAuthority (authority : Text) : Except UrlError Unit := do
  checkBrackets authority
  checkMarks authority

/-- The parts of an address, whether or not its authority may stand there. -/
def partsOf (scheme text : Text) : Url :=
  let (own, behindScheme) := splitScheme (cleaned text)
  let behindAuthority := (splitAuthority behindScheme).2
  let scheme := own.getD scheme
  let (path, parameters) :=
    if parameterSchemes.contains scheme then splitParameters (pathOf text) else (pathOf text, [])
  { scheme, authority := authorityOf text, path, parameters
    query := Text.behind '?' (Text.before '#' behindAuthority)
    fragment := Text.behind '#' behindAuthority }

/-- An address is split into its parts if its authority may stand there. -/
theorem split_eq (scheme text : Text) :
    split scheme text = (checkAuthority (authorityOf text)).map fun _ => partsOf scheme text := by
  simp only [split, checkAuthority, authorityOf, partsOf, pathOf, bind, Except.bind, pure,
    Except.pure]
  cases checkBrackets (splitAuthority (splitScheme (cleaned text)).2).1 with
  | error error => rfl
  | ok checked => cases checkMarks (splitAuthority (splitScheme (cleaned text)).2).1 <;> rfl

/-- An absolute address opens with one of their schemes. -/
theorem exists_of_isRemote {text : Text} (remote : isRemote text = true) :
    ∃ scheme ∈ remoteSchemes, ∃ rest : Text, text = scheme ++ "://" ++ rest := by
  rcases Bool.or_eq_true_iff.mp remote with plain | secure
  · obtain ⟨rest, rfl⟩ := List.isPrefixOf_iff_prefix.mp plain
    exact ⟨"http", by simp [remoteSchemes], rest, rfl⟩
  · obtain ⟨rest, rfl⟩ := List.isPrefixOf_iff_prefix.mp secure
    exact ⟨"https", by simp [remoteSchemes], rest, rfl⟩

section Absolute

variable {scheme : Text}

/-- An absolute address is cut behind its scheme. -/
theorem splitScheme_remote (remote : scheme ∈ remoteSchemes) (rest : Text) :
    splitScheme (cleaned (scheme ++ "://" ++ rest)) =
      (some scheme, "//" ++ Text.without breaks rest) := by
  simp only [remoteSchemes, List.mem_cons, List.not_mem_nil, or_false] at remote
  rcases remote with rfl | rfl <;> rfl

/-- The authority of an absolute address goes on to its path, its query or its fragment. -/
theorem authorityOf_remote (remote : scheme ∈ remoteSchemes) (rest : Text) :
    authorityOf (scheme ++ "://" ++ rest) =
      (Text.without breaks rest).takeWhile (!endsAuthority ·) := by
  rw [authorityOf, splitScheme_remote remote]
  rfl

/-- The path of an absolute address stands behind its authority. -/
theorem pathOf_remote (remote : scheme ∈ remoteSchemes) (rest : Text) :
    pathOf (scheme ++ "://" ++ rest) = Text.before '?' (Text.before '#'
      ((Text.without breaks rest).dropWhile (!endsAuthority ·))) := by
  rw [pathOf, splitScheme_remote remote]
  rfl

/-- The path of an absolute address is empty or begins with a slash. -/
theorem pathOf_rooted (remote : scheme ∈ remoteSchemes) (rest : Text) :
    pathOf (scheme ++ "://" ++ rest) = [] ∨
      ∃ more, pathOf (scheme ++ "://" ++ rest) = .scalar '/' :: more := by
  rw [pathOf_remote remote]
  cases cut : (Text.without breaks rest).dropWhile (!endsAuthority ·) with
  | nil => exact .inl rfl
  | cons point more =>
    have ends := List.head?_dropWhile_not (!endsAuthority ·) (Text.without breaks rest)
    rw [cut] at ends
    have ends : endsAuthority point = true := by simpa using ends
    simp only [endsAuthority, Bool.or_eq_true, beq_iff_eq] at ends
    rcases ends with (rfl | rfl) | rfl
    · exact .inr ⟨_, rfl⟩
    · exact .inl rfl
    · exact .inl rfl

/-- Whether a text can be the authority of an address. -/
def IsAuthority (authority : Text) : Prop :=
  ∀ point ∈ authority, endsAuthority point = false ∧ point ∉ breaks

/-- The authority of an absolute address is one. -/
theorem isAuthority_authorityOf (remote : scheme ∈ remoteSchemes) (rest : Text) :
    IsAuthority (authorityOf (scheme ++ "://" ++ rest)) := by
  rw [authorityOf_remote remote]
  intro point member
  have kept := List.takeWhile_subset _ member
  exact ⟨by simpa using List.all_eq_true.mp List.all_takeWhile point member,
    by simpa using (List.mem_filter.mp kept).2⟩

/-- An authority is left as it is when an address is cleaned. -/
theorem IsAuthority.without_append {authority : Text} (plain : IsAuthority authority)
    (rest : Text) : Text.without breaks (authority ++ rest) =
      authority ++ Text.without breaks rest := by
  rw [Text.without, List.filter_append]
  congr 1
  exact List.filter_eq_self.mpr fun point member => by simpa using (plain point member).2

/-- An authority in front of a path is read off an address again. -/
theorem authorityOf_append (remote : scheme ∈ remoteSchemes) {authority : Text}
    (plain : IsAuthority authority) (rest : Text) :
    authorityOf (scheme ++ "://" ++ (authority ++ .scalar '/' :: rest)) = authority := by
  rw [authorityOf_remote remote, plain.without_append, List.takeWhile_append_of_pos
    fun point member => by simp [(plain point member).1]]
  have stops : (Text.without breaks (.scalar '/' :: rest)).takeWhile (!endsAuthority ·) = [] := rfl
  rw [stops, List.append_nil]

/-- The marks that end a path, and what is left out of it. -/
def pathEnds : Text := "?#\t\n\r"

/-- A path in front of a query or a fragment is read off an address again. -/
theorem pathOf_append (remote : scheme ∈ remoteSchemes) {authority : Text}
    (plain : IsAuthority authority) {path : Text}
    (inside : ∀ point ∈ path, point ∉ pathEnds) (rooted : ∃ more, path = .scalar '/' :: more)
    (query fragment : Text) :
    pathOf (scheme ++ "://" ++ (authority ++ path ++ (marked '?' query ++ marked '#' fragment))) =
      path := by
  obtain ⟨more, slash⟩ := rooted
  have clean : Text.without breaks path = path := List.filter_eq_self.mpr fun point member => by
    have := inside point member
    simp_all [pathEnds, breaks, Text.ofString, Text.ofChars]
  rw [pathOf_remote remote, List.append_assoc, plain.without_append,
    List.dropWhile_append_of_pos fun point member => by simp [(plain point member).1]]
  have behind : (Text.without breaks (path ++ (marked '?' query ++ marked '#' fragment))).dropWhile
      (!endsAuthority ·) =
        path ++ Text.without breaks (marked '?' query ++ marked '#' fragment) := by
    rw [Text.without, List.filter_append, ← Text.without, clean, slash]
    rfl
  have noFragment : .scalar '#' ∉ path := fun member => inside _ member (by decide)
  have noQuery : .scalar '?' ∉ path := fun member => inside _ member (by decide)
  rw [behind]
  cases query with
  | nil =>
    cases fragment with
    | nil =>
      have none : Text.without breaks (marked '?' [] ++ marked '#' []) = [] := rfl
      rw [none, List.append_nil, Text.before_of_not_mem noFragment, Text.before_of_not_mem noQuery]
    | cons point rest =>
      have opens : Text.without breaks (marked '?' [] ++ marked '#' (point :: rest)) =
          .scalar '#' :: Text.without breaks (point :: rest) := rfl
      rw [opens, Text.before_append noFragment, Text.before_of_not_mem noQuery]
  | cons point rest =>
    have opens : Text.without breaks (marked '?' (point :: rest) ++ marked '#' fragment) =
        .scalar '?' :: Text.without breaks (point :: rest ++ marked '#' fragment) := rfl
    have fragmentOff : Text.before '#' (path ++ .scalar '?' :: Text.without breaks
        (point :: rest ++ marked '#' fragment)) = path ++ .scalar '?' :: Text.before '#'
          (Text.without breaks (point :: rest ++ marked '#' fragment)) := by
      rw [Text.before, List.takeWhile_append_of_pos (Text.points_ne noFragment)]
      rfl
    rw [opens, fragmentOff, Text.before_append noQuery]

end Absolute

/-! ## Paths -/

/-- The path of segments, a slash before each. -/
def pathOfSegments (segments : List Text) : Text := segments.flatMap (.scalar '/' :: ·)

/-- A path is cut into its segments again. -/
theorem splitAt_pathOfSegments {segments : List Text}
    (solid : ∀ segment ∈ segments, .scalar '/' ∉ segment) :
    Text.splitAt (.scalar '/') (pathOfSegments segments) = [] :: segments := by
  induction segments with
  | nil => rfl
  | cons segment rest tail =>
    obtain ⟨first, others⟩ := List.forall_mem_cons.mp solid
    have behind := tail others
    have opens : pathOfSegments (segment :: rest) =
        [] ++ .scalar '/' :: (segment ++ pathOfSegments rest) := rfl
    rw [opens, Text.splitAt_append List.not_mem_nil]
    cases rest with
    | nil => simp [pathOfSegments, Text.splitAt_of_not_mem first]
    | cons next more =>
      have goesOn : pathOfSegments (next :: more) =
          [] ++ .scalar '/' :: (next ++ pathOfSegments more) := rfl
      rw [goesOn, Text.splitAt_append List.not_mem_nil] at behind
      rw [goesOn, List.nil_append, Text.splitAt_append first, (List.cons.inj behind).2]

/-- Segments with slashes between them are a path without its first slash. -/
theorem cons_join {segments : List Text} (some : segments ≠ []) :
    .scalar '/' :: Text.join "/" segments = pathOfSegments segments := by
  induction segments with
  | nil => contradiction
  | cons segment rest tail =>
    cases rest with
    | nil => simp [Text.join, List.intercalate, pathOfSegments]
    | cons next more =>
      have slash : Text.ofString "/" = [.scalar '/'] := rfl
      have behind := tail (by simp)
      simp only [Text.join, List.intercalate, slash] at behind ⊢
      rw [List.intersperse_cons_cons, List.flatten_cons, List.flatten_cons]
      exact congrArg (fun path : Text => .scalar '/' :: (segment ++ path)) behind

/-- What follows a path goes to its last segment. -/
theorem pathOfSegments_append (front : List Text) (last rest : Text) :
    pathOfSegments (front ++ [last]) ++ rest = pathOfSegments (front ++ [last ++ rest]) := by
  simp [pathOfSegments]

/-- Whether a segment leads to another directory or to the same one. -/
def isDots (segment : Text) : Bool := segment == "." || segment == ".."

/-- Dots are resolved from the front on. -/
theorem resolveDots_append (kept front behind : List Text) :
    resolveDots kept (front ++ behind) = resolveDots (resolveDots kept front).reverse behind := by
  fun_induction resolveDots kept front with
  | case1 kept => simp
  | case2 kept rest ih => simpa [resolveDots] using ih
  | case3 kept rest ih => simpa [resolveDots] using ih
  | case4 kept segment rest up same ih =>
    rw [List.cons_append, resolveDots, ih] <;> assumption

/-- Segments are left out when dots are resolved, and none comes in. -/
theorem resolveDots_sublist (kept segments : List Text) :
    (resolveDots kept segments).Sublist (kept.reverse ++ segments) := by
  fun_induction resolveDots kept segments with
  | case1 kept => simp
  | case2 kept rest ih =>
    refine ih.trans (List.Sublist.append ?_ (List.sublist_cons_self _ _))
    exact (List.drop_sublist 1 kept).reverse
  | case3 kept rest ih => exact ih.trans ((List.sublist_cons_self _ _).append_left _)
  | case4 kept segment rest up same ih => simpa using ih

/-- A last segment of dots is left out. -/
theorem resolveDots_isDots_sublist {last : Text} (dots : isDots last = true)
    (front : List Text) : (resolveDots [] (front ++ [last])).Sublist front := by
  have sublist := resolveDots_sublist [] front
  rw [resolveDots_append]
  simp only [isDots, Bool.or_eq_true, beq_iff_eq] at dots
  rcases dots with rfl | rfl
  · have here (kept : List Text) : resolveDots kept [("." : Text)] = kept.reverse := rfl
    rw [here, List.reverse_reverse]
    exact sublist
  · refine List.Sublist.trans ?_ sublist
    have up (kept : List Text) : resolveDots kept [(".." : Text)] = (kept.drop 1).reverse := rfl
    rw [up]
    simpa using (List.drop_sublist 1 (resolveDots [] front).reverse).reverse

/-- No segment of dots is left when dots are resolved. -/
theorem isDots_of_mem_resolveDots {kept segments : List Text} {segment : Text}
    (member : segment ∈ resolveDots kept segments) : segment ∈ kept ∨ isDots segment = false := by
  fun_induction resolveDots kept segments with
  | case1 kept => exact .inl (List.mem_reverse.mp member)
  | case2 kept rest ih => exact (ih member).imp (List.mem_of_mem_drop) id
  | case3 kept rest ih => exact ih member
  | case4 kept first rest up same ih =>
    rcases ih member with here | known
    · rcases List.mem_cons.mp here with rfl | before
      · refine .inr ?_
        simp only [isDots, Bool.or_eq_false_iff, beq_eq_false_iff_ne]
        exact ⟨same, up⟩
      · exact .inl before
    · exact .inr known

/-- Merged segments are those of the base and of the path. -/
theorem mem_of_mem_mergeSegments {base path segment : Text}
    (member : segment ∈ mergeSegments base path) :
    segment ∈ Text.splitAt (.scalar '/') base ∨ segment ∈ Text.splitAt (.scalar '/') path := by
  unfold mergeSegments at member
  split at member
  · exact .inr member
  · have directory {point : Text} (among : point ∈ (if (Text.splitAt (.scalar '/') base).getLastD []
        == [] then Text.splitAt (.scalar '/') base
        else (Text.splitAt (.scalar '/') base).dropLast) ++ Text.splitAt (.scalar '/') path) :
        point ∈ Text.splitAt (.scalar '/') base ∨ point ∈ Text.splitAt (.scalar '/') path := by
      refine (List.mem_append.mp among).imp (fun here => ?_) id
      split at here
      · exact here
      · exact List.dropLast_subset _ here
    rcases List.mem_append.mp member with front | last
    · rcases List.mem_append.mp front with first | inner
      · exact directory (List.mem_of_mem_take first)
      · have inner := List.dropLast_subset _ (List.mem_filter.mp inner).1
        exact directory (List.mem_of_mem_drop inner)
    · have last := List.mem_of_getLast? (Option.mem_toList.mp last)
      exact directory (List.mem_of_mem_drop last)

/-- A relative path merged with one that begins with a slash, or with none, begins with an empty
segment, and no other but the last one is empty. -/
theorem exists_mergeSegments {base path : Text}
    (rooted : base = [] ∨ ∃ more, base = .scalar '/' :: more)
    (relative : Text.startsWith "/" path = false) :
    ∃ inner last, mergeSegments base path = [] :: (inner ++ [last]) ∧
      ∀ segment ∈ inner, segment ≠ [] := by
  obtain ⟨more, directory⟩ : ∃ more,
      (if (Text.splitAt (.scalar '/') base).getLastD [] == [] then Text.splitAt (.scalar '/') base
        else (Text.splitAt (.scalar '/') base).dropLast) = [] :: more := by
    rcases rooted with rfl | ⟨rest, rfl⟩
    · exact ⟨[], rfl⟩
    · have cut : Text.splitAt (.scalar '/') (.scalar '/' :: rest) =
          [] :: Text.splitAt (.scalar '/') rest := by simp [Text.splitAt]
      obtain ⟨part, parts, known⟩ :=
        List.exists_cons_of_ne_nil (Text.splitAt_ne_nil (.scalar '/') rest)
      rw [cut, known]
      split
      · exact ⟨_, rfl⟩
      · exact ⟨_, rfl⟩
  have behind : more ++ Text.splitAt (.scalar '/') path ≠ [] := by
    simpa using fun _ => Text.splitAt_ne_nil (.scalar '/') path
  refine ⟨(more ++ Text.splitAt (.scalar '/') path).dropLast.filter (!·.isEmpty),
    (more ++ Text.splitAt (.scalar '/') path).getLast behind, ?_, ?_⟩
  · simp only [mergeSegments, relative, Bool.false_eq_true, ↓reduceIte, directory,
      List.cons_append, List.take_succ_cons, List.take_zero, List.drop_succ_cons, List.drop_zero,
      List.getLast?_eq_some_getLast behind, Option.toList_some, List.nil_append]
  · intro segment member
    simpa using (List.mem_filter.mp member).2

/-! ## Joined paths -/

/-- The segments of a path that is resolved against a base. -/
def closedSegments (base path : Text) : List Text :=
  let segments := mergeSegments base path
  let kept := resolveDots [] segments
  if isDots (segments.getLastD []) then kept ++ [[]] else kept

/-- A resolved path is its segments, or the root. -/
theorem resolvePath_eq (base path : Text) : resolvePath base path =
    if (Text.join "/" (closedSegments base path)).isEmpty then [.scalar '/']
    else Text.join "/" (closedSegments base path) := rfl

/-- The segments of a resolved path are segments of the base or of the path, or empty, and none is
made of dots. -/
theorem mem_closedSegments {base path segment : Text}
    (member : segment ∈ closedSegments base path) :
    isDots segment = false ∧ (segment = [] ∨ segment ∈ Text.splitAt (.scalar '/') base ∨
      segment ∈ Text.splitAt (.scalar '/') path) := by
  have kept {segment : Text} (member : segment ∈ resolveDots [] (mergeSegments base path)) :
      isDots segment = false ∧ (segment = [] ∨ segment ∈ Text.splitAt (.scalar '/') base ∨
        segment ∈ Text.splitAt (.scalar '/') path) := by
    refine ⟨(isDots_of_mem_resolveDots member).resolve_left List.not_mem_nil, .inr ?_⟩
    exact mem_of_mem_mergeSegments ((resolveDots_sublist [] _).subset member)
  simp only [closedSegments] at member
  split at member
  · rcases List.mem_append.mp member with before | closing
    · exact kept before
    · cases List.mem_singleton.mp closing
      exact ⟨rfl, .inl rfl⟩
  · exact kept member

/-- The first two segments of a resolved path are not both empty unless they are all. -/
theorem closedSegments_ne {base path : Text}
    (rooted : base = [] ∨ ∃ more, base = .scalar '/' :: more)
    (relative : Text.startsWith "/" path = false) (third : Text) (more : List Text) :
    closedSegments base path ≠ [] :: [] :: third :: more := by
  obtain ⟨inner, last, merged, full⟩ := exists_mergeSegments rooted relative
  -- Nothing but the first segment and the one that closes the path can be empty.
  have sublist : ∃ closing, (closedSegments base path).Sublist ([] :: (inner ++ [closing])) := by
    have whole := resolveDots_sublist [] ([] :: (inner ++ [last]))
    have final : ([] :: (inner ++ [last])).getLastD [] = last := by
      rw [← List.cons_append, List.getLastD_concat]
    simp only [closedSegments, merged, final]
    split
    · rename_i dots
      refine ⟨[], ?_⟩
      rw [← List.cons_append, ← List.cons_append]
      exact (resolveDots_isDots_sublist dots ([] :: inner)).append_right [[]]
    · exact ⟨last, whole⟩
  obtain ⟨closing, sublist⟩ := sublist
  intro same
  rw [same] at sublist
  obtain ⟨front, rest, split, before, after⟩ :=
    List.sublist_append_iff.mp (List.cons_sublist_cons.mp sublist)
  cases front with
  | nil =>
    rw [List.nil_append] at split
    rw [← split] at after
    simpa using after.length_le
  | cons segment front =>
    cases (List.cons.inj split).1
    exact full [] (before.subset List.mem_cons_self) rfl

/-- Whether a text can be a segment of a path that holds no dot segments. -/
structure IsSegment (segment : Text) : Prop where
  plain : isDots segment = false
  flat : .scalar '/' ∉ segment
  inside : ∀ point ∈ segment, point ∉ pathEnds

/-- What follows a segment as parameters belongs to it. -/
theorem IsSegment.append_marked {segment parameters : Text} (solid : IsSegment segment)
    (flat : .scalar '/' ∉ parameters) (inside : ∀ point ∈ parameters, point ∉ pathEnds) :
    IsSegment (segment ++ marked ';' parameters) := by
  cases parameters with
  | nil => simpa [marked] using solid
  | cons point rest =>
    have written : marked ';' (point :: rest) = .scalar ';' :: point :: rest := rfl
    have semicolon : .scalar ';' ∈ segment ++ marked ';' (point :: rest) := by simp [written]
    refine ⟨?_, ?_, ?_⟩
    · have apart (dots : Text) (none : .scalar ';' ∉ dots) :
          segment ++ marked ';' (point :: rest) ≠ dots := fun same => none (same ▸ semicolon)
      simpa [isDots] using ⟨apart "." (by decide), apart ".." (by decide)⟩
    · simpa [written, solid.flat] using flat
    · rw [written]
      refine List.forall_mem_append.mpr ⟨solid.inside, List.forall_mem_cons.mpr ⟨by decide, inside⟩⟩

/-- The segments of a resolved path are segments. -/
theorem isSegment_of_mem_closedSegments {base path segment : Text}
    (clean : ∀ point ∈ base ++ path, point ∉ pathEnds)
    (member : segment ∈ closedSegments base path) : IsSegment segment := by
  obtain ⟨plain, rfl | cut⟩ := mem_closedSegments member
  · exact ⟨rfl, List.not_mem_nil, nofun⟩
  · obtain ⟨whole, known, part⟩ : ∃ whole, (∀ point ∈ whole, point ∉ pathEnds) ∧
        segment ∈ Text.splitAt (.scalar '/') whole := by
      obtain ⟨first, second⟩ := List.forall_mem_append.mp clean
      exact cut.elim (fun here => ⟨base, first, here⟩) fun here => ⟨path, second, here⟩
    exact ⟨plain, Text.not_mem_of_mem_splitAt part,
      fun point inside => known point (Text.subset_of_mem_splitAt part inside)⟩

/-- A path with a slash in front of it. -/
def rootedPath (path : Text) : Text :=
  if path.isEmpty || Text.startsWith "/" path then path else "/" ++ path

/-- A path of segments begins with a slash. -/
theorem exists_pathOfSegments_cons {segments : List Text} (some : segments ≠ []) :
    ∃ more, pathOfSegments segments = .scalar '/' :: more := by
  cases segments with
  | nil => contradiction
  | cons segment rest => exact ⟨_, rfl⟩

/-- A path of segments holds nothing that ends it. -/
theorem inside_pathOfSegments {segments : List Text}
    (solid : ∀ segment ∈ segments, IsSegment segment) :
    ∀ point ∈ pathOfSegments segments, point ∉ pathEnds := by
  intro point member
  obtain ⟨segment, known, here⟩ := List.mem_flatMap.mp member
  rcases List.mem_cons.mp here with rfl | inside
  · decide
  · exact (solid segment known).inside point inside

/-- Whether a path and what follows it begin with one slash, at least when that is put in front of
them, and are the path of segments. -/
def HasSegments (path rest : Text) : Prop :=
  Text.startsWith "//" (path ++ rest) = false ∧
    ∃ front last, (∀ segment ∈ front ++ [last], IsSegment segment) ∧
      rootedPath (path ++ rest) = pathOfSegments (front ++ [last]) ++ rest

/-- The root has one segment, the empty one. -/
theorem hasSegments_root {rest : Text} (apart : Text.startsWith "/" rest = false) :
    HasSegments [.scalar '/'] rest := by
  have solid : IsSegment [] := ⟨rfl, List.not_mem_nil, nofun⟩
  exact ⟨apart, [], [], List.forall_mem_singleton.mpr solid, rfl⟩

/-- What begins with another character does not begin with a slash. -/
theorem startsWith_cons_of_ne {mark point : CodePoint} (away : mark ≠ point) (marks text : Text) :
    Text.startsWith (mark :: marks) (point :: text) = false := by
  simp [Text.startsWith, List.isPrefixOf, away]

/-- Segments of which the first is not empty are put in front of a slash. -/
theorem hasSegments_join {point : CodePoint} {points : Text} {more : List Text}
    (solid : ∀ segment ∈ (point :: points) :: more, IsSegment segment) (rest : Text) :
    HasSegments (Text.join "/" ((point :: points) :: more)) rest := by
  have away : .scalar '/' ≠ point := fun same =>
    (solid _ List.mem_cons_self).flat (same ▸ List.mem_cons_self)
  obtain ⟨others, opens⟩ : ∃ others,
      Text.join "/" ((point :: points) :: more) = point :: others := by
    cases more <;> exact ⟨_, rfl⟩
  obtain ⟨front, last, split⟩ : ∃ front last, (point :: points) :: more = front ++ [last] :=
    ⟨_, _, (List.dropLast_concat_getLast (List.cons_ne_nil _ more)).symm⟩
  have unrooted : Text.startsWith "/" (point :: others ++ rest) = false :=
    startsWith_cons_of_ne away _ _
  refine ⟨opens ▸ startsWith_cons_of_ne away _ _, front, last, split ▸ solid, ?_⟩
  rw [← split, ← cons_join (List.cons_ne_nil _ _), opens, rootedPath, unrooted]
  rfl

/-- Segments with slashes in front of them are a path, unless the first one is empty and others
follow it. -/
theorem hasSegments_pathOfSegments {next : Text} {more : List Text}
    (solid : ∀ segment ∈ next :: more, IsSegment segment) (single : next = [] → more = [])
    {rest : Text} (apart : Text.startsWith "/" rest = false) :
    HasSegments (pathOfSegments (next :: more)) rest := by
  obtain ⟨front, last, split⟩ : ∃ front last, next :: more = front ++ [last] :=
    ⟨_, _, (List.dropLast_concat_getLast (List.cons_ne_nil next more)).symm⟩
  refine ⟨?_, front, last, split ▸ solid, split ▸ rfl⟩
  cases next with
  | nil =>
    rw [single rfl]
    exact apart
  | cons point points =>
    have away : .scalar '/' ≠ point := fun same =>
      (solid _ List.mem_cons_self).flat (same ▸ List.mem_cons_self)
    exact startsWith_cons_of_ne away [] _

/-- A resolved path is made of the segments that are left. -/
theorem hasSegments_resolvePath {base path : Text}
    (rooted : base = [] ∨ ∃ more, base = .scalar '/' :: more)
    (relative : Text.startsWith "/" path = false)
    (clean : ∀ point ∈ base ++ path, point ∉ pathEnds)
    {rest : Text} (apart : Text.startsWith "/" rest = false) :
    HasSegments (resolvePath base path) rest := by
  have solid (segment : Text) (member : segment ∈ closedSegments base path) : IsSegment segment :=
    isSegment_of_mem_closedSegments clean member
  rw [resolvePath_eq]
  cases closed : closedSegments base path with
  | nil => exact hasSegments_root apart
  | cons segment more =>
    rw [closed] at solid
    cases segment with
    | cons point points =>
      have some : (Text.join "/" ((point :: points) :: more)).isEmpty = false := by
        cases more <;> rfl
      rw [some]
      exact hasSegments_join solid rest
    | nil =>
      cases more with
      | nil => exact hasSegments_root apart
      | cons next more =>
        have whole : Text.join "/" ([] :: next :: more) = pathOfSegments (next :: more) :=
          cons_join (List.cons_ne_nil next more)
        rw [whole]
        refine hasSegments_pathOfSegments (List.forall_mem_cons.mp solid).2 ?_ apart
        rintro rfl
        cases more with
        | nil => rfl
        | cons third others => exact absurd closed (closedSegments_ne rooted relative third others)

/-! ## Joined addresses -/

/-- A path is cut in front of its last segment, and that at its first semicolon. -/
theorem splitParameters_eq (path : Text) : ∃ directory segment, path = directory ++ segment ∧
    .scalar '/' ∉ segment ∧
    splitParameters path = (directory ++ Text.before ';' segment, Text.behind ';' segment) := by
  have whole : path = (Text.startingAt '/' path.reverse).reverse ++ Text.behindLast '/' path := by
    rw [Text.behindLast, ← List.reverse_append, Text.before, Text.startingAt,
      List.takeWhile_append_dropWhile, List.reverse_reverse]
  refine ⟨_, _, whole, ?_, ?_⟩
  · intro member
    exact (Text.mem_of_mem_before (List.mem_reverse.mp member)).2 rfl
  · have directory : path.take (path.length - (Text.behindLast '/' path).length) =
        (Text.startingAt '/' path.reverse).reverse := by
      have cut : ((Text.startingAt '/' path.reverse).reverse ++ Text.behindLast '/' path).take
          (Text.startingAt '/' path.reverse).reverse.length = _ := List.take_left
      rw [← whole] at cut
      have length := congrArg List.length whole
      rw [List.length_append] at length
      rw [← cut]
      congr 1
      omega
    rw [splitParameters, directory]

/-- A path and its parameters are of the path, and there is no slash in the parameters. -/
theorem splitParameters_subset (path : Text) : (splitParameters path).1 ⊆ path ∧
    (splitParameters path).2 ⊆ path ∧ .scalar '/' ∉ (splitParameters path).2 := by
  obtain ⟨directory, segment, whole, flat, split⟩ := splitParameters_eq path
  have behind : Text.behind ';' segment ⊆ segment := fun point member =>
    List.dropWhile_subset _ (List.mem_of_mem_drop member)
  rw [split, whole]
  refine ⟨?_, fun point member => List.mem_append_right _ (behind member),
    fun member => flat (behind member)⟩
  exact List.append_subset.mpr ⟨List.subset_append_left _ _,
    fun point member => List.mem_append_right _ (Text.mem_of_mem_before member).1⟩

/-- The first character of a path stays the first one. -/
theorem splitParameters_cons {point : CodePoint} (other : point ≠ .scalar ';') (more : Text) :
    ∃ rest, (splitParameters (point :: more)).1 = point :: rest := by
  obtain ⟨directory, segment, whole, -, split⟩ := splitParameters_eq (point :: more)
  rw [split]
  cases directory with
  | nil =>
    rw [List.nil_append] at whole
    refine ⟨Text.before ';' more, ?_⟩
    rw [← whole, Text.before, List.nil_append, List.takeWhile_cons, if_pos (by simpa using other)]
    rfl
  | cons first rest =>
    cases (List.cons.inj whole).1
    exact ⟨_, rfl⟩

/-- What is left of an address when it is cleaned holds no breaks. -/
theorem not_mem_cleaned {point : CodePoint} {text : Text} (member : point ∈ cleaned text) :
    point ∉ breaks := by
  simpa [breaks] using (List.mem_filter.mp member).2

/-- What follows the scheme and the authority of an address is of the address. -/
theorem behindAuthority_subset (text : Text) :
    (splitAuthority (splitScheme text).2).2 ⊆ text := by
  have behindScheme : (splitScheme text).2 ⊆ text := by
    simp only [splitScheme]
    split
    · exact List.drop_subset _ _
    · exact List.Subset.refl _
  refine List.Subset.trans ?_ behindScheme
  unfold splitAuthority
  split
  · rename_i rest slashes
    rw [slashes]
    exact fun point member => List.mem_cons_of_mem _
      (List.mem_cons_of_mem _ (List.dropWhile_subset _ member))
  · exact List.Subset.refl _

/-- A path holds nothing that ends it. -/
theorem not_mem_pathEnds {point : CodePoint} {text : Text} (member : point ∈ pathOf text) :
    point ∉ pathEnds := by
  obtain ⟨before, question⟩ := Text.mem_of_mem_before member
  obtain ⟨known, number⟩ := Text.mem_of_mem_before before
  have clean := not_mem_cleaned (behindAuthority_subset _ known)
  simp only [breaks, List.mem_cons, List.not_mem_nil, or_false, not_or] at clean
  simp only [pathEnds, Text.ofString, Text.ofChars]
  simpa using ⟨question, number, clean⟩

/-- The path and the parameters of an address hold nothing that ends them. -/
theorem inside_splitParameters (text : Text) :
    (∀ point ∈ (splitParameters (pathOf text)).1, point ∉ pathEnds) ∧
      ∀ point ∈ (splitParameters (pathOf text)).2, point ∉ pathEnds := by
  obtain ⟨path, parameters, -⟩ := splitParameters_subset (pathOf text)
  exact ⟨fun _ member => not_mem_pathEnds (path member),
    fun _ member => not_mem_pathEnds (parameters member)⟩

section Relative

variable {scheme : Text}

/-- A path that begins with a dot is all of its address. -/
theorem behindScheme_relative (rest : Text) :
    splitScheme (cleaned ("." ++ rest)) = (none, .scalar '.' :: Text.without breaks rest) := by
  have dot : cleaned ("." ++ rest) = .scalar '.' :: Text.without breaks rest := rfl
  have opens : Text.before ':' (.scalar '.' :: Text.without breaks rest) =
      .scalar '.' :: Text.before ':' (Text.without breaks rest) := rfl
  have letter : CodePoint.satisfies Char.isAlpha (.scalar '.') = false := rfl
  simp only [splitScheme, dot, opens, List.head?_cons, Option.any_some, letter, Bool.and_false,
    Bool.false_and, Bool.false_eq_true, ↓reduceIte]

/-- Such an address has no authority. -/
theorem authorityOf_relative (rest : Text) : authorityOf ("." ++ rest) = [] := by
  rw [authorityOf, behindScheme_relative]
  rfl

/-- Its path begins with the dot. -/
theorem pathOf_relative (rest : Text) : ∃ more, pathOf ("." ++ rest) = .scalar '.' :: more := by
  rw [pathOf, behindScheme_relative]
  exact ⟨_, rfl⟩

/-- The schemes of absolute addresses have parameters. -/
theorem hasParameters_of_remote (remote : scheme ∈ remoteSchemes) :
    parameterSchemes.contains scheme = true := by
  simp only [remoteSchemes, List.mem_cons, List.not_mem_nil, or_false] at remote
  rcases remote with rfl | rfl <;> decide +kernel

/-- Parts with such a scheme and a path that is no authority make up an address in which the path
begins with a slash. -/
theorem text_remote {url : Url} (remote : url.scheme ∈ remoteSchemes)
    (single : Text.startsWith "//" (url.path ++ marked ';' url.parameters) = false) :
    url.text = url.scheme ++ "://" ++ (url.authority ++
      rootedPath (url.path ++ marked ';' url.parameters) ++
        (marked '?' url.query ++ marked '#' url.fragment)) := by
  obtain ⟨full, -, authorities⟩ := known_of_remote remote
  have named : url.scheme.isEmpty = false := by simpa using full
  have colon : Text.ofString "://" = ":" ++ "//" := rfl
  simp only [text, named, authorities, single, Bool.not_false, Bool.true_and, Bool.or_true,
    ↓reduceIte, colon, Bool.false_eq_true, rootedPath, List.append_assoc]

/-- The parts of an absolute address. -/
theorem partsOf_remote (remote : scheme ∈ remoteSchemes) {base rest : Text}
    (absolute : base = scheme ++ "://" ++ rest) :
    (partsOf [] base).scheme = scheme ∧ (partsOf [] base).authority = authorityOf base ∧
      (partsOf [] base).path = (splitParameters (pathOf base)).1 := by
  have own := congrArg Prod.fst (splitScheme_remote remote rest)
  rw [← absolute] at own
  have parameters := hasParameters_of_remote remote
  refine ⟨?_, rfl, ?_⟩
  · simp only [partsOf, own, Option.getD_some]
  · simp only [partsOf, own, Option.getD_some, parameters, ↓reduceIte]

/-- The parts of a path that begins with a dot. -/
theorem partsOf_relative (remote : scheme ∈ remoteSchemes) (rest : Text) :
    (partsOf scheme ("." ++ rest)).scheme = scheme ∧ (partsOf scheme ("." ++ rest)).authority = [] ∧
      (partsOf scheme ("." ++ rest)).path = (splitParameters (pathOf ("." ++ rest))).1 ∧
      (partsOf scheme ("." ++ rest)).parameters = (splitParameters (pathOf ("." ++ rest))).2 := by
  have own := congrArg Prod.fst (behindScheme_relative rest)
  have parameters := hasParameters_of_remote remote
  refine ⟨?_, authorityOf_relative rest, ?_, ?_⟩
  · simp only [partsOf, own, Option.getD_none]
  · simp only [partsOf, own, Option.getD_none, parameters, ↓reduceIte]
  · simp only [partsOf, own, Option.getD_none, parameters, ↓reduceIte]

/-- The path of such a reference begins with the dot. -/
theorem splitParameters_relative (rest : Text) :
    ∃ more, (splitParameters (pathOf ("." ++ rest))).1 = .scalar '.' :: more := by
  obtain ⟨more, opens⟩ := pathOf_relative rest
  rw [opens]
  exact splitParameters_cons (by decide) more

/-- A reference with a path is joined to a base by its path. -/
theorem joinParts_eq {base reference : Url}
    (authorities : authoritySchemes.contains reference.scheme = true)
    (some : reference.path ≠ []) : joinParts base reference =
      { reference with
        authority := base.authority, path := resolvePath base.path reference.path } := by
  have full : reference.path.isEmpty = false := by simpa using some
  simp only [joinParts, full, Bool.false_and, Bool.false_eq_true, ↓reduceIte, authorities]

/-- The parts of a relative path, joined to those of an absolute address. -/
def joined (scheme base rest : Text) : Url :=
  { partsOf scheme ("." ++ rest) with
    authority := authorityOf base
    path := resolvePath (splitParameters (pathOf base)).1 (partsOf scheme ("." ++ rest)).path }

/-- A relative path is joined to an absolute address by its path, if the authority of that may stand
in an address. -/
theorem join_remote (remote : scheme ∈ remoteSchemes) {base server : Text}
    (absolute : base = scheme ++ "://" ++ server) (rest : Text) :
    join base ("." ++ rest) =
      (checkAuthority (authorityOf base)).map fun _ => (joined scheme base rest).text := by
  obtain ⟨baseScheme, baseAuthority, basePath⟩ := partsOf_remote remote absolute
  obtain ⟨sameScheme, none, path, -⟩ := partsOf_relative remote rest
  obtain ⟨full, related, authorities⟩ := known_of_remote remote
  have some : (partsOf scheme ("." ++ rest)).path ≠ [] := by
    obtain ⟨more, opens⟩ := splitParameters_relative rest
    rw [path, opens]
    exact List.cons_ne_nil _ _
  have someBase : List.isEmpty base = false := by simp [absolute, full]
  have someReference : List.isEmpty (Text.ofString "." ++ rest) = false := rfl
  simp only [join, someBase, someReference, Bool.false_eq_true, ↓reduceIte, bind, Except.bind,
    split_eq]
  cases checkAuthority (authorityOf base) with
  | error error => rfl
  | ok checked =>
    have free : checkAuthority (authorityOf ("." ++ rest)) = .ok () := by
      rw [authorityOf_relative]
      rfl
    simp only [Except.map, free, baseScheme, sameScheme, bne_self_eq_false, related,
      Bool.not_true, Bool.or_self, Bool.false_eq_true, ↓reduceIte, none, List.isEmpty_nil,
      Bool.and_false]
    rw [joinParts_eq (sameScheme.symm ▸ authorities) some, baseAuthority, basePath]
    rfl

end Relative

/-- What stays the same of an address: its scheme and its authority, if that may stand there. -/
theorem origin_remote {scheme : Text} (remote : scheme ∈ remoteSchemes) (rest : Text) :
    origin (scheme ++ "://" ++ rest) =
      (checkAuthority (authorityOf (scheme ++ "://" ++ rest))).map fun _ =>
        scheme ++ "://" ++ authorityOf (scheme ++ "://" ++ rest) := by
  obtain ⟨own, authority, -⟩ := partsOf_remote remote (rfl : _ = scheme ++ "://" ++ rest)
  rw [origin, split_eq]
  cases checkAuthority (authorityOf (scheme ++ "://" ++ rest)) with
  | error error => rfl
  | ok checked => simp only [Except.map, own, authority]

/-- Addresses with the same scheme and the same authority have the same origin. -/
theorem origin_eq {scheme : Text} (remote : scheme ∈ remoteSchemes) {rest other : Text}
    (same : authorityOf (scheme ++ "://" ++ other) = authorityOf (scheme ++ "://" ++ rest)) :
    origin (scheme ++ "://" ++ other) = origin (scheme ++ "://" ++ rest) := by
  rw [origin_remote remote, origin_remote remote, same]

/-- A path from the root of a server is an address at the origin of the server. -/
theorem origin_append {base : Text} (remote : isRemote base = true) (rest : Text) :
    ∃ value, (origin base).map (· ++ .scalar '/' :: rest) =
        (checkAuthority (authorityOf base)).map (fun _ => value) ∧
      isRemote value = true ∧ origin value = origin base := by
  obtain ⟨scheme, known, server, rfl⟩ := exists_of_isRemote remote
  have plain := isAuthority_authorityOf known server
  refine ⟨scheme ++ "://" ++ (authorityOf (scheme ++ "://" ++ server) ++ .scalar '/' :: rest), ?_,
    isRemote_append known _, origin_eq known (authorityOf_append known plain rest)⟩
  rw [origin_remote known]
  cases checkAuthority (authorityOf (scheme ++ "://" ++ server)) with
  | error error => rfl
  | ok checked => simp only [Except.map, List.append_assoc]

/-- The path of a joined address begins with one slash and consists of segments without dots. -/
theorem exists_joinedSegments {scheme : Text} (remote : scheme ∈ remoteSchemes)
    (server rest : Text) :
    let url := joined scheme (scheme ++ "://" ++ server) rest
    Text.startsWith "//" (url.path ++ marked ';' url.parameters) = false ∧
      ∃ segments, segments ≠ [] ∧ (∀ segment ∈ segments, IsSegment segment) ∧
        rootedPath (url.path ++ marked ';' url.parameters) = pathOfSegments segments := by
  let reference := partsOf scheme ("." ++ rest)
  obtain ⟨-, -, path, parameters⟩ := partsOf_relative remote rest
  obtain ⟨-, -, flat⟩ := splitParameters_subset (pathOf ("." ++ rest))
  obtain ⟨inside, insideParameters⟩ := inside_splitParameters ("." ++ rest)
  rw [← path] at inside
  rw [← parameters] at flat insideParameters
  -- The path of the base begins with a slash or is empty, that of the reference with a dot.
  have rooted : (splitParameters (pathOf (scheme ++ "://" ++ server))).1 = [] ∨ ∃ more,
      (splitParameters (pathOf (scheme ++ "://" ++ server))).1 = .scalar '/' :: more := by
    rcases pathOf_rooted remote server with empty | ⟨more, opens⟩
    · exact .inl (by rw [empty]; rfl)
    · exact .inr (by rw [opens]; exact splitParameters_cons (by decide) more)
  have relative : Text.startsWith "/" reference.path = false := by
    obtain ⟨more, opens⟩ := splitParameters_relative rest
    rw [path, opens]
    rfl
  have apart : Text.startsWith "/" (marked ';' reference.parameters) = false := by
    cases reference.parameters <;> rfl
  obtain ⟨single, front, last, solid, written⟩ := hasSegments_resolvePath rooted relative
    (List.forall_mem_append.mpr ⟨(inside_splitParameters _).1, inside⟩) apart
  obtain ⟨before, final⟩ := List.forall_mem_append.mp solid
  refine ⟨single, front ++ [last ++ marked ';' reference.parameters], by simp, ?_, ?_⟩
  · refine List.forall_mem_append.mpr ⟨before, List.forall_mem_singleton.mpr ?_⟩
    exact (List.forall_mem_singleton.mp final).append_marked flat insideParameters
  · rw [← pathOfSegments_append]
    exact written

/-- A relative path that is joined to an absolute address leads to an address at the origin of that,
and no dot segments are left in its path. -/
theorem join_stays {base : Text} (remote : isRemote base = true) (rest : Text) :
    ∃ value, join base ("." ++ rest) =
        (checkAuthority (authorityOf base)).map (fun _ => value) ∧
      isRemote value = true ∧ origin value = origin base ∧
      ∀ segment ∈ Text.splitAt (.scalar '/') (pathOf value), isDots segment = false := by
  obtain ⟨scheme, known, server, rfl⟩ := exists_of_isRemote remote
  have plain := isAuthority_authorityOf known server
  have sameScheme : (joined scheme (scheme ++ "://" ++ server) rest).scheme = scheme :=
    (partsOf_relative known rest).1
  have sameAuthority : (joined scheme (scheme ++ "://" ++ server) rest).authority =
      authorityOf (scheme ++ "://" ++ server) := rfl
  obtain ⟨single, segments, some, solid, written⟩ := exists_joinedSegments known server rest
  obtain ⟨others, slash⟩ := exists_pathOfSegments_cons some
  refine ⟨_, join_remote known rfl rest, ?_⟩
  rw [text_remote (sameScheme.symm ▸ known) single, sameScheme, sameAuthority, written]
  refine ⟨isRemote_append known _, origin_eq known ?_, ?_⟩
  · rw [slash, List.append_assoc (authorityOf _)]
    exact authorityOf_append known plain _
  · rw [pathOf_append known plain (inside_pathOfSegments solid) ⟨others, slash⟩,
      splitAt_pathOfSegments fun segment member => (solid segment member).flat]
    exact List.forall_mem_cons.mpr ⟨rfl, fun segment member => (solid segment member).plain⟩

end Url

namespace Module.Resolver

/-! ## Resolution -/

/-- A path is no name of a generated module and no address. -/
theorem not_special_of_path {requested : Text}
    (path : Text.startsWith "." requested = true ∨ Text.startsWith "/" requested = true) :
    (requested == Builtin.environmentName) = false ∧
      (Binding.ofName? requested).isSome = false ∧ Url.isRemote requested = false := by
  obtain ⟨point, rest, rfl, other⟩ : ∃ point rest, requested = point :: rest ∧
      (point = .scalar '.' ∨ point = .scalar '/') := by
    rcases path with dot | slash
    · obtain ⟨rest, rfl⟩ := List.isPrefixOf_iff_prefix.mp dot
      exact ⟨_, rest, rfl, .inl rfl⟩
    · obtain ⟨rest, rfl⟩ := List.isPrefixOf_iff_prefix.mp slash
      exact ⟨_, rest, rfl, .inr rfl⟩
  rcases other with rfl | rfl <;> exact ⟨rfl, rfl, rfl⟩

variable {resolver : Resolver} {requested : Text} {importer : Option Text}

/-- A path that a module on another server imports leads to an address, if the authority of that
server may stand in one. -/
theorem resolve_path {url : Text} (remote : Url.isRemote url = true)
    (path : Text.startsWith "." requested = true ∨ Text.startsWith "/" requested = true)
    (noFile : resolver.hasFile requested = false) :
    ∃ value, resolver.resolve requested (some url) =
        (Url.checkAuthority (Url.authorityOf url)).map (fun _ => .remote value) ∧
      Url.isRemote value = true ∧ Url.origin value = Url.origin url ∧
      (Text.startsWith "." requested = true →
        ∀ segment ∈ Text.splitAt (.scalar '/') (Url.pathOf value), Url.isDots segment = false) := by
  obtain ⟨environment, binding, absolute⟩ := not_special_of_path path
  have found : remoteImporter? (some url) = some url := by simp [remoteImporter?, remote]
  simp only [resolve, environment, binding, noFile, absolute, Bool.false_eq_true, ↓reduceIte, found]
  cases dot : Text.startsWith "." requested with
  | true =>
    obtain ⟨rest, rfl⟩ := List.isPrefixOf_iff_prefix.mp dot
    obtain ⟨value, joined, stays⟩ := Url.join_stays remote rest
    refine ⟨value, ?_, stays.1, stays.2.1, fun _ => stays.2.2⟩
    simp only [↓reduceIte, joined]
    cases Url.checkAuthority (Url.authorityOf url) <;> rfl
  | false =>
    rw [dot] at path
    have slash := path.resolve_left Bool.false_ne_true
    obtain ⟨rest, rfl⟩ := List.isPrefixOf_iff_prefix.mp slash
    obtain ⟨value, appended, absolute, same⟩ := Url.origin_append remote rest
    refine ⟨value, ?_, absolute, same, nofun⟩
    have behind (result : Except Url.UrlError Text) :
        (result.map fun origin => Target.remote (origin ++ (Text.ofString "/" ++ rest))) =
          (result.map (· ++ .scalar '/' :: rest)).map .remote := by
      cases result <;> rfl
    simp only [Bool.false_eq_true, ↓reduceIte, slash, behind, appended]
    cases Url.checkAuthority (Url.authorityOf url) <;> rfl

/-- What is not resolved is a path that is no file, imported by a module of another server. -/
theorem exists_of_resolve_eq_error {error : Url.UrlError}
    (failed : resolver.resolve requested importer = .error error) :
    resolver.hasFile requested = false ∧
      (Text.startsWith "." requested = true ∨ Text.startsWith "/" requested = true) ∧
      ∃ url, importer = some url ∧ Url.isRemote url = true := by
  have remote {url : Text} (found : remoteImporter? importer = some url) :
      ∃ url, importer = some url ∧ Url.isRemote url = true :=
    ⟨url, Option.filter_eq_some_iff.mp found⟩
  unfold resolve at failed
  split at failed
  · cases failed
  split at failed
  · cases failed
  split at failed
  · cases failed
  rename_i noFile
  split at failed
  · cases failed
  split at failed
  · rename_i dot
    split at failed
    · rename_i url found
      exact ⟨by simpa using noFile, .inl dot, remote found⟩
    · cases failed
  split at failed
  · rename_i url slash found
    exact ⟨by simpa using noFile, .inr slash, remote found⟩
  · cases failed

end Module.Resolver
end SiteBuild
