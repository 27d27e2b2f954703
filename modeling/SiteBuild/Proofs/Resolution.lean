import SiteBuild.Module.Resolver
import SiteBuild.Proofs.PageFiles

/-!
# What resolution leads to

A reference that is joined to an absolute address is an absolute address again (`isRemote_join`).
So a resolver with the usual servers leads to nothing but generated modules, files named relative
to the page, the icon component and absolute addresses, and for the browser to no generated module
but the environment, whatever a specifier says (`isProper_of_resolve`).
-/
namespace SiteBuild

namespace Url

/-! ## Absolute addresses -/

/-- The schemes of absolute addresses. -/
def remoteSchemes : List Text := ["http", "https"]

/-- A text that opens with such a scheme and two slashes is an absolute address. -/
theorem isRemote_append {scheme : Text} (remote : scheme ∈ remoteSchemes) (rest : Text) :
    isRemote (scheme ++ "://" ++ rest) = true := by
  simp only [remoteSchemes, List.mem_cons, List.not_mem_nil, or_false] at remote
  rcases remote with rfl | rfl <;> rfl

/-- An absolute address begins with one letter. -/
theorem head?_of_isRemote {url : Text} (remote : isRemote url = true) :
    url.head? = some (.scalar 'h') := by
  rcases Bool.or_eq_true_iff.mp remote with plain | secure
  · obtain ⟨rest, rfl⟩ := List.isPrefixOf_iff_prefix.mp plain
    rfl
  · obtain ⟨rest, rfl⟩ := List.isPrefixOf_iff_prefix.mp secure
    rfl

/-- The scheme of a split address is its own, or the given one. -/
theorem scheme_of_split {scheme text : Text} {url : Url} (done : split scheme text = .ok url) :
    url.scheme = (splitScheme (cleaned text)).1.getD scheme := by
  unfold split at done
  simp only [bind, Except.bind] at done
  split at done
  · cases done
  · split at done
    · cases done
    · cases done
      rfl

/-- The scheme of an absolute address is one of them. -/
theorem scheme_of_isRemote {text : Text} {url : Url} (remote : isRemote text = true)
    (done : split [] text = .ok url) : url.scheme ∈ remoteSchemes := by
  rw [scheme_of_split done]
  rcases Bool.or_eq_true_iff.mp remote with plain | secure
  · obtain ⟨rest, rfl⟩ := List.isPrefixOf_iff_prefix.mp plain
    have own : (splitScheme (cleaned ("http://" ++ rest))).1 = some "http" := rfl
    simp [own, remoteSchemes]
  · obtain ⟨rest, rfl⟩ := List.isPrefixOf_iff_prefix.mp secure
    have own : (splitScheme (cleaned ("https://" ++ rest))).1 = some "https" := rfl
    simp [own, remoteSchemes]

/-- Such a scheme takes part in joining, and its addresses have an authority. -/
theorem known_of_remote {scheme : Text} (remote : scheme ∈ remoteSchemes) :
    scheme ≠ [] ∧ relativeSchemes.contains scheme = true ∧
      authoritySchemes.contains scheme = true := by
  simp only [remoteSchemes, List.mem_cons, List.not_mem_nil, or_false] at remote
  rcases remote with rfl | rfl <;> decide +kernel

/-- Parts with such a scheme make up an absolute address: an authority is written even if it is
empty, unless the path opens with two slashes itself. -/
theorem isRemote_text {url : Url} (remote : url.scheme ∈ remoteSchemes) :
    isRemote url.text = true := by
  obtain ⟨full, -, authorities⟩ := known_of_remote remote
  have named : url.scheme.isEmpty = false := by simpa using full
  have colon : Text.ofString "://" = ":" ++ "//" := rfl
  suffices slashes : ∃ rest, url.text = url.scheme ++ "://" ++ rest by
    obtain ⟨rest, whole⟩ := slashes
    rw [whole]
    exact isRemote_append remote rest
  by_cases wide : (!url.authority.isEmpty ||
      !Text.startsWith "//" (url.path ++ marked ';' url.parameters)) = true
  · simp only [text, named, authorities, Bool.not_false, Bool.true_and, wide, ↓reduceIte, colon,
      List.append_assoc, Bool.false_eq_true, List.append_cancel_left_eq, exists_eq']
  · have opens : Text.startsWith "//" (url.path ++ marked ';' url.parameters) = true := by
      simp_all
    obtain ⟨rest, path⟩ := List.isPrefixOf_iff_prefix.mp opens
    simp only [text, named, authorities, Bool.not_false, Bool.true_and, wide, ↓reduceIte, colon,
      Bool.false_eq_true]
    simp only [← path, List.append_assoc, List.append_cancel_left_eq, exists_eq']

/-- A relative path has no scheme of its own. -/
theorem scheme_of_relative {scheme rest : Text} {url : Url}
    (done : split scheme ("." ++ rest) = .ok url) : url.scheme = scheme := by
  have none : (splitScheme (cleaned ("." ++ rest))).1 = none := by
    have dot : cleaned ("." ++ rest) = .scalar '.' :: Text.without ['\t', '\n', '\r'] rest := rfl
    have opens : Text.before ':' (cleaned ("." ++ rest)) =
        .scalar '.' :: Text.before ':' (Text.without ['\t', '\n', '\r'] rest) := by
      rw [dot]
      rfl
    have letter : CodePoint.satisfies Char.isAlpha (.scalar '.') = false := rfl
    simp only [splitScheme, opens, List.head?_cons, Option.any_some, letter, Bool.and_false,
      Bool.false_and, Bool.false_eq_true, ↓reduceIte]
  rw [scheme_of_split done, none, Option.getD_none]

/-- A relative path that is joined to an absolute address is an absolute address. -/
theorem isRemote_join {base rest result : Text} (remote : isRemote base = true)
    (joined : join base ("." ++ rest) = .ok result) : isRemote result = true := by
  unfold join at joined
  simp only [bind, Except.bind, pure, Except.pure] at joined
  split at joined
  · rename_i empty
    rw [List.isEmpty_iff.mp empty] at remote
    cases remote
  split at joined
  · rename_i empty
    cases empty
  cases baseParts : split [] base with
  | error error =>
    rw [baseParts] at joined
    cases joined
  | ok baseUrl =>
    rw [baseParts] at joined
    simp only at joined
    have scheme := scheme_of_isRemote remote baseParts
    cases parts : split baseUrl.scheme ("." ++ rest) with
    | error error =>
      rw [parts] at joined
      cases joined
    | ok url =>
      rw [parts] at joined
      simp only at joined
      have same : url.scheme = baseUrl.scheme := scheme_of_relative parts
      have related := (known_of_remote scheme).2.1
      simp only [same, bne_self_eq_false, related, Bool.not_true, Bool.or_self,
        Bool.false_eq_true, ↓reduceIte] at joined
      split at joined
      · cases joined
        exact isRemote_text (same ▸ scheme)
      · cases joined
        have kept : (joinParts baseUrl url).scheme = url.scheme := by
          simp only [joinParts, apply_ite Url.scheme, ite_self]
        exact isRemote_text (kept.trans same ▸ scheme)

/-- The origin of an absolute address, with anything behind it, is an absolute address. -/
theorem isRemote_origin {url result : Text} (remote : isRemote url = true)
    (done : origin url = .ok result) (rest : Text) : isRemote (result ++ rest) = true := by
  unfold origin at done
  cases parts : split [] url with
  | error error =>
    rw [parts] at done
    cases done
  | ok url =>
    rw [parts] at done
    cases done
    rw [List.append_assoc]
    exact isRemote_append (scheme_of_isRemote remote parts) _

end Url
namespace Module

/-! ## Targets -/

/-- The names of the generated modules that a build can come to need: for the browser none but the
environment. -/
def generatedNames (server : Bool) : List Text :=
  Builtin.environmentName ::
    if server then Builtin.serverRuntimeName :: Binding.all.map Binding.name else []

/-- Whether a target keeps to its kind: a generated module has one of their names, a file is named
relative to the page or is the icon component, and a remote module is at an absolute address. -/
inductive Target.IsProper (server : Bool) : Target → Prop
  | virtual {name : Text} (known : name ∈ generatedNames server) : IsProper server (.virtual name)
  | file {name : Text} (relative : name.head? = some (.scalar '.')) : IsProper server (.file name)
  | icon : IsProper server (.file Builtin.iconId)
  | remote {url : Text} (absolute : Url.isRemote url = true) : IsProper server (.remote url)
  | external (name : Text) : IsProper server (.external name)

namespace Resolver

/-- The name of a binding is that of a generated module for the server. -/
theorem mem_generatedNames {name : Text} (binding : (Binding.ofName? name).isSome = true) :
    name ∈ generatedNames true := by
  obtain ⟨found, known⟩ := Option.isSome_iff_exists.mp binding
  have named : found.name = name := by simpa using List.find?_some known
  refine List.mem_cons_of_mem _ (List.mem_cons_of_mem _ ?_)
  exact List.mem_map.mpr ⟨found, List.mem_of_find?_eq_some known, named⟩

/-- Whether a resolver has the usual servers, and files that are named relative to the page. -/
structure IsUsual (resolver : Resolver) : Prop where
  cdnUrl_eq : resolver.cdnUrl = Builtin.cdnUrl
  runtimeUrl_eq : resolver.runtimeUrl = Builtin.runtimeUrl
  relative : ∀ name, resolver.hasFile name = true → name.head? = some (.scalar '.')

namespace IsUsual

variable {resolver : Resolver}

/-- Packages and the runtime are at absolute addresses, or are modules at hand. -/
theorem isProper_packageTarget (usual : resolver.IsUsual) (requested : Text) :
    (resolver.packageTarget requested).IsProper resolver.server := by
  have address (rest : Text) :
      Url.isRemote (Builtin.runtimeUrl ++ rest) = true ∧
        Url.isRemote (Builtin.cdnUrl ++ rest) = true := ⟨rfl, rfl⟩
  unfold packageTarget runtimeTarget?
  simp only [usual.cdnUrl_eq, usual.runtimeUrl_eq, List.append_assoc]
  split
  · rename_i target found
    split at found
    · cases found
      split
      · rename_i server
        exact .virtual (by simp [generatedNames, server])
      · exact .remote rfl
    · split at found
      · cases found
        exact .remote (address _).1
      · cases found
  · split
    · exact .icon
    · exact .remote (address _).2

/-- Every target keeps to its kind, whatever is requested and wherever. -/
theorem isProper_of_resolve (usual : resolver.IsUsual) {requested : Text} {importer : Option Text}
    {target : Target} (resolved : resolver.resolve requested importer = .ok target) :
    target.IsProper resolver.server := by
  unfold resolve at resolved
  split at resolved
  · cases resolved
    exact .virtual List.mem_cons_self
  split at resolved
  · rename_i binding
    cases resolved
    split
    · rename_i server
      exact .virtual (server ▸ mem_generatedNames binding)
    · exact .external requested
  split at resolved
  · rename_i file
    cases resolved
    exact .file (usual.relative requested file)
  split at resolved
  · rename_i absolute
    cases resolved
    exact .remote absolute
  split at resolved
  · rename_i relative
    obtain ⟨rest, rfl⟩ := List.isPrefixOf_iff_prefix.mp relative
    split at resolved
    · rename_i url found
      have remote : Url.isRemote url = true := (Option.filter_eq_some_iff.mp found).2
      cases joined : Url.join url ("." ++ rest) with
      | error error =>
        rw [joined] at resolved
        cases resolved
      | ok result =>
        rw [joined] at resolved
        cases resolved
        exact .remote (Url.isRemote_join remote joined)
    · cases resolved
      exact .file rfl
  split at resolved
  · rename_i url rooted found
    have remote : Url.isRemote url = true := (Option.filter_eq_some_iff.mp found).2
    cases origin : Url.origin url with
    | error error =>
      rw [origin] at resolved
      cases resolved
    | ok server =>
      rw [origin] at resolved
      cases resolved
      exact .remote (Url.isRemote_origin remote origin requested)
  · cases resolved
    exact usual.isProper_packageTarget requested

end IsUsual
end Resolver

end Module
end SiteBuild
