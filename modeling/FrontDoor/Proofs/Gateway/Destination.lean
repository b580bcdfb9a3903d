/-
Who decides where the gateway connects to.

The address of a delegated request is the backend's text, and then what the client asks for.  Read
as a URI, its authority could reach beyond the backend's text, if that ended before a slash, or
even begin behind it, if that ended within the two slashes after a scheme.  Neither happens for
settings that were checked.  What a routed client asks for begins with a slash, which ends an
authority; and a checked backend has more than slashes behind the colon of its scheme, so both
slashes that the reader looks for are the backend's (`destination`).
-/
import FrontDoor.Gateway.Setup
import FrontDoor.Proofs.Delegation.Address
import FrontDoor.Proofs.Route.Git
import FrontDoor.Proofs.Url.Scheme
import FrontDoor.Settings.Check

namespace FrontDoor

open Http
open Route (Endpoint)

/-! ### Where the authority ends -/

namespace Delegation

/-- A scheme, a colon and two slashes in front of a text of two parts, of which the second begins
with a slash: the colon is in the first part, and so are both slashes, unless there are only
slashes behind the colon. -/
theorem exists_behind {backend tail front rest : List Char}
    (hfront : ∀ c ∈ front, Uri.isSchemeChar c = true)
    (h : backend ++ '/' :: tail = front ++ ':' :: '/' :: '/' :: rest) :
    ∃ behind, backend = front ++ ':' :: behind ∧
      ((∀ c ∈ behind, c = '/') ∨
        ∃ back, behind = '/' :: '/' :: back ∧ rest = back ++ '/' :: tail) := by
  rcases List.append_eq_append_iff.mp h with ⟨more, rfl, hmore⟩ | ⟨behind, rfl, hbehind⟩
  · -- The second part begins with a slash, and no scheme has one.
    cases more with
    | nil => cases hmore
    | cons c more =>
        obtain ⟨rfl, -⟩ := List.cons.inj hmore
        exact absurd (hfront '/' (by simp)) (by decide)
  · cases behind with
    | nil => cases hbehind
    | cons c behind =>
        obtain ⟨rfl, hslashes⟩ := List.cons.inj hbehind
        refine ⟨behind, rfl, ?_⟩
        cases behind with
        | nil => exact .inl (by simp)
        | cons c back =>
            obtain ⟨rfl, hslash⟩ := List.cons.inj hslashes
            cases back with
            | nil => exact .inl (by simp)
            | cons d back =>
                obtain ⟨rfl, hrest⟩ := List.cons.inj hslash
                exact .inr ⟨back, rfl, hrest⟩

/-- What is read where a slash follows the backend's text: the backend's text is a scheme of the
web, a colon and two slashes, and what it has behind these is read first. -/
theorem afterScheme_of_ofText {backend tail : String} {url : Url} {uri : Uri}
    (hurl : Url.ofText? backend = some url) (hscheme : url.scheme = "http")
    (hread : Uri.ofText (backend ++ "/" ++ tail) = .ok uri) (hcomplete : uri.scheme?.isSome = true) :
    ∃ front back, backend.toList = front ++ ':' :: '/' :: '/' :: back ∧
      front.map Char.toLower = "http".toList ∧
      Uri.afterScheme "http" (back ++ '/' :: tail.toList) = .ok uri := by
  obtain ⟨name, rest, hname, hafter⟩ := Uri.exists_scheme_of_ofText hread hcomplete
  obtain ⟨front, htext, hfront⟩ := Uri.exists_front_of_scheme hname
  have hsplit : backend.toList ++ '/' :: tail.toList = front ++ ':' :: '/' :: '/' :: rest := by
    simpa using htext
  obtain ⟨behind, hbackend, hbehind⟩ := exists_behind hfront hsplit
  obtain ⟨hhttp, c, hc, hslash⟩ := Url.http_of_ofText? hurl hscheme hbackend hfront
  obtain ⟨back, rfl, rfl⟩ : ∃ back, behind = '/' :: '/' :: back ∧
      rest = back ++ '/' :: tail.toList := by
    refine hbehind.resolve_left fun hslashes => ?_
    rw [hslashes c hc] at hslash
    cases hslash
  rw [htext, Uri.scheme_of_isWeb (.inl hhttp), hhttp, String.ofList_toList] at hname
  cases hname
  exact ⟨front, back, hbackend, hhttp, hafter⟩

end Delegation

/-! ### Settings and routes -/

theorem Settings.backend_of_problems {s : Settings} (hs : s.problems = []) :
    ∃ url, Url.ofText? s.backendUrl = some url ∧ url.scheme = "http" ∧ url.query? = none ∧
      url.fragment? = none := by
  have hbackend : backendProblems s.backendUrl = [] := by
    unfold problems at hs
    simp only [List.append_eq_nil_iff] at hs
    exact hs.1.1.1.2
  unfold backendProblems at hbackend
  split at hbackend
  · cases hbackend
  · rename_i url hurl
    obtain ⟨hscheme, hsuffix⟩ := List.append_eq_nil_iff.mp hbackend
    refine ⟨url, hurl, ?_, ?_⟩
    · by_contra hne
      simp [hne] at hscheme
    · by_contra hne
      simp [Option.isSome_iff_ne_none, ← not_and_or, hne] at hsuffix

namespace Gateway

/-- The path of a routed request begins with a slash, since no route has the asterisk or a path that
is not there. -/
theorem path_of_select? {caps : Capabilities} {request : Request} {text : String}
    {route : Route Handler} (hread : Uri.ofText text = .ok request.uri)
    (hroute : (gitRoutes caps).select? request.method request.uri.shownPath = some route) :
    ∃ rest, request.uri.path = "/" ++ rest := by
  obtain ⟨e, hfits, -⟩ := Route.exists_fits_of_select? hroute
  have hlength := Endpoint.length_of_spelled hfits.2
  rcases Uri.path_of_ofText hread with hpath | hpath | hpath
  · unfold Uri.shownPath at hlength
    split at hlength
    · simp at hlength
    · simp [hpath] at hlength
  · simp [Uri.shownPath, hpath] at hlength
  · exact hpath

/-- So does what it names. -/
theorem target_of_select? {caps : Capabilities} {request : Request} {text : String}
    {route : Route Handler} (hread : Uri.ofText text = .ok request.uri)
    (hroute : (gitRoutes caps).select? request.method request.uri.shownPath = some route) :
    ∃ tail, request.uri.target = "/" ++ tail := by
  obtain ⟨rest, hpath⟩ := path_of_select? hread hroute
  refine ⟨rest ++ request.uri.queryText, ?_⟩
  simp [Uri.target, hpath, String.append_assoc]

end Gateway

end FrontDoor
