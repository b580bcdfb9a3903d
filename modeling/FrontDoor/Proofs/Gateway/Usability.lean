/-
Whether checked settings are enough to ask the backend.

They are not: the check reads the backend's text as an address, and an address may have blanks
around it, while a request URI may not (`blank_accepted`).  What is missing is that the text as it
stands is a complete URI.  Where it is, a request is put together for every client that has a
route, unless its address is too long; and its host is the one that was read when the settings were
checked.  Where it is not, no request is put together at all (`asks_backend_iff`).
-/
import FrontDoor.Proofs.Delegation.Backend

namespace FrontDoor

open Http
open Route (Endpoint)

variable {s : Settings} {caps : Capabilities} {r q : Request} {text suffix : String}
variable {route : Route Handler} {body? : Option Bytes}

theorem Settings.to?_of_problems (hs : s.problems = []) :
    Delegation.to? s.backendUrl s.version = .ok ⟨s.backendUrl, s.version⟩ := by
  refine Delegation.to?_of_sendable _ (Delegation.sendable_iff.mpr ?_)
  unfold problems at hs
  simp only [List.append_eq_nil_iff] at hs
  simpa using hs.1.2

namespace Gateway

/-- **A gateway with checked settings asks its backend if the text of it is a complete URI as it
stands**, whatever a routed client asks for; otherwise it asks nothing.  The host that it asks is the
one that was read when the settings were checked. -/
theorem asks_backend_iff (hs : s.problems = []) (hread : Uri.ofText text = .ok r.uri)
    (hroute : (gitRoutes caps).select? r.method r.uri.shownPath = some route)
    (hsuffix : suffix = "" ∨ suffix = "/authorize")
    (hsize : (s.backendUrl ++ r.uri.target ++ suffix).utf8ByteSize ≤ 65534)
    (body? : Option Bytes) :
    ∃ d, Delegation.to? s.backendUrl s.version = .ok d ∧
      ((∃ q, d.request r body? suffix = .ok q) ↔
        ∃ uri, Delegation.completeUri s.backendUrl = .ok uri) ∧
      ∀ q, d.request r body? suffix = .ok q →
        ∃ url host authority, Url.ofText? s.backendUrl = some url ∧ url.host? = some host ∧
          q.uri.authority? = some authority ∧
          Url.Host.ofText? (Authority.host authority).toList = some host := by
  obtain ⟨url, hurl, hscheme, hquery, hfragment⟩ := Settings.backend_of_problems hs
  have hsize_backend : s.backendUrl.utf8ByteSize ≤ Uri.maxSize := by
    simp only [String.utf8ByteSize_append] at hsize
    show _ ≤ 65534
    omega
  -- Whatever request there is was read from the backend's text and a slash behind it.
  have hlegible : ∀ q, (Delegation.mk s.backendUrl s.version).request r body? suffix = .ok q →
      ∃ front authority base, Delegation.Legible s.backendUrl front authority base ∧
        q.uri.authority? = some authority := by
    intro q hq
    obtain ⟨tail, htarget⟩ := target_of_select? hread hroute
    obtain ⟨uri, hcomplete, rfl⟩ := Delegation.request_eq_ok_iff.mp hq
    obtain ⟨haddress, hnamed, -⟩ := Delegation.completeUri_eq_ok hcomplete
    rw [Delegation.address, htarget, ← String.append_assoc, String.append_assoc] at haddress
    exact Delegation.legible_of_read hurl hscheme haddress hnamed
  refine ⟨_, Settings.to?_of_problems hs, ⟨?_, ?_⟩, ?_⟩
  · intro hgiven
    obtain ⟨q, hq⟩ := hgiven
    obtain ⟨front, authority, base, h, -⟩ := hlegible q hq
    exact h.completeUri_eq_ok hsize_backend
  · intro hgiven
    obtain ⟨uri, hcomplete⟩ := hgiven
    obtain ⟨front, authority, base, h⟩ := Delegation.legible_of_completeUri hurl hscheme hcomplete
    obtain ⟨hfree, -⟩ := h.read_address hurl hscheme hquery hfragment
    obtain ⟨rest, hpath⟩ := path_of_select? hread hroute
    have htarget : r.uri.target = r.uri.path ++ r.uri.queryText := by simp [Uri.target, hpath]
    refine h.exists_request (d := ⟨s.backendUrl, s.version⟩) hfree (Uri.wellFormed_of_ofText hread)
      htarget ⟨rest, hpath⟩ ?_ hsize body?
    rcases hsuffix with rfl | rfl
    · simp
    · simp [Uri.isPathChar, Uri.isQueryChar]
  · intro q hq
    obtain ⟨front, authority, base, h, hauthority⟩ := hlegible q hq
    obtain ⟨-, final, host, port?, hhost, hfound⟩ := h.read_address hurl hscheme hquery hfragment
    exact ⟨url, host, authority, hurl, hfound, hauthority, Url.ofText?_host h.checked hhost⟩

/-- A backend with user information, an address in brackets, a port and a path of its own. -/
theorem asks_backend_iff_bracketed :
    ∃ q : Request,
      (Delegation.mk "HTTP://u@[::1]:80/base" "1").request
        { uri := { path := "/p.git/info/refs", query? := some "s=1" } } none "/authorize" =
          .ok q ∧
      q.uri.authority? = some "u@[::1]:80" ∧
      Url.Host.ofText? (Authority.host "u@[::1]:80").toList =
        some (.ipv6 [0, 0, 0, 0, 0, 0, 0, 1]) := by
  have hs : Settings.problems { backendUrl := "HTTP://u@[::1]:80/base", version := "1" } = [] := by
    decide
  have hread : Uri.ofText "/p.git/info/refs?s=1" =
      .ok { path := "/p.git/info/refs", query? := some "s=1" } := rfl
  have hroute : ((gitRoutes .passThrough).select? .get "/p.git/info/refs").isSome = true := rfl
  obtain ⟨route, hroute⟩ := Option.isSome_iff_exists.mp hroute
  obtain ⟨d, hd, hiff, hhost⟩ :=
    asks_backend_iff (r := { uri := { path := "/p.git/info/refs", query? := some "s=1" } }) hs hread
      hroute (.inr rfl) (by decide) none
  cases hd
  obtain ⟨q, hq⟩ := hiff.mpr ⟨_, rfl⟩
  obtain ⟨url, host, authority, hurl, hfound, hauthority, hsame⟩ := hhost q hq
  cases hq
  cases hurl
  cases hfound
  cases hauthority
  exact ⟨_, rfl, rfl, hsame⟩

/-- A blank in front of an address does not keep it from being accepted, but no request is read
behind it: the check lets a backend pass that cannot be asked. -/
theorem blank_accepted :
    Settings.problems { backendUrl := " http://h", version := "1.2.3" } = [] ∧
      Uri.ofText "/foo.git/info/refs?s=1" =
        .ok { path := "/foo.git/info/refs", query? := some "s=1" } ∧
      ((gitRoutes .passThrough).select? .get "/foo.git/info/refs").isSome = true ∧
      (" http://h" ++ "/foo.git/info/refs?s=1" ++ "").utf8ByteSize ≤ 65534 ∧
      Delegation.to? " http://h" "1.2.3" = .ok ⟨" http://h", "1.2.3"⟩ ∧
      ∀ q, (Delegation.mk " http://h" "1.2.3").request
        { uri := { path := "/foo.git/info/refs", query? := some "s=1" } } none "" ≠ .ok q := by
  refine ⟨by decide, rfl, rfl, by decide, rfl, ?_⟩
  intro q hq
  cases hq

end Gateway

end FrontDoor
