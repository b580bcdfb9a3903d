/-
Where a delegated request goes.

Its address is three texts in a row: the backend's, the path and query of the client and a suffix.
They are joined first and read as a URI afterwards, so where the parts of that URI begin and end
is for the reader to find out.  It finds them where they are meant to be when the backend's text
is an address of the web (`WebAddress`): scheme and authority are the backend's, the client's path
goes on from the backend's, and the client's query stays a query.  The suffix is at the end of the
text, and so it is part of the query if there is one.
-/
import FrontDoor.Proofs.Delegation
import FrontDoor.Proofs.Http.UriParts

namespace FrontDoor

open Http

/-- The text is a scheme of the web in whatever case, an authority and the beginning of a path,
which may be empty. -/
structure WebAddress (text scheme authority base : String) : Prop where
  text_eq : text = scheme ++ "://" ++ authority ++ base
  web : scheme.toLower = "http" ∨ scheme.toLower = "https"
  authority_ne : authority ≠ ""
  authority_free : ∀ c ∈ authority.toList, c ∉ ['/', '?', '#']
  base_slash : base = "" ∨ ∃ rest, base = "/" ++ rest
  base_free : ∀ c ∈ base.toList, c ∉ ['?', '#']

namespace Delegation

variable {d : Delegation} {inbound built : Request} {body? : Option Bytes}
variable {scheme authority base path suffix : String}

theorem completeUri_eq_ok {address : String} {uri : Uri} (h : completeUri address = .ok uri) :
    Uri.ofText address = .ok uri ∧ uri.scheme?.isSome = true ∧ uri.authority?.isSome = true := by
  unfold completeUri at h
  split at h
  · cases h
  · rename_i u hread
    split at h
    · rename_i hcomplete
      cases h
      exact ⟨hread, Bool.and_eq_true_iff.mp hcomplete⟩
    · cases h

theorem completeUri_of_ofText {address : String} {uri : Uri} (hread : Uri.ofText address = .ok uri)
    (hscheme : uri.scheme?.isSome = true) (hauthority : uri.authority?.isSome = true) :
    completeUri address = .ok uri := by
  unfold completeUri
  rw [hread]
  exact if_pos (Bool.and_eq_true_iff.mpr ⟨hscheme, hauthority⟩)

/-- The URI a delegated request is meant to have, for a query of the client or none. -/
def intended (scheme authority base path suffix : String) : Option String → Uri
  | none =>
    { scheme? := some scheme, authority? := some authority, path := base ++ path ++ suffix }
  | some query =>
    { scheme? := some scheme, authority? := some authority, path := base ++ path,
      query? := some (query ++ suffix) }

/-- The path a request names is that of its URI, or a slash if that has none. -/
theorem path_of_target {u : Uri} (h : u.target = path ++ u.queryText) :
    path = u.path ∨ path = "/" := by
  unfold Uri.target at h
  dsimp only at h
  split at h
  · rename_i hempty
    have hquery : u.queryText = "" :=
      (String.append_eq_empty_iff.mp (String.isEmpty_iff.mp hempty)).2
    rw [hquery, String.append_empty] at h
    exact .inr h.symm
  · exact .inl ((String.append_left_inj _).mp h.symm)

/-- No part of the intended URI holds a character that would end it. -/
theorem divided_intended {text : String} (hbackend : WebAddress text scheme authority base)
    (huri : inbound.uri.WellFormed)
    (htarget : inbound.uri.target = path ++ inbound.uri.queryText)
    (hpath : ∃ rest, path = "/" ++ rest) (hsuffix : ∀ c ∈ suffix.toList, c ∉ ['?', '#']) :
    (intended scheme.toLower authority base path suffix inbound.uri.query?).Divided
      scheme.toLower authority := by
  have hbase_free : ∀ c ∈ base.toList, Uri.endsPath c = false := by
    simpa [Uri.endsPath] using hbackend.base_free
  have hsuffix_free : ∀ c ∈ suffix.toList, Uri.endsPath c = false := by
    simpa [Uri.endsPath] using hsuffix
  have hpath_free : ∀ c ∈ path.toList, Uri.endsPath c = false := by
    rcases path_of_target htarget with rfl | rfl
    · exact fun c hc => Uri.endsPath_of_isPathChar (huri.path c hc)
    · simp [Uri.endsPath]
  have hslash : ∃ rest, base ++ path = "/" ++ rest := by
    obtain ⟨rest, rfl⟩ := hpath
    rcases hbackend.base_slash with rfl | ⟨front, rfl⟩
    · exact ⟨rest, String.empty_append⟩
    · exact ⟨front ++ ("/" ++ rest), String.append_assoc⟩
  have hauthority_free : ∀ c ∈ authority.toList, Uri.endsAuthority c = false := by
    simpa [Uri.endsAuthority, and_assoc] using hbackend.authority_free
  cases hquery : inbound.uri.query? with
  | none =>
      refine ⟨rfl, hbackend.web, rfl, hbackend.authority_ne, hauthority_free, ?_, ?_, ?_⟩
      · obtain ⟨rest, hrest⟩ := hslash
        exact ⟨rest ++ suffix, by rw [intended, hrest, String.append_assoc]⟩
      · simp only [intended, String.toList_append, List.forall_mem_append]
        exact ⟨⟨hbase_free, hpath_free⟩, hsuffix_free⟩
      · simp [intended]
  | some query =>
      refine ⟨rfl, hbackend.web, rfl, hbackend.authority_ne, hauthority_free, hslash, ?_, ?_⟩
      · simp only [intended, String.toList_append, List.forall_mem_append]
        exact ⟨hbase_free, hpath_free⟩
      · have hhash : '#' ∉ query.toList := fun hc =>
          Uri.ne_hash_of_isQueryChar (huri.query query hquery _ hc) rfl
        have hhash_suffix : '#' ∉ suffix.toList := fun hc => hsuffix _ hc (by simp)
        simp [intended, hhash, hhash_suffix]

/-- Behind its authority the intended URI is written down as the address is. -/
theorem intended_written (htarget : inbound.uri.target = path ++ inbound.uri.queryText)
    (scheme authority base suffix : String) :
    (intended scheme authority base path suffix inbound.uri.query?).path ++
        (intended scheme authority base path suffix inbound.uri.query?).queryText =
      base ++ inbound.uri.target ++ suffix := by
  rw [htarget, Uri.queryText, Uri.queryText]
  cases inbound.uri.query? with
  | none => simp [intended]
  | some query => simp [intended, String.append_assoc]

/-- **A delegated request goes where it is meant to go.**  Its URI has the scheme of the backend's
address in lower case and the same authority, the client's path goes on from the backend's, and
the suffix follows the path, or the query of the client if there is one.  Written down it is the
address itself with the scheme in lower case, and that text is read as the same URI again. -/
theorem request_address (hbackend : WebAddress d.backend scheme authority base)
    (huri : inbound.uri.WellFormed)
    (htarget : inbound.uri.target = path ++ inbound.uri.queryText)
    (hpath : ∃ rest, path = "/" ++ rest) (hsuffix : ∀ c ∈ suffix.toList, c ∉ ['?', '#'])
    (h : d.request inbound body? suffix = .ok built) :
    built.uri =
        (match inbound.uri.query? with
        | none =>
          { scheme? := some scheme.toLower, authority? := some authority,
            path := base ++ path ++ suffix, query? := none }
        | some query =>
          { scheme? := some scheme.toLower, authority? := some authority,
            path := base ++ path, query? := some (query ++ suffix) }) ∧
      built.uri.text =
        scheme.toLower ++ "://" ++ authority ++ base ++ inbound.uri.target ++ suffix ∧
      Uri.ofText built.uri.text = .ok built.uri := by
  obtain ⟨uri, hcomplete, rfl⟩ := request_eq_ok_iff.mp h
  have hdivided := divided_intended hbackend huri htarget hpath hsuffix
  have hwritten := intended_written htarget scheme.toLower authority base suffix
  have haddress : d.address inbound suffix =
      scheme ++ "://" ++ authority ++
        (intended scheme.toLower authority base path suffix inbound.uri.query?).path ++
        (intended scheme.toLower authority base path suffix inbound.uri.query?).queryText := by
    rw [String.append_assoc, hwritten, address, hbackend.text_eq]
    simp only [String.append_assoc]
  have hread := (completeUri_eq_ok hcomplete).1
  rw [haddress, Uri.ofText_eq_ok_iff hdivided rfl, ← haddress] at hread
  obtain ⟨hsize, hwell, rfl⟩ := hread
  have htext : (intended scheme.toLower authority base path suffix inbound.uri.query?).text =
      scheme.toLower ++ "://" ++ authority ++ base ++ inbound.uri.target ++ suffix := by
    rw [hdivided.text_eq, String.append_assoc, hwritten]
    simp only [String.append_assoc]
  refine ⟨?_, htext, hdivided.ofText_text hwell ?_⟩
  · cases inbound.uri.query? <;> rfl
  · -- The text is as long as the address, since a scheme keeps its size in lower case.
    rw [address, hbackend.text_eq] at hsize
    rw [htext]
    simpa only [String.utf8ByteSize_append, Text.utf8ByteSize_toLower] using hsize

/-- A backend behind a path of its own, and a client's path with a query: the suffix is part of the
query. -/
theorem request_address_query :
    ∃ built : Request,
      (Delegation.mk "HTTP://auth:8080/base" "1.2.3").request
        { uri := { path := "/p.git/info/refs", query? := some "a=1" } } none "/authorize" =
          .ok built ∧
      built.uri.path = "/base/p.git/info/refs" ∧ built.uri.query? = some "a=1/authorize" ∧
      Uri.ofText built.uri.text = .ok built.uri := by
  have hbackend : WebAddress "HTTP://auth:8080/base" "HTTP" "auth:8080" "/base" := by
    refine ⟨rfl, .inl ?_, by decide, by simp, .inr ⟨"base", rfl⟩, by simp⟩
    rw [← String.toList_inj, Text.toList_toLower]
    decide
  have huri : Uri.WellFormed { path := "/p.git/info/refs", query? := some "a=1" } :=
    Uri.wellFormed_of_ofText (show Uri.ofText "/p.git/info/refs?a=1" = .ok _ from rfl)
  have hbuilt : (Delegation.mk "HTTP://auth:8080/base" "1.2.3").request
      { uri := { path := "/p.git/info/refs", query? := some "a=1" } } none "/authorize" = .ok
      { uri := { scheme? := some "http", authority? := some "auth:8080",
                 path := "/base/p.git/info/refs", query? := some "a=1/authorize" }
        headers := [⟨"gitlab-workhorse", Bytes.ofString "1.2.3"⟩] } := rfl
  have htarget : Uri.target { path := "/p.git/info/refs", query? := some "a=1" } =
      "/p.git/info/refs" ++ Uri.queryText { query? := some "a=1" } := rfl
  obtain ⟨-, -, hread⟩ :=
    request_address hbackend huri htarget ⟨"p.git/info/refs", rfl⟩ (by simp) hbuilt
  exact ⟨_, hbuilt, rfl, rfl, hread⟩

end Delegation

end FrontDoor
