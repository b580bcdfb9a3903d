/-
What a delegated request carries, name by name.

The fields of a delegated request come about in three steps: what describes a body goes if there is
none, a host is put in, a version is put in.  `values_fields` already says what that comes to for a
name in lower case.  Here names are looked up in any case, and the host is said in terms of the
client's request: its first host field or the authority of its URI.

A host is only put in if it may stand in a header.  That is no restriction: the authority of a URI
consists of characters that may.
-/
import FrontDoor.Proofs.Delegation
import FrontDoor.Proofs.Http.UriReader

namespace FrontDoor

open Http

namespace Http.Headers

variable {hs : Headers} {name : String}

/-- No name has a capital letter, as names are kept. -/
def InLowerCase (hs : Headers) : Prop :=
  ∀ h ∈ hs, ∀ c ∈ h.name.toList, c.isUpper = false

/-- The values of a name, in order, whatever the case it is written in. -/
def valuesOf (hs : Headers) (name : String) : List Bytes :=
  (hs.filter fun h => h.name.toLower == name.toLower).map (·.value)

theorem valuesOf_eq (h : hs.InLowerCase) : hs.valuesOf name = hs.values name.toLower := by
  have hsame : ∀ field ∈ hs,
      (field.name.toLower == name.toLower) = (field.name == name.toLower) := by
    intro field hfield
    rw [Text.toLower_eq_self (h field hfield)]
  rw [valuesOf, values, List.filter_congr hsame]

theorem inLowerCase_withoutAll (h : hs.InLowerCase) (names : List String) :
    (hs.withoutAll names).InLowerCase :=
  fun field hfield => h field (List.mem_of_mem_filter hfield)

theorem inLowerCase_set (h : hs.InLowerCase) (hname : ∀ c ∈ name.toList, c.isUpper = false)
    (value : Bytes) : (hs.set name value).InLowerCase := by
  intro field hfield
  rcases List.mem_append.mp hfield with hfield | hfield
  · exact h field (List.mem_of_mem_filter hfield)
  · obtain rfl := List.mem_singleton.mp hfield
    exact hname

end Http.Headers

namespace Delegation

variable {d : Delegation} {inbound built : Request} {body? : Option Bytes} {suffix : String}

theorem inLowerCase_fields (h : inbound.headers.InLowerCase) :
    (d.fields inbound body?).InLowerCase := by
  have hkept : (if body?.isNone then inbound.headers.withoutAll bodyFields
      else inbound.headers).InLowerCase := by
    split
    · exact Headers.inLowerCase_withoutAll h _
    · exact h
  unfold fields
  refine Headers.inLowerCase_set ?_ (by simp [versionField]) _
  split
  · exact Headers.inLowerCase_set hkept (by simp) _
  · exact hkept

/-- The host of a delegated request: the first that the client names in a field, else the
authority of its URI. -/
theorem toList_clientHost? (huri : inbound.uri.WellFormed) :
    (clientHost? inbound).toList =
      match inbound.headers.values "host", inbound.uri.authority? with
      | host :: _, _ => [host]
      | [], some authority => [Bytes.ofString authority]
      | [], none => [] := by
  unfold clientHost? Headers.first?
  cases inbound.headers.values "host" with
  | cons host others => rfl
  | nil =>
      cases hauthority : inbound.uri.authority? with
      | none => rfl
      | some authority => simp [huri.isHeaderValue_authority hauthority]

/-- **A delegated request carries the client's fields with three exceptions**: the version is the
gateway's, the host is the client's, and without a body there is nothing that describes one.  The
rest of the client's request is carried along as far as its method only. -/
theorem request_carries (huri : inbound.uri.WellFormed) (hnames : inbound.headers.InLowerCase)
    (h : d.request inbound body? suffix = .ok built) :
    built.headers.InLowerCase ∧
      (∀ name : String, built.headers.valuesOf name =
        if name.toLower = "gitlab-workhorse" then [Bytes.ofString d.version]
        else if name.toLower = "host" then
          match inbound.headers.valuesOf "host", inbound.uri.authority? with
          | host :: _, _ => [host]
          | [], some authority => [Bytes.ofString authority]
          | [], none => []
        else if body? = none ∧ name.toLower ∈ ["content-type", "content-encoding",
            "content-length", "content-disposition", "accept-encoding", "transfer-encoding"] then []
        else inbound.headers.valuesOf name) ∧
      built.method = inbound.method ∧ built.version = .http11 ∧ built.extensions = [] ∧
      built.body = body?.getD [] := by
  obtain ⟨uri, -, rfl⟩ := request_eq_ok_iff.mp h
  have hbuilt : (d.fields inbound body?).InLowerCase := inLowerCase_fields hnames
  refine ⟨hbuilt, ?_, rfl, rfl, rfl, rfl⟩
  intro name
  have hhost : "host".toLower = "host" := Text.toLower_eq_self (by simp)
  rw [Headers.valuesOf_eq hbuilt, values_fields, toList_clientHost? huri,
    Headers.valuesOf_eq hnames, Headers.valuesOf_eq hnames, hhost]
  rfl

/-- A client that names two hosts and a version of its own. -/
def spoofed : Request where
  method := .post
  uri := { path := "/p.git/git-upload-pack" }
  headers := [⟨"host", Bytes.ofString "a"⟩, ⟨"gitlab-workhorse", Bytes.ofString "9"⟩,
    ⟨"host", Bytes.ofString "b"⟩, ⟨"content-length", Bytes.ofString "4"⟩]

theorem request_carries_spoofed :
    ∃ built : Request,
      (Delegation.mk "http://auth" "1.2.3").request spoofed none "" = .ok built ∧
      built.headers.valuesOf "Host" = [Bytes.ofString "a"] ∧
      built.headers.valuesOf "GitLab-Workhorse" = [Bytes.ofString "1.2.3"] ∧
      built.headers.valuesOf "Content-Length" = [] ∧ built.method = .post := by
  have huri : spoofed.uri.WellFormed :=
    Uri.wellFormed_of_ofText (show Uri.ofText "/p.git/git-upload-pack" = .ok _ from rfl)
  have hnames : spoofed.headers.InLowerCase := by simp [Headers.InLowerCase, spoofed]
  have hbuilt : (Delegation.mk "http://auth" "1.2.3").request spoofed none "" = .ok
      { method := .post
        uri := { scheme? := some "http", authority? := some "auth",
                 path := "/p.git/git-upload-pack" }
        headers := [⟨"host", Bytes.ofString "a"⟩,
          ⟨"gitlab-workhorse", Bytes.ofString "1.2.3"⟩] } := rfl
  obtain ⟨-, hvalues, hmethod, -⟩ := request_carries huri hnames hbuilt
  have hhost : "Host".toLower = "host" := by
    rw [← String.toList_inj, Text.toList_toLower]
    decide
  have hversion : "GitLab-Workhorse".toLower = "gitlab-workhorse" := by
    rw [← String.toList_inj, Text.toList_toLower]
    decide
  have hlength : "Content-Length".toLower = "content-length" := by
    rw [← String.toList_inj, Text.toList_toLower]
    decide
  have hfirst : spoofed.headers.valuesOf "host" = [Bytes.ofString "a", Bytes.ofString "b"] := by
    rw [Headers.valuesOf_eq hnames, Text.toLower_eq_self (by simp)]
    rfl
  refine ⟨_, hbuilt, ?_, ?_, ?_, hmethod⟩
  · rw [hvalues, hhost, hfirst]
    rfl
  · rw [hvalues, hversion]
    rfl
  · rw [hvalues, hlength]
    rfl

end Delegation

end FrontDoor
