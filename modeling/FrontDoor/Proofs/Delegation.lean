/-
What the client's payload does to a question: nothing.

A question is a delegated request without a body.  `values_fields` says name by name what its
fields are, and the six fields that describe a body are not among what it reads.  Two requests
that differ in their payload only (`SameButPayload`) therefore lead to questions that say the
same (`request_of_sameButPayload`), or to the same reason why there is none.

Questions are compared by what their fields map names to, since the order of fields with
different names means nothing.

There is a delegation to begin with exactly if the version name can be sent (`Sendable`).
-/
import FrontDoor.Delegation
import FrontDoor.Proofs.Http.Header

namespace FrontDoor

open Http

namespace Http.Request

/-- The two requests say the same; only the order of fields with different names may differ. -/
structure Alike (r₁ r₂ : Request) : Prop where
  method : r₁.method = r₂.method
  uri : r₁.uri = r₂.uri
  version : r₁.version = r₂.version
  headers : r₁.headers.Alike r₂.headers
  body : r₁.body = r₂.body
  extensions : r₁.extensions = r₂.extensions

/-- The two requests have the same method, URI and fields, except for their bodies and for the
fields that describe a body. -/
structure SameButPayload (r₁ r₂ : Request) : Prop where
  method : r₁.method = r₂.method
  uri : r₁.uri = r₂.uri
  headers : ∀ name ∉ Delegation.bodyFields, r₁.headers.values name = r₂.headers.values name

end Http.Request

namespace Delegation

variable {d : Delegation} {inbound r₁ r₂ : Request} {body? : Option Bytes} {suffix : String}

/-! ### Version names -/

/-- A version name can be sent: it is not empty, and each of its octets is a tab or one from the
space on other than the delete character. -/
def Sendable (version : String) : Prop :=
  version ≠ "" ∧ ∀ b ∈ Bytes.ofString version, b = 0x09 ∨ 0x20 ≤ b ∧ b ≠ 0x7f

variable {backend version : String}

theorem sendable_iff :
    Sendable version ↔ version ≠ "" ∧ isHeaderValue (Bytes.ofString version) = true := by
  simp [Sendable, isHeaderValue]

instance (version : String) : Decidable (Sendable version) :=
  decidable_of_iff _ sendable_iff.symm

theorem not_sendable_iff :
    ¬Sendable version ↔ version = "" ∨ isHeaderValue (Bytes.ofString version) = false := by
  rw [sendable_iff, Decidable.not_and_iff_not_or_not, Decidable.not_not, Bool.not_eq_true]

theorem to?_of_sendable (backend : String) (h : Sendable version) :
    to? backend version = .ok ⟨backend, version⟩ := by
  obtain ⟨hne, hvalue⟩ := sendable_iff.mp h
  rw [to?, if_neg (by simpa using hne), if_pos hvalue]

theorem to?_of_not_sendable (backend : String) (h : ¬Sendable version) :
    to? backend version = .error (.invalidVersion version) := by
  rcases not_sendable_iff.mp h with rfl | hvalue
  · rfl
  · rw [to?, hvalue]
    exact ite_self _

theorem request_eq_ok_iff {request : Request} :
    d.request inbound body? suffix = .ok request ↔
      ∃ uri, completeUri (d.address inbound suffix) = .ok uri ∧
        request =
          { method := inbound.method, uri, headers := d.fields inbound body?
            body := body?.getD [] } := by
  unfold Delegation.request
  cases completeUri (d.address inbound suffix) <;> simp [Except.map, eq_comm]

/-- A question carries no body. -/
theorem body_of_request {request : Request} (h : d.request inbound none suffix = .ok request) :
    request.body = [] := by
  obtain ⟨uri, -, rfl⟩ := request_eq_ok_iff.mp h
  rfl

/-- Without a host there is no host field either. -/
theorem values_host_of_none (h : clientHost? inbound = none) :
    inbound.headers.values "host" = [] := by
  unfold clientHost? at h
  split at h
  · cases h
  · rename_i hfirst
    exact List.head?_eq_none_iff.mp hfirst

/-- What the fields of a delegated request map a name to. -/
theorem values_fields {name : String} :
    (d.fields inbound body?).values name =
      if name = versionField then [Bytes.ofString d.version]
      else if name = "host" then (clientHost? inbound).toList
      else if body? = none ∧ name ∈ bodyFields then []
      else inbound.headers.values name := by
  have hkept : (if body?.isNone then inbound.headers.withoutAll bodyFields
      else inbound.headers).values name =
        if body? = none ∧ name ∈ bodyFields then [] else inbound.headers.values name := by
    cases body? <;> simp [Headers.values_withoutAll]
  unfold fields
  simp only [Headers.values_set]
  by_cases hversion : name = versionField
  · rw [if_pos hversion, if_pos hversion]
  rw [if_neg hversion, if_neg hversion]
  cases hhost : clientHost? inbound with
  | some host =>
      simp only [Headers.values_set, hkept]
      rfl
  | none =>
      simp only [hkept]
      by_cases h : name = "host"
      · subst h
        simp [values_host_of_none hhost]
      · rw [if_neg h]

/-! ### Two requests with different payloads -/

theorem clientHost?_of_sameButPayload (h : r₁.SameButPayload r₂) :
    clientHost? r₁ = clientHost? r₂ := by
  have hhost : r₁.headers.values "host" = r₂.headers.values "host" :=
    h.headers "host" (by decide)
  simp only [clientHost?, Headers.first?, hhost, h.uri]

theorem fields_of_sameButPayload (h : r₁.SameButPayload r₂) :
    (d.fields r₁ none).Alike (d.fields r₂ none) := by
  intro name
  rw [values_fields, values_fields, clientHost?_of_sameButPayload h]
  by_cases hbody : name ∈ bodyFields
  · simp [hbody]
  · simp [hbody, h.headers name hbody]

/-- Requests that differ in their payload only lead to alike questions, or to the same problem. -/
theorem request_of_sameButPayload (h : r₁.SameButPayload r₂) (d : Delegation)
    (suffix : String) :
    (∃ problem, d.request r₁ none suffix = .error problem ∧
      d.request r₂ none suffix = .error problem) ∨
    ∃ q₁ q₂, d.request r₁ none suffix = .ok q₁ ∧ d.request r₂ none suffix = .ok q₂ ∧
      q₁.Alike q₂ := by
  have haddress : d.address r₁ suffix = d.address r₂ suffix := by
    rw [address, address, h.uri]
  unfold Delegation.request
  rw [haddress]
  cases completeUri (d.address r₂ suffix) with
  | error problem => exact .inl ⟨problem, rfl, rfl⟩
  | ok uri =>
      exact .inr ⟨_, _, rfl, rfl, h.method, rfl, rfl, fields_of_sameButPayload h, rfl, rfl⟩

end Delegation

end FrontDoor
