/-
What a client learns of a failure: its status.

A fault carries what went wrong in full, down to the texts of readers and of the file system, and
its message goes into the log.  The response that is made of it reads no more than the status, and
what surrounds the dispatch adds the identifier of the request and the length of a text that is
settled by the status.  `serve_of_fault` writes that response down, so two failures with the same
status cannot be told apart, wherever they come from (`faults_disclose_status`).
-/
import FrontDoor.Proofs.Gateway.Correlation

namespace FrontDoor

open Http
open Route (Endpoint)

/-- No route is for a method whose response has no body. -/
theorem Route.Endpoint.bodied (e : Endpoint) : e.method ≠ .head ∧ e.method ≠ .connect := by
  cases e <;> exact ⟨by decide, by decide⟩

namespace Gateway

variable {link link₁ link₂ : Link} {fresh : String} {backend backend₁ backend₂ : Backend}
variable {tree tree₁ tree₂ : Disk.Tree} {request : Request} {fault fault₁ fault₂ : Fault}

/-- The response to a request with the identifier, that says the text and no more. -/
def bare (id : Bytes) (status : Status) (text : String) : Response where
  status := status
  headers :=
    [⟨"content-type", Bytes.ofString "text/plain; charset=utf-8"⟩, ⟨requestIdField, id⟩,
      ⟨"content-length", Bytes.ofString (toString (Bytes.ofString text).length)⟩]
  payload := { octets := Bytes.ofString text }

theorem framed_correlated_plain {method : Method} (hhead : method ≠ .head)
    (hconnect : method ≠ .connect) (fresh : String) (request : Request) (status : Status)
    (text : String) :
    framed method (correlated (identified fresh request) (.plain status text)) =
      bare (identifier fresh request) status text := by
  rw [correlated_eq (first?_identified fresh request), framed, if_neg (by simp [hconnect])]
  dsimp only
  rw [if_neg hhead]
  rfl

/-- A fault with a route was met on behalf of a request whose response has a body. -/
theorem method_of_fault (h : (git .passThrough link).fault? backend tree request = some fault) :
    request.method ≠ .head ∧ request.method ≠ .connect := by
  obtain ⟨ending, hending, -⟩ := Option.bind_eq_some_iff.mp h
  obtain ⟨route, hroute, -⟩ := ending?_eq_some_iff.mp hending
  obtain ⟨e, hfits, -⟩ := Route.exists_fits_of_select? hroute
  rw [← hfits.1]
  exact e.bodied

/-- The response made from a fault has its status, the reason phrase of that, and the identifier of
the request. -/
theorem serve_of_fault
    (h : (git .passThrough link).fault? backend tree (identified fresh request) = some fault) :
    ∃ phrase, fault.status.reason? = some phrase ∧
      ((git .passThrough link).serve fresh backend tree request).1 =
        bare (identifier fresh request) fault.status phrase := by
  obtain ⟨hhead, hconnect⟩ := method_of_fault h
  obtain ⟨phrase, hphrase⟩ : ∃ phrase, fault.status.reason? = some phrase := by
    cases fault <;> exact ⟨_, rfl⟩
  have hresponse : fault.response = .plain fault.status phrase := by
    rw [Fault.response, hphrase, Option.getD_some]
  refine ⟨phrase, hphrase, ?_⟩
  show framed request.method (correlated (identified fresh request)
    ((git .passThrough link).dispatch backend tree (identified fresh request)).1) = _
  rw [dispatch_of_fault h, hresponse]
  exact framed_correlated_plain hhead hconnect fresh request fault.status phrase

/-- **Of a failure the client learns the status.**  Whatever goes wrong with a request, with
whatever backend, limit and file system: if two of its runs end in faults of the same status, their
responses are the same, and say no more than that status, its reason phrase and the identifier of
the request. -/
theorem faults_disclose_status
    (h₁ : (git .passThrough link₁).fault? backend₁ tree₁ (identified fresh request) = some fault₁)
    (h₂ : (git .passThrough link₂).fault? backend₂ tree₂ (identified fresh request) = some fault₂)
    (hstatus : fault₁.status = fault₂.status) :
    ((git .passThrough link₁).serve fresh backend₁ tree₁ request).1 =
        ((git .passThrough link₂).serve fresh backend₂ tree₂ request).1 ∧
      ∃ phrase, fault₁.status.reason? = some phrase ∧
        ((git .passThrough link₁).serve fresh backend₁ tree₁ request).1 =
          { status := fault₁.status
            headers :=
              [⟨"content-type", Bytes.ofString "text/plain; charset=utf-8"⟩,
                ⟨"x-request-id", identifier fresh request⟩,
                ⟨"content-length", Bytes.ofString (toString (Bytes.ofString phrase).length)⟩]
            payload := { octets := Bytes.ofString phrase } } := by
  obtain ⟨phrase, hphrase, hserve₁⟩ := serve_of_fault h₁
  obtain ⟨phrase₂, hphrase₂, hserve₂⟩ := serve_of_fault h₂
  obtain rfl : phrase₂ = phrase := by
    rw [← hstatus, hphrase] at hphrase₂
    exact (Option.some.inj hphrase₂).symm
  refine ⟨?_, phrase₂, hphrase, hserve₁⟩
  rw [hserve₁, hserve₂, hstatus]

/-- One backend approves of a fetch and names no repository; the other's answer is no document. -/
theorem faults_disclose_status_fetch :
    ((git .passThrough ⟨⟨"http://auth", "1"⟩, .ofSeconds 1⟩).serve "u"
      (fun _ _ => .answered { payload := { octets := Bytes.ofString "[]" } }) {}
      { uri := { path := "/p.git/info/refs" } }).1 =
    ((git .passThrough ⟨⟨"http://auth", "1"⟩, .ofSeconds 1⟩).serve "u"
      (fun _ _ => .answered
        { headers := [⟨"x-request-id", Bytes.ofString "secret"⟩]
          payload := { octets := Bytes.ofString "secret" } }) {}
      { uri := { path := "/p.git/info/refs" } }).1 := by
  have h₁ : (git .passThrough ⟨⟨"http://auth", "1"⟩, .ofSeconds 1⟩).fault?
      (fun _ _ => .answered { payload := { octets := Bytes.ofString "[]" } }) {}
      (identified "u" { uri := { path := "/p.git/info/refs" } }) =
        some (.missingField "RepoPath") := by
    decide +kernel
  have h₂ : ∃ problem, (git .passThrough ⟨⟨"http://auth", "1"⟩, .ofSeconds 1⟩).fault?
      (fun _ _ => .answered
        { headers := [⟨"x-request-id", Bytes.ofString "secret"⟩]
          payload := { octets := Bytes.ofString "secret" } }) {}
      (identified "u" { uri := { path := "/p.git/info/refs" } }) = some (.decode problem) :=
    ⟨_, rfl⟩
  obtain ⟨problem, h₂⟩ := h₂
  exact (faults_disclose_status h₁ h₂ rfl).1

end Gateway

end FrontDoor
