/-
When asking the backend lets a request pass.

`Consulted` lists what asking can come to, one constructor for each place where it can end, with
everything that was found out on the way there.  What is said of asking is read off that list and
not off the definition.

A guard then wants a place of the grant.  `Approval.Holds` is the whole condition for passing, as
a list of facts about the request, the answer, the grant and the file system, none of which
mentions a stage.  `call_eq_next_iff` is the statement that a guard's stage passes on exactly
then, and in which scene.
-/
import FrontDoor.Proofs.Delegation
import FrontDoor.Proofs.Exchange
import FrontDoor.Stages.Authorize

namespace FrontDoor

open Http

/-- The request that asks the backend about the exchange. -/
def Scene.question (s : Scene) (suffix : String) : Except Delegation.Problem Request :=
  s.exchange.link.delegation.request s.exchange.request none suffix

/-- The scene once a question was answered. -/
def Scene.heard (s : Scene) (request : Request) (response : Response) : Scene :=
  (s.deliver ⟨request, .answered response⟩).count
    [.authorizations response.status.code, .authorizationTime]

namespace Authorize

open Route (Guard)

variable {guard : Guard} {backend : Backend} {s t : Scene}

/-! ### Reading the grant -/

theorem read_eq_ok_iff {limit : Nat} {payload : Payload} {octets : Bytes} :
    payload.read limit = .ok octets ↔
      payload.complete = true ∧ payload.octets.length ≤ limit ∧ payload.octets = octets := by
  unfold Payload.read
  by_cases hsize : payload.octets.length > limit
  · simp [hsize, Nat.not_le.mpr hsize]
  · cases payload.complete <;> simp [hsize, Nat.not_lt.mp hsize]

/-- A grant is read from a whole body of bounded size that says one. -/
theorem readGrant_eq_ok_iff {payload : Payload} {grant : Grant} :
    readGrant payload = .ok grant ↔
      payload.complete = true ∧ payload.octets.length ≤ maxGrantSize ∧
        Grant.ofDocument payload.octets = .ok grant := by
  unfold readGrant
  cases hread : payload.read maxGrantSize with
  | error failure =>
      constructor
      · intro h
        cases h
      · intro hgiven
        obtain ⟨hcomplete, hsize, -⟩ := hgiven
        rw [read_eq_ok_iff.mpr ⟨hcomplete, hsize, rfl⟩] at hread
        cases hread
  | ok octets =>
      obtain ⟨hcomplete, hsize, rfl⟩ := read_eq_ok_iff.mp hread
      cases h : Grant.ofDocument payload.octets <;> simp [h, hcomplete, hsize]

/-! ### Asking -/

/-- What asking the backend comes to, and the scene it leaves. -/
inductive Consulted (suffix : String) (backend : Backend) (s : Scene) :
    Except Fault (Option Response) → Scene → Prop
  /-- There is no question. -/
  | unasked {problem} (asked : s.question suffix = .error problem) :
      Consulted suffix backend s (.error (.construction problem)) s
  | unanswered {request outcome fault} (asked : s.question suffix = .ok request)
      (sent : backend s.trace.sent request = outcome)
      (silence : outcome.result s.exchange.link.limit = .error fault) :
      Consulted suffix backend s (.error fault) (s.deliver ⟨request, outcome⟩)
  /-- The answer is one for the client. -/
  | declined {request response} (asked : s.question suffix = .ok request)
      (sent : backend s.trace.sent request = .answered response)
      (status : response.status ≠ .ok) :
      Consulted suffix backend s (.ok (some response))
        ((s.heard request response).log .info "Authorization backend did not approve request"
          [("status", response.status.text), ("uri", s.exchange.request.uri.text)])
  /-- The answer approves but says no grant. -/
  | unread {request response fault} (asked : s.question suffix = .ok request)
      (sent : backend s.trace.sent request = .answered response) (status : response.status = .ok)
      (read : readGrant response.payload = .error fault) :
      Consulted suffix backend s (.error fault) (s.heard request response)
  | approved {request response grant} (asked : s.question suffix = .ok request)
      (sent : backend s.trace.sent request = .answered response) (status : response.status = .ok)
      (read : readGrant response.payload = .ok grant) :
      Consulted suffix backend s (.ok none) ((s.heard request response).withGrant grant)

theorem consulted (suffix : String) (backend : Backend) (s : Scene) :
    Consulted suffix backend s (consult suffix backend s).1 (consult suffix backend s).2 := by
  unfold consult
  rw [← Scene.question]
  cases hasked : s.question suffix with
  | error problem => exact .unasked hasked
  | ok request =>
      simp only [Scene.send_eq]
      cases hsent : backend s.trace.sent request with
      | failed failure => exact .unanswered hasked hsent rfl
      | silent => exact .unanswered hasked hsent rfl
      | answered response =>
          simp only [Outcome.result, weigh]
          by_cases hstatus : response.status = .ok
          · rw [if_pos hstatus]
            cases hread : readGrant response.payload with
            | error fault => exact .unread hasked hsent hstatus hread
            | ok grant => exact .approved hasked hsent hstatus hread
          · rw [if_neg hstatus]
            exact .declined hasked hsent hstatus

/-- Asking comes to what is listed and to nothing else. -/
theorem consult_of_consulted {suffix : String} {result : Except Fault (Option Response)}
    (h : Consulted suffix backend s result t) : consult suffix backend s = (result, t) := by
  unfold consult
  rw [← Scene.question]
  cases h with
  | unasked asked => rw [asked]
  | unanswered asked sent silence => simp only [asked, Scene.send_eq, sent, silence]
  | declined asked sent status =>
      simp only [asked, Scene.send_eq, sent, Outcome.result, weigh, if_neg status]
      rfl
  | unread asked sent status read =>
      simp only [asked, Scene.send_eq, sent, Outcome.result, weigh, if_pos status, read]
      rfl
  | approved asked sent status read =>
      simp only [asked, Scene.send_eq, sent, Outcome.result, weigh, if_pos status, read]
      rfl

/-- The backend approves with a grant that can be read. -/
theorem consult_eq_none_iff {suffix : String} :
    consult suffix backend s = (.ok none, t) ↔
      ∃ request response grant, s.question suffix = .ok request ∧
        backend s.trace.sent request = .answered response ∧ response.status = .ok ∧
        readGrant response.payload = .ok grant ∧
        t = (s.heard request response).withGrant grant := by
  constructor
  · intro h
    have hconsulted := consulted suffix backend s
    rw [h] at hconsulted
    cases hconsulted with
    | approved asked sent status read => exact ⟨_, _, _, asked, sent, status, read, rfl⟩
  · intro hgiven
    obtain ⟨request, response, grant, asked, sent, status, read, rfl⟩ := hgiven
    exact consult_of_consulted (.approved asked sent status read)

/-- All that is sent is the question, and it is sent if there is one. -/
theorem deliveries_consult (suffix : String) (backend : Backend) (s : Scene) :
    (∃ problem, s.question suffix = .error problem ∧
      (consult suffix backend s).2.trace.deliveries = s.trace.deliveries) ∨
    ∃ request, s.question suffix = .ok request ∧
      (consult suffix backend s).2.trace.deliveries =
        s.trace.deliveries ++ [⟨request, backend s.trace.sent request⟩] := by
  have hconsulted := consulted suffix backend s
  generalize consult suffix backend s = result at hconsulted
  obtain ⟨answer, t⟩ := result
  cases hconsulted with
  | unasked asked => exact .inl ⟨_, asked, rfl⟩
  | unanswered asked sent silence => exact .inr ⟨_, asked, by rw [sent]⟩
  | declined asked sent status => exact .inr ⟨_, asked, by rw [sent]; rfl⟩
  | unread asked sent status read => exact .inr ⟨_, asked, by rw [sent]; rfl⟩
  | approved asked sent status read => exact .inr ⟨_, asked, by rw [sent]; rfl⟩

/-- Asking leaves the file system alone. -/
theorem tree_consult (suffix : String) (backend : Backend) (s : Scene) :
    (consult suffix backend s).2.tree = s.tree := by
  have hconsulted := consulted suffix backend s
  generalize consult suffix backend s = result at hconsulted
  obtain ⟨answer, t⟩ := result
  cases hconsulted <;> rfl

/-! ### The place that is asked for -/

/-- The grant has the fields that the guard needs, and this is the place they name. -/
def Provides : Guard → Grant → String → Prop
  | .repository, grant, path => grant.repoPath = some path
  | .lfsObject, grant, path => grant.storeLfsPath = some path ∧ grant.lfsOid ≠ none
  | .artifacts, grant, path => grant.tempPath = some path

/-- The place is a repository, or the directories on the way to it can be made. -/
def Usable : Guard → Disk.Tree → String → Prop
  | .repository, tree, path => (Repository.probe tree path).1 = true
  | .lfsObject, tree, path | .artifacts, tree, path =>
    (tree.makeDirectories privateMode path).2 = .ok ()

theorem place_eq_ok_iff {grant : Grant} {path : String} :
    place guard grant = .ok path ↔ Provides guard grant path := by
  cases guard with
  | repository => cases h : grant.repoPath <;> simp [place, Provides, h]
  | lfsObject =>
      cases hpath : grant.storeLfsPath <;> cases hoid : grant.lfsOid <;>
        simp [place, Provides, hpath, hoid]
  | artifacts => cases h : grant.tempPath <;> simp [place, Provides, h]

theorem prepare_eq_ok_iff {path : String} :
    prepare guard s path = (.ok (), t) ↔
      Usable guard s.tree path ∧ t = (prepare guard s path).2 := by
  cases guard with
  | repository =>
      cases h : (Repository.probe s.tree path).1 <;> simp [prepare, Usable, h, eq_comm]
  | lfsObject =>
      cases h : (s.tree.makeDirectories privateMode path).2 <;>
        simp [prepare, Usable, h, Except.mapError, eq_comm]
  | artifacts =>
      cases h : (s.tree.makeDirectories privateMode path).2 <;>
        simp [prepare, Usable, h, Except.mapError, eq_comm]

@[simp] theorem exchange_prepare {path : String} :
    (prepare guard s path).2.exchange = s.exchange := by
  cases guard <;> rfl

@[simp] theorem deliveries_prepare {path : String} :
    (prepare guard s path).2.trace.deliveries = s.trace.deliveries := by
  cases guard <;> rfl

/-! ### What a guard does with a grant -/

/-- The guard's decision once the backend has approved. -/
def accept (guard : Guard) (s : Scene) : Flow Response Fault × Scene :=
  match place guard s.exchange.grant with
  | .error fault => (.fail fault, s)
  | .ok path =>
    match prepare guard s path with
    | (.error fault, s) => (.fail fault, s)
    | (.ok (), s) => (.next, s)

theorem call_eq (guard : Guard) (backend : Backend) (s : Scene) :
    call guard backend s =
      match consult (suffix guard) backend s with
      | (.error fault, s) => (.fail fault, s)
      | (.ok (some response), s) => (.respond response, s)
      | (.ok none, s) => accept guard s := by
  rw [call]
  rfl

theorem accept_eq_next_iff :
    accept guard s = (.next, t) ↔
      ∃ path, Provides guard s.exchange.grant path ∧ Usable guard s.tree path ∧
        t = (prepare guard s path).2 := by
  unfold accept
  constructor
  · intro h
    cases hplace : place guard s.exchange.grant with
    | error fault =>
        rw [hplace] at h
        cases h
    | ok path =>
        simp only [hplace] at h
        rcases hprepare : prepare guard s path with ⟨fault | _, u⟩
        · rw [hprepare] at h
          cases h
        · rw [hprepare] at h
          obtain ⟨husable, rfl⟩ := prepare_eq_ok_iff.mp hprepare
          obtain ⟨-, rfl⟩ := Prod.mk.inj h
          exact ⟨path, place_eq_ok_iff.mp hplace, husable, rfl⟩
  · intro hgiven
    obtain ⟨path, hprovides, husable, rfl⟩ := hgiven
    have hprepare := prepare_eq_ok_iff.mpr ⟨husable, rfl⟩
    simp only [place_eq_ok_iff.mpr hprovides]
    rw [hprepare]

/-- What a guard does with a grant changes the file system and the log at most. -/
theorem exists_accept_eq (guard : Guard) (s : Scene) :
    ∃ tree records, (accept guard s).2 = { s with tree, trace := { s.trace with records } } := by
  unfold accept
  cases place guard s.exchange.grant with
  | error fault => exact ⟨_, _, rfl⟩
  | ok path =>
      have hprepare : ∃ tree records,
          (prepare guard s path).2 = { s with tree, trace := { s.trace with records } } := by
        cases guard <;> exact ⟨_, _, rfl⟩
      dsimp only
      generalize prepare guard s path = result at hprepare ⊢
      obtain ⟨fault | _, t⟩ := result
      · exact hprepare
      · exact hprepare

@[simp] theorem deliveries_accept :
    (accept guard s).2.trace.deliveries = s.trace.deliveries := by
  obtain ⟨tree, records, h⟩ := exists_accept_eq guard s
  rw [h]

/-- A guard's stage leaves what asking leaves, but for the file system and the log. -/
theorem exists_call_eq (guard : Guard) (backend : Backend) (s : Scene) :
    ∃ tree records,
      (call guard backend s).2 =
        { (consult (suffix guard) backend s).2 with
          tree
          trace := { (consult (suffix guard) backend s).2.trace with records } } := by
  rw [call_eq]
  rcases consult (suffix guard) backend s with ⟨fault | _ | response, t⟩
  · exact ⟨_, _, rfl⟩
  · exact exists_accept_eq guard t
  · exact ⟨_, _, rfl⟩

/-- Whatever a guard's stage does, it sends what asking sends. -/
theorem deliveries_call :
    (call guard backend s).2.trace.deliveries =
      (consult (suffix guard) backend s).2.trace.deliveries := by
  obtain ⟨tree, records, h⟩ := exists_call_eq guard backend s
  rw [h]

/-- Nothing that a guard's stage sends has a body. -/
theorem body_of_mem_sent_call {request : Request}
    (h : request ∈ (call guard backend s).2.trace.sent) :
    request ∈ s.trace.sent ∨ request.body = [] := by
  rw [Trace.sent, deliveries_call] at h
  rcases deliveries_consult (suffix guard) backend s with ⟨problem, -, hd⟩ | ⟨q, hq, hd⟩
  · rw [hd] at h
    exact .inl h
  · rw [hd, List.map_append] at h
    rcases List.mem_append.mp h with h | h
    · exact .inl h
    · obtain rfl := List.mem_singleton.mp h
      exact .inr (Delegation.body_of_request hq)

/-! ### Two scenes side by side

What the two scenes have in common is `R`, whatever it is; a guard keeps it and decides alike if
its steps do.
-/

section SideBySide

variable {R : Scene → Scene → Prop} {other : Backend}

theorem accept_congr (h : R s t) (hgrant : s.exchange.grant = t.exchange.grant)
    (hprepare : ∀ path, (prepare guard s path).1 = (prepare guard t path).1 ∧
      R (prepare guard s path).2 (prepare guard t path).2) :
    (accept guard s).1 = (accept guard t).1 ∧ R (accept guard s).2 (accept guard t).2 := by
  unfold accept
  rw [hgrant]
  cases place guard t.exchange.grant with
  | error fault => exact ⟨rfl, h⟩
  | ok path =>
      have hprepared := hprepare path
      dsimp only
      generalize prepare guard s path = left at hprepared ⊢
      generalize prepare guard t path = right at hprepared ⊢
      obtain ⟨done, s'⟩ := left
      obtain ⟨_, t'⟩ := right
      obtain ⟨rfl, h'⟩ := hprepared
      cases done with
      | error fault => exact ⟨rfl, h'⟩
      | ok => exact ⟨rfl, h'⟩

theorem call_congr
    (hconsult : (consult (suffix guard) backend s).1 = (consult (suffix guard) other t).1 ∧
      R (consult (suffix guard) backend s).2 (consult (suffix guard) other t).2)
    (haccept : ∀ s t, R s t →
      (accept guard s).1 = (accept guard t).1 ∧ R (accept guard s).2 (accept guard t).2) :
    (call guard backend s).1 = (call guard other t).1 ∧
      R (call guard backend s).2 (call guard other t).2 := by
  rw [call_eq, call_eq]
  generalize consult (suffix guard) backend s = left at hconsult ⊢
  generalize consult (suffix guard) other t = right at hconsult ⊢
  obtain ⟨answer, s⟩ := left
  obtain ⟨_, t⟩ := right
  obtain ⟨rfl, h⟩ := hconsult
  rcases answer with fault | _ | response
  · exact ⟨rfl, h⟩
  · exact haccept s t h
  · exact ⟨rfl, h⟩

end SideBySide

/-! ### Passing -/

/-- What an approval is made of. -/
structure Approval where
  /-- The request that was sent. -/
  request : Request
  response : Response
  grant : Grant
  /-- The place that the grant names. -/
  path : String

/-- The guard is satisfied: the backend, which answers as given, was asked about the client's
request and approved it, and what it granted is there or can be made. -/
structure Approval.Holds (a : Approval) (guard : Guard) (answer : Request → Outcome)
    (delegation : Delegation) (inbound : Request) (tree : Disk.Tree) : Prop where
  asked : delegation.request inbound none (suffix guard) = .ok a.request
  answered : answer a.request = .answered a.response
  status : a.response.status.code = 200
  complete : a.response.payload.complete = true
  size : a.response.payload.octets.length ≤ 1048576
  decoded : Grant.ofDocument a.response.payload.octets = .ok a.grant
  provided : Provides guard a.grant a.path
  usable : Usable guard tree a.path

/-- The scene behind a guard that is satisfied. -/
def Approval.scene (a : Approval) (guard : Guard) (s : Scene) : Scene :=
  (prepare guard ((s.heard a.request a.response).withGrant a.grant) a.path).2

theorem Approval.exchange_scene (a : Approval) :
    (a.scene guard s).exchange = { s.exchange with grant := a.grant } := by
  simp [scene, Scene.heard]

theorem Approval.deliveries_scene (a : Approval) :
    (a.scene guard s).trace.deliveries =
      s.trace.deliveries ++ [⟨a.request, .answered a.response⟩] := by
  simp [scene, Scene.heard]

theorem status_eq_ok_iff {status : Status} : status = .ok ↔ status.code = 200 := by
  obtain ⟨code⟩ := status
  simp [Status.ok]

/-- A guard's stage passes on exactly when there is an approval. -/
theorem call_eq_next_iff :
    call guard backend s = (.next, t) ↔
      ∃ a : Approval,
        a.Holds guard (backend s.trace.sent) s.exchange.link.delegation s.exchange.request
          s.tree ∧
        t = a.scene guard s := by
  rw [call_eq]
  constructor
  · intro h
    rcases hconsult : consult (suffix guard) backend s with ⟨fault | _ | response, u⟩
    · rw [hconsult] at h
      cases h
    · rw [hconsult] at h
      obtain ⟨request, response, grant, hasked, hsent, hstatus, hread, rfl⟩ :=
        consult_eq_none_iff.mp hconsult
      obtain ⟨hcomplete, hsize, hdecoded⟩ := readGrant_eq_ok_iff.mp hread
      obtain ⟨path, hprovides, husable, rfl⟩ := accept_eq_next_iff.mp h
      exact ⟨⟨request, response, grant, path⟩,
        ⟨hasked, hsent, status_eq_ok_iff.mp hstatus, hcomplete, hsize, hdecoded, hprovides,
          husable⟩, rfl⟩
    · rw [hconsult] at h
      cases h
  · intro hgiven
    obtain ⟨a, ha, rfl⟩ := hgiven
    have hconsult : consult (suffix guard) backend s =
        (.ok none, (s.heard a.request a.response).withGrant a.grant) :=
      consult_eq_none_iff.mpr ⟨_, _, _, ha.asked, ha.answered, status_eq_ok_iff.mpr ha.status,
        readGrant_eq_ok_iff.mpr ⟨ha.complete, ha.size, ha.decoded⟩, rfl⟩
    rw [hconsult]
    exact accept_eq_next_iff.mpr ⟨a.path, ha.provided, ha.usable, rfl⟩

end Authorize

end FrontDoor
