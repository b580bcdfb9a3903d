/-
Whose grant an exchange holds.

Asking the backend is all or nothing.  If the backend approves (`Approves`), its grant takes the
place of the one before and no field of that one is left; if not, the exchange is as it was
(`exchange_consult_of_approves`, `exchange_consult_of_not_approves`).  What a guard does with a
grant it then has does not touch the exchange, so the same is true of the guard's stage.

Over a run this makes the grant that of the last approval.  `LastGranted` says so of a list of
calls; one call satisfies it (`lastGranted_call`), and two lists that do so do it together
(`LastGranted.append`), which is all that a run asks for (`Pipeline.run_induction`).
-/
import FrontDoor.Proofs.Gateway.Entrance
import FrontDoor.Proofs.Pipeline.Append

namespace FrontDoor

open Http

/-- Forwarding takes the body out of the exchange and leaves the rest but deliveries and the log. -/
theorem Forward.exists_call_eq (backend : Backend) (s : Scene) :
    ∃ deliveries records,
      (Forward.call backend s).2 =
        { s.takeBody.2 with trace := { s.trace with deliveries, records } } := by
  cases h : s.takeBody.2.exchange.link.delegation.request s.takeBody.2.exchange.request
    (some s.takeBody.1) "" with
  | error problem =>
      simp only [Forward.call, h]
      exact ⟨_, _, rfl⟩
  | ok request =>
      simp only [Forward.call, h, Scene.send_eq]
      cases (backend s.takeBody.2.trace.sent request).result
        s.takeBody.2.exchange.link.limit with
      | error fault => exact ⟨_, _, rfl⟩
      | ok response => exact ⟨_, _, rfl⟩

namespace Authorize

open Route (Guard)
open Pipeline (calls run)

variable {guard : Guard} {backend : Backend} {s : Scene} {suffix : String}
variable {grant first second third : Grant} {stage : Handler} {stages : List Handler}

/-- Asked about the exchange, the backend approves with the grant. -/
def Approves (suffix : String) (backend : Backend) (s : Scene) (grant : Grant) : Prop :=
  ∃ request response, s.question suffix = .ok request ∧
    backend s.trace.sent request = .answered response ∧ response.status.code = 200 ∧
    response.payload.complete = true ∧ response.payload.octets.length ≤ 1048576 ∧
    Grant.ofDocument response.payload.octets = .ok grant

/-! ### Asking once -/

theorem consult_of_approves (h : Approves suffix backend s grant) :
    ∃ request response,
      consult suffix backend s = (.ok none, (s.heard request response).withGrant grant) := by
  obtain ⟨request, response, hasked, hsent, hstatus, hcomplete, hsize, hdecoded⟩ := h
  exact ⟨request, response, consult_of_consulted (.approved hasked hsent
    (status_eq_ok_iff.mpr hstatus) (readGrant_eq_ok_iff.mpr ⟨hcomplete, hsize, hdecoded⟩))⟩

theorem exists_approves_of_consult (h : (consult suffix backend s).1 = .ok none) :
    ∃ grant, Approves suffix backend s grant := by
  have hconsult : consult suffix backend s = (.ok none, (consult suffix backend s).2) :=
    Prod.ext h rfl
  obtain ⟨request, response, grant, hasked, hsent, hstatus, hread, -⟩ :=
    consult_eq_none_iff.mp hconsult
  obtain ⟨hcomplete, hsize, hdecoded⟩ := readGrant_eq_ok_iff.mp hread
  exact ⟨grant, request, response, hasked, hsent, status_eq_ok_iff.mp hstatus, hcomplete, hsize,
    hdecoded⟩

theorem exchange_consult_of_approves (h : Approves suffix backend s grant) :
    (consult suffix backend s).2.exchange = { s.exchange with grant } := by
  obtain ⟨request, response, hconsult⟩ := consult_of_approves h
  rw [hconsult]
  rfl

theorem exchange_consult_of_not_approves (h : ∀ grant, ¬Approves suffix backend s grant) :
    (consult suffix backend s).2.exchange = s.exchange := by
  have hconsulted := consulted suffix backend s
  have hnone : (consult suffix backend s).1 ≠ .ok none := by
    intro hnone
    obtain ⟨grant, hgrant⟩ := exists_approves_of_consult hnone
    exact h grant hgrant
  generalize consult suffix backend s = result at hconsulted hnone
  obtain ⟨answer, t⟩ := result
  cases hconsulted with
  | unasked asked => rfl
  | unanswered asked sent silence => rfl
  | declined asked sent status => rfl
  | unread asked sent status read => rfl
  | approved asked sent status read => exact absurd rfl hnone

/-! ### A guard's stage -/

/-- Whatever a guard's stage does, the exchange is as asking leaves it. -/
theorem exchange_call :
    (call guard backend s).2.exchange =
      (consult (Authorize.suffix guard) backend s).2.exchange := by
  obtain ⟨tree, records, h⟩ := exists_call_eq guard backend s
  rw [h]

theorem handler_injective {guard' : Guard} (h : handler guard = handler guard') :
    guard = guard' := by
  have hname : stageName guard = stageName guard' := congrArg Stage.name h
  cases guard <;> cases guard' <;> simp [stageName] at hname ⊢

/-! ### Over a run -/

/-- The call is that of a guard's stage, and the backend approves with the grant. -/
def GrantedBy (backend : Backend) (call : Handler × Scene) (grant : Grant) : Prop :=
  ∃ guard, call.1 = handler guard ∧ Approves (Authorize.suffix guard) backend call.2 grant

/-- The grant is that of the last approval among the calls; without any it is the first one. -/
def LastGranted (backend : Backend) (first : Grant) (made : List (Handler × Scene))
    (grant : Grant) : Prop :=
  (grant = first ∧ ∀ call ∈ made, ∀ other, ¬GrantedBy backend call other) ∨
    ∃ before call after, made = before ++ call :: after ∧ GrantedBy backend call grant ∧
      ∀ later ∈ after, ∀ other, ¬GrantedBy backend later other

/-- The stage never changes what is granted. -/
def KeepsGrant (stage : Handler) : Prop :=
  ∀ backend s, (stage.call backend s).2.exchange.grant = s.exchange.grant

theorem keepsGrant_forward : KeepsGrant Forward.handler := by
  intro backend s
  obtain ⟨deliveries, records, h⟩ := Forward.exists_call_eq backend s
  show (Forward.call backend s).2.exchange.grant = s.exchange.grant
  rw [h]
  rfl

theorem LastGranted.append {made more : List (Handler × Scene)}
    (h : LastGranted backend first made second) (hmore : LastGranted backend second more third) :
    LastGranted backend first (made ++ more) third := by
  rcases hmore with ⟨rfl, hnone⟩ | ⟨before, call, after, rfl, hgranted, hnone⟩
  · rcases h with ⟨rfl, hnone'⟩ | ⟨before, call, after, rfl, hgranted, hnone'⟩
    · exact .inl ⟨rfl, List.forall_mem_append.mpr ⟨hnone', hnone⟩⟩
    · exact .inr ⟨before, call, after ++ more, by simp, hgranted,
        List.forall_mem_append.mpr ⟨hnone', hnone⟩⟩
  · exact .inr ⟨made ++ before, call, after, by simp, hgranted, hnone⟩

theorem lastGranted_call (backend : Backend) (s : Scene)
    (h : (∃ guard, stage = handler guard) ∨ KeepsGrant stage) :
    LastGranted backend s.exchange.grant [(stage, s)]
      (stage.call backend s).2.exchange.grant := by
  by_cases hguard : ∃ guard, stage = handler guard
  · obtain ⟨guard, rfl⟩ := hguard
    have hcall : ((handler guard).call backend s).2.exchange =
        (consult (Authorize.suffix guard) backend s).2.exchange := exchange_call
    rw [hcall]
    by_cases happroved : ∃ grant, Approves (Authorize.suffix guard) backend s grant
    · obtain ⟨grant, hgrant⟩ := happroved
      rw [exchange_consult_of_approves hgrant]
      exact .inr ⟨[], (handler guard, s), [], rfl, ⟨guard, rfl, hgrant⟩, by simp⟩
    · rw [exchange_consult_of_not_approves (not_exists.mp happroved)]
      refine .inl ⟨rfl, ?_⟩
      intro made hmade other hother
      obtain rfl := List.mem_singleton.mp hmade
      obtain ⟨guard', hsame, hgrant⟩ := hother
      obtain rfl := handler_injective hsame
      exact happroved ⟨other, hgrant⟩
  · rcases h with h | h
    · exact absurd h hguard
    · refine .inl ⟨h backend s, ?_⟩
      intro made hmade other hother
      obtain rfl := List.mem_singleton.mp hmade
      obtain ⟨guard, hsame, -⟩ := hother
      exact hguard ⟨guard, hsame⟩

/-- What a run leaves granted is what the last approval granted. -/
theorem lastGranted_run (backend : Backend) (s : Scene)
    (h : ∀ stage ∈ stages, (∃ guard, stage = handler guard) ∨ KeepsGrant stage) :
    LastGranted backend s.exchange.grant (calls backend s stages)
      (run backend s stages).state.exchange.grant := by
  refine Pipeline.run_induction
    (P := fun s made t => LastGranted backend s.exchange.grant made t.exchange.grant) ?_ ?_ ?_ s
  · intro s
    exact .inl ⟨rfl, by simp⟩
  · intro stage hstage s
    exact lastGranted_call backend s (h stage hstage)
  · intro s made t more u hmade hmore
    exact hmade.append hmore

/-- **The grant of an exchange is that of the last approval, whole or not at all.**  Asking leaves
the client's request and the link as they are.  It approves exactly when the backend answers 200
with a body that is complete, not too long and says a grant; that grant is then the exchange's, and
otherwise the exchange keeps the one it had.  So a stage behind guards, and behind others that keep
the grant as forwarding does, sees the grant of the last approval in front of it, and when there
was none what was granted at first, which is nothing. -/
theorem grant_of_last_approval (suffix : String) (backend : Backend) (s : Scene) :
    (consult suffix backend s).2.exchange.request = s.exchange.request ∧
    (consult suffix backend s).2.exchange.link = s.exchange.link ∧
    ((consult suffix backend s).1 = .ok none ↔ ∃ grant, Approves suffix backend s grant) ∧
    (∀ grant, Approves suffix backend s grant →
      (consult suffix backend s).2.exchange.grant = grant) ∧
    ((consult suffix backend s).1 ≠ .ok none →
      (consult suffix backend s).2.exchange.grant = s.exchange.grant) ∧
    (∀ (stages : List Handler) (i : Nat) (stage : Handler) (t : Scene),
      (calls backend s stages)[i]? = some (stage, t) →
      (∀ earlier ∈ stages.take i, (∃ guard, earlier = handler guard) ∨ KeepsGrant earlier) →
      LastGranted backend s.exchange.grant ((calls backend s stages).take i)
        t.exchange.grant) ∧
    KeepsGrant Forward.handler ∧
    ∀ (g : Gateway) (tree : Disk.Tree) (request : Request) (route : String),
      (g.opening tree request route).exchange = { request, link := g.link, grant := {} } := by
  have hexchange : (∃ grant, Approves suffix backend s grant ∧
      (consult suffix backend s).2.exchange = { s.exchange with grant }) ∨
      (∀ grant, ¬Approves suffix backend s grant) ∧
        (consult suffix backend s).2.exchange = s.exchange := by
    by_cases happroved : ∃ grant, Approves suffix backend s grant
    · obtain ⟨grant, hgrant⟩ := happroved
      exact .inl ⟨grant, hgrant, exchange_consult_of_approves hgrant⟩
    · exact .inr ⟨not_exists.mp happroved,
        exchange_consult_of_not_approves (not_exists.mp happroved)⟩
  have happroves : (consult suffix backend s).1 = .ok none ↔
      ∃ grant, Approves suffix backend s grant := by
    refine ⟨exists_approves_of_consult, ?_⟩
    intro h
    obtain ⟨grant, hgrant⟩ := h
    obtain ⟨request, response, hconsult⟩ := consult_of_approves hgrant
    rw [hconsult]
  refine ⟨?_, ?_, happroves, ?_, ?_, ?_, keepsGrant_forward, ?_⟩
  · rcases hexchange with ⟨grant, -, h⟩ | ⟨-, h⟩
    · rw [h]
    · rw [h]
  · rcases hexchange with ⟨grant, -, h⟩ | ⟨-, h⟩
    · rw [h]
    · rw [h]
  · intro grant hgrant
    rw [exchange_consult_of_approves hgrant]
  · intro hnone
    rw [exchange_consult_of_not_approves (not_exists.mp (mt happroves.mpr hnone))]
  · intro stages i stage t hvisit hearlier
    obtain ⟨hpasses, -⟩ := Pipeline.passes_of_call hvisit
    have hrun := lastGranted_run backend s hearlier
    rw [Pipeline.calls_take hvisit, Pipeline.state_of_passes hpasses] at hrun
    exact hrun
  · intro g tree request route
    rfl

/-- Nothing of an older grant is left when the backend approves again. -/
theorem grant_of_last_approval_replaced :
    (consult "" (fun _ _ => .answered { payload := { octets := Bytes.ofString "[\"key-2\"]" } })
      { exchange :=
          { request := { uri := { path := "/p.git/info/refs" } }
            link := ⟨⟨"http://auth", "1"⟩, .ofSeconds 1⟩
            grant := { glId := some "key-1", repoPath := some "/r" } } }).2.exchange.grant =
      { glId := some "key-2" } := by
  refine (grant_of_last_approval "" _ _).2.2.2.1 _
    ⟨{ uri :=
         { scheme? := some "http", authority? := some "auth", path := "/p.git/info/refs" }
       headers := [⟨"gitlab-workhorse", Bytes.ofString "1"⟩] },
      { payload := { octets := Bytes.ofString "[\"key-2\"]" } }, ?_⟩
  exact ⟨by rfl, rfl, rfl, rfl, by decide, by rfl⟩

end Authorize

end FrontDoor
