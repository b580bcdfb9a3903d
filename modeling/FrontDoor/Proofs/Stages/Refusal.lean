/-
What a guard answers when it does not let a request pass.

`Refused` lists the reasons in the order in which a guard comes upon them, each with the answer
and with what was sent to the backend.  The conditions are about the question, the backend's
answer, its grant and the file system, and no two of them hold at once.  Together with an approval
they leave nothing out (`holds_or_refused`), so one lemma about the guard's stage is enough, that
it answers as the reason says (`call_of_refused`).
-/
import FrontDoor.Proofs.Disk.Resolve
import FrontDoor.Proofs.Stages.Authorize

namespace FrontDoor

open Http

/-- The answer to the client that a stage ends with, if it ends there. -/
def Flow.answer? : Flow Response Fault → Option Response
  | .next => none
  | .respond response => some response
  | .fail fault => some fault.response

namespace Authorize

open Route (Guard)

section
variable (guard : Guard) (answer : Request → Outcome) (delegation : Delegation)
variable (inbound : Request) (tree : Disk.Tree)

/-- The backend is asked about the request and answers. -/
structure Answered (question : Request) (response : Response) : Prop where
  asked : delegation.request inbound none (suffix guard) = .ok question
  answered : answer question = .answered response

/-- The backend approves of the request with a grant that can be read. -/
structure Granted (question : Request) (response : Response) (grant : Grant) : Prop
    extends Answered guard answer delegation inbound question response where
  status : response.status.code = 200
  complete : response.payload.complete = true
  size : response.payload.octets.length ≤ 1048576
  decoded : Grant.ofDocument response.payload.octets = .ok grant

/-- A guard does not let the request pass: what it answers instead, and what was sent to the
backend. -/
inductive Refused : Response → List Request → Prop
  /-- There is no question. -/
  | unasked {problem} (asked : delegation.request inbound none (suffix guard) = .error problem) :
      Refused (.plain .internalServerError "Internal Server Error") []
  /-- The connection failed, or what came over it is no answer. -/
  | unreachable {question failure}
      (asked : delegation.request inbound none (suffix guard) = .ok question)
      (answered : answer question = .failed failure) :
      Refused (.plain .badGateway "Bad Gateway") [question]
  /-- No answer began in time. -/
  | silent {question} (asked : delegation.request inbound none (suffix guard) = .ok question)
      (answered : answer question = .silent) :
      Refused (.plain .gatewayTimeout "Gateway Timeout") [question]
  /-- The backend's answer is the client's. -/
  | declined {question response}
      (answered : Answered guard answer delegation inbound question response)
      (status : response.status.code ≠ 200) :
      Refused response [question]
  | unread {question response}
      (answered : Answered guard answer delegation inbound question response)
      (status : response.status.code = 200)
      (payload : response.payload.complete = false ∨ 1048576 < response.payload.octets.length) :
      Refused (.plain .badGateway "Bad Gateway") [question]
  | undecoded {question response problem}
      (answered : Answered guard answer delegation inbound question response)
      (status : response.status.code = 200) (complete : response.payload.complete = true)
      (size : response.payload.octets.length ≤ 1048576)
      (decoded : Grant.ofDocument response.payload.octets = .error problem) :
      Refused (.plain .internalServerError "Internal Server Error") [question]
  /-- The grant lacks a field that the guard needs. -/
  | lacking {question response grant}
      (granted : Granted guard answer delegation inbound question response grant)
      (provided : ∀ path, ¬Provides guard grant path) :
      Refused (.plain .internalServerError "Internal Server Error") [question]
  /-- The path is no repository: under it `objects` leads to no directory. -/
  | noRepository {question response grant path} (kind : guard = .repository)
      (granted : Granted guard answer delegation inbound question response grant)
      (provided : Provides guard grant path)
      (objects : ∀ mode, tree.stat (Repository.objectsPath path) ≠ .ok (.directory mode)) :
      Refused (.plain .notFound "Not Found") [question]
  /-- There is no directory for the upload and none can be made. -/
  | noDirectory {question response grant path error} (kind : guard ≠ .repository)
      (granted : Granted guard answer delegation inbound question response grant)
      (provided : Provides guard grant path)
      (made : (tree.makeDirectories privateMode path).2 = .error error) :
      Refused (.plain .internalServerError "Internal Server Error") [question]

end

variable {guard : Guard} {answer : Request → Outcome} {delegation : Delegation}
variable {inbound question : Request} {response : Response} {sent : List Request}
variable {tree : Disk.Tree} {backend : Backend} {s t : Scene}

/-! ### The reasons leave nothing out -/

/-- A place that cannot be used is a reason. -/
theorem exists_refused_of_not_usable {grant : Grant} {path : String}
    (granted : Granted guard answer delegation inbound question response grant)
    (provided : Provides guard grant path) (husable : ¬Usable guard tree path) :
    ∃ response sent, Refused guard answer delegation inbound tree response sent := by
  by_cases kind : guard = .repository
  · subst kind
    refine ⟨_, _, .noRepository rfl granted provided ?_⟩
    rw [Usable, Repository.probe_eq_true_iff] at husable
    exact not_exists.mp husable
  · cases hmade : (tree.makeDirectories privateMode path).2 with
    | error error => exact ⟨_, _, .noDirectory kind granted provided hmade⟩
    | ok =>
        refine absurd ?_ husable
        cases guard with
        | repository => exact absurd rfl kind
        | lfsObject | artifacts => exact hmade

/-- A grant that can be read is one to pass with, or a reason is found in it. -/
theorem holds_or_refused_of_granted {grant : Grant}
    (granted : Granted guard answer delegation inbound question response grant) :
    (∃ a : Approval, a.Holds guard answer delegation inbound tree) ∨
      ∃ response sent, Refused guard answer delegation inbound tree response sent := by
  by_cases hprovided : ∃ path, Provides guard grant path
  · obtain ⟨path, hprovided⟩ := hprovided
    by_cases husable : Usable guard tree path
    · exact .inl ⟨⟨question, response, grant, path⟩, granted.asked, granted.answered,
        granted.status, granted.complete, granted.size, granted.decoded, hprovided, husable⟩
    · exact .inr (exists_refused_of_not_usable granted hprovided husable)
  · exact .inr ⟨_, _, .lacking granted (not_exists.mp hprovided)⟩

theorem holds_or_refused (guard : Guard) (answer : Request → Outcome) (delegation : Delegation)
    (inbound : Request) (tree : Disk.Tree) :
    (∃ a : Approval, a.Holds guard answer delegation inbound tree) ∨
      ∃ response sent, Refused guard answer delegation inbound tree response sent := by
  cases hasked : delegation.request inbound none (suffix guard) with
  | error problem => exact .inr ⟨_, _, .unasked hasked⟩
  | ok question =>
      cases hanswered : answer question with
      | failed failure => exact .inr ⟨_, _, .unreachable hasked hanswered⟩
      | silent => exact .inr ⟨_, _, .silent hasked hanswered⟩
      | answered response =>
          have answered : Answered guard answer delegation inbound question response :=
            ⟨hasked, hanswered⟩
          by_cases hstatus : response.status.code = 200
          · by_cases hread :
              response.payload.complete = true ∧ response.payload.octets.length ≤ 1048576
            · obtain ⟨hcomplete, hsize⟩ := hread
              cases hdecoded : Grant.ofDocument response.payload.octets with
              | error problem =>
                  exact .inr ⟨_, _, .undecoded answered hstatus hcomplete hsize hdecoded⟩
              | ok grant =>
                  exact holds_or_refused_of_granted
                    ⟨answered, hstatus, hcomplete, hsize, hdecoded⟩
            · refine .inr ⟨_, _, .unread answered hstatus ?_⟩
              rw [not_and_or, Bool.not_eq_true, Nat.not_le] at hread
              exact hread
          · exact .inr ⟨_, _, .declined answered hstatus⟩

/-! ### The guard's stage goes by the reasons -/

theorem sent_deliver (s : Scene) (delivery : Delivery) :
    (s.deliver delivery).trace.sent = s.trace.sent ++ [delivery.request] := by
  simp [Trace.sent]

theorem sent_heard (s : Scene) (question : Request) (response : Response) :
    (s.heard question response).trace.sent = s.trace.sent ++ [question] :=
  sent_deliver s _

/-- With a grant, all depends on what the guard does with it. -/
theorem call_of_granted {grant : Grant}
    (h : Granted guard (backend s.trace.sent) s.exchange.link.delegation s.exchange.request
      question response grant) :
    call guard backend s = accept guard ((s.heard question response).withGrant grant) := by
  rw [call_eq, consult_of_consulted (.approved h.asked h.answered (status_eq_ok_iff.mpr h.status)
    (readGrant_eq_ok_iff.mpr ⟨h.complete, h.size, h.decoded⟩))]

/-- A body that is cut short or too long is not read. -/
theorem exists_readGrant_eq_body {payload : Payload}
    (h : payload.complete = false ∨ 1048576 < payload.octets.length) :
    ∃ failure, readGrant payload = .error (.body failure) := by
  cases hread : payload.read maxGrantSize with
  | error failure => exact ⟨.read failure, by rw [readGrant, hread]⟩
  | ok octets =>
      obtain ⟨hcomplete, hsize, -⟩ := read_eq_ok_iff.mp hread
      rcases h with h | h
      · rw [h] at hcomplete
        cases hcomplete
      · exact absurd hsize (Nat.not_le.mpr h)

theorem readGrant_eq_decode {payload : Payload} {problem : Json.Problem}
    (hcomplete : payload.complete = true) (hsize : payload.octets.length ≤ maxGrantSize)
    (hdecoded : Grant.ofDocument payload.octets = .error problem) :
    readGrant payload = .error (.decode problem) := by
  have hread := read_eq_ok_iff.mpr ⟨hcomplete, hsize, rfl⟩
  simp only [readGrant, hread, hdecoded]

/-- A grant without a place lacks a field. -/
theorem exists_place_eq_missingField {grant : Grant} (h : ∀ path, ¬Provides guard grant path) :
    ∃ name, place guard grant = .error (.missingField name) := by
  cases guard with
  | repository =>
      cases hpath : grant.repoPath with
      | none => exact ⟨"RepoPath", by simp [place, hpath]⟩
      | some path => exact absurd hpath (h path)
  | lfsObject =>
      cases hpath : grant.storeLfsPath with
      | none => exact ⟨"StoreLFSPath", by simp [place, hpath]⟩
      | some path =>
          cases hoid : grant.lfsOid with
          | none => exact ⟨"LfsOid", by simp [place, hpath, hoid]⟩
          | some oid => exact absurd ⟨hpath, by simp [hoid]⟩ (h path)
  | artifacts =>
      cases hpath : grant.tempPath with
      | none => exact ⟨"TempPath", by simp [place, hpath]⟩
      | some path => exact absurd hpath (h path)

theorem accept_of_lacking (h : ∀ path, ¬Provides guard s.exchange.grant path) :
    ∃ name, (accept guard s).1 = .fail (.missingField name) := by
  obtain ⟨name, hplace⟩ := exists_place_eq_missingField h
  exact ⟨name, by rw [accept, hplace]⟩

theorem accept_of_noRepository {path : String}
    (hprovided : Provides .repository s.exchange.grant path)
    (h : ∀ mode, s.tree.stat (Repository.objectsPath path) ≠ .ok (.directory mode)) :
    (accept .repository s).1 = .fail .repositoryNotFound := by
  have hprobe : (Repository.probe s.tree path).1 = false := by
    rw [Bool.eq_false_iff, Ne, Repository.probe_eq_true_iff]
    exact not_exists.mpr h
  simp [accept, place_eq_ok_iff.mpr hprovided, prepare, hprobe]

theorem accept_of_noDirectory {path : String} {error : Disk.Error} (kind : guard ≠ .repository)
    (hprovided : Provides guard s.exchange.grant path)
    (h : (s.tree.makeDirectories privateMode path).2 = .error error) :
    (accept guard s).1 = .fail (.disk error) := by
  cases guard with
  | repository => exact absurd rfl kind
  | lfsObject | artifacts =>
      simp [accept, place_eq_ok_iff.mpr hprovided, prepare, h, Except.mapError]

/-- What a guard does with a grant sends nothing. -/
theorem sent_accept : (accept guard s).2.trace.sent = s.trace.sent := by
  rw [Trace.sent, deliveries_accept, Trace.sent]

/-- A guard's stage answers as the reason says and has sent nothing else. -/
theorem call_of_refused
    (h : Refused guard (backend s.trace.sent) s.exchange.link.delegation s.exchange.request s.tree
      response sent) :
    (call guard backend s).1.answer? = some response ∧
      (call guard backend s).2.trace.sent = s.trace.sent ++ sent := by
  cases h with
  | unasked asked =>
      rw [call_eq, consult_of_consulted (.unasked asked)]
      exact ⟨rfl, (List.append_nil _).symm⟩
  | unreachable asked answered =>
      rw [call_eq, consult_of_consulted (.unanswered asked answered rfl)]
      exact ⟨rfl, sent_deliver s _⟩
  | silent asked answered =>
      rw [call_eq, consult_of_consulted (.unanswered asked answered rfl)]
      exact ⟨rfl, sent_deliver s _⟩
  | declined answered status =>
      rw [call_eq, consult_of_consulted
        (.declined answered.asked answered.answered (mt status_eq_ok_iff.mp status))]
      exact ⟨rfl, sent_heard s _ _⟩
  | unread answered status payload =>
      obtain ⟨failure, hread⟩ := exists_readGrant_eq_body payload
      rw [call_eq, consult_of_consulted
        (.unread answered.asked answered.answered (status_eq_ok_iff.mpr status) hread)]
      exact ⟨rfl, sent_heard s _ _⟩
  | undecoded answered status complete size decoded =>
      rw [call_eq, consult_of_consulted
        (.unread answered.asked answered.answered (status_eq_ok_iff.mpr status)
          (readGrant_eq_decode complete size decoded))]
      exact ⟨rfl, sent_heard s _ _⟩
  | @lacking question response grant granted provided =>
      obtain ⟨name, haccept⟩ :=
        accept_of_lacking (s := (s.heard question response).withGrant grant) provided
      rw [call_of_granted granted, haccept]
      exact ⟨rfl, sent_accept.trans (sent_heard s _ _)⟩
  | @noRepository question response grant path kind granted provided objects =>
      subst kind
      have haccept := accept_of_noRepository
        (s := (s.heard question response).withGrant grant) provided objects
      rw [call_of_granted granted, haccept]
      exact ⟨rfl, sent_accept.trans (sent_heard s _ _)⟩
  | @noDirectory question response grant path error kind granted provided made =>
      have haccept := accept_of_noDirectory
        (s := (s.heard question response).withGrant grant) kind provided made
      rw [call_of_granted granted, haccept]
      exact ⟨rfl, sent_accept.trans (sent_heard s _ _)⟩

theorem length_sent_of_refused
    (h : Refused guard answer delegation inbound tree response sent) : sent.length ≤ 1 := by
  cases h <;> simp

/-- A guard's stage ends with an answer exactly for one of the reasons, and the reason tells the
answer and what was sent. -/
theorem answer?_call_iff (guard : Guard) (backend : Backend) (s : Scene) :
    ((call guard backend s).1.answer? = some response ∧
      (call guard backend s).2.trace.sent = s.trace.sent ++ sent) ↔
      Refused guard (backend s.trace.sent) s.exchange.link.delegation s.exchange.request s.tree
        response sent := by
  constructor
  · intro hgiven
    obtain ⟨hanswer, hsent⟩ := hgiven
    rcases holds_or_refused guard (backend s.trace.sent) s.exchange.link.delegation
      s.exchange.request s.tree with ⟨a, ha⟩ | ⟨response', sent', hrefused⟩
    · rw [call_eq_next_iff.mpr ⟨a, ha, rfl⟩] at hanswer
      cases hanswer
    · obtain ⟨hanswer', hsent'⟩ := call_of_refused hrefused
      obtain rfl := Option.some.inj (hanswer'.symm.trans hanswer)
      obtain rfl := List.append_cancel_left (hsent'.symm.trans hsent)
      exact hrefused
  · exact call_of_refused

end Authorize

end FrontDoor
