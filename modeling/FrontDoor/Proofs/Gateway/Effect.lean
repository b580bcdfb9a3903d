/-
What serving a request does to the file system.

Of all the stages only a guard of uploads writes, and it does so last of all: behind an approval,
a grant that can be read, and the fields it needs.  `Authorize.Upload` is that condition.  Where it
holds the guard makes the directories of the path it names (`tree_call_of_upload`) and where it
does not the file system stays (`tree_call_of_not_upload`).  No stage behind the guard writes, so
the same is true of a dispatched request, and what making directories does is known for every tree
and path.
-/
import FrontDoor.Proofs.Disk.MakeDirectory
import FrontDoor.Proofs.Gateway.Ending
import FrontDoor.Proofs.Stages.Place
import FrontDoor.Proofs.Stages.Repository

namespace FrontDoor

open Http
open Route (Endpoint Guard)

namespace Authorize

variable {guard : Guard} {backend : Backend} {s : Scene} {path : String}

/-- The guard is one of uploads, the backend approves of the request, and the grant names the path
and whatever else the guard needs. -/
def Upload (guard : Guard) (answer : Request → Outcome) (delegation : Delegation)
    (inbound : Request) (path : String) : Prop :=
  guard ≠ .repository ∧ ∃ question response grant,
    Granted guard answer delegation inbound question response grant ∧ Provides guard grant path

theorem Upload.ne_empty {answer : Request → Outcome} {delegation : Delegation} {inbound : Request}
    (h : Upload guard answer delegation inbound path) : path ≠ "" := by
  obtain ⟨-, question, response, grant, hgranted, hprovides⟩ := h
  exact ne_empty_of_provides hprovides (Grant.hasNoEmptyText_of_ofDocument hgranted.decoded)

theorem tree_prepare_of_ne_repository (kind : guard ≠ .repository) (s : Scene) (path : String) :
    (prepare guard s path).2.tree = (s.tree.makeDirectories privateMode path).1 := by
  cases guard with
  | repository => exact absurd rfl kind
  | lfsObject | artifacts => rfl

/-- A guard leaves the file system that preparing the place leaves, if there is a place. -/
theorem tree_accept (guard : Guard) (s : Scene) :
    (accept guard s).2.tree =
      match place guard s.exchange.grant with
      | .error _ => s.tree
      | .ok path => (prepare guard s path).2.tree := by
  unfold accept
  cases place guard s.exchange.grant with
  | error fault => rfl
  | ok path =>
      dsimp only
      rcases prepare guard s path with ⟨fault | _, t⟩ <;> rfl

theorem tree_call_of_upload
    (h : Upload guard (backend s.trace.sent) s.exchange.link.delegation s.exchange.request path) :
    (call guard backend s).2.tree = (s.tree.makeDirectories privateMode path).1 := by
  obtain ⟨kind, question, response, grant, hgranted, hprovides⟩ := h
  have hplace : place guard ((s.heard question response).withGrant grant).exchange.grant =
      .ok path := place_eq_ok_iff.mpr hprovides
  rw [call_of_granted hgranted, tree_accept, hplace]
  exact tree_prepare_of_ne_repository kind _ path

theorem tree_call_of_not_upload
    (h : ∀ path,
      ¬ Upload guard (backend s.trace.sent) s.exchange.link.delegation s.exchange.request path) :
    (call guard backend s).2.tree = s.tree := by
  by_cases kind : guard = .repository
  · rw [kind]
    exact tree_call_repository backend s
  · have hconsulted := consulted (suffix guard) backend s
    have htree := tree_consult (suffix guard) backend s
    rw [call_eq]
    generalize consult (suffix guard) backend s = result at hconsulted htree
    obtain ⟨answer, t⟩ := result
    cases hconsulted with
    | unasked | unanswered | declined | unread => exact htree
    | @approved request response grant asked sent status read =>
        obtain ⟨hcomplete, hsize, hdecoded⟩ := readGrant_eq_ok_iff.mp read
        have hgranted : Granted guard (backend s.trace.sent) s.exchange.link.delegation
            s.exchange.request request response grant :=
          ⟨⟨asked, sent⟩, status_eq_ok_iff.mp status, hcomplete, hsize, hdecoded⟩
        show (accept guard ((s.heard request response).withGrant grant)).2.tree = s.tree
        rw [tree_accept]
        cases hplace : place guard ((s.heard request response).withGrant grant).exchange.grant with
        | error fault => exact htree
        | ok path =>
            exact absurd ⟨kind, request, response, grant, hgranted, place_eq_ok_iff.mp hplace⟩
              (h path)

end Authorize

/-- Forwarding writes nothing. -/
theorem Forward.tree_call (backend : Backend) (s : Scene) :
    (Forward.handler.call backend s).2.tree = s.tree := by
  obtain ⟨deliveries, records, h⟩ := Forward.exists_call_eq backend s
  show (Forward.call backend s).2.tree = s.tree
  rw [h]
  rfl

namespace Gateway

open Authorize (Upload)

variable {link : Link} {backend : Backend} {tree : Disk.Tree} {request : Request}

theorem tree_settle (names : List String) (r : Run Scene Response Fault) :
    (Pipeline.settle names r).2.tree = r.state.tree := by
  unfold Pipeline.settle
  cases r.ending <;> rfl

/-- Behind a guard nothing is written. -/
theorem tree_run_guarded (guard : Guard) (backend : Backend) (s : Scene) :
    (Pipeline.run backend s [Authorize.handler guard, Forward.handler]).state.tree =
      (Authorize.call guard backend s).2.tree := by
  have hcall : (Authorize.handler guard).call backend s = Authorize.call guard backend s := rfl
  rw [← hcall]
  rcases h : (Authorize.handler guard).call backend s with ⟨_ | answer | failure, t⟩
  · rw [Pipeline.run_cons_of_next h, Pipeline.run_singleton]
    exact Forward.tree_call backend t
  · rw [Pipeline.run_cons_of_respond h]
  · rw [Pipeline.run_cons_of_fail h]

/-- The request is for an upload, which the backend approves of, to the path. -/
structure Uploads (link : Link) (backend : Backend) (request : Request) (e : Endpoint)
    (guard : Guard) (path : String) : Prop where
  endpoint : e = .lfsStore ∧ guard = .lfsObject ∨ e = .artifactsUpload ∧ guard = .artifacts
  route : (gitRoutes .passThrough).select? request.method request.uri.shownPath =
    some (e.route Authorize.handler Capabilities.passThrough)
  approved : Upload guard (backend []) link.delegation request path

theorem endpoint_of_guard {e : Endpoint} {guard : Guard} (hguard : e.guard? = some guard)
    (kind : guard ≠ .repository) :
    e = .lfsStore ∧ guard = .lfsObject ∨ e = .artifactsUpload ∧ guard = .artifacts :=
  (Endpoint.guard?_eq_some_iff.mp hguard).resolve_left fun h => kind h.2

theorem tree_dispatch_of_guard {e : Endpoint} {guard : Guard}
    (hroute : (gitRoutes .passThrough).select? request.method request.uri.shownPath =
      some (e.route Authorize.handler Capabilities.passThrough))
    (hguard : e.guard? = some guard) :
    ((git .passThrough link).dispatch backend tree request).2.tree =
      (Authorize.call guard backend
        ((git .passThrough link).opening tree request e.name)).2.tree := by
  have hselect : (git .passThrough link).table.select? request.method request.uri.shownPath =
      some (e.route Authorize.handler Capabilities.passThrough) := hroute
  rw [dispatch_of_select hselect, Pipeline.handle, tree_settle, stages_of_guard hguard]
  exact tree_run_guarded guard backend _

theorem tree_dispatch_of_uploads {e : Endpoint} {guard : Guard} {path : String}
    (h : Uploads link backend request e guard path) :
    ((git .passThrough link).dispatch backend tree request).2.tree =
      (tree.makeDirectories Authorize.privateMode path).1 := by
  rw [tree_dispatch_of_guard h.route (Endpoint.guard?_eq_some_iff.mpr (.inr h.endpoint))]
  exact Authorize.tree_call_of_upload h.approved

theorem tree_dispatch_of_not_uploads
    (h : ∀ e guard path, ¬ Uploads link backend request e guard path) :
    ((git .passThrough link).dispatch backend tree request).2.tree = tree := by
  cases hroute : (git .passThrough link).table.select? request.method request.uri.shownPath with
  | none =>
      rw [dispatch_of_noRoute hroute]
      rfl
  | some route =>
      obtain ⟨e, -, rfl⟩ := Route.exists_fits_of_select? hroute
      cases hguard : e.guard? with
      | none =>
          have hstages : (e.route Authorize.handler Capabilities.passThrough).stages =
              [Forward.handler] := stages_of_unguarded hguard
          rw [dispatch_of_select hroute, Pipeline.handle, tree_settle, hstages,
            Pipeline.run_singleton]
          exact Forward.tree_call backend _
      | some guard =>
          rw [tree_dispatch_of_guard hroute hguard]
          refine Authorize.tree_call_of_not_upload fun path hupload => ?_
          exact h e guard path ⟨endpoint_of_guard hguard hupload.1, hroute, hupload⟩

/-! ### What is written -/

/-- A mask that leaves the owner's bits leaves a private mode as it is. -/
theorem privateMode_masked {umask : Nat} (h : umask &&& 0o700 = 0) :
    Authorize.privateMode &&& (0o777 ^^^ umask) = 0o700 := by
  rw [Authorize.privateMode, Nat.and_xor_distrib_left, Nat.and_comm 0o700 umask, h]
  rfl

/-- **A request writes to the file system only as an approved upload.**  If it is one, the
directories of the path that the grant names are made, and otherwise nothing changes.  Making them
leaves every entry as it was, whether it succeeds or not, and what is new is a directory with the
mode 0700 where the path or one above it leads.  After a success the path leads to a directory, and
to make it again succeeds and changes nothing. -/
theorem writes_only_private_directories {tree : Disk.Tree} (humask : tree.umask &&& 0o700 = 0) :
    (∀ (link : Link) (backend : Backend) (request : Request),
      ((∃ e guard path, Uploads link backend request e guard path ∧ path ≠ "" ∧
          ((git .passThrough link).dispatch backend tree request).2.tree =
            (tree.makeDirectories Authorize.privateMode path).1) ∨
        (¬ ∃ e guard path, Uploads link backend request e guard path) ∧
          ((git .passThrough link).dispatch backend tree request).2.tree = tree)) ∧
    ∀ path, path ≠ "" →
      let made := tree.makeDirectories Authorize.privateMode path
      (∀ place node, tree.node? place = some node → made.1.node? place = some node) ∧
      (∀ place node, tree.node? place = none → made.1.node? place = some node →
        node = .directory 0o700 ∧
          ∃ above, Disk.Path.Above path above ∧ made.1.locate above = .ok place) ∧
      (made.2 = .ok () →
        made.1.leadsToDirectory path = true ∧
          made.1.makeDirectories Authorize.privateMode path = (made.1, .ok ())) := by
  refine ⟨fun link backend request => ?_, fun path hpath => ?_⟩
  · by_cases h : ∃ e guard path, Uploads link backend request e guard path
    · obtain ⟨e, guard, path, huploads⟩ := h
      exact .inl ⟨e, guard, path, huploads, huploads.approved.ne_empty,
        tree_dispatch_of_uploads huploads⟩
    · refine .inr ⟨h, tree_dispatch_of_not_uploads fun e guard path huploads => ?_⟩
      exact h ⟨e, guard, path, huploads⟩
  · have hfurnishes := Disk.Tree.furnishes_makeDirectories tree Authorize.privateMode path
    refine ⟨hfurnishes.kept.node, fun place node hnone hsome => ?_, fun hmade => ?_⟩
    · obtain ⟨hnode, above, habove, hlocate⟩ := hfurnishes.new place node hnone hsome
      rw [privateMode_masked humask] at hnode
      refine ⟨hnode, above, ?_, hlocate⟩
      refine (Disk.Path.mem_lineage_iff ?_).mp habove
      rw [String.length_toList]
      exact Nat.lt_succ_self _
    · have hleads := Disk.Tree.leadsToDirectory_of_makeDirectories hpath hmade
      exact ⟨hleads, Disk.Tree.makeDirectories_of_leadsToDirectory hleads⟩

/-- Artifacts are uploaded to a place two directories deep in an empty tree, which is there
afterwards. -/
theorem writes_only_private_directories_artifacts :
    (∃ path, path ≠ "" ∧
      ((git .passThrough ⟨⟨"http://auth", "1"⟩, .ofSeconds 1⟩).dispatch
        (fun _ _ => .answered
          { payload := { octets := Bytes.ofString "\x7b\"TempPath\":\"/t/u\"\x7d" } }) {}
        { method := .post, uri := { path := "/ci/api/v1/builds/7/artifacts" } }).2.tree =
          (({} : Disk.Tree).makeDirectories Authorize.privateMode path).1) ∧
    (({} : Disk.Tree).makeDirectories Authorize.privateMode "/t/u").1.leadsToDirectory "/t/u" =
      true := by
  have humask : ({} : Disk.Tree).umask &&& 0o700 = 0 := by decide
  obtain ⟨hdispatch, hmade⟩ := writes_only_private_directories humask
  refine ⟨?_, ?_⟩
  · have hupload : Uploads ⟨⟨"http://auth", "1"⟩, .ofSeconds 1⟩
        (fun _ _ => .answered
          { payload := { octets := Bytes.ofString "\x7b\"TempPath\":\"/t/u\"\x7d" } })
        { method := .post, uri := { path := "/ci/api/v1/builds/7/artifacts" } }
        .artifactsUpload .artifacts "/t/u" :=
      { endpoint := .inr ⟨rfl, rfl⟩
        route := by rfl
        approved := ⟨by decide, _, _, { tempPath := some "/t/u" },
          { asked := by rfl
            answered := rfl
            status := rfl
            complete := rfl
            size := by decide
            decoded := by decide +kernel }, rfl⟩ }
    rcases hdispatch ⟨⟨"http://auth", "1"⟩, .ofSeconds 1⟩ _ _ with
      ⟨e, guard, path, -, hpath, htree⟩ | ⟨hnone, -⟩
    · exact ⟨path, hpath, htree⟩
    · exact absurd ⟨_, _, _, hupload⟩ hnone
  · exact ((hmade "/t/u" (by decide)).2.2 (by cbv)).1

end Gateway

end FrontDoor
