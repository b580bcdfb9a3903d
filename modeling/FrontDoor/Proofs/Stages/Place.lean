/-
The place on disk that a grant names is never the empty path.

A stage that asks the backend takes the grant it is given whole, and no grant that is read has an
empty text.  So an exchange that began without a grant never holds one with an empty text, however
many stages it passes (`hasNoEmptyText_run`), and the place that a guard asks a grant for is a path
with something in it (`ne_empty_of_provides`).

That the disk is then never asked about the empty path is said with another disk (`DiskAccess`).
It may refuse, and all that is known of it is that it serves paths that are not empty.  A guard
that has this disk does what a guard does that has the real one (`callOn_eq_some`), so what happens
for the empty path does not matter to it.
-/
import FrontDoor.Proofs.Grant.Texts
import FrontDoor.Proofs.Stages.Grant

namespace FrontDoor.Authorize

open Http
open Pipeline (calls run)
open Route (Guard)

variable {guard : Guard} {backend : Backend} {s t : Scene} {path : String} {grant : Grant}

/-! ### Grants along a run -/

/-- Asking leaves no empty text where there was none. -/
theorem hasNoEmptyText_consult (suffix : String) (backend : Backend)
    (h : s.exchange.grant.HasNoEmptyText) :
    (consult suffix backend s).2.exchange.grant.HasNoEmptyText := by
  by_cases happroved : ∃ grant, Approves suffix backend s grant
  · obtain ⟨grant, hgrant⟩ := happroved
    rw [exchange_consult_of_approves hgrant]
    obtain ⟨_, _, -, -, -, -, -, hdecoded⟩ := hgrant
    exact Grant.hasNoEmptyText_of_ofDocument hdecoded
  · rw [exchange_consult_of_not_approves (not_exists.mp happroved)]
    exact h

/-- The stage asks the backend on behalf of a guard, or forwards to it. -/
def Asks (stage : Handler) : Prop :=
  (∃ guard, stage = handler guard) ∨ stage = Forward.handler

theorem hasNoEmptyText_call {stage : Handler} (hstage : Asks stage) (backend : Backend)
    (h : s.exchange.grant.HasNoEmptyText) :
    (stage.call backend s).2.exchange.grant.HasNoEmptyText := by
  rcases hstage with ⟨guard, rfl⟩ | rfl
  · show (call guard backend s).2.exchange.grant.HasNoEmptyText
    rw [exchange_call]
    exact hasNoEmptyText_consult _ backend h
  · rw [keepsGrant_forward]
    exact h

/-- Stages that ask and forward leave no empty text where there was none. -/
theorem hasNoEmptyText_run {stages : List Handler} (hstages : ∀ stage ∈ stages, Asks stage)
    (backend : Backend) (s : Scene) (h : s.exchange.grant.HasNoEmptyText) :
    (∀ call ∈ calls backend s stages, call.2.exchange.grant.HasNoEmptyText) ∧
      (run backend s stages).state.exchange.grant.HasNoEmptyText := by
  refine Pipeline.run_induction
    (P := fun s made t => s.exchange.grant.HasNoEmptyText →
      (∀ call ∈ made, call.2.exchange.grant.HasNoEmptyText) ∧
        t.exchange.grant.HasNoEmptyText) ?_ ?_ ?_ s h
  · intro s h
    exact ⟨by simp, h⟩
  · intro stage hstage s h
    exact ⟨by simpa using h, hasNoEmptyText_call (hstages stage hstage) backend h⟩
  · intro s made t more u hmade hmore h
    obtain ⟨hcalls, ht⟩ := hmade h
    obtain ⟨hcalls', hu⟩ := hmore ht
    exact ⟨List.forall_mem_append.mpr ⟨hcalls, hcalls'⟩, hu⟩

/-! ### The place of a guard -/

theorem ne_empty_of_provides (h : Provides guard grant path) (hgrant : grant.HasNoEmptyText) :
    path ≠ "" := by
  rintro rfl
  cases guard with
  | repository => exact hgrant .repoPath h
  | lfsObject => exact hgrant .storeLfsPath h.1
  | artifacts => exact hgrant .tempPath h

/-- The grant that an approval leaves has no empty text. -/
theorem hasNoEmptyText_of_approved {suffix : String}
    (h : consult suffix backend s = (.ok none, t)) : t.exchange.grant.HasNoEmptyText := by
  obtain ⟨request, response, grant, -, -, -, hread, rfl⟩ := consult_eq_none_iff.mp h
  exact Grant.hasNoEmptyText_of_ofDocument (readGrant_eq_ok_iff.mp hread).2.2

/-! ### The disk -/

/-- A disk on which repositories are looked for and directories are made, and which may refuse
to. -/
structure DiskAccess where
  probe? : Disk.Tree → String → Option (Bool × List Record)
  makeDirectories? : Disk.Tree → Nat → String → Option (Disk.Tree × Except Disk.Error Unit)

/-- The disk does as it should for all paths but the empty one. -/
structure DiskAccess.ServesPaths (disk : DiskAccess) : Prop where
  probe : ∀ tree path, path ≠ "" → disk.probe? tree path = some (Repository.probe tree path)
  makeDirectories : ∀ tree mode path, path ≠ "" →
    disk.makeDirectories? tree mode path = some (Disk.Tree.makeDirectories tree mode path)

/-- `prepare` on a disk that may refuse. -/
def prepareOn (disk : DiskAccess) (guard : Guard) (s : Scene) (path : String) :
    Option (Except Fault Unit × Scene) :=
  match guard with
  | .repository =>
    (disk.probe? s.tree path).map fun (found, records) =>
      (if found then .ok () else .error .repositoryNotFound, s.logAll records)
  | .lfsObject | .artifacts =>
    (disk.makeDirectories? s.tree privateMode path).map fun (tree, result) =>
      (result.mapError .disk, { s with tree })

/-- `call` on a disk that may refuse. -/
def callOn (disk : DiskAccess) (guard : Guard) (backend : Backend) (s : Scene) :
    Option (Flow Response Fault × Scene) :=
  match consult (suffix guard) backend s with
  | (.error fault, s) => some (.fail fault, s)
  | (.ok (some response), s) => some (.respond response, s)
  | (.ok none, s) =>
    match place guard s.exchange.grant with
    | .error fault => some (.fail fault, s)
    | .ok path =>
      (prepareOn disk guard s path).map fun
        | (.error fault, s) => (.fail fault, s)
        | (.ok (), s) => (.next, s)

theorem prepareOn_eq_some {disk : DiskAccess} (hdisk : disk.ServesPaths) (guard : Guard)
    (s : Scene) (hpath : path ≠ "") : prepareOn disk guard s path = some (prepare guard s path) := by
  cases guard with
  | repository => rw [prepareOn, hdisk.probe _ _ hpath]; rfl
  | lfsObject => rw [prepareOn, hdisk.makeDirectories _ _ _ hpath]; rfl
  | artifacts => rw [prepareOn, hdisk.makeDirectories _ _ _ hpath]; rfl

/-- A guard's stage does the same on every disk that serves paths. -/
theorem callOn_eq_some {disk : DiskAccess} (hdisk : disk.ServesPaths) (guard : Guard)
    (backend : Backend) (s : Scene) : callOn disk guard backend s = some (call guard backend s) := by
  rw [callOn, call]
  rcases hconsult : consult (suffix guard) backend s with ⟨fault | _ | response, t⟩
  · rfl
  · -- Only behind an approval is the disk used, with the place that the new grant names.
    dsimp only
    cases hplace : place guard t.exchange.grant with
    | error fault => rfl
    | ok path =>
        have hpath : path ≠ "" :=
          ne_empty_of_provides (place_eq_ok_iff.mp hplace) (hasNoEmptyText_of_approved hconsult)
        dsimp only
        rw [prepareOn_eq_some hdisk guard t hpath]
        rcases prepare guard t path with ⟨fault | _, u⟩ <;> rfl
  · rfl

/-- The disk, except that it gives no answer about the empty path. -/
def DiskAccess.wary : DiskAccess where
  probe? tree path := if path = "" then none else some (Repository.probe tree path)
  makeDirectories? tree mode path :=
    if path = "" then none else some (tree.makeDirectories mode path)

theorem DiskAccess.servesPaths_wary : wary.ServesPaths where
  probe _ _ hpath := if_neg hpath
  makeDirectories _ _ _ hpath := if_neg hpath

/-- **A grant never names the empty path.**  Whatever octets are read as a grant, none of its texts
is empty.  An exchange that holds no empty text when it comes to stages that ask and forward, as one
to which nothing is granted does, holds none at any of them and none behind them.  A guard is
satisfied with an approval only if the grant names the place it needs, and for a large object the
object as well, with texts that are not empty.  So a disk that is known to serve only paths that are
not empty serves every guard as the real one does. -/
theorem place_never_empty :
    (∀ (octets : Bytes) (grant : Grant), Grant.ofDocument octets = .ok grant →
      ∀ field, grant.text? field ≠ some "") ∧
    (∀ (backend : Backend) (s : Scene) (stages : List Handler), s.exchange.grant = {} →
      (∀ stage ∈ stages, Asks stage) →
      (∀ call ∈ calls backend s stages, ∀ field, call.2.exchange.grant.text? field ≠ some "") ∧
      ∀ field, (run backend s stages).state.exchange.grant.text? field ≠ some "") ∧
    (∀ (guard : Guard) (backend : Backend) (s t : Scene) (path : String),
      consult (suffix guard) backend s = (.ok none, t) →
      place guard t.exchange.grant = .ok path →
      Provides guard t.exchange.grant path ∧ path ≠ "" ∧ t.exchange.grant.lfsOid ≠ some "") ∧
    ∀ (disk : DiskAccess), disk.ServesPaths → ∀ (guard : Guard) (backend : Backend) (s : Scene),
      callOn disk guard backend s = some (call guard backend s) := by
  refine ⟨?_, ?_, ?_, ?_⟩
  · intro octets grant h
    exact Grant.hasNoEmptyText_of_ofDocument h
  · intro backend s stages hgrant hstages
    refine hasNoEmptyText_run hstages backend s ?_
    rw [hgrant]
    exact Grant.hasNoEmptyText_empty
  · intro guard backend s t path hconsult hplace
    have hgrant := hasNoEmptyText_of_approved hconsult
    have hprovides := place_eq_ok_iff.mp hplace
    exact ⟨hprovides, ne_empty_of_provides hprovides hgrant, hgrant .lfsOid⟩
  · intro disk hdisk guard backend s
    exact callOn_eq_some hdisk guard backend s

/-- A grant whose first text is empty says nothing there, and the repository that it names is looked
for on a disk that gives no answer about the empty path. -/
theorem place_never_empty_wary :
    ∃ (backend : Backend) (s t : Scene),
      consult (suffix .repository) backend s = (.ok none, t) ∧
      place .repository t.exchange.grant = .ok "/r" ∧
      (∀ field, ({ repoPath := some "/r" } : Grant).text? field ≠ some "") ∧
      (∀ field, (run backend s [handler .repository, Forward.handler]).state.exchange.grant.text?
        field ≠ some "") ∧
      (Provides .repository t.exchange.grant "/r" ∧ "/r" ≠ "" ∧
        t.exchange.grant.lfsOid ≠ some "") ∧
      callOn .wary .repository backend s = some (call .repository backend s) := by
  have hread : Grant.ofDocument (Bytes.ofString "[\"\",\"/r\"]") = .ok { repoPath := some "/r" } := by
    rfl
  have hasked :
      Scene.question
        { exchange :=
            { request := { uri := { path := "/p.git/info/refs" } }
              link := ⟨⟨"http://auth", "1"⟩, .ofSeconds 1⟩ } } (suffix .repository) =
        .ok
          { uri :=
              { scheme? := some "http", authority? := some "auth", path := "/p.git/info/refs" }
            headers := [⟨"gitlab-workhorse", Bytes.ofString "1"⟩] } := by
    rfl
  have hconsult : consult (suffix .repository) (fun _ _ => .answered
      { payload := { octets := Bytes.ofString "[\"\",\"/r\"]" } }) _ = _ :=
    consult_eq_none_iff.mpr
      ⟨_, _, _, hasked, rfl, rfl, readGrant_eq_ok_iff.mpr ⟨rfl, by decide, hread⟩, rfl⟩
  refine ⟨_, _, _, hconsult, rfl, place_never_empty.1 _ _ hread, ?_,
    place_never_empty.2.2.1 .repository _ _ _ "/r" hconsult rfl,
    place_never_empty.2.2.2 .wary DiskAccess.servesPaths_wary .repository _ _⟩
  refine (place_never_empty.2.1 _ _ [handler .repository, Forward.handler] rfl ?_).2
  rintro stage (_ | ⟨_, _ | ⟨_, h⟩⟩)
  · exact .inl ⟨_, rfl⟩
  · exact .inr rfl
  · cases h

end FrontDoor.Authorize
