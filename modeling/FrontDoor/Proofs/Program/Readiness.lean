/-
What passes the check can be started with.

The check and the start read the same texts, each on its own.  The version is what a gateway may
fail to be set up for, and the check refuses exactly the versions for which it does
(`version_mem_problems_iff`, `to?_eq_error_iff`, `ofSettings?_eq_error_iff`).  The two
addresses are read again when they are to be bound, and those of checked settings can be read
(`exists_address_of_problems`, `exists_metricsAddress_of_problems`).  So it is up to the system
alone whether a run on prepared settings serves (`ready_of_problems`).
-/
import FrontDoor.Program.Run
import FrontDoor.Proofs.Settings.Layers

namespace FrontDoor

/-! ### Setting up a gateway -/

section Setup

variable {s : Settings} {backend version : String} {limit : Duration} {problem : Delegation.Problem}

theorem Link.to?_of_sendable (h : Delegation.Sendable version) :
    Link.to? backend version limit = .ok ⟨⟨backend, version⟩, limit⟩ := by
  rw [Link.to?, Delegation.to?_of_sendable backend h]
  rfl

theorem Link.to?_of_not_sendable (h : ¬Delegation.Sendable version) :
    Link.to? backend version limit = .error (.invalidVersion version) := by
  rw [Link.to?, Delegation.to?_of_not_sendable backend h]
  rfl

theorem Link.to?_eq_error_iff :
    Link.to? backend version limit = .error problem ↔
      problem = .invalidVersion version ∧ ¬Delegation.Sendable version := by
  by_cases h : Delegation.Sendable version
  · simp [Link.to?_of_sendable h, h]
  · simp [Link.to?_of_not_sendable h, h, eq_comm]

theorem Link.exists_to?_iff :
    (∃ link, Link.to? backend version limit = .ok link) ↔ Delegation.Sendable version := by
  by_cases h : Delegation.Sendable version
  · simp [Link.to?_of_sendable h, h]
  · simp [Link.to?_of_not_sendable h, h]

theorem Gateway.ofSettings?_of_sendable (h : Delegation.Sendable s.version) :
    Gateway.ofSettings? s =
      .ok ⟨gitRoutes .passThrough, ⟨s.backendUrl, s.version⟩, .ofSeconds s.timeoutSeconds⟩ := by
  rw [Gateway.ofSettings?, Link.to?_of_sendable h]
  rfl

/-- What keeps a gateway from being set up is what keeps its backend from being linked to. -/
theorem Gateway.ofSettings?_eq_error_iff :
    Gateway.ofSettings? s = .error problem ↔
      Link.to? s.backendUrl s.version (.ofSeconds s.timeoutSeconds) = .error problem := by
  unfold Gateway.ofSettings?
  cases Link.to? s.backendUrl s.version (.ofSeconds s.timeoutSeconds) <;> simp [Except.map]

end Setup

/-! ### Checked settings -/

namespace Settings

variable {s : Settings}

theorem version_mem_problems_iff :
    Problem.version ∈ s.problems ↔ ¬Delegation.Sendable s.version :=
  mem_problems_iff_breaks

theorem sendable_of_problems (h : s.problems = []) : Delegation.Sendable s.version :=
  Decidable.not_not.mp (not_breaks_of_problems h .version)

theorem exists_address_of_problems (h : s.problems = []) :
    ∃ address, Net.SocketAddress.ofText? s.bindAddress = some address := by
  refine Option.ne_none_iff_exists'.mp fun hnone => ?_
  exact not_breaks_of_problems h (.bindAddress s.bindAddress) ⟨hnone, rfl⟩

theorem exists_metricsAddress_of_problems (h : s.problems = [])
    (henabled : s.metricsEnabled = true) :
    ∃ address, Net.SocketAddress.ofText? s.metricsAddress = some address := by
  refine Option.ne_none_iff_exists'.mp fun hnone => ?_
  exact not_breaks_of_problems h (.metricsAddress s.metricsAddress) ⟨⟨henabled, hnone⟩, rfl⟩

/-- Settings are prepared only if nothing is wrong with them. -/
theorem problems_of_prepare {readText : String → Except Disk.Error String} {path? : Option String}
    {o : Overrides} (h : prepare readText path? o = .ok s) : s.problems = [] := by
  cases hf : loadOrDefault readText path? with
  | error failure =>
      rw [prepare, hf] at h
      cases h
  | ok f =>
      rw [prepare_of_loaded hf] at h
      split at h
      · cases h
        assumption
      · cases h

end Settings

namespace Program

open Settings (Problem prepare)

/-- A run with these settings serves if the system lets it: a gateway can be set up, the address can
be read, and whether the system grants it decides how the run ends.  And if metrics are to be shown,
their address can be read, and the run tries to show them there. -/
structure Ready (s : Settings) : Prop where
  gateway : ∃ gateway, Gateway.ofSettings? s = .ok gateway
  address : ∃ address, Net.SocketAddress.ofText? s.bindAddress = some address ∧
    ∀ around signal, (live around s signal).2 =
      match around.bind address with
      | .ok _ => .stopped
      | .error errno => .failed (Disk.Error.system errno).debugText
  metrics : s.metricsEnabled = true →
    ∃ address, Net.SocketAddress.ofText? s.metricsAddress = some address ∧
      ∀ around signal, metricsEvent around address ∈ (live around s signal).1

variable {s : Settings} {around : Surroundings} {address : Net.SocketAddress}

theorem bound_of_ofText? (h : Net.SocketAddress.ofText? s.bindAddress = some address) :
    bound around s = (around.bind address).mapError .system := by
  rw [bound, h]

theorem metricsEvents_of_ofText? (henabled : s.metricsEnabled = true)
    (h : Net.SocketAddress.ofText? s.metricsAddress = some address) :
    metricsEvents around s = [metricsEvent around address] := by
  rw [metricsEvents, if_pos henabled, h]

/-- Every run begins with the events before anything is bound and those about metrics. -/
theorem subset_live (around : Surroundings) (s : Settings) (signal : Signal) :
    opening s ++ metricsEvents around s ⊆ (live around s signal).1 := by
  unfold live
  dsimp only
  split
  · exact List.Subset.refl _
  · split
    · exact List.Subset.refl _
    · exact List.subset_append_left ..

theorem ready_of_problems (h : s.problems = []) : Ready s := by
  have hgateway := Gateway.ofSettings?_of_sendable (Settings.sendable_of_problems h)
  obtain ⟨address, haddress⟩ := Settings.exists_address_of_problems h
  refine ⟨⟨_, hgateway⟩, ⟨address, haddress, fun around signal => ?_⟩, fun henabled => ?_⟩
  · rw [live, bound_of_ofText? haddress, hgateway]
    cases around.bind address <;> rfl
  · obtain ⟨address, haddress⟩ := Settings.exists_metricsAddress_of_problems h henabled
    refine ⟨address, haddress, fun around signal => subset_live around s signal ?_⟩
    rw [metricsEvents_of_ofText? henabled haddress]
    exact List.mem_append_right _ (List.mem_singleton_self _)

/-- **The start agrees with the check.**  Whatever the settings, the check refuses their version
exactly if the backend cannot be linked to under it, and exactly if no gateway can be set up; the
reason for either is this version.  What both take is a version that is not empty and has no octets
but tabs and those from the space on other than the delete character.  So settings that were
prepared, from whatever file and under whatever command line, are ready to run on. -/
theorem started_as_checked (s : Settings) :
    (Problem.version ∈ s.problems ↔
      ∃ problem, Link.to? s.backendUrl s.version (.ofSeconds s.timeoutSeconds) = .error problem) ∧
    (Problem.version ∈ s.problems ↔ ∃ problem, Gateway.ofSettings? s = .error problem) ∧
    (∀ problem, Link.to? s.backendUrl s.version (.ofSeconds s.timeoutSeconds) = .error problem ∨
      Gateway.ofSettings? s = .error problem → problem = .invalidVersion s.version) ∧
    (Problem.version ∉ s.problems ↔ Delegation.Sendable s.version) ∧
    ((∃ link, Link.to? s.backendUrl s.version (.ofSeconds s.timeoutSeconds) = .ok link) ↔
      Delegation.Sendable s.version) ∧
    ∀ readText path? o, prepare readText path? o = .ok s → Ready s := by
  have hlink (problem : Delegation.Problem) :
      Link.to? s.backendUrl s.version (.ofSeconds s.timeoutSeconds) = .error problem ↔
        problem = .invalidVersion s.version ∧ ¬Delegation.Sendable s.version :=
    Link.to?_eq_error_iff
  have hgateway (problem : Delegation.Problem) :
      Gateway.ofSettings? s = .error problem ↔
        problem = .invalidVersion s.version ∧ ¬Delegation.Sendable s.version :=
    Gateway.ofSettings?_eq_error_iff.trans (hlink problem)
  simp only [Settings.version_mem_problems_iff, hlink, hgateway]
  refine ⟨by simp, by simp, ?_, Decidable.not_not, Link.exists_to?_iff, ?_⟩
  · rintro problem (⟨rfl, -⟩ | ⟨rfl, -⟩) <;> rfl
  · intro readText path? o h
    exact ready_of_problems (Settings.problems_of_prepare h)

/-- A version with a tab and octets above ASCII, and metrics that are shown: the file and the
command line give settings that are ready.  Under a version with the delete character no gateway is
set up. -/
theorem started_as_checked_accented :
    prepare (fun _ => .ok "auth_backend.version='\té'\nobservability.metrics_enabled=true")
        (some "file") { listenAddress? := some "[::1]:0" } =
      .ok { bindAddress := "[::1]:0", version := "\té", metricsEnabled := true } ∧
    Ready { bindAddress := "[::1]:0", version := "\té", metricsEnabled := true } ∧
    ∃ problem, Gateway.ofSettings? { version := "1\x7f" } = .error problem := by
  have hloaded :
      Settings.loadOrDefault
          (fun _ => .ok "auth_backend.version='\té'\nobservability.metrics_enabled=true")
          (some "file") =
        .ok { version := "\té", metricsEnabled := true } :=
    Settings.loadOrDefault_of_ofText? rfl (by cbv)
  have hprepared :
      prepare (fun _ => .ok "auth_backend.version='\té'\nobservability.metrics_enabled=true")
          (some "file") { listenAddress? := some "[::1]:0" } =
        .ok { bindAddress := "[::1]:0", version := "\té", metricsEnabled := true } := by
    rw [Settings.prepare_of_loaded hloaded]
    exact if_pos (by decide)
  obtain ⟨-, -, -, -, -, hready⟩ := started_as_checked
    { bindAddress := "[::1]:0", version := "\té", metricsEnabled := true }
  obtain ⟨-, hrefused, -⟩ := started_as_checked { version := "1\x7f" }
  exact ⟨hprepared, hready _ _ _ hprepared, hrefused.mp (by decide)⟩

end Program

end FrontDoor
