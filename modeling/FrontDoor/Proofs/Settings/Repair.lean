/-
Repairing one setting does not touch what is told of the others.

A value that satisfies the rule of its setting takes away what was told of that setting and leaves
the rest in its place (`problems_repaired`).  It changes no rule either (`accepts_repaired_iff`), so
a run of repairs takes away what was told of all the settings that it repairs (`problems_repairs`),
and if these are all that was told of, nothing is left.
-/
import FrontDoor.Proofs.Settings.Problems
import FrontDoor.Settings.Assembly

namespace FrontDoor.Settings

variable {s : Settings} {other : Item}

/-! ### Repairs -/

/-- A new value for a setting that has a rule. -/
inductive Repair
  | bindAddress (text : String)
  | backendUrl (text : String)
  | timeoutSeconds (n : Nat)
  | version (text : String)
  | metricsAddress (text : String)
  deriving DecidableEq, Repr

/-- The setting that is given the value. -/
def Repair.about : Repair → Item
  | .bindAddress _ => .bindAddress
  | .backendUrl _ => .backendUrl
  | .timeoutSeconds _ => .timeoutSeconds
  | .version _ => .version
  | .metricsAddress _ => .metricsAddress

/-- The settings with the value in place of what the setting held. -/
def repaired (s : Settings) : Repair → Settings
  | .bindAddress text => { s with bindAddress := text }
  | .backendUrl text => { s with backendUrl := text }
  | .timeoutSeconds n => { s with timeoutSeconds := n }
  | .version text => { s with version := text }
  | .metricsAddress text => { s with metricsAddress := text }

/-- The value satisfies the rule of its setting; where metrics are not shown, any address does. -/
def Accepts (s : Settings) : Repair → Prop
  | .bindAddress text => ∃ address, Net.SocketAddress.ofText? text = some address
  | .backendUrl text =>
    ∃ url, Url.ofText? text = some url ∧ url.scheme = "http" ∧ url.query? = none ∧
      url.fragment? = none
  | .timeoutSeconds n => 0 < n
  | .version text => Delegation.Sendable text
  | .metricsAddress text =>
    s.metricsEnabled = true → ∃ address, Net.SocketAddress.ofText? text = some address

variable {r : Repair} {rs : List Repair}

theorem held_repaired (h : other ≠ r.about) : (s.repaired r).held other = s.held other := by
  cases r <;> cases other <;> first | rfl | exact absurd rfl h

theorem metricsEnabled_repaired : (s.repaired r).metricsEnabled = s.metricsEnabled := by
  cases r <;> rfl

theorem accepts_repaired_iff {q : Repair} : (s.repaired r).Accepts q ↔ s.Accepts q := by
  cases q with
  | metricsAddress text => rw [Accepts, Accepts, metricsEnabled_repaired]
  | _ => rfl

theorem problemsOf_repaired_of_ne (h : other ≠ r.about) :
    (s.repaired r).problemsOf other = s.problemsOf other :=
  problemsOf_congr (held_repaired h) fun _ => metricsEnabled_repaired

theorem problemsOf_repaired (h : s.Accepts r) : (s.repaired r).problemsOf r.about = [] := by
  cases r with
  | bindAddress text =>
      obtain ⟨address, haddress⟩ := h
      exact if_pos (Option.isSome_iff_exists.mpr ⟨address, haddress⟩)
  | backendUrl text =>
      obtain ⟨url, hurl, hscheme, hquery, hfragment⟩ := h
      show backendProblems text = []
      simp [backendProblems, hurl, hscheme, hquery, hfragment]
  | timeoutSeconds n => exact if_neg (Nat.ne_of_gt h)
  | version text =>
      have hvalue := Delegation.sendable_iff.mp h
      exact if_neg (by simpa [repaired] using hvalue)
  | metricsAddress text =>
      refine if_neg fun hbad => ?_
      obtain ⟨henabled, hno⟩ := Bool.and_eq_true_iff.mp hbad
      obtain ⟨address, haddress⟩ := h henabled
      have hyes : isSocketAddress text = true := Option.isSome_iff_exists.mpr ⟨address, haddress⟩
      rw [repaired, hyes] at hno
      cases hno

/-- A repair takes away what was told of its setting, and nothing else. -/
theorem problems_repaired (h : s.Accepts r) :
    (s.repaired r).problems = s.problems.filter (·.about ≠ r.about) := by
  rw [problems_eq_flatMap, problems_eq_flatMap, List.filter_flatMap]
  refine List.flatMap_congr fun other _ => ?_
  by_cases hother : other = r.about
  · subst hother
    rw [problemsOf_repaired h, eq_comm, List.filter_eq_nil_iff]
    intro p hp
    simpa using about_of_mem_problemsOf hp
  · rw [problemsOf_repaired_of_ne hother, eq_comm, List.filter_eq_self]
    intro p hp
    simpa [about_of_mem_problemsOf hp] using hother

/-- Repairs take away what was told of the settings that they are about. -/
theorem problems_repairs (h : ∀ r ∈ rs, s.Accepts r) :
    (rs.foldl repaired s).problems = s.problems.filter (·.about ∉ rs.map Repair.about) := by
  induction rs generalizing s with
  | nil => simp
  | cons r rs ih =>
      obtain ⟨hr, hrs⟩ := List.forall_mem_cons.mp h
      rw [List.foldl_cons, ih fun q hq => accepts_repaired_iff.mpr (hrs q hq), problems_repaired hr,
        List.filter_filter]
      refine List.filter_congr fun p _ => ?_
      simp [Bool.and_comm]

theorem checked_of_problems (h : s.problems = []) : checked s = .ok s := by
  rw [checked, h]
  rfl

/-- **Every problem is told, and none speaks for another.**  What settings are refused for stands in
the order of the settings, each thing once: a text that is no address is told of alone, and of an
address its scheme is told before a query or a fragment.  What is told is what is broken.  A value
that satisfies the rule of its setting takes away what was told of that setting and leaves all else
in its place, and values for all settings that were told of, in whatever order they are put in, give
settings to run on. -/
theorem problems_independent (s : Settings) :
    (s.problems.Pairwise (·.position < ·.position) ∧ s.problems.Nodup) ∧
    (∀ text, .backendUrl text ∈ s.problems →
      (∀ scheme, .backendScheme scheme ∉ s.problems) ∧ .backendSuffix ∉ s.problems) ∧
    (∀ p, p ∈ s.problems ↔ s.Breaks p) ∧
    (∀ r, s.Accepts r →
      (s.repaired r).problems = s.problems.filter (·.about ≠ r.about)) ∧
    ∀ rs : List Repair, (∀ r ∈ rs, s.Accepts r) →
      (∀ p ∈ s.problems, ∃ r ∈ rs, r.about = p.about) →
      checked (rs.foldl repaired s) = .ok (rs.foldl repaired s) := by
  have hordered := pairwise_problems s
  refine ⟨⟨hordered, hordered.imp ?_⟩, ?_, fun p => mem_problems_iff_breaks,
    fun r => problems_repaired, ?_⟩
  · rintro p q hbefore rfl
    exact Nat.lt_irrefl _ hbefore
  · intro text htext
    refine ⟨fun scheme hscheme => ?_, fun hsuffix => ?_⟩
    · cases eq_of_backendUrl_mem htext hscheme rfl
    · cases eq_of_backendUrl_mem htext hsuffix rfl
  · intro rs hrs hall
    refine checked_of_problems ?_
    rw [problems_repairs hrs, List.filter_eq_nil_iff]
    intro p hp
    obtain ⟨r, hr, habout⟩ := hall p hp
    simpa using ⟨r, hr, habout⟩

/-- Settings with nothing right in them.  With another address of the backend two problems are gone,
and with all five repairs, put in without regard to their order, every one is. -/
theorem problems_independent_nothing_right :
    (repaired
        { bindAddress := "nowhere", backendUrl := "ftp://h?x", timeoutSeconds := 0, version := "",
          metricsEnabled := true, metricsAddress := "bogus" }
        (.backendUrl "http://h")).problems =
      [.bindAddress "nowhere", .zeroTimeout, .version, .metricsAddress "bogus"] ∧
    checked
        ([.version "1", .metricsAddress "0.0.0.0:9", .backendUrl "http://h", .timeoutSeconds 5,
          .bindAddress "[::1]:80"].foldl repaired
          { bindAddress := "nowhere", backendUrl := "ftp://h?x", timeoutSeconds := 0, version := "",
            metricsEnabled := true, metricsAddress := "bogus" }) =
      .ok
        { bindAddress := "[::1]:80", backendUrl := "http://h", timeoutSeconds := 5, version := "1",
          metricsEnabled := true, metricsAddress := "0.0.0.0:9" } := by
  obtain ⟨-, -, -, hone, hall⟩ := problems_independent
    { bindAddress := "nowhere", backendUrl := "ftp://h?x", timeoutSeconds := 0, version := "",
      metricsEnabled := true, metricsAddress := "bogus" }
  constructor
  · rw [hone (.backendUrl "http://h") ⟨_, rfl, rfl, rfl, rfl⟩]
    decide
  · have hversion : Delegation.Sendable "1" := by decide
    refine hall _ ?_ (by decide)
    simp only [List.forall_mem_cons]
    exact ⟨hversion, fun _ => ⟨_, rfl⟩, ⟨_, rfl, rfl, rfl, rfl⟩, Nat.succ_pos 4, ⟨_, rfl⟩,
      by simp⟩

end FrontDoor.Settings
