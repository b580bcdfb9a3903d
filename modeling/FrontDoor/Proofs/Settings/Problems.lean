/-
What is told of settings that are wrong.

What is told is what is wrong with one setting after the other (`problems_eq_flatMap`).  What is
wrong with a setting shows in what it holds, for the address of metrics together with whether
metrics are shown (`problemsOf_congr`), and it is told exactly if a rule is broken
(`mem_problems_iff_breaks`).  The settings have their order, and so has what is told of them
(`pairwise_problems`).
-/
import FrontDoor.Proofs.Delegation
import FrontDoor.Proofs.Settings.Items
import FrontDoor.Settings.Check
import Mathlib.Data.List.Basic

namespace FrontDoor.Settings

open Toml (Value)

variable {s t : Settings} {p q : Problem} {item : Item}

/-- The setting that a problem is found in. -/
def Problem.about : Problem → Item
  | .bindAddress _ => .bindAddress
  | .backendUrl _ | .backendScheme _ | .backendSuffix => .backendUrl
  | .zeroTimeout => .timeoutSeconds
  | .version => .version
  | .metricsAddress _ => .metricsAddress

/-! ### What is told -/

theorem mem_backendProblems_iff {text : String} :
    p ∈ backendProblems text ↔
      (Url.ofText? text = none ∧ p = .backendUrl text) ∨
      ∃ url, Url.ofText? text = some url ∧
        ((url.scheme ≠ "http" ∧ p = .backendScheme url.scheme) ∨
          (url.query? ≠ none ∨ url.fragment? ≠ none) ∧ p = .backendSuffix) := by
  unfold backendProblems
  cases Url.ofText? text with
  | none => simp
  | some url => simp [Option.isSome_iff_ne_none]

theorem about_of_mem_backendProblems {text : String} (h : p ∈ backendProblems text) :
    p.about = .backendUrl := by
  rcases mem_backendProblems_iff.mp h with ⟨-, rfl⟩ | ⟨url, -, ⟨-, rfl⟩ | ⟨-, rfl⟩⟩ <;> rfl

theorem mem_problems_iff :
    p ∈ s.problems ↔
      (isSocketAddress s.bindAddress = false ∧ p = .bindAddress s.bindAddress) ∨
      p ∈ backendProblems s.backendUrl ∨
      (s.timeoutSeconds = 0 ∧ p = .zeroTimeout) ∨
      (¬Delegation.Sendable s.version ∧ p = .version) ∨
      (s.metricsEnabled = true ∧ isSocketAddress s.metricsAddress = false) ∧
        p = .metricsAddress s.metricsAddress := by
  simp [problems, Delegation.not_sendable_iff, List.mem_append, List.mem_ite_nil_left,
    List.mem_ite_nil_right]

/-! ### Rules -/

/-- The settings break the rule that the problem tells of. -/
def Breaks (s : Settings) : Problem → Prop
  | .bindAddress text => Net.SocketAddress.ofText? s.bindAddress = none ∧ text = s.bindAddress
  | .backendUrl text => Url.ofText? s.backendUrl = none ∧ text = s.backendUrl
  | .backendScheme scheme =>
    ∃ url, Url.ofText? s.backendUrl = some url ∧ url.scheme ≠ "http" ∧ scheme = url.scheme
  | .backendSuffix =>
    ∃ url, Url.ofText? s.backendUrl = some url ∧ (url.query? ≠ none ∨ url.fragment? ≠ none)
  | .zeroTimeout => s.timeoutSeconds = 0
  | .version => ¬Delegation.Sendable s.version
  | .metricsAddress text =>
    (s.metricsEnabled = true ∧ Net.SocketAddress.ofText? s.metricsAddress = none) ∧
      text = s.metricsAddress

theorem isSocketAddress_eq_false_iff {text : String} :
    isSocketAddress text = false ↔ Net.SocketAddress.ofText? text = none := by
  rw [isSocketAddress, Option.isSome_eq_false_iff, Option.isNone_iff_eq_none]

/-- What is told is what is broken. -/
theorem mem_problems_iff_breaks : p ∈ s.problems ↔ s.Breaks p := by
  rw [mem_problems_iff, mem_backendProblems_iff, isSocketAddress_eq_false_iff,
    isSocketAddress_eq_false_iff]
  cases p <;> simp [Breaks]

theorem not_breaks_of_problems (h : s.problems = []) (p : Problem) : ¬s.Breaks p := by
  rw [← mem_problems_iff_breaks, h]
  exact List.not_mem_nil

/-! ### One setting after the other -/

/-- The settings in their order. -/
def Item.all : List Item :=
  [.bindAddress, .backendUrl, .timeoutSeconds, .version, .logLevel, .metricsEnabled,
    .metricsAddress]

theorem Item.mem_all (item : Item) : item ∈ all := by
  cases item <;> decide

/-- What is wrong with one setting. -/
def problemsOf (s : Settings) : Item → List Problem
  | .bindAddress => if isSocketAddress s.bindAddress then [] else [.bindAddress s.bindAddress]
  | .backendUrl => backendProblems s.backendUrl
  | .timeoutSeconds => if s.timeoutSeconds = 0 then [.zeroTimeout] else []
  | .version =>
    if s.version.isEmpty || !Http.isHeaderValue (Bytes.ofString s.version) then [.version] else []
  | .metricsAddress =>
    if s.metricsEnabled && !isSocketAddress s.metricsAddress then
      [.metricsAddress s.metricsAddress]
    else []
  | .logLevel | .metricsEnabled => []

theorem problems_eq_flatMap : s.problems = Item.all.flatMap s.problemsOf := by
  simp [problems, problemsOf, Item.all]

theorem about_of_mem_problemsOf (h : p ∈ s.problemsOf item) : p.about = item := by
  cases item with
  | backendUrl => exact about_of_mem_backendProblems h
  | logLevel => cases h
  | metricsEnabled => cases h
  | _ =>
      simp only [problemsOf] at h
      split at h
      all_goals simp_all [Problem.about]

theorem mem_problemsOf_about_iff : p ∈ s.problemsOf p.about ↔ p ∈ s.problems := by
  rw [problems_eq_flatMap, List.mem_flatMap]
  constructor
  · intro hp
    exact ⟨p.about, Item.mem_all _, hp⟩
  · rintro ⟨item, -, hp⟩
    rwa [about_of_mem_problemsOf hp]

/-- Of a backend that is no address nothing else is told. -/
theorem eq_of_backendUrl_mem {text : String} (h : .backendUrl text ∈ s.problems)
    (hp : p ∈ s.problems) (habout : p.about = .backendUrl) : p = .backendUrl text := by
  obtain ⟨hnone, rfl⟩ := mem_problems_iff_breaks.mp h
  rw [← mem_problemsOf_about_iff, habout] at hp
  rcases mem_backendProblems_iff.mp hp with ⟨-, hp⟩ | ⟨url, hurl, -⟩
  · exact hp
  · rw [hnone] at hurl
    cases hurl

/-- What is wrong with a setting shows in what it holds; an address for metrics counts only where
metrics are shown. -/
theorem problemsOf_congr (hheld : s.held item = t.held item)
    (henabled : item = .metricsAddress → s.metricsEnabled = t.metricsEnabled) :
    s.problemsOf item = t.problemsOf item := by
  cases item with
  | bindAddress => rw [problemsOf, problemsOf, Value.string.inj hheld]
  | backendUrl => rw [problemsOf, problemsOf, Value.string.inj hheld]
  | timeoutSeconds => rw [problemsOf, problemsOf, Int.ofNat.inj (Value.integer.inj hheld)]
  | version => rw [problemsOf, problemsOf, Value.string.inj hheld]
  | metricsAddress => rw [problemsOf, problemsOf, Value.string.inj hheld, henabled rfl]
  | logLevel => rfl
  | metricsEnabled => rfl

theorem mem_problems_of_held (hheld : s.held p.about = t.held p.about)
    (henabled : p.about = .metricsAddress → s.metricsEnabled = t.metricsEnabled)
    (hp : p ∈ s.problems) : p ∈ t.problems := by
  rwa [← mem_problemsOf_about_iff, ← problemsOf_congr hheld henabled, mem_problemsOf_about_iff]

/-! ### Order -/

/-- Where a setting stands. -/
def Item.position : Item → Nat
  | .bindAddress => 0
  | .backendUrl => 1
  | .timeoutSeconds => 2
  | .version => 3
  | .logLevel => 4
  | .metricsEnabled => 5
  | .metricsAddress => 6

/-- Where a problem stands among all that can be told: the settings in their order, and of a backend
that is an address the scheme before what ends it. -/
def Problem.position : Problem → Nat
  | .bindAddress _ => 0
  | .backendUrl _ => 1
  | .backendScheme _ => 2
  | .backendSuffix => 3
  | .zeroTimeout => 4
  | .version => 5
  | .metricsAddress _ => 6

theorem Problem.position_lt (h : p.about.position < q.about.position) :
    p.position < q.position := by
  revert h
  cases p <;> cases q <;> simp [about, Item.position, position]

theorem pairwise_problemsOf (s : Settings) (item : Item) :
    (s.problemsOf item).Pairwise (·.position < ·.position) := by
  cases item with
  | backendUrl =>
      rw [problemsOf, backendProblems]
      split
      · exact List.pairwise_singleton ..
      · split <;> split <;> simp [Problem.position]
  | logLevel => exact .nil
  | metricsEnabled => exact .nil
  | _ =>
      simp only [problemsOf]
      split
      all_goals simp

theorem pairwise_problems (s : Settings) : s.problems.Pairwise (·.position < ·.position) := by
  have hall : Item.all.Pairwise (·.position < ·.position) := by decide
  rw [problems_eq_flatMap, List.pairwise_flatMap]
  refine ⟨fun item _ => pairwise_problemsOf s item, hall.imp ?_⟩
  intro item other hbefore p hp q hq
  rw [← about_of_mem_problemsOf hp, ← about_of_mem_problemsOf hq] at hbefore
  exact Problem.position_lt hbefore

end FrontDoor.Settings
