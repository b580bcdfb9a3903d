/-
Each setting comes from the topmost layer that says something about it.

The layers are the command line, the document in a file and the defaults.  Settings are checked
when they are put together and not before.  A problem is found in what one setting holds
(`mem_problems_of_held`), so whatever is wrong is wrong with what the command line gives or with
what lies beneath in the settings that it leaves alone (`mem_problems_apply_iff`).
-/
import FrontDoor.Proofs.Settings.Problems
import FrontDoor.Settings.Assembly
import Mathlib

namespace FrontDoor.Settings

open Toml (Value)

variable {s t : Settings} {es : Toml.Entries}

/-! ### Layers -/

/-- What the command line says about a setting. -/
def Overrides.given? (o : Overrides) : Item → Option Value
  | .bindAddress => o.listenAddress?.map .string
  | .backendUrl => o.backend?.map .string
  | _ => none

/-- What the topmost layer that says something about a setting says. -/
def layered (o : Overrides) (es : Toml.Entries) (item : Item) : Value :=
  (o.given? item <|> given? es item).getD (({} : Settings).held item)

theorem held_apply (o : Overrides) (s : Settings) (item : Item) :
    (o.apply s).held item = (o.given? item).getD (s.held item) := by
  cases item with
  | bindAddress => cases h : o.listenAddress? <;> simp [held, Overrides.apply, Overrides.given?, h]
  | backendUrl => cases h : o.backend? <;> simp [held, Overrides.apply, Overrides.given?, h]
  | _ => rfl

theorem bindAddress_apply {o : Overrides} {address : String}
    (h : o.listenAddress? = some address) : (o.apply s).bindAddress = address := by
  rw [Overrides.apply, h]
  rfl

theorem backendUrl_apply {o : Overrides} {url : String} (h : o.backend? = some url) :
    (o.apply s).backendUrl = url := by
  rw [Overrides.apply, h]
  rfl

/-! ### Problems -/

/-- What is wrong with what the command line gives. -/
def Overrides.faults (o : Overrides) : List Problem :=
  (o.listenAddress?.elim [] fun address =>
    if isSocketAddress address then [] else [.bindAddress address]) ++
    o.backend?.elim [] backendProblems

theorem Overrides.mem_faults_iff {o : Overrides} {p : Problem} :
    p ∈ o.faults ↔
      (∃ address, o.listenAddress? = some address ∧ isSocketAddress address = false ∧
        p = .bindAddress address) ∨
      ∃ url, o.backend? = some url ∧ p ∈ backendProblems url := by
  rw [faults, List.mem_append]
  refine or_congr ?_ ?_
  · cases o.listenAddress? <;> simp
  · cases o.backend? <;> simp

/-- What is wrong is wrong with what the command line gives, or with the rest. -/
theorem mem_problems_apply_iff {o : Overrides} {p : Problem} :
    p ∈ (o.apply s).problems ↔ p ∈ o.faults ∨ o.given? p.about = none ∧ p ∈ s.problems := by
  have hheld (hgiven : o.given? p.about = none) : (o.apply s).held p.about = s.held p.about := by
    rw [held_apply, hgiven]
    rfl
  constructor
  · intro hp
    by_cases hgiven : o.given? p.about = none
    · exact .inr ⟨hgiven, mem_problems_of_held (hheld hgiven) (fun _ => rfl) hp⟩
    · -- The command line gives the setting, which can only be one of the two addresses.
      left
      rw [Overrides.mem_faults_iff]
      rcases mem_problems_iff.mp hp with ⟨hbad, rfl⟩ | hbad | ⟨-, rfl⟩ | ⟨-, rfl⟩ | ⟨-, rfl⟩
      · cases haddress : o.listenAddress? with
        | none => exact absurd (by rw [Problem.about, Overrides.given?, haddress]; rfl) hgiven
        | some address =>
            rw [bindAddress_apply haddress] at hbad ⊢
            exact .inl ⟨address, rfl, hbad, rfl⟩
      · rw [about_of_mem_backendProblems hbad] at hgiven
        cases hurl : o.backend? with
        | none => exact absurd (by rw [Overrides.given?, hurl]; rfl) hgiven
        | some url =>
            rw [backendUrl_apply hurl] at hbad
            exact .inr ⟨url, rfl, hbad⟩
      · exact absurd rfl hgiven
      · exact absurd rfl hgiven
      · exact absurd rfl hgiven
  · rintro (hp | ⟨hgiven, hp⟩)
    · rw [mem_problems_iff]
      rcases Overrides.mem_faults_iff.mp hp with ⟨address, haddress, hbad, rfl⟩ | ⟨url, hurl, hbad⟩
      · rw [bindAddress_apply haddress]
        exact .inl ⟨hbad, rfl⟩
      · rw [backendUrl_apply hurl]
        exact .inr (.inl hbad)
    · exact mem_problems_of_held (hheld hgiven).symm (fun _ => rfl) hp

/-! ### Settings to run on -/

variable {readText : String → Except Disk.Error String} {path? : Option String} {o : Overrides}
  {f : Settings}

/-- The entries are those of the document in the file, which can be read as settings and whose
sections are tables; there are none without a file. -/
def Sourced (readText : String → Except Disk.Error String) :
    Option String → Toml.Entries → Prop
  | none, es => es = []
  | some path, es =>
    SectionsAreTables es ∧ ∃ text, readText path = .ok text ∧ Toml.document? text = some es ∧
      (ofEntries? es).isSome

/-- The problem is among those that the settings are refused for. -/
def Reports (result : Except Failure Settings) (p : Problem) : Prop :=
  ∃ problems, result = .error (.refused problems) ∧ p ∈ problems

theorem loadOrDefault_of_ofText? {path text : String} (hread : readText path = .ok text)
    (htext : ofText? text = some f) : loadOrDefault readText (some path) = .ok f := by
  rw [loadOrDefault, load, hread]
  dsimp only
  rw [htext]

/-- A document that can be read is read as what it gives, and the defaults for the rest. -/
theorem exists_loaded (h : Sourced readText path? es) :
    ∃ f, loadOrDefault readText path? = .ok f ∧
      ∀ item, f.held item = (given? es item).getD (({} : Settings).held item) := by
  cases path? with
  | none =>
      obtain rfl : es = [] := h
      exact ⟨{}, rfl, fun _ => rfl⟩
  | some path =>
      obtain ⟨htables, text, hread, hdocument, hsome⟩ := h
      obtain ⟨f, hf⟩ := Option.isSome_iff_exists.mp hsome
      refine ⟨f, loadOrDefault_of_ofText? hread ?_,
        held_of_ofEntries? (Toml.distinct_document? hdocument) htables hf⟩
      rw [ofText?, hdocument]
      exact hf

theorem prepare_of_loaded (hf : loadOrDefault readText path? = .ok f) (o : Overrides) :
    prepare readText path? o =
      if (o.apply f).problems = [] then .ok (o.apply f)
      else .error (.refused (o.apply f).problems) := by
  rw [prepare, hf]
  show checked (o.apply f) = _
  simp only [checked, List.isEmpty_iff]

theorem reports_iff_of_loaded (hf : loadOrDefault readText path? = .ok f) {p : Problem} :
    Reports (prepare readText path? o) p ↔ p ∈ (o.apply f).problems := by
  rw [prepare_of_loaded hf]
  split
  · rename_i hnone
    rw [hnone]
    exact ⟨nofun, nofun⟩
  · constructor
    · rintro ⟨problems, hproblems, hp⟩
      cases hproblems
      exact hp
    · intro hp
      exact ⟨_, rfl, hp⟩

/-- Settings of a document under a command line hold what the topmost layer says. -/
theorem held_apply_eq_layered
    (hheld : ∀ item, f.held item = (given? es item).getD (({} : Settings).held item))
    (o : Overrides) (item : Item) : (o.apply f).held item = layered o es item := by
  rw [held_apply, hheld, layered]
  cases o.given? item <;> rfl

/-- **Settings are put together one by one, and checked only then.**  Whatever the command line
gives, and for every document that can be read and whose sections are tables as well as without a
file, each setting is what the command line says, or else what the document says, or else the
default.  These settings are the result if nothing is wrong with them, and otherwise all that is
wrong with them is.  So two documents that say the same about the settings that the command line
leaves alone have the same result, whatever else they say and in whatever order.  A command line
with nothing wrong in it that hides all that the file alone would be refused for leads to settings
to run on, and what is wrong in it is told over every file. -/
theorem prepare_layered (o : Overrides) (h : Sourced readText path? es) :
    (∃ s : Settings, (∀ item, s.held item = layered o es item) ∧
      prepare readText path? o =
        if s.problems = [] then .ok s else .error (.refused s.problems)) ∧
    (∀ readText' path'? es', Sourced readText' path'? es' →
      (∀ item, o.given? item = none → given? es' item = given? es item) →
      prepare readText' path'? o = prepare readText path? o) ∧
    (o.faults = [] →
      (∀ p, Reports (prepare readText path? {}) p → (o.given? p.about).isSome) →
      ∃ s, prepare readText path? o = .ok s) ∧
    ∀ p ∈ o.faults, Reports (prepare readText path? o) p := by
  obtain ⟨f, hf, hheld⟩ := exists_loaded h
  have hlayers := held_apply_eq_layered hheld o
  refine ⟨⟨o.apply f, hlayers, prepare_of_loaded hf o⟩, ?_, ?_, ?_⟩
  · intro readText' path'? es' h' hagree
    obtain ⟨f', hf', hheld'⟩ := exists_loaded h'
    have hsame : o.apply f' = o.apply f := by
      refine eq_of_held fun item => ?_
      rw [hlayers, held_apply_eq_layered hheld' o, layered, layered]
      cases hgiven : o.given? item with
      | none => rw [hagree item hgiven]
      | some v => rfl
    rw [prepare_of_loaded hf', prepare_of_loaded hf, hsame]
  · intro hfaults hhidden
    have hnone : (o.apply f).problems = [] := by
      refine List.eq_nil_iff_forall_not_mem.mpr fun p hp => ?_
      rcases mem_problems_apply_iff.mp hp with hp | ⟨hgiven, hp⟩
      · rw [hfaults] at hp
        cases hp
      · have hreported : Reports (prepare readText path? {}) p := (reports_iff_of_loaded hf).mpr hp
        simpa [hgiven] using hhidden p hreported
    exact ⟨o.apply f, by rw [prepare_of_loaded hf, if_pos hnone]⟩
  · intro p hp
    exact (reports_iff_of_loaded hf).mpr (mem_problems_apply_iff.mpr (.inl hp))

/-- A good address on the command line hides a bad one in the file, and a bad address on the command
line is told whatever the file says. -/
theorem prepare_layered_masked :
    (∃ s, prepare (fun _ => .ok "listener.bind_address='nowhere'") (some "file")
      { listenAddress? := some "0.0.0.0:1" } = .ok s) ∧
    prepare (fun _ => .ok "listener.bind_address='nowhere'") (some "file")
        { listenAddress? := some "0.0.0.0:1" } =
      prepare (fun _ => .ok "") none { listenAddress? := some "0.0.0.0:1" } ∧
    Reports (prepare (fun _ => .ok "") none { backend? := some "localhost" })
      (.backendUrl "localhost") := by
  have hdocument : Toml.document? "listener.bind_address='nowhere'" =
      some [("listener", .table .dotted [("bind_address", .string "nowhere")])] := by
    cbv
  have hfile : Sourced (fun _ => .ok "listener.bind_address='nowhere'") (some "file")
      [("listener", .table .dotted [("bind_address", .string "nowhere")])] := by
    refine ⟨?_, _, rfl, hdocument, rfl⟩
    rintro key v hv -
    cases List.mem_singleton.mp hv
    exact ⟨_, _, rfl⟩
  have hloaded : loadOrDefault (fun _ => .ok "listener.bind_address='nowhere'") (some "file") =
      .ok { bindAddress := "nowhere" } := by
    have htext : ofText? "listener.bind_address='nowhere'" = some { bindAddress := "nowhere" } := by
      rw [ofText?, hdocument]
      rfl
    rw [loadOrDefault, load]
    dsimp only
    rw [htext]
  obtain ⟨-, hsame, haccepted, -⟩ :=
    prepare_layered { listenAddress? := some "0.0.0.0:1" } hfile
  refine ⟨haccepted (by decide) ?_, (hsame (fun _ => .ok "") none [] rfl ?_).symm, ?_⟩
  · intro p hp
    have hproblems : Settings.problems { bindAddress := "nowhere" } = [.bindAddress "nowhere"] := by
      decide
    rw [reports_iff_of_loaded hloaded] at hp
    obtain rfl := List.mem_singleton.mp (hproblems ▸ hp)
    rfl
  · intro item hitem
    cases item with
    | bindAddress => cases hitem
    | _ => rfl
  · have hnothing : Sourced (fun _ => .ok "") none [] := rfl
    exact (prepare_layered { backend? := some "localhost" } hnothing).2.2.2 _ (by decide)

end FrontDoor.Settings
