/-
What the probe for a repository finds.

The probe looks up one joined text.  What is wanted is a statement about the path itself: it
resolves to a directory, and `objects` in that directory leads to one.  The join carries over to
the names (`steps_join`), the names before `objects` are told apart from it (`leads_append`), and
what the system does not look up, a path with a NUL octet or one that takes too many octets or
links, is named on its own (`WithinLimits`).  `stat_objectsPath_eq_ok_iff` is all of this at once
and the clauses of `probe_exact` are read off it.
-/
import FrontDoor.Proofs.Disk.Leads
import FrontDoor.Proofs.Disk.Path
import FrontDoor.Proofs.Stages.Authorize

namespace FrontDoor

open Disk

namespace Repository

variable {tree : Tree} {path : String} {node : Node}

/-- The path to the objects is no longer than the system allows, and what it leads to is reached
over no more links than the system follows. -/
structure WithinLimits (tree : Tree) (path : String) : Prop where
  size : (objectsPath path).utf8ByteSize < maxPathSize
  links : ∀ n place, tree.Leads n (tree.origin (objectsPath path))
    (Path.steps (objectsPath path)) place → n ≤ maxLinks

/-- The path resolves to a directory that has an entry `objects`, which leads to the node. -/
def HasObjects (tree : Tree) (path : String) (node : Node) : Prop :=
  ∃ directory, tree.Resolves path directory ∧ tree.isDirectoryAt directory = true ∧
    ∃ entry, tree.node? (directory ++ ["objects"]) = some entry ∧
      ∃ n place, tree.Leads n directory ["objects"] place ∧ tree.node? place = some node

theorem isPlain_objects : Tree.IsPlain "objects" := by
  decide

theorem steps_objectsPath (hpath : path ≠ "") :
    Path.steps (objectsPath path) = Path.names path ++ ["objects"] :=
  Path.steps_join hpath (by decide) (by decide)

theorem origin_objectsPath (hpath : path ≠ "") :
    tree.origin (objectsPath path) = tree.origin path := by
  rw [Tree.origin, objectsPath, Path.isAbsolute_join hpath]
  rfl

theorem checkPath_objectsPath_eq_ok_iff :
    Tree.checkPath (objectsPath path) = .ok () ↔
      '\x00' ∉ path.toList ∧ (objectsPath path).utf8ByteSize < maxPathSize := by
  have hnul : '\x00' ∈ (objectsPath path).toList ↔ '\x00' ∈ path.toList := by
    rw [objectsPath, Path.mem_toList_join (by decide)]
    simp
  have hempty : (objectsPath path).isEmpty = false := by
    have hne : objectsPath path ≠ "" := Path.join_ne_empty (by decide)
    rwa [Bool.eq_false_iff, Ne, String.isEmpty_iff]
  unfold Tree.checkPath
  by_cases h : '\x00' ∈ path.toList
  · simp [hnul, h]
  · by_cases hsize : (objectsPath path).utf8ByteSize < maxPathSize
    · simp [hnul, h, hempty, hsize, Nat.not_le.mpr hsize]
    · simp [hnul, h, hempty, hsize, Nat.not_lt.mp hsize]

/-- A slash at the end of a path asks for a directory, and nothing else has `objects` in it. -/
theorem exists_leads_steps_iff {directory : Place} (h : tree.isDirectoryAt directory = true) :
    (∃ n, tree.Leads n (tree.origin path) (Path.steps path) directory) ↔
      ∃ n, tree.Leads n (tree.origin path) (Path.names path) directory := by
  unfold Path.steps
  split
  · simp only [Tree.leads_append_dot_iff, h, and_true]
  · rw [List.append_nil]

/-- The way to the objects of a path is the way of the path and one name more. -/
theorem exists_leads_objectsPath_iff {place : Place} (hpath : path ≠ "") :
    (∃ n, tree.Leads n (tree.origin (objectsPath path)) (Path.steps (objectsPath path)) place) ↔
      ∃ directory, (∃ n, tree.Leads n (tree.origin path) (Path.steps path) directory) ∧
        tree.isDirectoryAt directory = true ∧
        ∃ n, tree.Leads n directory ["objects"] place := by
  rw [steps_objectsPath hpath, origin_objectsPath hpath]
  simp only [Tree.leads_append]
  constructor
  · intro hgiven
    obtain ⟨_, k, m, directory, -, hfirst, hobjects⟩ := hgiven
    have hdirectory := ((Tree.leads_plain_iff isPlain_objects).mp hobjects).1
    exact ⟨directory, (exists_leads_steps_iff hdirectory).mpr ⟨k, hfirst⟩, hdirectory, m, hobjects⟩
  · intro hgiven
    obtain ⟨directory, hfirst, hdirectory, m, hobjects⟩ := hgiven
    obtain ⟨k, hfirst⟩ := (exists_leads_steps_iff hdirectory).mp hfirst
    exact ⟨k + m, k, m, directory, rfl, hfirst, hobjects⟩

/-- Something lies at the objects of a path exactly when the path has objects and looking them up
takes no more than the system allows. -/
theorem stat_objectsPath_eq_ok_iff (hpath : path ≠ "") :
    tree.stat (objectsPath path) = .ok node ↔
      WithinLimits tree path ∧ HasObjects tree path node := by
  rw [Tree.stat_eq_ok_iff, checkPath_objectsPath_eq_ok_iff]
  simp only [Tree.walk_eq_ok_iff]
  constructor
  · intro hgiven
    obtain ⟨⟨hnul, hsize⟩, place, ⟨n, hn, hleads⟩, hnode⟩ := hgiven
    refine ⟨⟨hsize, fun m other hother => (hleads.unique hother).1 ▸ hn⟩, ?_⟩
    obtain ⟨directory, hfirst, hdirectory, m, hobjects⟩ :=
      (exists_leads_objectsPath_iff hpath).mp ⟨n, hleads⟩
    obtain ⟨-, entry, hentry, -⟩ := (Tree.leads_plain_iff isPlain_objects).mp hobjects
    exact ⟨directory, ⟨hpath, hnul, hfirst⟩, hdirectory, entry, hentry, m, place, hobjects, hnode⟩
  · intro hgiven
    obtain ⟨hlimits, directory, ⟨-, hnul, hfirst⟩, hdirectory, -, -, m, place, hobjects,
      hnode⟩ := hgiven
    obtain ⟨n, hleads⟩ :=
      (exists_leads_objectsPath_iff hpath).mpr ⟨directory, hfirst, hdirectory, m, hobjects⟩
    exact ⟨⟨hnul, hlimits.size⟩, place, ⟨n, hlimits.links n place hleads, hleads⟩, hnode⟩

/-! ### What the probe says -/

theorem probe_of_ok (h : tree.stat (objectsPath path) = .ok node) :
    (probe tree path).2 = [] ∧
      ((probe tree path).1 = true ↔ ∃ mode, node = .directory mode) := by
  cases node <;> simp [probe, h]

theorem probe_of_error {e : Disk.Error} (h : tree.stat (objectsPath path) = .error e) :
    probe tree path =
      (false, [⟨.warn, "repository probe failed",
        [("path", objectsPath path), ("error", e.message)]⟩]) := by
  simp [probe, h]

/-- A failed look leaves one warning. -/
theorem probe_of_not_exists (hpath : path ≠ "")
    (h : ¬ (WithinLimits tree path ∧ ∃ node, HasObjects tree path node)) :
    ∃ e : Disk.Error, tree.stat (objectsPath path) = .error e ∧
      probe tree path =
        (false, [⟨.warn, "repository probe failed",
          [("path", objectsPath path), ("error", e.message)]⟩]) := by
  cases hstat : tree.stat (objectsPath path) with
  | ok node =>
      obtain ⟨hlimits, hobjects⟩ := (stat_objectsPath_eq_ok_iff hpath).mp hstat
      exact absurd ⟨hlimits, node, hobjects⟩ h
  | error e => exact ⟨e, rfl, probe_of_error hstat⟩

end Repository

namespace Authorize

/-- The guard of repositories only looks at the file system. -/
theorem tree_call_repository (backend : Backend) (s : Scene) :
    (call .repository backend s).2.tree = s.tree := by
  have hasked := tree_consult (suffix .repository) backend s
  rw [call_eq]
  rcases h : consult (suffix .repository) backend s with ⟨fault | _ | response, t⟩
  all_goals rw [h] at hasked
  · exact hasked
  · dsimp only at hasked ⊢
    rw [← hasked]
    unfold accept
    cases place .repository t.exchange.grant with
    | error fault => rfl
    | ok path =>
        simp only [prepare]
        cases (Repository.probe t.tree path).1 <;> rfl
  · exact hasked

end Authorize

namespace Repository

/-- **The probe finds a repository exactly where the path resolves to a directory whose `objects`
lead to a directory.**  That is so as long as looking takes no more octets and links than the
system allows; beyond that it finds none.  It warns once if nothing can be seen at the objects and
says nothing if something can, a plain file among them, and it changes no file. -/
theorem probe_exact {tree : Tree} {path : String} (hpath : path ≠ "") :
    (WithinLimits tree path →
      ((probe tree path).1 = true ↔ ∃ mode, HasObjects tree path (.directory mode))) ∧
    (¬ WithinLimits tree path → (probe tree path).1 = false) ∧
    (WithinLimits tree path → ∀ node, HasObjects tree path node → (probe tree path).2 = []) ∧
    (¬ (WithinLimits tree path ∧ ∃ node, HasObjects tree path node) →
      ∃ e : Disk.Error, tree.stat (objectsPath path) = .error e ∧
        (probe tree path).2 =
          [⟨.warn, "repository probe failed",
            [("path", objectsPath path), ("error", e.message)]⟩]) ∧
    (∀ mode content, WithinLimits tree path → HasObjects tree path (.file mode content) →
      probe tree path = (false, [])) ∧
    (∀ s : Scene, s.tree = tree →
      (Authorize.prepare .repository s path).2 = s.logAll (probe tree path).2) ∧
    ∀ backend s, (Authorize.call .repository backend s).2.tree = s.tree := by
  refine ⟨?_, ?_, ?_, ?_, ?_, ?_, Authorize.tree_call_repository⟩
  · intro hlimits
    simp only [probe_eq_true_iff, stat_objectsPath_eq_ok_iff hpath, hlimits, true_and]
  · intro hlimits
    obtain ⟨e, -, h⟩ := probe_of_not_exists hpath fun h => hlimits h.1
    rw [h]
  · intro hlimits node hobjects
    exact (probe_of_ok ((stat_objectsPath_eq_ok_iff hpath).mpr ⟨hlimits, hobjects⟩)).1
  · intro hnothing
    obtain ⟨e, he, h⟩ := probe_of_not_exists hpath hnothing
    exact ⟨e, he, by rw [h]⟩
  · intro mode content hlimits hobjects
    have hstat := (stat_objectsPath_eq_ok_iff hpath).mpr ⟨hlimits, hobjects⟩
    simp [probe, hstat]
  · intro s hs
    rw [← hs]
    rfl

/-- A tree with a link to a directory whose objects are a link as well. -/
def linkedTree : Tree where
  entries :=
    [(["store"], .directory 0o755), (["real"], .directory 0o755),
      (["real", "objects"], .link "../store"), (["r"], .link "real/")]

/-- The probe follows the link at the end of a path and the one inside. -/
theorem probe_exact_linked : "/r//./" ≠ "" ∧ (probe linkedTree "/r//./").1 = true := by
  have hreal : linkedTree.Leads 0 [] ["real", "."] ["real"] :=
    .entry rfl (by decide) rfl nofun (.dot rfl .here)
  have hstore : linkedTree.Leads 0 ["real"] ["..", "store"] ["store"] :=
    .dots rfl (.entry rfl (by decide) rfl nofun .here)
  have hpath : linkedTree.Leads 1 [] ["r", ".", "."] ["real"] :=
    .link rfl (by decide) rfl hreal (.dot rfl (.dot rfl .here))
  have hobjects : linkedTree.Leads 1 ["real"] ["objects"] ["store"] :=
    .link rfl (by decide) rfl hstore .here
  have hlimits : WithinLimits linkedTree "/r//./" := by
    refine ⟨by decide, fun n place h => ?_⟩
    have hways : linkedTree.Leads (1 + 1) [] ["r", ".", "objects"] ["store"] :=
      .link rfl (by decide) rfl hreal (.dot rfl hobjects)
    rw [(h.unique hways).1]
    decide
  have hpathNe : "/r//./" ≠ "" := by decide
  refine ⟨hpathNe, ((probe_exact hpathNe).1 hlimits).mpr ⟨0o755, ["real"], ?_, rfl, ?_⟩⟩
  · exact ⟨hpathNe, by decide, 1, hpath⟩
  · exact ⟨_, rfl, 1, ["store"], hobjects, rfl⟩

end Repository

end FrontDoor
