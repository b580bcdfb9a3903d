/-
What a path leads to.

`stat` is three steps, a check of the text, a walk and a look at the place; `stat_eq_ok_iff` puts
them together and `probe_eq_true_iff` says with it what a repository is.  A walk is by recursion
on the links that are left and on the names, so it is not to be computed with; where it meets
nothing but directories, it just goes on from name to name (`walk_of_directories`).
-/
import FrontDoor.Disk.Resolve
import FrontDoor.Stages.Repository
import Mathlib.Data.List.Infix

namespace FrontDoor

namespace Disk.Tree

variable {t : Tree} {path name : String} {links : Nat} {here : Place} {names : List String}

/-- A name that is looked up like any other: it is no dots and not too long. -/
def IsPlain (name : String) : Prop :=
  name ≠ "." ∧ name ≠ ".." ∧ name.utf8ByteSize ≤ maxNameSize

instance (name : String) : Decidable (IsPlain name) :=
  inferInstanceAs (Decidable (_ ∧ _ ∧ _))

theorem node?_of_isDirectoryAt (h : t.isDirectoryAt here = true) :
    ∃ mode, t.node? here = some (.directory mode) := by
  unfold isDirectoryAt at h
  split at h
  · exact ⟨_, by assumption⟩
  · cases h

/-! ### One step of a walk -/

theorem walk_dot (hhere : t.isDirectoryAt here = true) :
    t.walk links here ("." :: names) = t.walk links here names := by
  rw [walk]
  simp [hhere]

theorem walk_dots (hhere : t.isDirectoryAt here = true) :
    t.walk links here (".." :: names) = t.walk links here.dropLast names := by
  rw [walk]
  simp [hhere]

theorem walk_entry {node : Node} (hhere : t.isDirectoryAt here = true) (hname : IsPlain name)
    (hnode : t.node? (here ++ [name]) = some node) (hlink : ∀ target, node ≠ .link target) :
    t.walk links here (name :: names) = t.walk links (here ++ [name]) names := by
  obtain ⟨hdot, hdots, hsize⟩ := hname
  rw [walk]
  cases node with
  | link target => exact absurd rfl (hlink target)
  | directory | file => simp [hhere, hdot, hdots, Nat.not_lt.mpr hsize, hnode]

theorem walk_link {target : String} (hhere : t.isDirectoryAt here = true) (hname : IsPlain name)
    (hnode : t.node? (here ++ [name]) = some (.link target)) :
    t.walk (links + 1) here (name :: names) =
      t.walk links (if Path.isAbsolute target then [] else here)
        (Path.steps target ++ names) := by
  obtain ⟨hdot, hdots, hsize⟩ := hname
  rw [walk]
  simp [hhere, hdot, hdots, Nat.not_lt.mpr hsize, hnode]

theorem walk_cons_of_directory (hname : IsPlain name) (hhere : t.isDirectoryAt here = true)
    (hthere : t.isDirectoryAt (here ++ [name]) = true) :
    t.walk links here (name :: names) = t.walk links (here ++ [name]) names := by
  obtain ⟨mode, hnode⟩ := node?_of_isDirectoryAt hthere
  exact walk_entry hhere hname hnode fun _ => nofun

/-! ### What a path leads to -/

/-- Plain names with a directory at every place are walked one after the other. -/
theorem walk_of_directories (hnames : ∀ name ∈ names, IsPlain name)
    (hplaces : ∀ place ∈ names.inits, t.isDirectoryAt (here ++ place) = true) :
    t.walk links here names = .ok (here ++ names) := by
  induction names generalizing here with
  | nil => rw [walk, List.append_nil]
  | cons name names ih =>
      obtain ⟨hname, hnames⟩ := List.forall_mem_cons.mp hnames
      have hhere : t.isDirectoryAt here = true := by
        have := hplaces [] (by simp)
        rwa [List.append_nil] at this
      have hbehind : ∀ place ∈ names.inits, t.isDirectoryAt (here ++ [name] ++ place) = true := by
        intro place hplace
        have := hplaces (name :: place) (by simpa using hplace)
        rwa [List.append_assoc, List.singleton_append]
      have hthere : t.isDirectoryAt (here ++ [name]) = true := by
        have := hbehind [] (by simp)
        rwa [List.append_nil] at this
      rw [walk_cons_of_directory hname hhere hthere, ih hnames hbehind, List.append_assoc,
        List.singleton_append]

theorem locate_eq_ok_iff {place : Place} :
    t.locate path = .ok place ↔
      checkPath path = .ok () ∧
        t.walk maxLinks (t.origin path) (Path.steps path) = .ok place := by
  unfold locate
  cases checkPath path with
  | error e => simp
  | ok =>
      cases t.walk maxLinks (t.origin path) (Path.steps path) <;> simp

/-- A path leads to what lies where its walk ends. -/
theorem stat_eq_ok_iff {node : Node} :
    t.stat path = .ok node ↔
      checkPath path = .ok () ∧
        ∃ place, t.walk maxLinks (t.origin path) (Path.steps path) = .ok place ∧
          t.node? place = some node := by
  unfold stat
  cases h : t.locate path with
  | error e =>
      constructor
      · intro h'
        cases h'
      · intro hgiven
        obtain ⟨hcheck, place, hwalk, -⟩ := hgiven
        rw [locate_eq_ok_iff.mpr ⟨hcheck, hwalk⟩] at h
        cases h
  | ok place =>
      obtain ⟨hcheck, hwalk⟩ := locate_eq_ok_iff.mp h
      cases hnode : t.node? place <;> simp [hcheck, hwalk, hnode]

end Disk.Tree

namespace Repository

/-- A repository is a path under which `objects` leads to a directory. -/
theorem probe_eq_true_iff {tree : Disk.Tree} {path : String} :
    (probe tree path).1 = true ↔ ∃ mode, tree.stat (objectsPath path) = .ok (.directory mode) := by
  unfold probe
  rcases tree.stat (objectsPath path) with e | _ | _ | _ <;> simp

end Repository

end FrontDoor
