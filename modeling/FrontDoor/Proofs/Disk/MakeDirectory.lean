/-
What making directories does to a tree.

Every tree on the way is the one before it with a directory more at a place that was free, so all
that was there stays (`Extends`), and a path that led somewhere goes on leading there
(`locate_of_extends`).  `Furnishes` is the whole effect of making directories along some paths:
what is new are directories of one mode, each where one of the paths leads.  It is stated of the
tree at the end and not of the one in which the directory was made, and as places do not move the
two come to the same, so the effects of the steps can be put one after the other.
-/
import FrontDoor.Disk.MakeDirectory
import FrontDoor.Proofs.Disk.Leads
import FrontDoor.Proofs.Disk.Path

namespace FrontDoor.Disk

namespace Tree

variable {t u v : Tree} {mode n : Nat} {path name : String} {here place : Place}
  {names paths : List String} {node : Node}

/-! ### Trees with more entries -/

/-- All that is in `t` is in `u` as well, unchanged. -/
structure Extends (t u : Tree) : Prop where
  node : ∀ place node, t.node? place = some node → u.node? place = some node
  workingDirectory : u.workingDirectory = t.workingDirectory
  umask : u.umask = t.umask

theorem Extends.refl (t : Tree) : t.Extends t :=
  ⟨fun _ _ h => h, rfl, rfl⟩

theorem Extends.trans (htu : t.Extends u) (huv : u.Extends v) : t.Extends v where
  node place node h := huv.node place node (htu.node place node h)
  workingDirectory := huv.workingDirectory.trans htu.workingDirectory
  umask := huv.umask.trans htu.umask

theorem Extends.isDirectoryAt (h : t.Extends u) (hhere : t.isDirectoryAt here = true) :
    u.isDirectoryAt here = true := by
  obtain ⟨mode, hnode⟩ := node?_of_isDirectoryAt hhere
  rw [Tree.isDirectoryAt, h.node _ _ hnode]

/-- What is added to a tree lies at its place, and everything else where it lay. -/
theorem node?_add (hfree : t.node? place = none) (other : Place) :
    (t.add place node).node? other = if other = place then some node else t.node? other := by
  have hplace : place ≠ [] := by
    rintro rfl
    cases hfree
  have hlookup : t.entries.lookup place = none := by
    simpa [node?, hplace] using hfree
  by_cases hother : other = place
  · subst hother
    simp [node?, add, hplace, List.lookup_append, hlookup]
  · have hbeq : (other == place) = false := by simpa using hother
    simp [node?, add, hother, List.lookup_append, List.lookup_cons, hbeq]

theorem extends_add (hfree : t.node? place = none) : t.Extends (t.add place node) where
  node other old h := by
    rw [node?_add hfree, if_neg, h]
    rintro rfl
    rw [hfree] at h
    cases h
  workingDirectory := rfl
  umask := rfl

/-- Names lead where they led, whatever was added. -/
theorem Leads.extends (hextends : t.Extends u) (h : t.Leads n here names place) :
    u.Leads n here names place := by
  induction h with
  | here => exact .here
  | dot hhere _ ih => exact .dot (hextends.isDirectoryAt hhere) ih
  | dots hhere _ ih => exact .dots (hextends.isDirectoryAt hhere) ih
  | entry hhere hname hnode hlink _ ih =>
      exact .entry (hextends.isDirectoryAt hhere) hname (hextends.node _ _ hnode) hlink ih
  | link hhere hname hnode _ _ ihtarget ih =>
      exact .link (hextends.isDirectoryAt hhere) hname (hextends.node _ _ hnode) ihtarget ih

theorem locate_of_extends (hextends : t.Extends u) (h : t.locate path = .ok place) :
    u.locate path = .ok place := by
  obtain ⟨hcheck, hwalk⟩ := locate_eq_ok_iff.mp h
  obtain ⟨n, hn, hleads⟩ := walk_eq_ok_iff.mp hwalk
  have horigin : u.origin path = t.origin path := by
    rw [origin, origin, hextends.workingDirectory]
  refine locate_eq_ok_iff.mpr ⟨hcheck, walk_eq_ok_iff.mpr ⟨n, hn, ?_⟩⟩
  rw [horigin]
  exact hleads.extends hextends

/-! ### What leads to a directory -/

theorem leadsToDirectory_iff :
    t.leadsToDirectory path = true ↔
      ∃ place, t.locate path = .ok place ∧ t.isDirectoryAt place = true := by
  unfold leadsToDirectory stat isDirectoryAt
  cases t.locate path with
  | error e => simp
  | ok place => rcases hnode : t.node? place with _ | _ | _ | _ <;> simp [hnode]

theorem exists_leads_of_leadsToDirectory (h : t.leadsToDirectory path = true) :
    checkPath path = .ok () ∧
      ∃ n ≤ maxLinks, ∃ place, t.Leads n (t.origin path) (Path.names path) place ∧
        t.isDirectoryAt place = true := by
  obtain ⟨place, hlocate, hplace⟩ := leadsToDirectory_iff.mp h
  obtain ⟨hcheck, hwalk⟩ := locate_eq_ok_iff.mp hlocate
  obtain ⟨n, hn, hleads⟩ := walk_eq_ok_iff.mp hwalk
  refine ⟨hcheck, n, hn, place, ?_, hplace⟩
  unfold Path.steps at hleads
  split at hleads
  · exact (leads_append_dot_iff.mp hleads).1
  · rwa [List.append_nil] at hleads

/-! ### One directory -/

/-- A directory is made inside the one that the names before the last lead to. -/
theorem exists_of_makeDirectory (h : t.makeDirectory mode path = .ok u) :
    checkPath path = .ok () ∧ ∃ above name here, Path.names path = above ++ [name] ∧
      t.walk maxLinks (t.origin path) above = .ok here ∧ t.isDirectoryAt here = true ∧
      IsPlain name ∧ t.node? (here ++ [name]) = none ∧
      u = t.add (here ++ [name]) (.directory (mode &&& (0o777 ^^^ t.umask))) := by
  unfold makeDirectory at h
  split at h
  · cases h
  · next hcheck =>
    refine ⟨hcheck, ?_⟩
    split at h
    · cases h
    · next name above hnames =>
      split at h
      · cases h
      · next here hwalk =>
        split_ifs at h with hhere hdots hsize hsome
        obtain rfl := Except.ok.inj h
        refine ⟨above.reverse, name, here, ?_, hwalk, by simpa using hhere, ?_, ?_, rfl⟩
        · rw [← List.reverse_reverse (Path.names path), hnames, List.reverse_cons]
        · rw [Bool.or_eq_true, decide_eq_true_eq, decide_eq_true_eq, not_or] at hdots
          exact ⟨hdots.1, hdots.2, Nat.not_lt.mp hsize⟩
        · simpa using hsome

/-- Where a directory was made, the path leads. -/
theorem locate_of_makeDirectory (h : t.makeDirectory mode path = .ok u) :
    ∃ place, t.node? place = none ∧
      u = t.add place (.directory (mode &&& (0o777 ^^^ t.umask))) ∧
      u.locate path = .ok place := by
  obtain ⟨hcheck, above, name, here, hnames, hwalk, hhere, hname, hfree, rfl⟩ :=
    exists_of_makeDirectory h
  refine ⟨here ++ [name], hfree, rfl, ?_⟩
  generalize hnode : Node.directory (mode &&& (0o777 ^^^ t.umask)) = node
  have hnew : (t.add (here ++ [name]) node).node? (here ++ [name]) = some node := by
    rw [node?_add hfree, if_pos rfl]
  obtain ⟨n, hn, hleads⟩ := walk_eq_ok_iff.mp hwalk
  have hextends : t.Extends (t.add (here ++ [name]) node) := extends_add hfree
  have hnames : (t.add (here ++ [name]) node).Leads n (t.origin path) (Path.names path)
      (here ++ [name]) := by
    rw [hnames, leads_append]
    refine ⟨n, 0, here, rfl, hleads.extends hextends,
      .entry (hextends.isDirectoryAt hhere) hname hnew ?_ .here⟩
    subst hnode
    exact fun _ => nofun
  refine locate_eq_ok_iff.mpr ⟨hcheck, walk_eq_ok_iff.mpr ⟨n, hn, ?_⟩⟩
  unfold Path.steps
  split
  · refine leads_append_dot_iff.mpr ⟨hnames, ?_⟩
    rw [isDirectoryAt, hnew, ← hnode]
  · rw [List.append_nil]
    exact hnames

theorem leadsToDirectory_of_makeDirectory (h : t.makeDirectory mode path = .ok u) :
    u.leadsToDirectory path = true := by
  obtain ⟨place, hfree, hu, hlocate⟩ := locate_of_makeDirectory h
  refine leadsToDirectory_iff.mpr ⟨place, hlocate, ?_⟩
  rw [isDirectoryAt, hu, node?_add hfree, if_pos rfl]

/-- Where there is a directory none is made. -/
theorem makeDirectory_of_leadsToDirectory (h : t.leadsToDirectory path = true) :
    t.makeDirectory mode path = .error (.system .fileExists) := by
  obtain ⟨hcheck, n, hn, place, hleads, -⟩ := exists_leads_of_leadsToDirectory h
  unfold makeDirectory
  simp only [hcheck]
  rcases List.eq_nil_or_concat (Path.names path) with hnames | ⟨above, name, hnames⟩
  · rw [hnames]
    rfl
  · rw [List.concat_eq_append] at hnames
    rw [hnames, leads_append] at hleads
    obtain ⟨k, m, here, rfl, habove, hlast⟩ := hleads
    have hwalk : t.walk maxLinks (t.origin path) above = .ok here :=
      walk_eq_ok_iff.mpr ⟨k, Nat.le_of_add_right_le hn, habove⟩
    obtain ⟨hhere, hname⟩ := hlast.first
    rw [hnames, List.reverse_concat]
    simp only [List.reverse_reverse, hwalk, hhere]
    rcases hname with rfl | rfl | ⟨⟨hdot, hdots, hsize⟩, node, hnode⟩
    · rfl
    · rfl
    · simp [hdot, hdots, Nat.not_lt.mpr hsize, hnode]

/-! ### All the directories of a path -/

/-- `u` is `t` with some directories more, of the one mode and each where one of the paths
leads. -/
structure Furnishes (t : Tree) (mode : Nat) (paths : List String) (u : Tree) : Prop where
  kept : t.Extends u
  new : ∀ place node, t.node? place = none → u.node? place = some node →
    node = .directory (mode &&& (0o777 ^^^ t.umask)) ∧
      ∃ path ∈ paths, u.locate path = .ok place

namespace Furnishes

theorem refl (t : Tree) (mode : Nat) (paths : List String) : t.Furnishes mode paths t where
  kept := .refl t
  new place node hnone hsome := by
    rw [hnone] at hsome
    cases hsome

theorem trans (htu : t.Furnishes mode paths u) (huv : u.Furnishes mode paths v) :
    t.Furnishes mode paths v where
  kept := htu.kept.trans huv.kept
  new place node hnone hsome := by
    cases hu : u.node? place with
    | none =>
        rw [← htu.kept.umask]
        exact huv.new place node hu hsome
    | some old =>
        obtain ⟨hold, path, hpath, hlocate⟩ := htu.new place old hnone hu
        rw [huv.kept.node place old hu] at hsome
        obtain rfl := Option.some.inj hsome
        exact ⟨hold, path, hpath, locate_of_extends huv.kept hlocate⟩

theorem of_subset {more : List String} (h : t.Furnishes mode paths u) (hsub : paths ⊆ more) :
    t.Furnishes mode more u where
  kept := h.kept
  new place node hnone hsome := by
    obtain ⟨hnode, path, hpath, hlocate⟩ := h.new place node hnone hsome
    exact ⟨hnode, path, hsub hpath, hlocate⟩

end Furnishes

theorem furnishes_makeDirectory (h : t.makeDirectory mode path = .ok u) :
    t.Furnishes mode [path] u := by
  obtain ⟨place, hfree, rfl, hlocate⟩ := locate_of_makeDirectory h
  refine ⟨extends_add hfree, fun other node hnone hsome => ?_⟩
  rw [node?_add hfree] at hsome
  split at hsome
  · next hother =>
    subst hother
    exact ⟨(Option.some.inj hsome).symm, path, List.mem_singleton_self path, hlocate⟩
  · rw [hnone] at hsome
    cases hsome

theorem furnishes_settle (t : Tree) (mode : Nat) (path : String) :
    t.Furnishes mode [path] (t.settle mode path).1 := by
  unfold settle
  cases h : t.makeDirectory mode path with
  | ok u => exact furnishes_makeDirectory h
  | error e => exact .refl t mode [path]

theorem furnishes_makeLineage (t : Tree) (mode : Nat) (paths : List String) :
    t.Furnishes mode paths (t.makeLineage mode paths).1 := by
  induction paths with
  | nil => exact .refl t mode []
  | cons path above ih =>
      have hpath : [path] ⊆ path :: above := List.cons_subset_cons path (List.nil_subset above)
      unfold makeLineage
      split
      · exact .refl t mode _
      · cases hmade : t.makeDirectory mode path with
        | ok u => exact (furnishes_makeDirectory hmade).of_subset hpath
        | error e =>
            dsimp only
            split
            · have habove := ih.of_subset (List.subset_cons_self path above)
              generalize t.makeLineage mode above = result at habove
              obtain ⟨u, e | _⟩ := result
              · exact habove
              · exact habove.trans ((furnishes_settle u mode path).of_subset hpath)
            · exact .refl t mode _

theorem leadsToDirectory_of_settle (h : (t.settle mode path).2 = .ok ()) :
    (t.settle mode path).1.leadsToDirectory path = true := by
  unfold settle at h ⊢
  cases hmade : t.makeDirectory mode path with
  | ok u => exact leadsToDirectory_of_makeDirectory hmade
  | error e =>
      simp only [hmade] at h ⊢
      by_contra hleads
      simp [hleads] at h

/-- If making a lineage goes well, its first path leads to a directory. -/
theorem leadsToDirectory_of_makeLineage (hpath : path ≠ "")
    (h : (t.makeLineage mode (path :: paths)).2 = .ok ()) :
    (t.makeLineage mode (path :: paths)).1.leadsToDirectory path = true := by
  have hempty : path.isEmpty = false := by
    rwa [Bool.eq_false_iff, Ne, String.isEmpty_iff]
  unfold makeLineage at h ⊢
  simp only [hempty, Bool.false_eq_true, if_false] at h ⊢
  cases hmade : t.makeDirectory mode path with
  | ok u => exact leadsToDirectory_of_makeDirectory hmade
  | error e =>
      simp only [hmade] at h ⊢
      by_cases hentry : e = .system .noEntry
      · simp only [if_pos hentry] at h ⊢
        generalize t.makeLineage mode paths = result at h ⊢
        obtain ⟨u, e | _⟩ := result
        · cases h
        · exact leadsToDirectory_of_settle h
      · simp only [if_neg hentry] at h ⊢
        by_contra hleads
        simp [hleads] at h

/-- What is new after making a path are directories where it or a path above it leads. -/
theorem furnishes_makeDirectories (t : Tree) (mode : Nat) (path : String) :
    t.Furnishes mode (Path.lineage (path.length + 1) path) (t.makeDirectories mode path).1 :=
  furnishes_makeLineage t mode _

theorem leadsToDirectory_of_makeDirectories (hpath : path ≠ "")
    (h : (t.makeDirectories mode path).2 = .ok ()) :
    (t.makeDirectories mode path).1.leadsToDirectory path = true :=
  leadsToDirectory_of_makeLineage hpath h

/-- A path that leads to a directory is made already. -/
theorem makeDirectories_of_leadsToDirectory (h : t.leadsToDirectory path = true) :
    t.makeDirectories mode path = (t, .ok ()) := by
  have hmade : t.makeDirectory mode path = .error (.system .fileExists) :=
    makeDirectory_of_leadsToDirectory h
  have hne : (Errno.fileExists : Errno) ≠ .noEntry := by decide
  unfold makeDirectories Path.lineage makeLineage
  simp [hmade, h, hne]

end Tree

end FrontDoor.Disk
