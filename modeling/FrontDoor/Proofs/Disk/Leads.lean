/-
Where names lead, with the links counted instead of rationed.

`walk` is given a number of links and stops when they are used up, so it cannot say where a path
would lead without that bound.  `Leads t n here names place` says it by its rules, one for each
kind of name: a dot, two dots, an entry that is no link, and a link, whose target is followed to
its own end before the names behind it are.  `n` is how many links were followed, and there is no
derivation through a loop.

The two agree as far as the links last (`walk_eq_ok_iff`).  From a derivation the walk is read off
with any names still behind it (`Leads.walk`); the other way the target of a link and the names
behind it, which `walk` puts into one list, are told apart again (`leads_append`).
-/
import FrontDoor.Proofs.Disk.Resolve

namespace FrontDoor.Disk.Tree

/-- The names lead from `here` to the place, over `n` links. -/
inductive Leads (t : Tree) : Nat → Place → List String → Place → Prop
  | here {place : Place} : Leads t 0 place [] place
  | dot {n : Nat} {here place : Place} {names : List String} :
      t.isDirectoryAt here = true → Leads t n here names place → Leads t n here ("." :: names) place
  | dots {n : Nat} {here place : Place} {names : List String} :
      t.isDirectoryAt here = true → Leads t n here.dropLast names place →
      Leads t n here (".." :: names) place
  | entry {n : Nat} {here place : Place} {name : String} {names : List String} {node : Node} :
      t.isDirectoryAt here = true → IsPlain name → t.node? (here ++ [name]) = some node →
      (∀ target, node ≠ .link target) → Leads t n (here ++ [name]) names place →
      Leads t n here (name :: names) place
  | link {k n : Nat} {here middle place : Place} {name : String} {names : List String}
      {target : String} :
      t.isDirectoryAt here = true → IsPlain name → t.node? (here ++ [name]) = some (.link target) →
      Leads t k (if Path.isAbsolute target then [] else here) (Path.steps target) middle →
      Leads t n middle names place → Leads t (k + n + 1) here (name :: names) place

variable {t : Tree} {path name : String} {n links : Nat} {here place : Place}
  {names rest : List String}

/-! ### The rules read backwards -/

theorem leads_nil_iff : t.Leads n here [] place ↔ n = 0 ∧ place = here := by
  constructor
  · intro h
    cases h
    exact ⟨rfl, rfl⟩
  · intro hgiven
    obtain ⟨rfl, rfl⟩ := hgiven
    exact .here

theorem leads_dot_iff :
    t.Leads n here ("." :: names) place ↔
      t.isDirectoryAt here = true ∧ t.Leads n here names place := by
  constructor
  · intro h
    generalize hname : "." = name at h
    cases h with
    | dot hhere h => exact ⟨hhere, h⟩
    | dots => exact absurd hname (by decide)
    | entry _ hplain => exact absurd hname.symm hplain.1
    | link _ hplain => exact absurd hname.symm hplain.1
  · intro hgiven
    obtain ⟨hhere, h⟩ := hgiven
    exact .dot hhere h

theorem leads_dots_iff :
    t.Leads n here (".." :: names) place ↔
      t.isDirectoryAt here = true ∧ t.Leads n here.dropLast names place := by
  constructor
  · intro h
    generalize hname : ".." = name at h
    cases h with
    | dot => exact absurd hname (by decide)
    | dots hhere h => exact ⟨hhere, h⟩
    | entry _ hplain => exact absurd hname.symm hplain.2.1
    | link _ hplain => exact absurd hname.symm hplain.2.1
  · intro hgiven
    obtain ⟨hhere, h⟩ := hgiven
    exact .dots hhere h

theorem leads_plain_iff (hname : IsPlain name) :
    t.Leads n here (name :: names) place ↔
      t.isDirectoryAt here = true ∧ ∃ node, t.node? (here ++ [name]) = some node ∧
        match node with
        | .link target =>
          ∃ k m middle, n = k + m + 1 ∧
            t.Leads k (if Path.isAbsolute target then [] else here) (Path.steps target) middle ∧
            t.Leads m middle names place
        | _ => t.Leads n (here ++ [name]) names place := by
  constructor
  · intro h
    cases h with
    | dot => exact absurd rfl hname.1
    | dots => exact absurd rfl hname.2.1
    | @entry _ _ _ _ _ node hhere _ hnode hlink h =>
        refine ⟨hhere, node, hnode, ?_⟩
        cases node with
        | link target => exact absurd rfl (hlink target)
        | directory | file => exact h
    | link hhere _ hnode htarget h =>
        exact ⟨hhere, _, hnode, _, _, _, rfl, htarget, h⟩
  · intro hgiven
    obtain ⟨hhere, node, hnode, h⟩ := hgiven
    cases node with
    | link target =>
        obtain ⟨k, m, middle, rfl, htarget, h⟩ := h
        exact .link hhere hname hnode htarget h
    | directory | file => exact .entry hhere hname hnode (fun _ => nofun) h

/-- The first name is looked up in a directory. -/
theorem Leads.first (h : t.Leads n here (name :: names) place) :
    t.isDirectoryAt here = true ∧
      (name = "." ∨ name = ".." ∨
        IsPlain name ∧ ∃ node, t.node? (here ++ [name]) = some node) := by
  cases h with
  | dot hhere => exact ⟨hhere, .inl rfl⟩
  | dots hhere => exact ⟨hhere, .inr (.inl rfl)⟩
  | entry hhere hname hnode => exact ⟨hhere, .inr (.inr ⟨hname, _, hnode⟩)⟩
  | link hhere hname hnode => exact ⟨hhere, .inr (.inr ⟨hname, _, hnode⟩)⟩

/-- Names lead to one place at most, and over one number of links. -/
theorem Leads.unique {m : Nat} {other : Place} (h : t.Leads n here names place)
    (h' : t.Leads m here names other) : n = m ∧ place = other := by
  induction h generalizing m other with
  | here =>
      obtain ⟨rfl, rfl⟩ := leads_nil_iff.mp h'
      exact ⟨rfl, rfl⟩
  | dot _ _ ih => exact ih (leads_dot_iff.mp h').2
  | dots _ _ ih => exact ih (leads_dots_iff.mp h').2
  | @entry _ _ _ _ _ node _ hname hnode hlink _ ih =>
      obtain ⟨_, other, hother, h'⟩ := (leads_plain_iff hname).mp h'
      cases hnode.symm.trans hother
      cases node with
      | link target => exact absurd rfl (hlink target)
      | directory | file => exact ih h'
  | link _ hname hnode _ _ ihtarget ih =>
      obtain ⟨_, other, hother, h'⟩ := (leads_plain_iff hname).mp h'
      cases hnode.symm.trans hother
      obtain ⟨k, m, middle, rfl, htarget, h'⟩ := h'
      obtain ⟨rfl, rfl⟩ := ihtarget htarget
      obtain ⟨rfl, rfl⟩ := ih h'
      exact ⟨rfl, rfl⟩

/-! ### Names in a row -/

/-- A way along names in a row is a way along the first ones and then along the others. -/
theorem leads_append :
    t.Leads n here (names ++ rest) place ↔
      ∃ k m middle, n = k + m ∧ t.Leads k here names middle ∧ t.Leads m middle rest place := by
  induction names generalizing n here with
  | nil =>
      constructor
      · intro h
        exact ⟨0, n, here, (Nat.zero_add n).symm, .here, h⟩
      · intro hgiven
        obtain ⟨k, m, middle, rfl, hfirst, hrest⟩ := hgiven
        obtain ⟨rfl, rfl⟩ := leads_nil_iff.mp hfirst
        rwa [Nat.zero_add]
  | cons name names ih =>
      constructor
      · intro h
        cases h with
        | dot hhere h =>
            obtain ⟨k, m, middle, rfl, hfirst, hrest⟩ := ih.mp h
            exact ⟨k, m, middle, rfl, .dot hhere hfirst, hrest⟩
        | dots hhere h =>
            obtain ⟨k, m, middle, rfl, hfirst, hrest⟩ := ih.mp h
            exact ⟨k, m, middle, rfl, .dots hhere hfirst, hrest⟩
        | entry hhere hname hnode hlink h =>
            obtain ⟨k, m, middle, rfl, hfirst, hrest⟩ := ih.mp h
            exact ⟨k, m, middle, rfl, .entry hhere hname hnode hlink hfirst, hrest⟩
        | link hhere hname hnode htarget h =>
            obtain ⟨k, m, middle, rfl, hfirst, hrest⟩ := ih.mp h
            exact ⟨_, m, middle, by omega, .link hhere hname hnode htarget hfirst, hrest⟩
      · intro hgiven
        obtain ⟨k, m, middle, rfl, hfirst, hrest⟩ := hgiven
        cases hfirst with
        | dot hhere hfirst => exact .dot hhere (ih.mpr ⟨_, _, _, rfl, hfirst, hrest⟩)
        | dots hhere hfirst => exact .dots hhere (ih.mpr ⟨_, _, _, rfl, hfirst, hrest⟩)
        | entry hhere hname hnode hlink hfirst =>
            exact .entry hhere hname hnode hlink (ih.mpr ⟨_, _, _, rfl, hfirst, hrest⟩)
        | @link k' n' _ _ _ _ _ _ hhere hname hnode htarget hfirst =>
            have := Leads.link hhere hname hnode htarget (ih.mpr ⟨_, _, _, rfl, hfirst, hrest⟩)
            rwa [show k' + n' + 1 + m = k' + (n' + m) + 1 by omega]

/-- A dot at the end asks for a directory and leads no further. -/
theorem leads_append_dot_iff :
    t.Leads n here (names ++ ["."]) place ↔
      t.Leads n here names place ∧ t.isDirectoryAt place = true := by
  rw [leads_append]
  constructor
  · intro hgiven
    obtain ⟨k, m, middle, rfl, hfirst, hdot⟩ := hgiven
    obtain ⟨hmiddle, h⟩ := leads_dot_iff.mp hdot
    obtain ⟨rfl, rfl⟩ := leads_nil_iff.mp h
    exact ⟨hfirst, hmiddle⟩
  · intro hgiven
    obtain ⟨hfirst, hplace⟩ := hgiven
    exact ⟨n, 0, place, rfl, hfirst, .dot hplace .here⟩

/-! ### Ways and walks -/

/-- A walk goes along a way and on from its end, if it has the links for it. -/
theorem Leads.walk (h : t.Leads n here names place) :
    t.walk (n + links) here (names ++ rest) = t.walk links place rest := by
  induction h generalizing links rest with
  | here => rw [Nat.zero_add, List.nil_append]
  | dot hhere _ ih => rw [List.cons_append, walk_dot hhere, ih]
  | dots hhere _ ih => rw [List.cons_append, walk_dots hhere, ih]
  | entry hhere hname hnode hlink _ ih =>
      rw [List.cons_append, walk_entry hhere hname hnode hlink, ih]
  | @link k m _ _ _ _ _ _ hhere hname hnode _ _ ihtarget ih =>
      rw [List.cons_append, show k + m + 1 + links = k + (m + links) + 1 by omega,
        walk_link hhere hname hnode, ihtarget, ih]

/-- A walk that ends well went along a way, with no more links than it had. -/
theorem exists_leads_of_walk (h : t.walk links here names = .ok place) :
    ∃ n ≤ links, t.Leads n here names place := by
  fun_induction Tree.walk t links here names with
  | case1 =>
      cases h
      exact ⟨0, Nat.zero_le _, .here⟩
  | case2 | case5 | case6 | case7 => cases h
  | case3 _ _ _ hhere ih =>
      obtain ⟨n, hn, hleads⟩ := ih h
      exact ⟨n, hn, .dot (by simpa using hhere) hleads⟩
  | case4 _ _ _ hhere _ ih =>
      obtain ⟨n, hn, hleads⟩ := ih h
      exact ⟨n, hn, .dots (by simpa using hhere) hleads⟩
  | case8 _ _ _ hhere hdot hdots hsize _ hnode _ ih =>
      simp only [dite_eq_ite] at ih
      obtain ⟨n, hn, hleads⟩ := ih h
      obtain ⟨k, m, middle, rfl, htarget, hnames⟩ := leads_append.mp hleads
      exact ⟨k + m + 1, Nat.succ_le_succ hn,
        .link (by simpa using hhere) ⟨hdot, hdots, Nat.not_lt.mp hsize⟩ hnode htarget hnames⟩
  | case9 _ _ _ _ hhere hdot hdots hsize _ hlink hnode ih =>
      obtain ⟨n, hn, hleads⟩ := ih h
      exact ⟨n, hn, .entry (by simpa using hhere) ⟨hdot, hdots, Nat.not_lt.mp hsize⟩ hnode
        hlink hleads⟩

/-- **A walk ends where the names lead, if that takes no more links than it has.** -/
theorem walk_eq_ok_iff :
    t.walk links here names = .ok place ↔ ∃ n ≤ links, t.Leads n here names place := by
  constructor
  · exact exists_leads_of_walk
  · intro hgiven
    obtain ⟨n, hn, h⟩ := hgiven
    obtain ⟨more, rfl⟩ := Nat.exists_eq_add_of_le hn
    have hwalk : t.walk (n + more) here (names ++ []) = t.walk more place [] := h.walk
    rw [List.append_nil] at hwalk
    rw [hwalk, Tree.walk]

/-- The path leads to the place, over however many links. -/
def Resolves (t : Tree) (path : String) (place : Place) : Prop :=
  path ≠ "" ∧ '\x00' ∉ path.toList ∧ ∃ n, t.Leads n (t.origin path) (Path.steps path) place

end FrontDoor.Disk.Tree
