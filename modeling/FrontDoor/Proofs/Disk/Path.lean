/-
What is joined to a path and what is above it.

Only slashes part names, so a path with a slash in it has the names before the slash and those
behind it (`namesIn_append_slash`).  A name that is joined to a path is its last name, whatever
slashes the path ends in.

Upwards, a parent is shorter than its path, so going from parent to parent ends, and a lineage
with as many steps as the path has characters leaves nothing out (`mem_lineage_iff`).
-/
import FrontDoor.Disk.Path
import FrontDoor.Proofs.Text.Pieces
import Mathlib.Logic.Relation

namespace FrontDoor.Disk.Path

variable {path directory name : String}

/-- The names in a text. -/
def namesIn (s : List Char) : List String :=
  ((Text.pieces '/' s).filter (!·.isEmpty)).map String.ofList

theorem names_eq (path : String) : names path = namesIn path.toList := rfl

@[simp] theorem namesIn_nil : namesIn [] = [] := rfl

/-- A slash parts the names before it from those behind it. -/
theorem namesIn_append_slash (s t : List Char) :
    namesIn (s ++ '/' :: t) = namesIn s ++ namesIn t := by
  rw [namesIn, Text.pieces_append, List.filter_append, List.map_append]
  rfl

/-- A text without slashes is a name of its own. -/
theorem namesIn_of_not_mem {s : List Char} (hs : s ≠ []) (h : '/' ∉ s) :
    namesIn s = [String.ofList s] := by
  rw [namesIn, Text.pieces_of_not_mem h]
  cases s with
  | nil => exact absurd rfl hs
  | cons c s => rfl

theorem endsInSlash_iff : endsInSlash path = true ↔ ∃ s, path.toList = s ++ ['/'] := by
  rw [endsInSlash, beq_iff_eq, List.getLast?_eq_some_iff]

/-! ### Joining -/

/-- A joined path is a text for the directory and then the name. -/
theorem exists_toList_join (h : directory ≠ "") (name : String) :
    ∃ s, (join directory name).toList = s ++ '/' :: name.toList ∧
      namesIn s = names directory ∧ s.head?.or (some '/') = directory.toList.head? := by
  obtain ⟨c, cs, hcs⟩ := List.exists_cons_of_ne_nil fun hnil => h (String.toList_inj.mp hnil)
  have hempty : directory.isEmpty = false := by
    simpa using h
  by_cases hslash : endsInSlash directory = true
  · obtain ⟨s, hs⟩ := endsInSlash_iff.mp hslash
    refine ⟨s, ?_, ?_, ?_⟩
    · simp [join, hslash, hs]
    · rw [names_eq, hs, namesIn_append_slash, namesIn_nil, List.append_nil]
    · cases s <;> simp [hs]
  · refine ⟨directory.toList, ?_, rfl, ?_⟩
    · simp [join, hslash, hempty]
    · simp [hcs]

theorem names_join (h : directory ≠ "") (hname : name ≠ "") (hslash : '/' ∉ name.toList) :
    names (join directory name) = names directory ++ [name] := by
  obtain ⟨s, hs, hnames, -⟩ := exists_toList_join h name
  have hchars : name.toList ≠ [] := fun hnil => hname (String.toList_inj.mp hnil)
  rw [names_eq, hs, namesIn_append_slash, hnames, namesIn_of_not_mem hchars hslash,
    String.ofList_toList]

/-- What is joined is walked name by name; it ends in no slash. -/
theorem steps_join (h : directory ≠ "") (hname : name ≠ "") (hslash : '/' ∉ name.toList) :
    steps (join directory name) = names directory ++ [name] := by
  have hends : endsInSlash (join directory name) = false := by
    obtain ⟨s, hs, -⟩ := exists_toList_join h name
    have hchars : name.toList ≠ [] := fun hnil => hname (String.toList_inj.mp hnil)
    rw [Bool.eq_false_iff, Ne, endsInSlash, beq_iff_eq, hs, List.getLast?_append,
      List.getLast?_cons, List.getLast?_eq_getLast_of_ne_nil hchars]
    intro hlast
    have hmem := List.getLast_mem hchars
    simp only [Option.getD_some, Option.some_or, Option.some.injEq] at hlast
    exact hslash (hlast ▸ hmem)
  rw [steps, hends, names_join h hname hslash]
  simp

theorem isAbsolute_join (h : directory ≠ "") (name : String) :
    isAbsolute (join directory name) = isAbsolute directory := by
  obtain ⟨s, hs, -, hhead⟩ := exists_toList_join h name
  rw [isAbsolute, isAbsolute, hs, ← hhead]
  cases s <;> rfl

/-- Joining adds a slash and the name, and takes nothing away. -/
theorem mem_toList_join {c : Char} (hc : c ≠ '/') :
    c ∈ (join directory name).toList ↔ c ∈ directory.toList ∨ c ∈ name.toList := by
  unfold join
  split <;> simp [hc]

theorem join_ne_empty (hname : name ≠ "") : join directory name ≠ "" := by
  intro h
  apply hname
  unfold join at h
  split at h
  · exact (String.append_eq_empty_iff.mp h).2
  · exact (String.append_eq_empty_iff.mp h).2

/-! ### Going up -/

theorem trimmed_suffix (s : List Char) : trimmed s <:+ s := by
  fun_induction trimmed s with
  | case1 => exact List.suffix_refl _
  | case2 rest _ ih => exact ih.trans (List.suffix_cons _ _)
  | case3 rest ih => exact ih.trans (List.suffix_cons _ _)
  | case4 path => exact List.suffix_refl _

/-- What is trimmed starts with no slash, unless it is the root. -/
theorem eq_nil_of_trimmed {s rest : List Char} (h : trimmed s = '/' :: rest) : rest = [] := by
  fun_induction trimmed s with
  | case1 => simpa using h.symm
  | case2 _ _ ih => exact ih h
  | case3 _ ih => exact ih h
  | case4 path _ hslash => exact (hslash rest h).elim

/-- A parent is shorter. -/
theorem length_of_parent? {path above : String} (h : parent? path = some above) :
    above.toList.length < path.toList.length := by
  unfold parent? at h
  split at h
  · cases h
  · cases h
  · next whole hnil hroot =>
    obtain rfl := Option.some.inj h
    have hwhole := (trimmed_suffix path.toList.reverse).length_le
    rw [List.length_reverse] at hwhole
    have htrimmed := (trimmed_suffix
      ((trimmed path.toList.reverse).dropWhile (· != '/'))).length_le
    rw [String.toList_ofList, List.length_reverse]
    cases hcons : trimmed path.toList.reverse with
    | nil => exact (hnil hcons).elim
    | cons c rest =>
        have hslash : c ≠ '/' := by
          rintro rfl
          obtain rfl := eq_nil_of_trimmed hcons
          exact hroot hcons
        have hdrop : (c :: rest).dropWhile (· != '/') = rest.dropWhile (· != '/') :=
          List.dropWhile_cons_of_pos (by simpa using hslash)
        rw [hcons, hdrop] at htrimmed
        rw [hcons, List.length_cons] at hwhole
        have hrest := (List.dropWhile_suffix (· != '/') (l := rest)).length_le
        rw [hdrop]
        omega

/-- The second path is the first one, its parent, the parent of that, or further up. -/
def Above : String → String → Prop :=
  Relation.ReflTransGen fun path above => parent? path = some above

theorem above_iff {path above : String} :
    Above path above ↔ above = path ∨ ∃ parent, parent? path = some parent ∧ Above parent above :=
  Relation.ReflTransGen.cases_head_iff.trans (or_congr_left eq_comm)

/-- The lineage of a path is all that is above it. -/
theorem mem_lineage_iff {n : Nat} {path above : String} (hn : path.toList.length < n) :
    above ∈ lineage n path ↔ Above path above := by
  induction n generalizing path with
  | zero => exact absurd hn (Nat.not_lt_zero _)
  | succ n ih =>
      rw [lineage, List.mem_cons, above_iff]
      cases hparent : parent? path with
      | none => simp
      | some parent =>
          have hlength := length_of_parent? hparent
          simp [ih (show parent.toList.length < n by omega)]

end FrontDoor.Disk.Path
