/-
What a name maps to.

Fields are kept in a list, and the order of fields with different names means nothing.  What a
list of fields says is its `values`, name by name; here is what each operation does to them, and
when two lists say the same.
-/
import FrontDoor.Http.Header
import Mathlib.Data.List.Basic

namespace FrontDoor.Http.Headers

variable {hs ks : Headers} {name other : String} {value : Bytes}

theorem values_append : (hs ++ ks).values name = hs.values name ++ ks.values name := by
  simp [values]

theorem values_without :
    (hs.without name).values other = if other = name then [] else hs.values other := by
  unfold values without
  rw [List.filter_filter]
  by_cases h : other = name
  · subst h
    simp
  · rw [if_neg h]
    congr 2
    funext field
    by_cases hfield : field.name = other <;> simp [hfield, h]

theorem values_withoutAll {names : List String} :
    (hs.withoutAll names).values name = if name ∈ names then [] else hs.values name := by
  unfold values withoutAll
  rw [List.filter_filter]
  by_cases h : name ∈ names
  · rw [if_pos h, List.map_eq_nil_iff, List.filter_eq_nil_iff]
    intro field _
    by_cases hfield : field.name = name <;> simp [hfield, h]
  · rw [if_neg h]
    congr 2
    funext field
    by_cases hfield : field.name = name <;> simp [hfield, h]

theorem values_set :
    (hs.set name value).values other = if other = name then [value] else hs.values other := by
  unfold set
  rw [values_append, values_without]
  by_cases h : other = name
  · subst h
    simp [values]
  · simp [values, h, Ne.symm h]

theorem has_eq_false_iff : hs.has name = false ↔ hs.values name = [] := by
  simp [has, values, List.any_eq_false, List.filter_eq_nil_iff]

theorem values_setIfMissing :
    (hs.setIfMissing name value).values other =
      if other = name ∧ hs.values name = [] then [value] else hs.values other := by
  unfold setIfMissing
  cases hhas : hs.has name with
  | true =>
      have hsome : hs.values name ≠ [] := fun h => by simp [has_eq_false_iff.mpr h] at hhas
      simp [hsome]
  | false =>
      have hnone := has_eq_false_iff.mp hhas
      rw [if_neg Bool.false_ne_true, values_append]
      by_cases h : other = name
      · subst h
        rw [if_pos ⟨rfl, hnone⟩, hnone]
        simp [values]
      · simp [values, h, Ne.symm h]

/-! ### Without a name -/

theorem without_of_values (h : hs.values name = []) : hs.without name = hs := by
  rw [without, List.filter_eq_self]
  intro field hfield
  rw [bne_iff_ne]
  rintro rfl
  have hmem : field.value ∈ hs.values field.name :=
    List.mem_map_of_mem (List.mem_filter.mpr ⟨hfield, beq_self_eq_true _⟩)
  rw [h] at hmem
  cases hmem

theorem without_append : (hs ++ ks).without name = hs.without name ++ ks.without name :=
  List.filter_append ..

theorem without_withoutAll (names : List String) :
    (hs.withoutAll names).without name = (hs.without name).withoutAll names :=
  List.filter_comm ..

theorem without_without : (hs.without name).without name = hs.without name := by
  simp [without]

theorem without_setIfMissing (h : name ≠ other) :
    (hs.setIfMissing name value).without other = (hs.without other).setIfMissing name value := by
  have hhas : (hs.without other).has name = hs.has name := by
    rw [Bool.eq_iff_iff]
    simp only [has, without, List.any_eq_true, List.mem_filter, beq_iff_eq, bne_iff_ne]
    constructor
    · intro hgiven
      obtain ⟨field, ⟨hfield, -⟩, hname⟩ := hgiven
      exact ⟨field, hfield, hname⟩
    · intro hgiven
      obtain ⟨field, hfield, hname⟩ := hgiven
      exact ⟨field, ⟨hfield, hname ▸ h⟩, hname⟩
  rw [setIfMissing, setIfMissing, hhas]
  split
  · rfl
  · simp [without, h]

/-! ### Lists that say the same -/

/-- The two lists map each name to the same values. -/
def Alike (hs ks : Headers) : Prop :=
  ∀ name, hs.values name = ks.values name

end FrontDoor.Http.Headers
