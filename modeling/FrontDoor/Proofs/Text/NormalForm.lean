/-
Characters that the normal form leaves where they are.

A character that is no composite and no part of one is neither taken apart nor composed with
another (`Inert`).  Whatever stands around it, it is still there in the normal form
(`mem_normalForm`): putting marks in order drops no character, and a step of composing replaces two
of them only if they are the parts of a composite.
-/
import FrontDoor.Proofs.Text.Ascii
import FrontDoor.Text.NormalForm

namespace FrontDoor.Text

variable {c : Char} {s : List Char}

/-- The character is no composite and no part of one. -/
structure Inert (c : Char) : Prop where
  parts : parts? c = none
  first : ∀ d, composite? c d = none
  second : ∀ d, composite? d c = none

theorem partsWithin_of_inert (hc : Inert c) (depth : Nat) : partsWithin depth c = [c] := by
  cases depth with
  | zero => rfl
  | succ depth => rw [partsWithin, hc.parts]

theorem mem_takenApart (hc : Inert c) (h : c ∈ s) : c ∈ takenApart s :=
  List.mem_flatMap.mpr ⟨c, h, by rw [partsWithin_of_inert hc]; exact List.mem_singleton.mpr rfl⟩

/-! ### Order of marks -/

theorem mem_insertMark {c d : Classed} {earlier : List Classed} :
    d ∈ insertMark c earlier ↔ d = c ∨ d ∈ earlier := by
  induction earlier with
  | nil => simp [insertMark]
  | cons e earlier ih =>
      rw [insertMark]
      split
      · rw [List.mem_cons, ih, List.mem_cons]
        exact or_left_comm
      · rw [List.mem_cons]

theorem mem_foldl_insertMark {d : Classed} (s : List Char) (earlier : List Classed) :
    d ∈ s.foldl (fun earlier c => insertMark (combiningClass c, c) earlier) earlier ↔
      (∃ c ∈ s, (combiningClass c, c) = d) ∨ d ∈ earlier := by
  induction s generalizing earlier with
  | nil => simp
  | cons c s ih =>
      rw [List.foldl_cons, ih, mem_insertMark, List.exists_mem_cons_iff, or_assoc,
        or_left_comm, eq_comm (a := d)]

/-- Putting marks in order drops no character. -/
theorem mem_map_inOrder : c ∈ (inOrder s).map Prod.snd ↔ c ∈ s := by
  unfold inOrder
  simp only [List.mem_map, List.mem_reverse, mem_foldl_insertMark]
  simp

/-! ### Composing -/

theorem mem_composedFrom (hc : Inert c) {base : Char} {held rest : List Classed}
    (h : c = base ∨ c ∈ held.map Prod.snd ∨ c ∈ rest.map Prod.snd) :
    c ∈ composedFrom base held rest := by
  induction rest generalizing base held with
  | nil =>
      rw [composedFrom]
      simpa using h
  | cons d rest ih =>
      rw [List.map_cons, List.mem_cons] at h
      rw [composedFrom]
      split
      · rename_i whole hwhole
        -- Neither of the two that are composed is the character.
        have hparts : composite? base d.2 ≠ none := by
          split_ifs at hwhole
          simp [hwhole]
        have hbase : c ≠ base := by
          rintro rfl
          exact hparts (hc.first _)
        have hd : c ≠ d.2 := by
          rintro rfl
          exact hparts (hc.second _)
        exact ih (.inr ((h.resolve_left hbase).imp_right (·.resolve_left hd)))
      · split
        · rcases h with rfl | hheld | hrest
          · simp
          · exact List.mem_append_left _ (List.mem_cons_of_mem _ (by simpa using hheld))
          · refine List.mem_append_right _ (ih ?_)
            exact hrest.imp_right .inr
        · refine ih ?_
          rw [List.map_cons, List.mem_cons]
          tauto

theorem mem_composed (hc : Inert c) {marked : List Classed} (h : c ∈ marked.map Prod.snd) :
    c ∈ composed marked := by
  induction marked with
  | nil => cases h
  | cons d marked ih =>
      rw [List.map_cons, List.mem_cons] at h
      rw [composed]
      split
      · exact mem_composedFrom hc (h.imp_right .inr)
      · exact List.mem_cons.mpr (h.imp_right ih)

/-- An inert character of a text is in its normal form. -/
theorem mem_normalForm (hc : Inert c) (h : c ∈ s) : c ∈ normalForm s :=
  mem_composed hc (mem_map_inOrder.mpr (mem_takenApart hc h))

/-! ### Which characters are inert -/

/-- A character of ASCII is inert if no composite begins with it.  It is looked for among the octets
of the bases, which takes less time than taking them apart into characters. -/
theorem inert_of_ascii (hascii : c.toNat < 0x80)
    (hbases : ∀ row ∈ compositeRows, UInt8.ofNat c.toNat ∉ Bytes.ofString row.2.1) : Inert c := by
  refine ⟨if_pos hascii, ?_, fun d => if_pos (by omega)⟩
  intro d
  have hsyllable : syllable? c.toNat d.toNat = none := by
    have hlow : ¬0x1100 ≤ c.toNat := by omega
    have hlow' : ¬0xac00 ≤ c.toNat := by omega
    simp [syllable?, hlow, hlow']
  unfold composite?
  split
  · rfl
  · rw [hsyllable]
    dsimp only
    rw [Option.map_eq_none_iff, List.find?_eq_none]
    rintro ⟨whole, base, second⟩ hmem hparts
    obtain ⟨rfl, -⟩ := Prod.mk.inj (beq_iff_eq.mp hparts)
    obtain ⟨⟨mark, bases, wholes⟩, hrow, hpair⟩ := List.mem_flatMap.mp hmem
    obtain ⟨⟨b, w⟩, hzip, hsame⟩ := List.mem_map.mp hpair
    cases hsame
    exact hbases _ hrow (mem_ofString_of_ascii hascii (List.of_mem_zip hzip).1)

theorem inert_openBracket : Inert '[' :=
  inert_of_ascii (by decide) (by decide +kernel)

end FrontDoor.Text
