/-
Cutting a text is undone by writing the separators back.

`pieces sep` is only ever used from the end: a caller takes the last few pieces of a path and
wants to know what they say about the path itself.  One equation carries that, `pieces_append`:
a separator splits the pieces of a text into those before it and those behind it.  With it,
`pieces_eq_append_iff` turns "the text has these pieces at its end" into "the text ends in these
pieces, each behind a separator", which no longer mentions cutting at all.
-/
import Mathlib.Data.List.Infix
import FrontDoor.Text.Pieces

namespace FrontDoor.Text

/-- Texts in a row, each behind a separator. -/
def behind (sep : Char) (parts : List (List Char)) : List Char :=
  parts.flatMap (sep :: ·)

@[simp] theorem behind_nil (sep : Char) : behind sep [] = [] := rfl

@[simp] theorem behind_cons (sep : Char) (part : List Char) (parts : List (List Char)) :
    behind sep (part :: parts) = sep :: (part ++ behind sep parts) := rfl

@[simp] theorem behind_append (sep : Char) (xs ys : List (List Char)) :
    behind sep (xs ++ ys) = behind sep xs ++ behind sep ys :=
  List.flatMap_append

/-! ### Pieces -/

@[simp] theorem pieces_nil (sep : Char) : pieces sep [] = [[]] := rfl

theorem pieces_cons_self (sep : Char) (s : List Char) :
    pieces sep (sep :: s) = [] :: pieces sep s := by
  simp [pieces, cut]

/-- A character other than the separator goes to the first piece. -/
theorem cut_cons_ne {sep c : Char} (h : c ≠ sep) (s : List Char) :
    cut sep (c :: s) = (c :: (cut sep s).1, (cut sep s).2) := by
  simp [cut, h]

theorem cut_append_self (sep : Char) (s t : List Char) :
    cut sep (s ++ sep :: t) = ((cut sep s).1, (cut sep s).2 ++ pieces sep t) := by
  induction s with
  | nil => simp [cut, pieces]
  | cons c s ih =>
      rw [List.cons_append]
      by_cases hc : c = sep
      · rw [hc]
        simp [cut, ih]
      · rw [cut_cons_ne hc, cut_cons_ne hc, ih]

/-- A separator has the pieces of one text before it and those of another behind it. -/
theorem pieces_append (sep : Char) (s t : List Char) :
    pieces sep (s ++ sep :: t) = pieces sep s ++ pieces sep t := by
  rw [pieces, cut_append_self]
  rfl

/-- A text without separators is its only piece. -/
theorem pieces_of_not_mem {sep : Char} {s : List Char} (h : sep ∉ s) : pieces sep s = [s] := by
  induction s with
  | nil => rfl
  | cons c s ih =>
      have hc : c ≠ sep := fun hc => h (by simp [hc])
      have hs : pieces sep s = [s] := ih fun hs => h (List.mem_cons_of_mem c hs)
      unfold pieces at hs ⊢
      rw [cut_cons_ne hc]
      simpa using hs

/-- A text is its first piece and the others, each behind a separator. -/
theorem cut_behind (sep : Char) (s : List Char) :
    (cut sep s).1 ++ behind sep (cut sep s).2 = s := by
  induction s with
  | nil => rfl
  | cons c s ih =>
      by_cases hc : c = sep
      · rw [hc]
        simp [cut, ih]
      · rw [cut_cons_ne hc, List.cons_append, ih]

/-- No piece has a separator in it. -/
theorem not_mem_of_mem_pieces {sep : Char} {s piece : List Char} (h : piece ∈ pieces sep s) :
    sep ∉ piece := by
  induction s generalizing piece with
  | nil =>
      rw [pieces_nil, List.mem_singleton] at h
      simp [h]
  | cons c s ih =>
      by_cases hc : c = sep
      · rw [hc, pieces_cons_self] at h
        rcases List.mem_cons.mp h with rfl | h
        · simp
        · exact ih h
      · rw [pieces, cut_cons_ne hc] at h
        rcases List.mem_cons.mp h with rfl | h
        · intro hmem
          rcases List.mem_cons.mp hmem with rfl | hmem
          · exact hc rfl
          · exact ih (List.mem_cons_self ..) hmem
        · exact ih (List.mem_cons_of_mem _ h)

/-- All of a text but its separators is in its pieces. -/
theorem exists_piece_of_mem {sep c : Char} {s : List Char} (hc : c ∈ s) (hsep : c ≠ sep) :
    ∃ piece ∈ pieces sep s, c ∈ piece := by
  rw [← cut_behind sep s] at hc
  rcases List.mem_append.mp hc with hc | hc
  · exact ⟨_, List.mem_cons_self, hc⟩
  · obtain ⟨piece, hpiece, hc⟩ := List.mem_flatMap.mp hc
    exact ⟨piece, List.mem_cons_of_mem _ hpiece, (List.mem_cons.mp hc).resolve_left hsep⟩

theorem pieces_append_behind {sep : Char} (s : List Char) {parts : List (List Char)}
    (h : ∀ part ∈ parts, sep ∉ part) :
    pieces sep (s ++ behind sep parts) = pieces sep s ++ parts := by
  induction parts generalizing s with
  | nil => simp
  | cons part parts ih =>
      have hpart : sep ∉ part := h part (List.mem_cons_self ..)
      have hparts : ∀ p ∈ parts, sep ∉ p := fun p hp => h p (List.mem_cons_of_mem _ hp)
      rw [behind_cons, pieces_append, ih part hparts, pieces_of_not_mem hpart]
      rfl

/-- **The last pieces of a text are what stands behind its last separators.**  What is in front
of them is a piece of its own, even when it is empty, so it is asked for as one more piece. -/
theorem pieces_eq_append_iff {sep : Char} {s : List Char} {parts : List (List Char)} :
    (∃ front ≠ [], pieces sep s = front ++ parts) ↔
      (∀ part ∈ parts, sep ∉ part) ∧ ∃ q, s = q ++ behind sep parts := by
  constructor
  · intro hgiven
    obtain ⟨front, hfront, hs⟩ := hgiven
    obtain ⟨first, others, rfl⟩ := List.exists_cons_of_ne_nil hfront
    refine ⟨fun part hpart => not_mem_of_mem_pieces (s := s) (by rw [hs]; simp [hpart]), ?_⟩
    have hcut := cut_behind sep s
    simp only [pieces, List.cons_append, List.cons.injEq] at hs
    rw [hs.1, hs.2, behind_append, ← List.append_assoc] at hcut
    exact ⟨_, hcut.symm⟩
  · intro hgiven
    obtain ⟨hparts, q, rfl⟩ := hgiven
    exact ⟨pieces sep q, by simp [pieces], pieces_append_behind q hparts⟩

/-! ### Occurrences -/

/-- `occursIn` looks for an unbroken run. -/
theorem occursIn_iff {p s : List Char} : occursIn p s = true ↔ p <:+: s := by
  induction s with
  | nil => simp [occursIn]
  | cons c s ih =>
      rw [occursIn, Bool.or_eq_true, ih, List.isPrefixOf_iff_prefix, List.infix_cons_iff]

end FrontDoor.Text
