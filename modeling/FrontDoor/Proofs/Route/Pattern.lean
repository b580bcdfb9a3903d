/-
What tail patterns mean.

`endsIn` cuts the whole path at its slashes and compares the last pieces with the segments of the
pattern.  Said without cutting, a path satisfies a pattern when it ends in one text for each
segment, each behind a slash: that is `endsIn_iff`, and it is the only place where the cutting is
opened.  What a segment admits is put into words by `Reads`, so that the pattern of a concrete
route turns into a plain description of its paths by rewriting.
-/
import Mathlib.Data.List.Forall2
import FrontDoor.Proofs.Text.Pieces
import FrontDoor.Route.Pattern

namespace FrontDoor.Route

/-! ### Segments -/

/-- A decimal digit. -/
def IsDecimal (c : Char) : Prop := '0' ≤ c ∧ c ≤ '9'

/-- A lowercase hexadecimal digit. -/
def IsHexadecimal (c : Char) : Prop := IsDecimal c ∨ ('a' ≤ c ∧ c ≤ 'f')

theorem isDigit_iff {c : Char} : c.isDigit = true ↔ IsDecimal c := by
  simp [Char.isDigit, IsDecimal, Char.le_def]

theorem isLowerHex_iff {c : Char} : Text.isLowerHex c = true ↔ IsHexadecimal c := by
  rw [Text.isLowerHex, Bool.or_eq_true, isDigit_iff]
  simp [IsHexadecimal]

theorem not_isHexadecimal_slash : ¬IsHexadecimal '/' := by
  unfold IsHexadecimal IsDecimal
  decide

/-- The text between two slashes is one that the segment stands for. -/
def Segment.Reads (segment : Segment) (piece : List Char) : Prop :=
  segment.admits piece = true ∧ '/' ∉ piece

theorem reads_literal {text : String} (h : '/' ∉ text.toList) {piece : List Char} :
    (Segment.literal text).Reads piece ↔ piece = text.toList := by
  constructor
  · intro hgiven
    obtain ⟨hp, -⟩ := hgiven
    simpa [Segment.admits] using hp
  · rintro rfl
    exact ⟨by simp [Segment.admits], h⟩

theorem reads_hex {n : Nat} {piece : List Char} :
    (Segment.hex n).Reads piece ↔ piece.length = n ∧ ∀ c ∈ piece, IsHexadecimal c := by
  have hadmits : (Segment.hex n).admits piece = true ↔
      piece.length = n ∧ ∀ c ∈ piece, IsHexadecimal c := by
    simp [Segment.admits, isLowerHex_iff]
  rw [Segment.Reads, hadmits]
  exact and_iff_left_of_imp fun h hmem => not_isHexadecimal_slash (h.2 _ hmem)

theorem reads_digits {piece : List Char} :
    Segment.digits.Reads piece ↔ piece ≠ [] ∧ ∀ c ∈ piece, IsDecimal c := by
  have hadmits : Segment.digits.admits piece = true ↔
      piece ≠ [] ∧ ∀ c ∈ piece, IsDecimal c := by
    simp [Segment.admits, isDigit_iff]
  rw [Segment.Reads, hadmits]
  exact and_iff_left_of_imp fun h hmem => not_isHexadecimal_slash (Or.inl (h.2 _ hmem))

/-! ### Patterns -/

theorem admitsEach_iff {segments : List Segment} {parts : List (List Char)}
    (h : segments.length = parts.length) :
    admitsEach segments parts = true ↔
      List.Forall₂ (fun segment part => segment.admits part = true) segments parts := by
  rw [List.forall₂_iff_zip, admitsEach, List.all_eq_true]
  constructor
  · intro hall
    exact ⟨h, fun hmem => hall _ hmem⟩
  · rintro ⟨-, hall⟩ ⟨segment, part⟩ hmem
    exact hall hmem

/-- The last pieces of a path, as many as there are segments. -/
theorem endsIn_iff_exists_pieces {segments : List Segment} {path : String} :
    endsIn segments path = true ↔
      ∃ front ≠ [], ∃ parts, Text.pieces '/' path.toList = front ++ parts ∧
        List.Forall₂ (fun segment part => segment.admits part = true) segments parts := by
  simp only [endsIn, Bool.and_eq_true, decide_eq_true_eq]
  set pieces := Text.pieces '/' path.toList
  constructor
  · intro hgiven
    obtain ⟨hlt, hadmits⟩ := hgiven
    have hlength : segments.length = (pieces.drop (pieces.length - segments.length)).length := by
      rw [List.length_drop]
      omega
    refine ⟨pieces.take (pieces.length - segments.length), ?_, _,
      (List.take_append_drop ..).symm, (admitsEach_iff hlength).mp hadmits⟩
    intro hnil
    have := congrArg List.length hnil
    rw [List.length_take, List.length_nil] at this
    omega
  · intro hgiven
    obtain ⟨front, hfront, parts, hpieces, hall⟩ := hgiven
    have hlength := hall.length_eq
    have hpos := List.length_pos_iff.mpr hfront
    have hdrop : pieces.drop (pieces.length - segments.length) = parts := by
      rw [hpieces, List.length_append, hlength, Nat.add_sub_cancel, List.drop_left]
    refine ⟨by rw [hpieces, List.length_append]; omega, ?_⟩
    rw [hdrop]
    exact (admitsEach_iff hlength).mpr hall

/-- What is asked of each element on the right may be asked apart. -/
theorem forall₂_and_right {α β : Type} {R : α → β → Prop} {P : β → Prop} {l : List α}
    {m : List β} :
    List.Forall₂ (fun a b => R a b ∧ P b) l m ↔ List.Forall₂ R l m ∧ ∀ b ∈ m, P b := by
  constructor
  · intro h
    induction h with
    | nil => simp
    | cons hboth _ ih =>
        exact ⟨List.Forall₂.cons hboth.1 ih.1, List.forall_mem_cons.mpr ⟨hboth.2, ih.2⟩⟩
  · intro hgiven
    obtain ⟨h, hright⟩ := hgiven
    induction h with
    | nil => exact List.Forall₂.nil
    | cons hrel _ ih =>
        obtain ⟨hhead, htail⟩ := List.forall_mem_cons.mp hright
        exact List.Forall₂.cons ⟨hrel, hhead⟩ (ih htail)

/-- What stands on the left stands beside something. -/
theorem exists_of_forall₂ {α β : Type} {R : α → β → Prop} {l : List α} {m : List β} {a : α}
    (h : List.Forall₂ R l m) (ha : a ∈ l) : ∃ b ∈ m, R a b := by
  induction h with
  | nil => cases ha
  | @cons a' b l m hrel _ ih =>
      rcases List.mem_cons.mp ha with rfl | ha
      · exact ⟨b, List.mem_cons_self, hrel⟩
      · obtain ⟨b', hb', hrel'⟩ := ih ha
        exact ⟨b', List.mem_cons_of_mem _ hb', hrel'⟩

theorem forall₂_reads_iff {segments : List Segment} {parts : List (List Char)} :
    List.Forall₂ Segment.Reads segments parts ↔
      List.Forall₂ (fun segment part => segment.admits part = true) segments parts ∧
        ∀ part ∈ parts, '/' ∉ part :=
  forall₂_and_right

/-- **A path ends in the segments when it ends in texts that they stand for, each behind a
slash.** -/
theorem endsIn_iff {segments : List Segment} {path : String} :
    endsIn segments path = true ↔
      ∃ q parts, List.Forall₂ Segment.Reads segments parts ∧
        path.toList = q ++ Text.behind '/' parts := by
  rw [endsIn_iff_exists_pieces]
  constructor
  · intro hgiven
    obtain ⟨front, hfront, parts, hpieces, hall⟩ := hgiven
    obtain ⟨hslash, q, hq⟩ := Text.pieces_eq_append_iff.mp ⟨front, hfront, hpieces⟩
    exact ⟨q, parts, forall₂_reads_iff.mpr ⟨hall, hslash⟩, hq⟩
  · intro hgiven
    obtain ⟨q, parts, hreads, hq⟩ := hgiven
    obtain ⟨hall, hslash⟩ := forall₂_reads_iff.mp hreads
    obtain ⟨front, hfront, hpieces⟩ := Text.pieces_eq_append_iff.mpr ⟨hslash, q, hq⟩
    exact ⟨front, hfront, parts, hpieces, hall⟩

/-! ### The same in texts -/

/-- Texts in a row, each behind a slash. -/
def slashed (parts : List String) : String :=
  String.join (parts.map ("/" ++ ·))

@[simp] theorem slashed_nil : slashed [] = "" := rfl

@[simp] theorem slashed_cons (part : String) (parts : List String) :
    slashed (part :: parts) = "/" ++ part ++ slashed parts := by
  simp [slashed, String.join_cons]

theorem slashed_append (xs ys : List String) : slashed (xs ++ ys) = slashed xs ++ slashed ys := by
  simp [slashed, String.join_append]

theorem toList_slashed (parts : List String) :
    (slashed parts).toList = Text.behind '/' (parts.map String.toList) := by
  induction parts with
  | nil => rfl
  | cons part parts ih =>
      rw [slashed_cons, String.toList_append, String.toList_append, ih]
      rfl

theorem endsIn_iff_slashed {segments : List Segment} {path : String} :
    endsIn segments path = true ↔
      ∃ (q : String) (parts : List String),
        List.Forall₂ (fun segment part => segment.Reads part.toList) segments parts ∧
          path = q ++ slashed parts := by
  rw [endsIn_iff]
  constructor
  · intro hgiven
    obtain ⟨q, parts, hreads, hq⟩ := hgiven
    have hparts : (parts.map String.ofList).map String.toList = parts := by
      simp [Function.comp_def]
    refine ⟨String.ofList q, parts.map String.ofList, ?_, ?_⟩
    · rw [← hparts, List.forall₂_map_right_iff] at hreads
      exact hreads
    · rw [← String.toList_inj, String.toList_append, String.toList_ofList, toList_slashed, hparts]
      exact hq
  · intro hgiven
    obtain ⟨q, parts, hreads, rfl⟩ := hgiven
    exact ⟨q.toList, parts.map String.toList, List.forall₂_map_right_iff.mpr hreads,
      by rw [String.toList_append, toList_slashed]⟩

end FrontDoor.Route
