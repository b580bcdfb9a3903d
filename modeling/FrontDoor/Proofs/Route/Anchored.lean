/-
Tail patterns as expressions anchored at the end of a path.

The matcher cuts the whole path at its slashes and compares the last pieces with the segments.
What it accepts is said here on the text of the path and in octets: any text, and then for each
segment a slash and a text that the segment permits (`endsIn_anchored`).  A segment that counts
digits may count octets for them, because its digits are of ASCII.

The matcher takes as many pieces from the end as there are segments.  It has asked for one piece
more before that, so taking them never fails (`endsIn?_eq_some`).
-/
import FrontDoor.Proofs.Route.Pattern
import FrontDoor.Proofs.Text.Utf8

namespace FrontDoor.Route

variable {segments : List Segment} {segment : Segment} {piece : String}

/-! ### Segments in octets -/

/-- The octet of a decimal digit. -/
def IsDecimalOctet (b : UInt8) : Prop :=
  0x30 ≤ b ∧ b ≤ 0x39

/-- The octet of a lowercase hexadecimal digit. -/
def IsHexadecimalOctet (b : UInt8) : Prop :=
  IsDecimalOctet b ∨ (0x61 ≤ b ∧ b ≤ 0x66)

/-- The segment permits the text in its place. -/
def Segment.Permits : Segment → String → Prop
  | .literal text, piece => piece = text
  | .hex n, piece =>
    (Bytes.ofString piece).length = n ∧ ∀ b ∈ Bytes.ofString piece, IsHexadecimalOctet b
  | .digits, piece => Bytes.ofString piece ≠ [] ∧ ∀ b ∈ Bytes.ofString piece, IsDecimalOctet b

theorem forall_isDecimalOctet_iff :
    (∀ b ∈ Bytes.ofString piece, IsDecimalOctet b) ↔ ∀ c ∈ piece.toList, IsDecimal c := by
  have hoctet (b : UInt8) : IsDecimalOctet b ↔ 48 ≤ b.toNat ∧ b.toNat ≤ 57 := by
    simp [IsDecimalOctet, UInt8.le_iff_toNat_le]
  have hchar (c : Char) : IsDecimal c ↔ 48 ≤ c.toNat ∧ c.toNat ≤ 57 := by
    simp [IsDecimal, Char.le_def, UInt32.le_iff_toNat_le]
  simp only [hoctet, hchar]
  exact Text.forall_mem_ofString_iff (P := fun n => 48 ≤ n ∧ n ≤ 57) (by omega)

theorem forall_isHexadecimalOctet_iff :
    (∀ b ∈ Bytes.ofString piece, IsHexadecimalOctet b) ↔
      ∀ c ∈ piece.toList, IsHexadecimal c := by
  have hoctet (b : UInt8) : IsHexadecimalOctet b ↔
      (48 ≤ b.toNat ∧ b.toNat ≤ 57) ∨ (97 ≤ b.toNat ∧ b.toNat ≤ 102) := by
    simp [IsHexadecimalOctet, IsDecimalOctet, UInt8.le_iff_toNat_le]
  have hchar (c : Char) : IsHexadecimal c ↔
      (48 ≤ c.toNat ∧ c.toNat ≤ 57) ∨ (97 ≤ c.toNat ∧ c.toNat ≤ 102) := by
    simp [IsHexadecimal, IsDecimal, Char.le_def, UInt32.le_iff_toNat_le]
  simp only [hoctet, hchar]
  exact Text.forall_mem_ofString_iff
    (P := fun n => (48 ≤ n ∧ n ≤ 57) ∨ (97 ≤ n ∧ n ≤ 102)) (by omega)

/-- A text of hexadecimal digits has one octet for each of them. -/
theorem length_ofString_of_isHexadecimal (h : ∀ c ∈ piece.toList, IsHexadecimal c) :
    (Bytes.ofString piece).length = piece.toList.length := by
  have hascii : ∀ c ∈ piece.toList, c.toNat < 128 := by
    intro c hc
    have hdigit := h c hc
    simp only [IsHexadecimal, IsDecimal, Char.le_def, UInt32.le_iff_toNat_le] at hdigit
    change (48 ≤ c.toNat ∧ c.toNat ≤ 57) ∨ (97 ≤ c.toNat ∧ c.toNat ≤ 102) at hdigit
    omega
  rw [Text.ofString_of_ascii hascii, List.length_map]

theorem ofString_ne_nil_iff : Bytes.ofString piece ≠ [] ↔ piece.toList ≠ [] := by
  rw [Text.ofString_eq, Ne, List.flatMap_eq_nil_iff]
  constructor
  · rintro h hnil
    refine h fun c hc => ?_
    rw [hnil] at hc
    cases hc
  · intro h hnil
    obtain ⟨c, t, hpiece⟩ := List.exists_cons_of_ne_nil h
    exact String.utf8EncodeChar_ne_nil (hnil c (by rw [hpiece]; exact List.mem_cons_self))

/-- A piece of a path satisfies a segment if it is a text that the segment permits. -/
theorem reads_iff_permits :
    segment.Reads piece.toList ↔ segment.Permits piece ∧ '/' ∉ piece.toList := by
  cases segment with
  | literal text =>
      show (piece.toList == text.toList) = true ∧ _ ↔ piece = text ∧ _
      rw [beq_iff_eq, String.toList_inj]
  | hex n =>
      have hslash (h : ∀ c ∈ piece.toList, IsHexadecimal c) : '/' ∉ piece.toList :=
        fun hmem => not_isHexadecimal_slash (h _ hmem)
      rw [reads_hex, Segment.Permits, forall_isHexadecimalOctet_iff]
      constructor
      · rintro ⟨hlength, hall⟩
        exact ⟨⟨by rw [length_ofString_of_isHexadecimal hall, hlength], hall⟩, hslash hall⟩
      · rintro ⟨⟨hlength, hall⟩, -⟩
        exact ⟨by rw [← length_ofString_of_isHexadecimal hall, hlength], hall⟩
  | digits =>
      rw [reads_digits, Segment.Permits, forall_isDecimalOctet_iff, ofString_ne_nil_iff]
      refine (and_iff_left_of_imp ?_).symm
      rintro ⟨-, hall⟩ hmem
      exact not_isHexadecimal_slash (.inl (hall _ hmem))

/-! ### Taking the last pieces -/

/-- The pieces from a place on, if that place is neither before the first piece nor behind the
end. -/
def slice? (parts : List (List Char)) (start : Int) : Option (List (List Char)) :=
  if 0 ≤ start ∧ start ≤ parts.length then some (parts.drop start.toNat) else none

/-- `endsIn`, but failing where the pieces to be compared are none of the path. -/
def endsIn? (segments : List Segment) (path : String) : Option Bool :=
  let parts := Text.pieces '/' path.toList
  if parts.length ≤ segments.length then some false
  else (slice? parts (parts.length - segments.length)).map (admitsEach segments)

theorem endsIn?_eq_some (segments : List Segment) (path : String) :
    endsIn? segments path = some (endsIn segments path) := by
  unfold endsIn? endsIn
  dsimp only
  generalize Text.pieces '/' path.toList = parts
  by_cases hfew : parts.length ≤ segments.length
  · simp [hfew]
  · have hstart : (parts.length - segments.length : Int).toNat =
        parts.length - segments.length := by omega
    have hin : 0 ≤ (parts.length - segments.length : Int) ∧
        (parts.length - segments.length : Int) ≤ parts.length := by omega
    rw [if_neg hfew, slice?, if_pos hin, hstart, decide_eq_true (Nat.not_le.mp hfew)]
    rfl

/-! ### What is accepted -/

/-- **A tail pattern is an expression anchored at the end of the path.**  It accepts a path if that
is any text followed by a slash and a permitted text for each segment, in order and without slashes
in them.  To find this out it never takes more pieces of a path than there are.  A pattern without
segments accepts every path, and one with a slash in a literal accepts none. -/
theorem endsIn_anchored (segments : List Segment) (path : String) :
    (endsIn segments path = true ↔
      ∃ (q : String) (parts : List String), path = q ++ slashed parts ∧
        parts.length = segments.length ∧ (∀ part ∈ parts, '/' ∉ part.toList) ∧
        List.Forall₂ Segment.Permits segments parts) ∧
    endsIn? segments path = some (endsIn segments path) ∧
    endsIn [] path = true ∧
    ∀ text, '/' ∈ text.toList → .literal text ∈ segments → endsIn segments path = false := by
  have hslashed {segments : List Segment} : endsIn segments path = true ↔
      ∃ (q : String) (parts : List String),
        (List.Forall₂ Segment.Permits segments parts ∧ ∀ part ∈ parts, '/' ∉ part.toList) ∧
          path = q ++ slashed parts := by
    simp only [endsIn_iff_slashed, reads_iff_permits, forall₂_and_right]
  refine ⟨?_, endsIn?_eq_some segments path, ?_, ?_⟩
  · rw [hslashed]
    constructor
    · rintro ⟨q, parts, ⟨hpermits, hslash⟩, hpath⟩
      exact ⟨q, parts, hpath, hpermits.length_eq.symm, hslash, hpermits⟩
    · rintro ⟨q, parts, hpath, -, hslash, hpermits⟩
      exact ⟨q, parts, ⟨hpermits, hslash⟩, hpath⟩
  · exact hslashed.mpr ⟨path, [], ⟨.nil, by simp⟩, by simp⟩
  · intro text hslash hmem
    rw [Bool.eq_false_iff]
    intro h
    obtain ⟨q, parts, ⟨hpermits, hfree⟩, -⟩ := hslashed.mp h
    obtain ⟨part, hpart, hpermitted⟩ := exists_of_forall₂ hpermits hmem
    obtain rfl : part = text := hpermitted
    exact hfree part hpart hslash

/-- A slash in a literal stands for no slash in a path. -/
theorem endsIn_anchored_slash : endsIn [.literal "info/refs"] "/p.git/info/refs" = false :=
  (endsIn_anchored [.literal "info/refs"] "/p.git/info/refs").2.2.2 "info/refs" (by decide)
    (by simp)

/-- Pieces without characters count. -/
example : endsIn [.literal "", .hex 0] "//" = true ∧ endsIn [.literal "", .hex 0] "/" = false := by
  decide

end FrontDoor.Route
