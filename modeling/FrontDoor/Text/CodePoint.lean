/-
Characters by number.

A class of characters is written as the runs of code points it is made of, each by its first and
last.
-/
namespace FrontDoor.Text

/-- The character with a number, if there is one: surrogates and what lies beyond the last code
point have none. -/
def codePoint? (n : Nat) : Option Char :=
  if n < 0xD800 || (0xDFFF < n && n < 0x110000) then some (Char.ofNat n) else none

/-- The number lies in one of the runs, which ascend. -/
def inRanges (n : Nat) : List (Nat × Nat) → Bool
  | [] => false
  | (first, last) :: others => first ≤ n && (n ≤ last || inRanges n others)

end FrontDoor.Text
