/-
Numbers written in decimal.

Every number the gateway reads from a text (a segment length, a TCP port, an octet of an
address) is a run of ASCII digits with a largest value it may have.  `numeral?` is that one
rule; callers say which signs and leading zeros they accept.
-/
namespace FrontDoor.Text

/-- The value of a run of digits, most significant first. -/
def digitsValue (ds : List Char) : Nat :=
  ds.foldl (fun n d => 10 * n + (d.toNat - '0'.toNat)) 0

/-- The value of a non-empty run of ASCII digits, when it is below `bound`. -/
def numeral? (bound : Nat) (ds : List Char) : Option Nat :=
  if ds.isEmpty || !ds.all Char.isDigit then none
  else if digitsValue ds < bound then some (digitsValue ds) else none

/-- As `numeral?`, with a plus sign allowed in front. -/
def signedNumeral? (bound : Nat) : List Char → Option Nat
  | '+' :: ds => numeral? bound ds
  | ds => numeral? bound ds

/-- How many values a 64-bit word has. -/
def wordBound : Nat := Nat.pow 2 64

/-- `d` as a lowercase hexadecimal digit. -/
def isLowerHex (d : Char) : Bool :=
  d.isDigit || ('a' ≤ d && d ≤ 'f')

/-- The value of a hexadecimal digit in either case. -/
def hexValue? (d : Char) : Option Nat :=
  if d.isDigit then some (d.toNat - '0'.toNat)
  else if 'a' ≤ d && d ≤ 'f' then some (d.toNat - 'a'.toNat + 10)
  else if 'A' ≤ d && d ≤ 'F' then some (d.toNat - 'A'.toNat + 10)
  else none

/-- A number in lowercase hexadecimal, without leading zeros. -/
def lowerHex (n : Nat) : List Char :=
  Nat.toDigits 16 n

end FrontDoor.Text
