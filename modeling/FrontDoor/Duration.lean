/-
Lengths of time and how they are shown.

A duration is shown in the largest of seconds, milliseconds, microseconds and nanoseconds that
is not above it, with the rest as a decimal fraction without trailing zeros.
-/
namespace FrontDoor

/-- A length of time. -/
structure Duration where
  nanoseconds : Nat
  deriving DecidableEq, Repr, Inhabited

namespace Duration

def ofSeconds (n : Nat) : Duration := ⟨n * 1000000000⟩

def ofMilliseconds (n : Nat) : Duration := ⟨n * 1000000⟩

/-- The digits after the point of `rest` parts out of `10 ^ places`, without trailing zeros. -/
def fraction (places rest : Nat) : List Char :=
  let digits := Nat.toDigits 10 rest
  let padded := List.replicate (places - digits.length) '0' ++ digits
  (padded.reverse.dropWhile (· == '0')).reverse

/-- `n` nanoseconds in a unit of `10 ^ places` of them. -/
def inUnit (places n : Nat) (unit : String) : String :=
  let whole := toString (n / Nat.pow 10 places)
  match fraction places (n % Nat.pow 10 places) with
  | [] => whole ++ unit
  | digits => whole ++ "." ++ String.ofList digits ++ unit

/-- The duration in its largest fitting unit. -/
def text (d : Duration) : String :=
  let n := d.nanoseconds
  if 1000000000 ≤ n then inUnit 9 n "s"
  else if 1000000 ≤ n then inUnit 6 n "ms"
  else if 1000 ≤ n then inUnit 3 n "µs"
  else inUnit 0 n "ns"

end Duration

end FrontDoor
