/-
Host labels that spell other scripts in ASCII.

Such a label holds its ASCII characters, a dash, and numbers in base 36 that tell which character
to insert where.  A digit below a threshold ends its number; the threshold follows the size of
the numbers read so far.
-/
import FrontDoor.Text.CodePoint

namespace FrontDoor.Url.Punycode

/-- The value of a digit in base 36. -/
def digit? (c : Char) : Option Nat :=
  if 'a' ≤ c && c ≤ 'z' then some (c.toNat - 'a'.toNat)
  else if c.isDigit then some (c.toNat - '0'.toNat + 26)
  else none

/-- Digits below this end a number; `k` grows by 36 with each digit. -/
def threshold (k bias : Nat) : Nat :=
  if k ≤ bias then 1 else if bias + 26 ≤ k then 26 else k - bias

/-- No digit counts as much as this. -/
def weightBound : Nat := Nat.pow 2 32

/-- The number in front, least digit first, each digit counting `weight` times as much. -/
def number? (bias : Nat) : Nat → Nat → List Char → Option (Nat × List Char)
  | _, _, [] => none
  | k, weight, c :: s => do
    let d ← digit? c
    let t := threshold k bias
    if d < t then return (d * weight, s)
    else if weightBound ≤ weight * (36 - t) then none
    else
      let (n, s) ← number? bias (k + 36) (weight * (36 - t)) s
      return (d * weight + n, s)

/-- Divides by 35 until at most 455 is left, counting 36 for each time. -/
def shrink (delta : Nat) : Nat × Nat :=
  if 455 < delta then
    let (k, rest) := shrink (delta / 35)
    (k + 36, rest)
  else (0, delta)
termination_by delta

/-- The bias after a number, when `points` characters are in place. -/
def adapt (delta points : Nat) (first : Bool) : Nat :=
  let delta := if first then delta / 700 else delta / 2
  let (k, rest) := shrink (delta + delta / points)
  k + 36 * rest / (rest + 38)

/-- Inserts the characters that the numbers tell of, from a code and a position on; at most `n`
of them. -/
def insertAll? : Nat → Nat → Nat → Nat → List Char → List Char → Option (List Char)
  | _, _, _, _, out, [] => some out
  | 0, _, _, _, _, _ => none
  | n + 1, code, position, bias, out, s => do
    let (delta, s) ← number? bias 36 1 s
    let points := out.length + 1
    let next := position + delta
    let c ← Text.codePoint? (code + next / points)
    insertAll? n (code + next / points) (next % points + 1) (adapt delta points (position = 0))
      (out.insertIdx (next % points) c) s

/-- The plain characters of a label and its numbers: the last dash divides them, unless it comes
first. -/
def divided (label : List Char) : List Char × List Char :=
  let numbers := (label.reverse.takeWhile (· != '-')).reverse
  let plain := label.take (label.length - numbers.length - 1)
  if plain.isEmpty then ([], label) else (plain, numbers)

/-- The text that a label spells. -/
def decode? (label : List Char) : Option (List Char) :=
  let (plain, numbers) := divided label
  if plain.all (·.toNat < 128) then insertAll? numbers.length 128 0 72 plain numbers else none

end FrontDoor.Url.Punycode
