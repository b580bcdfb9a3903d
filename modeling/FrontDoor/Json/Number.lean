/-
Numbers in a JSON document.

A number token is read to its end before anyone asks what it is good for, and it is either a
natural number below 2 ^ 64, written without sign, fraction or exponent, or some other number.
A number whose magnitude no binary64 value reaches is no JSON here.  Whether it is too large is
decided as binary64 arithmetic does it: the first digits that fit in 64 bits are rounded to 53
bits, a power of ten is too, and their product must stay below the halfway point to 2 ^ 1024.

Where only the form of a document matters, `skipNumber` passes over a token without asking for
its size, and tells a missing digit from the end of the document no more.
-/
import FrontDoor.Json.Scan

namespace FrontDoor.Json

/-- What a number token says. -/
inductive Number
  /-- A natural number of at most 64 bits. -/
  | natural (n : Nat)
  /-- Anything else: negative, longer, or with a fraction or an exponent. -/
  | other
  deriving DecidableEq, Repr

/-- The digits in front. -/
def digits (s : Bytes) : Bytes :=
  s.takeWhile isDigit

/-- What follows the digits in front. -/
def afterDigits (s : Bytes) : Bytes :=
  s.dropWhile isDigit

def isExponentMark (b : UInt8) : Bool :=
  b == octet 'e' || b == octet 'E'

/-! ### Size -/

/-- The greatest 64-bit word. -/
def maxWord : Nat := Nat.pow 2 64 - 1

/-- As many leading digits as keep `n` within a word, and how many digits are left over. -/
def significand (n : Nat) : Bytes → Nat × Nat
  | [] => (n, 0)
  | d :: ds =>
    let m := 10 * n + (d.toNat - 0x30)
    if m ≤ maxWord then significand m ds else (n, ds.length + 1)

/-- The value of decimal digits, or anything beyond `bound` once that is exceeded. -/
def cappedValue (bound n : Nat) : Bytes → Nat
  | [] => n
  | d :: ds => if n > bound then n else cappedValue bound (10 * n + (d.toNat - 0x30)) ds

/-- `n` rounded to 53 significant bits, to the even neighbour when halfway. -/
def roundTo53 (n : Nat) : Nat :=
  let unit := Nat.pow 2 (n.log2 + 1 - 53)
  let low := n / unit
  let twice := 2 * (n % unit)
  if twice > unit || (twice == unit && low % 2 == 1) then (low + 1) * unit else low * unit

/-- The least number that rounds beyond every finite binary64 value. -/
def overflowBound : Nat := Nat.pow 2 1024 - Nat.pow 2 970

/-- The greatest power of ten that is a finite binary64 value. -/
def maxPower : Nat := 308

/-- `m * 10 ^ e` is beyond every finite binary64 value. -/
def overflows (m : Nat) (e : Int) : Bool :=
  m != 0 && 0 ≤ e &&
    (maxPower < e || roundTo53 m * roundTo53 (Nat.pow 10 e.toNat) ≥ overflowBound)

/-- The greatest exponent that is read as a number; one beyond it is only very large. -/
def maxExponent : Nat := Nat.pow 2 31 - 1

/-- The token with these digits before and after its point, its exponent negative or not, is
beyond every finite binary64 value. -/
def tokenOverflows (whole fraction : Bytes) (negative : Bool) (exponent : Nat) : Bool :=
  let (high, dropped) := significand 0 whole
  let (digits, left) := significand high fraction
  let scale : Int := (dropped : Int) - ((fraction.length - left : Nat) : Int)
  if exponent > maxExponent then digits != 0 && !negative
  else overflows digits (if negative then scale - exponent else scale + exponent)

/-! ### Reading -/

/-- The digits before the point: one zero, or digits of which the first is not zero. -/
def whole (s : Bytes) : Except Problem (Bytes × Bytes) :=
  match s with
  | [] => .error .truncated
  | d :: rest =>
    if !isDigit d then .error .malformed
    else if d = octet '0' then
      if (digits rest).isEmpty then .ok ([d], rest) else .error .malformed
    else .ok (digits s, afterDigits s)

/-- At least one digit. -/
def someDigits (s : Bytes) : Except Problem (Bytes × Bytes) :=
  if (digits s).isEmpty then .error (if s.isEmpty then .truncated else .malformed)
  else .ok (digits s, afterDigits s)

/-- The digits after the point, none when there is no point. -/
def fraction (s : Bytes) : Except Problem (Option Bytes × Bytes) :=
  match s with
  | b :: rest =>
    if b = octet '.' then (someDigits rest).map fun (ds, rest) => (some ds, rest)
    else .ok (none, s)
  | [] => .ok (none, s)

/-- The sign of an exponent, and what follows it. -/
def exponentSign (s : Bytes) : Bool × Bytes :=
  match s with
  | b :: rest =>
    if b = octet '-' then (true, rest) else if b = octet '+' then (false, rest) else (false, s)
  | [] => (false, s)

/-- Whether the exponent is negative, and its digits; none when there is no exponent. -/
def exponent (s : Bytes) : Except Problem (Option (Bool × Bytes) × Bytes) :=
  match s with
  | b :: rest =>
    if isExponentMark b then
      let (negative, rest) := exponentSign rest
      (someDigits rest).map fun (ds, rest) => (some (negative, ds), rest)
    else .ok (none, s)
  | [] => .ok (none, s)

/-- What the parts of a token say. -/
def Number.ofParts (negative : Bool) (whole : Bytes) (fraction : Option Bytes)
    (exponent : Option (Bool × Bytes)) : Except Problem Number :=
  let (expNegative, expDigits) := exponent.getD (false, [])
  if tokenOverflows whole (fraction.getD []) expNegative (cappedValue maxExponent 0 expDigits)
  then .error .malformed
  else if negative || fraction.isSome || exponent.isSome then .ok .other
  else match significand 0 whole with
    | (n, 0) => .ok (.natural n)
    | (_, _ + 1) => .ok .other

/-- The number in front of the rest; it begins with a minus sign or a digit. -/
def number (s : Bytes) : Except Problem (Number × Bytes) := do
  let negative := s.head? == some (octet '-')
  let (w, s) ← whole (if negative then s.tail else s)
  let (f, s) ← fraction s
  let (e, s) ← exponent s
  let n ← Number.ofParts negative w f e
  return (n, s)

/-! ### Passing over -/

/-- What follows at least one digit. -/
def skipDigits (s : Bytes) : Except Problem Bytes :=
  if (digits s).isEmpty then .error .malformed else .ok (afterDigits s)

/-- What follows an exponent, if there is one. -/
def skipExponent (s : Bytes) : Except Problem Bytes :=
  match s with
  | b :: rest => if isExponentMark b then skipDigits (exponentSign rest).2 else .ok s
  | [] => .ok s

/-- What follows a fraction, if there is one. -/
def skipFraction (s : Bytes) : Except Problem Bytes :=
  match s with
  | b :: rest => if b = octet '.' then skipDigits rest else .ok s
  | [] => .ok s

/-- What follows the digits before the point. -/
def skipWhole (s : Bytes) : Except Problem Bytes :=
  match s with
  | d :: rest =>
    if !isDigit d then .error .malformed
    else if d = octet '0' then
      if (digits rest).isEmpty then .ok rest else .error .malformed
    else .ok (afterDigits rest)
  | [] => .error .malformed

/-- What follows a number; it begins with a minus sign or a digit. -/
def skipNumber (s : Bytes) : Except Problem Bytes := do
  let s ← skipWhole (if s.head? == some (octet '-') then s.tail else s)
  let s ← skipFraction s
  skipExponent s

/-! ### How much a reader leaves -/

theorem length_afterDigits (s : Bytes) : (afterDigits s).length ≤ s.length :=
  (List.dropWhile_suffix isDigit).length_le

theorem length_exponentSign (s : Bytes) : (exponentSign s).2.length ≤ s.length := by
  unfold exponentSign
  grind

theorem length_someDigits {s : Bytes} {r : Bytes × Bytes} (h : someDigits s = .ok r) :
    r.2.length ≤ s.length := by
  have := length_afterDigits s
  grind [someDigits]

theorem length_whole {s : Bytes} {r : Bytes × Bytes} (h : whole s = .ok r) :
    r.2.length ≤ s.length := by
  unfold whole at h
  split at h
  · cases h
  · rename_i d t
    have := length_afterDigits (d :: t)
    grind

theorem length_fraction {s : Bytes} {r : Option Bytes × Bytes} (h : fraction s = .ok r) :
    r.2.length ≤ s.length := by
  unfold fraction at h
  split at h
  · rename_i b t
    have hd {u : Bytes × Bytes} (hd : someDigits t = .ok u) := length_someDigits hd
    simp only [Except.map] at h
    grind
  · cases h; exact Nat.le_refl _

theorem length_exponent {s : Bytes} {r : Option (Bool × Bytes) × Bytes}
    (h : exponent s = .ok r) : r.2.length ≤ s.length := by
  unfold exponent at h
  split at h
  · rename_i b t
    have hs := length_exponentSign t
    have hd {u : Bytes × Bytes} (hd : someDigits (exponentSign t).2 = .ok u) :=
      length_someDigits hd
    simp only [Except.map] at h
    grind
  · cases h; exact Nat.le_refl _

theorem length_number {s : Bytes} {r : Number × Bytes} (h : number s = .ok r) :
    r.2.length ≤ s.length := by
  simp only [number, bind, Except.bind, pure, Except.pure] at h
  have hs : (if s.head? == some (octet '-') then s.tail else s).length ≤ s.length := by
    split <;> simp
  split at h
  · cases h
  · rename_i w hw
    split at h
    · cases h
    · rename_i f hf
      split at h
      · cases h
      · rename_i e he
        split at h <;> cases h
        have := length_whole hw
        have := length_fraction hf
        have := length_exponent he
        simp only at *
        omega

theorem length_skipDigits {s rest : Bytes} (h : skipDigits s = .ok rest) :
    rest.length ≤ s.length := by
  have := length_afterDigits s
  grind [skipDigits]

theorem length_skipExponent {s rest : Bytes} (h : skipExponent s = .ok rest) :
    rest.length ≤ s.length := by
  unfold skipExponent at h
  split at h
  · rename_i b t
    have := length_exponentSign t
    split at h
    · have := length_skipDigits h
      grind
    · cases h; exact Nat.le_refl _
  · cases h; exact Nat.le_refl _

theorem length_skipFraction {s rest : Bytes} (h : skipFraction s = .ok rest) :
    rest.length ≤ s.length := by
  unfold skipFraction at h
  split at h
  · split at h
    · have := length_skipDigits h
      grind
    · cases h; exact Nat.le_refl _
  · cases h; exact Nat.le_refl _

theorem length_skipWhole {s rest : Bytes} (h : skipWhole s = .ok rest) :
    rest.length < s.length := by
  unfold skipWhole at h
  split at h
  · rename_i d t
    have := length_afterDigits t
    grind
  · cases h

theorem length_skipNumber {s rest : Bytes} (h : skipNumber s = .ok rest) :
    rest.length < s.length := by
  simp only [skipNumber, bind, Except.bind] at h
  split at h
  · cases h
  · rename_i s₁ h₁
    split at h
    · cases h
    · rename_i s₂ h₂
      have h₁ := length_skipWhole h₁
      have h₂ := length_skipFraction h₂
      have h₃ := length_skipExponent h
      have : (if s.head? == some (octet '-') then s.tail else s).length ≤ s.length := by
        split <;> simp
      omega

end FrontDoor.Json
