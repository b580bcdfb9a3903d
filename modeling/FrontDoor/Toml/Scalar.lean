/-
Numbers and points in time in a TOML document.

Four digits before a dash begin a date and two digits before a colon begin a time; everything
else that begins with a sign or a digit is a number.  Underscores may stand between digits.  An
integer has 64 bits and a sign; a positive number that binary64 cannot reach is refused.
-/
import FrontDoor.Toml.Text

namespace FrontDoor.Toml

/-! ### Points in time -/

/-- A number of exactly so many digits within bounds. -/
def fixed? (width low high : Nat) (s : List Char) : Option (Nat × List Char) := do
  let ds := s.take width
  if ds.length != width || !ds.all Char.isDigit then none
  let n := Text.digitsValue ds
  if low ≤ n && n ≤ high then return (n, s.drop width) else none

/-- The number of days in a month. -/
def daysIn (year month : Nat) : Nat :=
  if month = 2 then
    if year % 4 = 0 && (year % 100 != 0 || year % 400 = 0) then 29 else 28
  else if month = 4 || month = 6 || month = 9 || month = 11 then 30
  else 31

/-- What follows a date. -/
def date? (s : List Char) : Option (List Char) := do
  let (year, s) ← fixed? 4 0 9999 s
  let s ← after? "-" s
  let (month, s) ← fixed? 2 1 12 s
  let s ← after? "-" s
  let (_, s) ← fixed? 2 1 (daysIn year month) s
  return s

/-- What follows the fraction of a second, if there is one. -/
def secondFraction? : List Char → Option (List Char)
  | '.' :: s => if (s.takeWhile Char.isDigit).isEmpty then none else some (s.dropWhile Char.isDigit)
  | s => some s

/-- What follows a time of day. -/
def timeOfDay? (s : List Char) : Option (List Char) := do
  let (_, s) ← fixed? 2 0 23 s
  let s ← after? ":" s
  let (_, s) ← fixed? 2 0 59 s
  let s ← after? ":" s
  let (_, s) ← fixed? 2 0 60 s
  secondFraction? s

/-- What follows the offset from universal time, if there is one. -/
def offset? : List Char → Option (List Char)
  | 'Z' :: s | 'z' :: s => some s
  | '+' :: s | '-' :: s => do
    let (_, s) ← fixed? 2 0 23 s
    let s ← after? ":" s
    let (_, s) ← fixed? 2 0 59 s
    return s
  | s => some s

/-- Two digits before a colon. -/
def looksLikeTime : List Char → Bool
  | a :: b :: ':' :: _ => a.isDigit && b.isDigit
  | _ => false

/-- Four digits before a dash. -/
def looksLikeDate : List Char → Bool
  | a :: b :: c :: d :: '-' :: _ => a.isDigit && b.isDigit && c.isDigit && d.isDigit
  | _ => false

/-- What follows a date and, if there is one, the time that belongs to it. -/
def dateTime? (s : List Char) : Option (List Char) := do
  let s ← date? s
  match s with
  | c :: rest =>
    if (c == 'T' || c == 't' || c == ' ') && looksLikeTime rest then
      offset? (← timeOfDay? rest)
    else return s
  | [] => return []

/-! ### Numbers -/

/-- At least one digit of some kind, the underscores between digits left out. -/
def digitRun? (isDigit : Char → Bool) : List Char → Option (List Char × List Char)
  | [] => none
  | d :: s =>
    if !isDigit d then none
    else match s with
      | [] => some ([d], [])
      | '_' :: s => (digitRun? isDigit s).map fun (ds, s) => (d :: ds, s)
      | c :: s =>
        if isDigit c then (digitRun? isDigit (c :: s)).map fun (ds, s) => (d :: ds, s)
        else some ([d], c :: s)

/-- The digits of a decimal number: a lone zero, or a run that does not begin with one. -/
def decimal? (s : List Char) : Option (List Char × List Char) :=
  match s with
  | '0' :: s => some (['0'], s)
  | s => digitRun? Char.isDigit s

/-- The value of digits in a base. -/
def valueIn (base : Nat) (ds : List Char) : Nat :=
  ds.foldl (fun n d => base * n + (Text.hexValue? d).getD 0) 0

/-- The number, if it has 64 bits and a sign. -/
def int64? (n : Int) : Option Int :=
  if -(Int.pow 2 63) ≤ n && n < Int.pow 2 63 then some n else none

/-- An integer in another base, from after its mark. -/
def based? (base : Nat) (s : List Char) : Option (Int × List Char) := do
  let isDigit (c : Char) := match Text.hexValue? c with
    | some v => v < base
    | none => false
  let (ds, s) ← digitRun? isDigit s
  return (← int64? (valueIn base ds), s)

/-- The sign in front: whether it is a minus. -/
def sign : List Char → Bool × List Char
  | '-' :: s => (true, s)
  | '+' :: s => (false, s)
  | s => (false, s)

/-- The digits after a point, none when there is no point. -/
def fraction? : List Char → Option (Option (List Char) × List Char)
  | '.' :: s => do
    let (ds, s) ← digitRun? Char.isDigit s
    return (some ds, s)
  | s => some (none, s)

/-- An exponent, none when there is no mark of one. -/
def exponent? : List Char → Option (Option Int × List Char)
  | 'e' :: s | 'E' :: s => do
    let (negative, s) := sign s
    let (ds, s) ← digitRun? Char.isDigit s
    let n : Int := Text.digitsValue ds
    return (some (if negative then -n else n), s)
  | s => some (none, s)

/-- The least number that rounds beyond every finite binary64 value. -/
def floatBound : Nat := Nat.pow 2 1024 - Nat.pow 2 970

/-- `m * 10 ^ e` rounds beyond every finite binary64 value. -/
def isHuge (m : Nat) (e : Int) : Bool :=
  let order : Int := ((Nat.toDigits 10 m).length : Int) + e
  if m = 0 || order < 300 then false
  else if 320 < order then true
  else if 0 ≤ e then floatBound ≤ m * Nat.pow 10 e.toNat
  else floatBound * Nat.pow 10 (-e).toNat ≤ m

/-- A decimal number from after its sign: its value when it is whole, nothing when it has a
fraction or an exponent. -/
def unsigned? (negative : Bool) (s : List Char) : Option (Option Int × List Char) := do
  let (whole, s) ← decimal? s
  let (fraction, s) ← fraction? s
  let (exponent, s) ← exponent? s
  if fraction.isNone && exponent.isNone then
    let n : Int := Text.digitsValue whole
    return (some (← int64? (if negative then -n else n)), s)
  else
    let tail := fraction.getD []
    let e := exponent.getD 0 - (tail.length : Int)
    if !negative && isHuge (Text.digitsValue (whole ++ tail)) e then none
    else return (none, s)

/-- A decimal number, an infinity or a number that is none. -/
def decimalNumber? (s : List Char) : Option (Option Int × List Char) :=
  let (negative, s) := sign s
  match after? "inf" s, after? "nan" s with
  | some rest, _ => some (none, rest)
  | none, some rest => some (none, rest)
  | none, none => unsigned? negative s

/-- What was read when `rest` is left. -/
def written (s rest : List Char) : String :=
  String.ofList (s.take (s.length - rest.length))

/-- The number in front. -/
def number? (s : List Char) : Option (Value × List Char) :=
  let integer : Int × List Char → Value × List Char := fun (n, rest) => (.integer n, rest)
  match s with
  | '0' :: 'x' :: s => (based? 16 s).map integer
  | '0' :: 'o' :: s => (based? 8 s).map integer
  | '0' :: 'b' :: s => (based? 2 s).map integer
  | s =>
    (decimalNumber? s).map fun
      | (some n, rest) => (.integer n, rest)
      | (none, rest) => (.float (written s rest), rest)

/-- The point in time or number in front. -/
def numberOrTime? (s : List Char) : Option (Value × List Char) :=
  let time (rest : List Char) : Value × List Char := (.time (written s rest), rest)
  if looksLikeDate s then (dateTime? s).map time
  else if looksLikeTime s then (timeOfDay? s).map time
  else number? s

end FrontDoor.Toml
