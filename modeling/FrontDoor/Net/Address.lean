/-
Internet addresses as text.

An IPv4 address is four octets in decimal without leading zeros.  An IPv6 address is eight
groups of up to four hexadecimal digits, of which one run may be left out between two colons and
the last two may be written as an IPv4 address.  A socket address adds a port, and an IPv6 one
in brackets may add a numeric scope.  Readers take the longest number at each step and give what
they read with the rest of the text.
-/
import FrontDoor.Text.Numeral
import FrontDoor.Text.Pieces

namespace FrontDoor.Net

/-! ### IPv4 -/

/-- A decimal octet of at most three digits, without leading zeros. -/
def octet? (s : List Char) : Option (Nat × List Char) := do
  let ds := s.takeWhile Char.isDigit
  if ds.length > 3 || (ds.length > 1 && ds.head? == some '0') then none
  let n ← Text.numeral? 256 ds
  return (n, s.dropWhile Char.isDigit)

/-- So many more octets, each after a dot. -/
def dottedOctets? : Nat → List Char → Option (List Nat × List Char)
  | 0, s => some ([], s)
  | n + 1, '.' :: s => do
    let (o, s) ← octet? s
    let (os, s) ← dottedOctets? n s
    return (o :: os, s)
  | _ + 1, _ => none

/-- Four octets between dots. -/
def ipv4? (s : List Char) : Option (List Nat × List Char) := do
  let (o, s) ← octet? s
  let (os, s) ← dottedOctets? 3 s
  return (o :: os, s)

/-! ### IPv6 -/

/-- A group of one to four hexadecimal digits. -/
def group? (s : List Char) : Option (Nat × List Char) :=
  let isHex (c : Char) := (Text.hexValue? c).isSome
  let ds := s.takeWhile isHex
  if ds.isEmpty || ds.length > 4 then none
  else some (ds.foldl (fun n d => 16 * n + (Text.hexValue? d).getD 0) 0, s.dropWhile isHex)

/-- As many groups as there are, at most `n`, with colons between them; `first` when none stands
before them.  An IPv4 address counts as two groups and is the last; the flag tells of it. -/
def groups : Nat → Bool → List Char → List Nat × Bool × List Char
  | 0, _, s => ([], false, s)
  | n + 1, first, s =>
    let inner? := if first then some s else match s with
      | ':' :: rest => some rest
      | _ => none
    match inner? with
    | none => ([], false, s)
    | some inner =>
      match if n = 0 then none else ipv4? inner with
      | some (os, rest) =>
        ([os.getD 0 0 * 256 + os.getD 1 0, os.getD 2 0 * 256 + os.getD 3 0], true, rest)
      | none =>
        match group? inner with
        | some (g, rest) =>
          let (gs, dotted, rest) := groups n false rest
          (g :: gs, dotted, rest)
        | none => ([], false, s)

/-- The eight groups of an IPv6 address. -/
def ipv6? (s : List Char) : Option (List Nat × List Char) :=
  let (front, dotted, s) := groups 8 true s
  if front.length = 8 then some (front, s)
  else if dotted then none
  else match s with
    | ':' :: ':' :: s =>
      let (back, _, s) := groups (7 - front.length) true s
      some (front ++ List.replicate (8 - front.length - back.length) 0 ++ back, s)
    | _ => none

/-- The IPv6 address that the whole text spells. -/
def wholeIpv6? (s : List Char) : Option (List Nat) :=
  match ipv6? s with
  | some (gs, []) => some gs
  | _ => none

/-! ### Socket addresses -/

/-- An address and a port. -/
inductive SocketAddress
  | v4 (octets : List Nat) (port : Nat)
  | v6 (groups : List Nat) (scope port : Nat)
  deriving DecidableEq, Repr

namespace SocketAddress

/-- The port after a colon, up to the end of the text. -/
def port? : List Char → Option Nat
  | ':' :: ds => Text.numeral? 65536 ds
  | _ => none

/-- The scope in front of a closing bracket, zero when there is none. -/
def scope? : List Char → Option (Nat × List Char)
  | '%' :: s => do
    let n ← Text.numeral? (Nat.pow 2 32) (s.takeWhile Char.isDigit)
    return (n, s.dropWhile Char.isDigit)
  | s => some (0, s)

/-- The socket address that the whole text spells. -/
def ofText? (text : String) : Option SocketAddress :=
  match text.toList with
  | '[' :: s => do
    let (gs, s) ← ipv6? s
    let (scope, s) ← scope? s
    match s with
    | ']' :: s => return .v6 gs scope (← port? s)
    | _ => none
  | s => do
    let (os, s) ← ipv4? s
    return .v4 os (← port? s)

/-! ### Printing -/

/-- The octets with dots between them. -/
def octetsText (os : List Nat) : String :=
  Text.joinWith "." (os.map toString)

/-- The groups in hexadecimal with colons between them. -/
def groupsText (gs : List Nat) : String :=
  Text.joinWith ":" (gs.map fun g => String.ofList (Text.lowerHex g))

/-- How many groups in front are zero. -/
def leadingZeros (gs : List Nat) : Nat :=
  (gs.takeWhile (· == 0)).length

/-- Where the first longest run of zero groups starts, and how long it is. -/
def zeroRun (gs : List Nat) : Nat × Nat :=
  let runs := (List.range gs.length).map fun i => (i, leadingZeros (gs.drop i))
  runs.foldl (fun best run => if run.2 > best.2 then run else best) (0, 0)

/-- The shortest way to write an IPv6 address. -/
def ipv6Text (gs : List Nat) : String :=
  match gs with
  | [0, 0, 0, 0, 0, 0xffff, a, b] =>
    "::ffff:" ++ octetsText [a / 256, a % 256, b / 256, b % 256]
  | gs =>
    let (start, length) := zeroRun gs
    if length > 1 then
      groupsText (gs.take start) ++ "::" ++ groupsText (gs.drop (start + length))
    else groupsText gs

/-- The socket address written down. -/
def text : SocketAddress → String
  | v4 os port => octetsText os ++ ":" ++ toString port
  | v6 gs scope port =>
    let zone := if scope = 0 then "" else "%" ++ toString scope
    "[" ++ ipv6Text gs ++ zone ++ "]:" ++ toString port

end SocketAddress

end FrontDoor.Net
