/-
Hosts of addresses.

A host is a name, an IPv4 address or an IPv6 address in brackets.  Where the scheme prescribes
what a host is, a name is percent-decoded, read in UTF-8, folded and cut into labels, and a last
label that is a number makes the whole an IPv4 address, of which every part may be octal or
hexadecimal and the last may fill several octets.  Other schemes leave a name as it is.
-/
import FrontDoor.Net.Address
import FrontDoor.Text.Bytes
import FrontDoor.Url.Label

namespace FrontDoor.Url

/-- A host. -/
inductive Host
  | name (text : String)
  | ipv4 (address : Nat)
  | ipv6 (groups : List Nat)
  deriving DecidableEq, Repr

namespace Host

/-! ### Names -/

/-- The octet that `%` and two hexadecimal digits stand for. -/
def percentOctet? (mark high low : UInt8) : Option UInt8 := do
  let high ← Text.hexValue? (Char.ofNat high.toNat)
  let low ← Text.hexValue? (Char.ofNat low.toNat)
  if mark = 0x25 then some (UInt8.ofNat (16 * high + low)) else none

/-- The octets with every `%` before two hexadecimal digits decoded. -/
def percentDecoded : Bytes → Bytes
  | b :: high :: low :: s =>
    match percentOctet? b high low with
    | some octet => octet :: percentDecoded s
    | none => b :: percentDecoded (high :: low :: s)
  | s => s

/-- The characters of a text as they are read in a name, in normal form. -/
def folded? (text : List Char) : Option (List Char) := do
  let readings ← text.mapM Folding.read?
  return Text.normalForm readings.flatten

/-- The labels of the name that octets spell. -/
def name? (octets : Bytes) : Option (List Label) := do
  let text ← Bytes.toString? octets
  let labels ← (Text.pieces '.' (← folded? text.toList)).mapM Label.ofFolded?
  if Label.runTogether labels then some labels else none

/-! ### IPv4 addresses -/

/-- The number in a base. -/
def inBase? (base : Nat) (ds : List Char) : Option Nat :=
  ds.foldlM (fun n d => do
    let v ← Text.hexValue? d
    if v < base then some (base * n + v) else none) 0

/-- A number, octal after a zero and hexadecimal after `0x`. -/
def number? (part : List Char) : Option Nat :=
  match part with
  | [] => none
  | '0' :: 'x' :: ds => inBase? 16 ds
  | '0' :: d :: ds => inBase? 8 (d :: ds)
  | ds => inBase? 10 ds

/-- The labels without an empty last one. -/
def withoutRoot (labels : List Label) : List (List Char) :=
  if labels.getLast? = some [] then labels.dropLast else labels

/-- The last label is a number. -/
def endsInNumber (labels : List Label) : Bool :=
  match (withoutRoot labels).getLast? with
  | some last => (!last.isEmpty && last.all Char.isDigit) || (number? last).isSome
  | none => false

/-- The address of up to four numbers, the last of which fills the octets that are left. -/
def ipv4? (labels : List Label) : Option Nat := do
  let numbers ← (withoutRoot labels).mapM number?
  let last ← numbers.getLast?
  let front := numbers.dropLast
  if 3 < front.length || front.any (255 < ·) || Nat.pow 256 (4 - front.length) ≤ last then none
  else
    let high := front.foldl (fun n octet => 256 * n + octet) 0
    return high * Nat.pow 256 (4 - front.length) + last

/-! ### Reading -/

/-- The address in brackets, if the text begins with one. -/
def bracketed? (s : List Char) : Option (Option Host) :=
  match s with
  | '[' :: inner =>
    if inner.getLast? = some ']' then some ((Net.wholeIpv6? inner.dropLast).map .ipv6)
    else some none
  | _ => none

/-- The host of a scheme that prescribes what a host is. -/
def ofText? (s : List Char) : Option Host :=
  match bracketed? s with
  | some host? => host?
  | none => do
    let labels ← name? (percentDecoded (Bytes.ofString (String.ofList s)))
    if labels.all List.isEmpty && labels.length ≤ 1 then none
    else if endsInNumber labels then return .ipv4 (← ipv4? labels)
    else return .name (Text.joinWith "." (labels.map String.ofList))

/-- Characters that no host has, whatever the scheme. -/
def isForbidden (c : Char) : Bool :=
  c = '\x00' || c = ' ' || "#/:<>?@[\\]^|".toList.contains c

/-- The host of any other scheme; it may be empty. -/
def opaque? (s : List Char) : Option Host :=
  match bracketed? s with
  | some host? => host?
  | none => if s.any isForbidden then none else some (.name (String.ofList s))

end Host

end FrontDoor.Url
