/-
The tokens of a JSON document, read from octets.

A document is read from left to right and the first problem met decides how reading fails.  Each
reader takes the octets from its token on and gives what it read with the octets that follow, so
readers are put together by handing the rest along, and what a reader does depends on nothing
before its token.  The rest is shorter than what was read, which is what lets the readers of
whole documents recurse.
-/
import FrontDoor.Text.Bytes

namespace FrontDoor.Json

/-- How reading a document fails. -/
inductive Problem
  /-- The document ends too early. -/
  | truncated
  /-- It is no JSON. -/
  | malformed
  /-- It is JSON so far, but a value of another kind is wanted. -/
  | mismatched
  deriving DecidableEq, Repr

def Problem.message : Problem → String
  | .truncated => "the document ends too early"
  | .malformed => "the document is not JSON"
  | .mismatched => "a value does not fit its field"

/-! ### Octets -/

/-- The octet of an ASCII character. -/
def octet (c : Char) : UInt8 := c.toNat.toUInt8

/-- Space, tab, line feed or carriage return. -/
def isSpace (b : UInt8) : Bool :=
  b == 0x20 || b == 0x09 || b == 0x0A || b == 0x0D

def isDigit (b : UInt8) : Bool :=
  0x30 ≤ b && b ≤ 0x39

/-- What follows the whitespace in front. -/
def skipSpace (s : Bytes) : Bytes :=
  s.dropWhile isSpace

/-- What follows a word, of which some letters are still to come. -/
def word : Bytes → Bytes → Except Problem Bytes
  | [], s => .ok s
  | _ :: _, [] => .error .truncated
  | a :: expected, b :: s => if a = b then word expected s else .error .malformed

/-! ### Strings -/

/-- The value of a hexadecimal digit in either case. -/
def hexDigit? (b : UInt8) : Option Nat :=
  if isDigit b then some (b.toNat - 0x30)
  else if 0x61 ≤ b && b ≤ 0x66 then some (b.toNat - 0x57)
  else if 0x41 ≤ b && b ≤ 0x46 then some (b.toNat - 0x37)
  else none

/-- The value of four hexadecimal digits. -/
def hex4? (a b c d : UInt8) : Option Nat := do
  let a ← hexDigit? a
  let b ← hexDigit? b
  let c ← hexDigit? c
  let d ← hexDigit? d
  return ((a * 16 + b) * 16 + c) * 16 + d

/-- The octet that a letter after a backslash stands for. -/
def shortEscape? (b : UInt8) : Option UInt8 :=
  if b == octet '"' || b == octet '\\' || b == octet '/' then some b
  else if b == octet 'b' then some 0x08
  else if b == octet 'f' then some 0x0C
  else if b == octet 'n' then some 0x0A
  else if b == octet 'r' then some 0x0D
  else if b == octet 't' then some 0x09
  else none

/-- The first half of a surrogate pair. -/
def isLead (n : Nat) : Bool := 0xD800 ≤ n && n ≤ 0xDBFF

/-- The second half of a surrogate pair. -/
def isTrail (n : Nat) : Bool := 0xDC00 ≤ n && n ≤ 0xDFFF

/-- The code point of a surrogate pair. -/
def pairValue (lead trail : Nat) : Nat :=
  0x10000 + (lead - 0xD800) * 0x400 + (trail - 0xDC00)

/-- The octets of a code point. -/
def codePoint (n : Nat) : Bytes :=
  String.utf8EncodeChar (Char.ofNat n)

/-- One escaped unit after `lead?`, the first half of a pair that still waits for its second:
the octets that are complete with it, and the half that now waits. -/
def unit? (lead? : Option Nat) (n : Nat) : Option (Bytes × Option Nat) :=
  match lead? with
  | some lead => if isTrail n then some (codePoint (pairValue lead n), none) else none
  | none =>
    if isLead n then some ([], some n)
    else if isTrail n then none
    else some (codePoint n, none)

/-- The octets a string spells, read after its opening quote, and what follows its closing one.
`taken` holds the octets read so far, the last one first. -/
def octetsFrom (lead? : Option Nat) (taken : Bytes) : Bytes → Except Problem (Bytes × Bytes)
  | [] => .error .truncated
  | b :: rest =>
    if b = octet '\\' then
      match rest with
      | [] => .error .truncated
      | e :: rest =>
        if e = octet 'u' then
          match rest with
          | h₁ :: h₂ :: h₃ :: h₄ :: rest =>
            match (hex4? h₁ h₂ h₃ h₄).bind (unit? lead?) with
            | some (made, lead?) => octetsFrom lead? (made.reverse ++ taken) rest
            | none => .error .malformed
          | _ => .error .truncated
        else
          match lead?, shortEscape? e with
          | none, some c => octetsFrom none (c :: taken) rest
          | _, _ => .error .malformed
    else if lead?.isSome then .error .malformed
    else if b = octet '"' then .ok (taken.reverse, rest)
    else if b < 0x20 then .error .malformed
    else octetsFrom none (b :: taken) rest

/-- The text of a string, read after its opening quote. -/
def text (s : Bytes) : Except Problem (String × Bytes) :=
  match octetsFrom none [] s with
  | .error e => .error e
  | .ok (octets, rest) =>
    match Bytes.toString? octets with
    | some value => .ok (value, rest)
    | none => .error .malformed

/-- What follows a string of which only the form matters, read after its opening quote. -/
def skipText : Bytes → Except Problem Bytes
  | [] => .error .truncated
  | b :: rest =>
    if b = octet '\\' then
      match rest with
      | [] => .error .truncated
      | e :: rest =>
        if e = octet 'u' then
          match rest with
          | h₁ :: h₂ :: h₃ :: h₄ :: rest =>
            if (hex4? h₁ h₂ h₃ h₄).isSome then skipText rest else .error .malformed
          | _ => .error .truncated
        else if (shortEscape? e).isSome then skipText rest
        else .error .malformed
    else if b = octet '"' then .ok rest
    else if b < 0x20 then .error .malformed
    else skipText rest

/-! ### How much a reader leaves -/

theorem length_skipSpace (s : Bytes) : (skipSpace s).length ≤ s.length :=
  (List.dropWhile_suffix isSpace).length_le

theorem length_word {w s rest : Bytes} (h : word w s = .ok rest) : rest.length ≤ s.length := by
  fun_induction word w s with
  | case1 => cases h; exact Nat.le_refl _
  | case2 => cases h
  | case3 a expected s ih => exact Nat.le_succ_of_le (ih h)
  | case4 => cases h

theorem length_octetsFrom {lead? : Option Nat} {taken s : Bytes} {r : Bytes × Bytes}
    (h : octetsFrom lead? taken s = .ok r) : r.2.length < s.length := by
  fun_induction octetsFrom lead? taken s <;> simp_all <;> grind

theorem length_text {s : Bytes} {r : String × Bytes} (h : text s = .ok r) :
    r.2.length < s.length := by
  unfold text at h
  split at h
  · cases h
  · rename_i octets rest h'
    have := length_octetsFrom h'
    split at h <;> cases h
    exact this

theorem length_skipText {s rest : Bytes} (h : skipText s = .ok rest) :
    rest.length < s.length := by
  fun_induction skipText s <;> simp_all <;> grind

end FrontDoor.Json
