/-
What a JSON document looks like.

A document is described here from the side of whoever writes it: each relation says of some octets
that they may be written for a thing, and none of them mentions a reader.  A character of a string
may be written in four ways (`WrittenChar`); a number has a sign, whole digits, a fraction and an
exponent (`WrittenNumber`); and a value is a word, a number, a string, a list or an object, however
deep it nests (`Written`).

What is between the quotes of a string need not say any text: half a surrogate pair and octets
that are no UTF-8 are allowed as far as only the form is asked for (`IsText`).
-/
import FrontDoor.Json.Skip

namespace FrontDoor.Json

/-- A run of whitespace, which may be empty. -/
abbrev Gap := { s : Bytes // ∀ b ∈ s, isSpace b = true }

/-! ### Strings -/

/-- The octet is a hexadecimal digit, in either case. -/
def IsHexDigit (n : Nat) (b : UInt8) : Prop :=
  n < 16 ∧ (b = octet (Nat.digitChar n) ∨ b = octet (Nat.digitChar n).toUpper)

/-- The number in four hexadecimal digits. -/
inductive WrittenHex : Nat → Bytes → Prop
  | digits {n₁ n₂ n₃ n₄ : Nat} {b₁ b₂ b₃ b₄ : UInt8} (h₁ : IsHexDigit n₁ b₁)
      (h₂ : IsHexDigit n₂ b₂) (h₃ : IsHexDigit n₃ b₃) (h₄ : IsHexDigit n₄ b₄) :
      WrittenHex (((n₁ * 16 + n₂) * 16 + n₃) * 16 + n₄) [b₁, b₂, b₃, b₄]

/-- A number behind `\u`. -/
def escape (digits : Bytes) : Bytes :=
  octet '\\' :: octet 'u' :: digits

/-- The letters that may stand behind a backslash, and the characters they stand for. -/
def shortEscapes : List (Char × Char) :=
  [('"', '"'), ('\\', '\\'), ('/', '/'), ('b', '\x08'), ('f', '\x0c'), ('n', '\n'), ('r', '\r'),
    ('t', '\t')]

/-- One character between the quotes of a string. -/
inductive WrittenChar : Char → Bytes → Prop
  /-- As it is. -/
  | plain {c : Char} (visible : 0x20 ≤ c.toNat) (quote : c ≠ '"') (backslash : c ≠ '\\') :
      WrittenChar c (String.utf8EncodeChar c)
  /-- As a letter behind a backslash. -/
  | short {c letter : Char} (named : (letter, c) ∈ shortEscapes) :
      WrittenChar c [octet '\\', octet letter]
  /-- As its number. -/
  | escaped {c : Char} {digits : Bytes} (number : WrittenHex c.toNat digits) :
      WrittenChar c (escape digits)
  /-- As a surrogate pair. -/
  | pair {c : Char} {lead trail : Nat} {digits digits' : Bytes} (front : WrittenHex lead digits)
      (back : WrittenHex trail digits') (isLead : 0xD800 ≤ lead ∧ lead ≤ 0xDBFF)
      (isTrail : 0xDC00 ≤ trail ∧ trail ≤ 0xDFFF)
      (number : c.toNat = 0x10000 + (lead - 0xD800) * 0x400 + (trail - 0xDC00)) :
      WrittenChar c (escape digits ++ escape digits')

/-- The characters between the quotes of a string. -/
inductive WrittenText : List Char → Bytes → Prop
  | nil : WrittenText [] []
  | cons {c : Char} {cs : List Char} {o s : Bytes} (head : WrittenChar c o)
      (tail : WrittenText cs s) : WrittenText (c :: cs) (o ++ s)

/-- The octet may stand in a string as it is. -/
def IsPlain (b : UInt8) : Prop :=
  0x20 ≤ b ∧ b ≠ octet '"' ∧ b ≠ octet '\\'

/-- What may be between the quotes of a string, whether it says a text or not. -/
inductive IsText : Bytes → Prop
  | nil : IsText []
  | plain {b : UInt8} {s : Bytes} (plain : IsPlain b) (tail : IsText s) : IsText (b :: s)
  | short {letter c : Char} {s : Bytes} (named : (letter, c) ∈ shortEscapes) (tail : IsText s) :
      IsText (octet '\\' :: octet letter :: s)
  | escaped {n : Nat} {digits s : Bytes} (number : WrittenHex n digits) (tail : IsText s) :
      IsText (escape digits ++ s)

/-- Between quotes. -/
def quoted (s : Bytes) : Bytes :=
  octet '"' :: (s ++ [octet '"'])

/-! ### Numbers -/

/-- One digit or more. -/
def IsDigits (s : Bytes) : Prop :=
  s ≠ [] ∧ ∀ b ∈ s, isDigit b = true

/-- The digits before a point: a zero, or digits of which the first is no zero. -/
def IsWhole (s : Bytes) : Prop :=
  s = [octet '0'] ∨ IsDigits s ∧ s.head? ≠ some (octet '0')

/-- The number that decimal digits say. -/
def decimal (s : Bytes) : Nat :=
  s.foldl (fun n d => 10 * n + (d.toNat - 0x30)) 0

/-- The parts of a number. -/
structure Numeral where
  negative : Bool := false
  /-- The digits before the point. -/
  whole : Bytes
  /-- The digits behind the point, if there is one. -/
  fraction? : Option Bytes := none
  /-- Whether the exponent is negative, and its digits. -/
  exponent? : Option (Bool × Bytes) := none

/-- The sign of a number. -/
def minus (negative : Bool) : Bytes :=
  if negative then [octet '-'] else []

inductive WrittenFraction : Option Bytes → Bytes → Prop
  | none : WrittenFraction none []
  | some {ds : Bytes} (digits : IsDigits ds) : WrittenFraction (some ds) (octet '.' :: ds)

/-- The sign of an exponent. -/
inductive WrittenSign : Bool → Bytes → Prop
  | none : WrittenSign false []
  | plus : WrittenSign false [octet '+']
  | minus : WrittenSign true [octet '-']

inductive WrittenExponent : Option (Bool × Bytes) → Bytes → Prop
  | none : WrittenExponent none []
  | some {b : UInt8} {negative : Bool} {s ds : Bytes} (mark : b = octet 'e' ∨ b = octet 'E')
      (sign : WrittenSign negative s) (digits : IsDigits ds) :
      WrittenExponent (some (negative, ds)) (b :: (s ++ ds))

inductive WrittenNumber : Numeral → Bytes → Prop
  | mk {negative : Bool} {whole f e : Bytes} {fraction? : Option Bytes}
      {exponent? : Option (Bool × Bytes)} (digits : IsWhole whole)
      (fraction : WrittenFraction fraction? f) (exponent : WrittenExponent exponent? e) :
      WrittenNumber ⟨negative, whole, fraction?, exponent?⟩
        (minus negative ++ (whole ++ (f ++ e)))

/-! ### Values -/

/-- What a part of a document is. -/
inductive Form
  | value
  /-- The elements of a list that is not empty. -/
  | elements
  /-- The members of an object that is not empty. -/
  | members

/-- The word for nothing. -/
def null : Bytes :=
  [octet 'n', octet 'u', octet 'l', octet 'l']

/-- The octets are of the form. -/
inductive Written : Form → Bytes → Prop
  | null : Written .value null
  | true : Written .value [octet 't', octet 'r', octet 'u', octet 'e']
  | false : Written .value [octet 'f', octet 'a', octet 'l', octet 's', octet 'e']
  | number {n : Numeral} {s : Bytes} (number : WrittenNumber n s) : Written .value s
  | string {s : Bytes} (text : IsText s) : Written .value (quoted s)
  | emptyList (gap : Gap) : Written .value (octet '[' :: (gap ++ [octet ']']))
  | list {s : Bytes} (elements : Written .elements s) :
      Written .value (octet '[' :: (s ++ [octet ']']))
  | emptyObject (gap : Gap) : Written .value (octet '\x7b' :: (gap ++ [octet '\x7d']))
  | object {s : Bytes} (members : Written .members s) :
      Written .value (octet '\x7b' :: (s ++ [octet '\x7d']))
  | element {s : Bytes} (before after : Gap) (value : Written .value s) :
      Written .elements (before ++ (s ++ after))
  | moreElements {s t : Bytes} (first : Written .elements s) (others : Written .elements t) :
      Written .elements (s ++ octet ',' :: t)
  | member {k s : Bytes} (beforeKey afterKey before after : Gap) (key : IsText k)
      (value : Written .value s) :
      Written .members
        (beforeKey ++ (quoted k ++ (afterKey ++ octet ':' :: (before ++ (s ++ after)))))
  | moreMembers {s t : Bytes} (first : Written .members s) (others : Written .members t) :
      Written .members (s ++ octet ',' :: t)

end FrontDoor.Json
