/-
Header fields.

A message carries a list of fields.  Names are case-insensitive and kept in lower case; one name
may occur several times and its values keep their order.  `Headers.values` is the view that the
operations are told apart by: what a name maps to.
-/
import FrontDoor.Text.Bytes

namespace FrontDoor.Http

/-- A header field, its name in lower case. -/
structure Header where
  name : String
  value : Bytes
  deriving DecidableEq, Repr

/-- The field with a name in any case. -/
def Header.named (name : String) (value : Bytes) : Header :=
  ⟨name.toLower, value⟩

/-- The fields of a message, in order. -/
abbrev Headers := List Header

namespace Headers

/-- The values of a name, in order. -/
def values (hs : Headers) (name : String) : List Bytes :=
  (hs.filter (·.name == name)).map (·.value)

/-- The first value of a name. -/
def first? (hs : Headers) (name : String) : Option Bytes :=
  (hs.values name).head?

/-- The name occurs. -/
def has (hs : Headers) (name : String) : Bool :=
  hs.any (·.name == name)

/-- Without the fields of a name. -/
def without (hs : Headers) (name : String) : Headers :=
  hs.filter (·.name != name)

/-- Without the fields of any of the names. -/
def withoutAll (hs : Headers) (names : List String) : Headers :=
  hs.filter fun h => !names.contains h.name

/-- With exactly this value under a name. -/
def set (hs : Headers) (name : String) (value : Bytes) : Headers :=
  hs.without name ++ [⟨name, value⟩]

/-- With this value under a name that has none yet. -/
def setIfMissing (hs : Headers) (name : String) (value : Bytes) : Headers :=
  if hs.has name then hs else hs ++ [⟨name, value⟩]

end Headers

/-- The octets may be sent as a header value: tabs, and everything from the space on except
the delete character. -/
def isHeaderValue (value : Bytes) : Bool :=
  value.all fun b => b == 9 || (b ≥ 32 && b != 127)

end FrontDoor.Http
