/-
TOML values.

Numbers with a fraction and points in time are kept as they were written; nothing here computes
with them.  A table remembers how it came to be, because that decides what a document may still
add to it.
-/
namespace FrontDoor.Toml

/-- How a table came to be. -/
inductive Origin
  /-- It has a header of its own, or it is the document. -/
  | header
  /-- It was named on the way to another table. -/
  | passed
  /-- It was named by a key with dots. -/
  | dotted
  /-- It stands between braces. -/
  | inline
  deriving DecidableEq, Repr, Inhabited

/-- A value in a document. -/
inductive Value
  | string (text : String)
  | integer (n : Int)
  | float (text : String)
  | boolean (b : Bool)
  | time (text : String)
  | array (elements : List Value)
  | table (origin : Origin) (entries : List (String × Value))
  /-- Tables that share one header. -/
  | tables (elements : List (List (String × Value)))
  deriving Repr, Inhabited

/-- What a table holds, in the order of the document. -/
abbrev Entries := List (String × Value)

end FrontDoor.Toml
