/-
Octets and the text they spell.

Header values, message bodies and documents are runs of octets that need not be text.  Two
functions relate them to strings: `Bytes.ofString` writes a string in UTF-8, and
`Bytes.toString?` reads one back, refusing everything that is not the UTF-8 of some string.
-/
namespace FrontDoor

/-- A run of octets. -/
abbrev Bytes := List UInt8

namespace Bytes

/-- The UTF-8 of a string. -/
def ofString (s : String) : Bytes :=
  s.toUTF8.data.toList

/-- The string an octet run spells in UTF-8, if it spells one. -/
def toString? (b : Bytes) : Option String :=
  String.fromUTF8? ⟨⟨b⟩⟩

end Bytes

end FrontDoor
