/-
Texts as log records and messages show them.

A quoted text stands between double quotes.  Quotes, backslashes and the four controls with a
letter of their own are written with a backslash, other concealed characters as `\u` with their
number in braces, and everything else as it is.  A list of texts is shown quoted, between
brackets.
-/
import FrontDoor.Text.Concealed
import FrontDoor.Text.Pieces
import FrontDoor.Text.Numeral

namespace FrontDoor.Text

/-- How one character stands inside a quoted text. -/
def escaped (c : Char) : List Char :=
  if c = '"' then ['\\', '"']
  else if c = '\\' then ['\\', '\\']
  else if c = '\n' then ['\\', 'n']
  else if c = '\r' then ['\\', 'r']
  else if c = '\t' then ['\\', 't']
  else if c = '\x00' then ['\\', '0']
  else if isConcealed c then ['\\', 'u', '{'] ++ lowerHex c.toNat ++ ['}']
  else [c]

/-- The text between double quotes. -/
def quoted (s : String) : String :=
  String.ofList ('"' :: s.toList.flatMap escaped ++ ['"'])

/-- The texts quoted, between brackets. -/
def quotedList (xs : List String) : String :=
  "[" ++ joinWith ", " (xs.map quoted) ++ "]"

/-- A quoted text that may be missing. -/
def quotedOption : Option String → String
  | none => "None"
  | some s => "Some(" ++ quoted s ++ ")"

end FrontDoor.Text
