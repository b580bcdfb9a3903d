/-
Blanks, comments, strings and keys of a TOML document.

Readers take the characters from where they start and give what they read with the characters
that follow; a reader that fails fails the document.  Where a reader has fuel, as much as there
are characters is enough.  A basic string has escapes, a literal one
has none, and each may span lines when it stands between three quotes: then a line end right
after the opening is left out, line ends are line feeds, and in a basic string a backslash at the
end of a line leaves out the blanks and line ends that follow.
-/
import FrontDoor.Text.CodePoint
import FrontDoor.Text.Numeral
import FrontDoor.Toml.Tree

namespace FrontDoor.Toml

/-- What follows a text. -/
def after? (text : String) (s : List Char) : Option (List Char) :=
  text.toList.isPrefixOf? s

/-! ### Blanks and comments -/

def isBlank (c : Char) : Bool := c == ' ' || c == '\t'

/-- The characters of a comment and of a literal string: no control but the tab. -/
def isPlain (c : Char) : Bool :=
  c == '\t' || (' ' ≤ c && c != '\x7f')

def skipBlanks (s : List Char) : List Char := s.dropWhile isBlank

/-- What follows a line end. -/
def lineEnd? : List Char → Option (List Char)
  | '\n' :: s => some s
  | '\r' :: '\n' :: s => some s
  | _ => none

/-- What follows a comment, if there is one. -/
def skipComment : List Char → List Char
  | '#' :: s => s.dropWhile isPlain
  | s => s

/-- What follows the end of a line on which only blanks and a comment may still stand. -/
def restOfLine? (s : List Char) : Option (List Char) :=
  match skipComment (skipBlanks s) with
  | [] => some []
  | s => lineEnd? s

/-- What follows blanks, comments and line ends; the flag tells of standing in a comment, and what
may not stand there is left. -/
def skipLinesFrom : Bool → List Char → List Char
  | _, [] => []
  | _, '\n' :: s => skipLinesFrom false s
  | _, '\r' :: '\n' :: s => skipLinesFrom false s
  | true, c :: s => if isPlain c then skipLinesFrom true s else c :: s
  | false, c :: s =>
    if c == '#' then skipLinesFrom true s
    else if isBlank c then skipLinesFrom false s
    else c :: s

/-- What follows blanks, comments and line ends. -/
def skipLines (s : List Char) : List Char := skipLinesFrom false s

/-! ### Strings -/

/-- The value of hexadecimal digits. -/
def hexNumber? (ds : List Char) : Option Nat :=
  ds.foldlM (fun n d => (Text.hexValue? d).map (16 * n + ·)) 0

/-- The character that a letter after a backslash stands for. -/
def shortEscape? : Char → Option Char
  | 'b' => some '\x08'
  | 'f' => some '\x0c'
  | 'n' => some '\n'
  | 'r' => some '\r'
  | 't' => some '\t'
  | '"' => some '"'
  | '\\' => some '\\'
  | _ => none

/-- The character whose number is written in so many hexadecimal digits. -/
def numberEscape? (width : Nat) (s : List Char) : Option (Char × List Char) := do
  let ds := s.take width
  if ds.length < width then none
  else return (← Text.codePoint? (← hexNumber? ds), s.drop width)

/-- The character of an escape, from after its backslash. -/
def escape? : List Char → Option (Char × List Char)
  | 'u' :: s => numberEscape? 4 s
  | 'U' :: s => numberEscape? 8 s
  | c :: s => do return (← shortEscape? c, s)
  | [] => none

/-- The rest of a basic string of one line; `taken` is read already, the last character first, and
`fuel` bounds what is still to read. -/
def basic : Nat → List Char → List Char → Option (String × List Char)
  | _, taken, '"' :: s => some (String.ofList taken.reverse, s)
  | fuel + 1, taken, '\\' :: s => do
    let (c, s) ← escape? s
    basic fuel (c :: taken) s
  | fuel + 1, taken, c :: s => if isPlain c then basic fuel (c :: taken) s else none
  | _, _, _ => none

/-- The rest of a literal string of one line. -/
def literal (s : List Char) : Option (String × List Char) :=
  let isInner (c : Char) := isPlain c && c != '\''
  match s.dropWhile isInner with
  | '\'' :: rest => some (String.ofList (s.takeWhile isInner), rest)
  | _ => none

/-- What follows blanks and line ends. -/
def skipSpan : List Char → List Char
  | '\r' :: '\n' :: s => skipSpan s
  | c :: s => if isBlank c || c == '\n' then skipSpan s else c :: s
  | [] => []

/-- The rest of a string between three quotes, basic or literal. -/
def longString (isBasic : Bool) (quote : Char) :
    Nat → List Char → List Char → Option (String × List Char)
  | 0, _, _ => none
  | fuel + 1, taken, s =>
    let ended (extra : Nat) (rest : List Char) :=
      some (String.ofList (List.replicate extra quote ++ taken).reverse, rest)
    let opening := (s.takeWhile (· == quote)).length
    if 5 ≤ opening then ended 2 (s.drop 5)
    else if 3 ≤ opening then ended (opening - 3) (s.drop opening)
    else match s with
      | [] => none
      | '\r' :: '\n' :: s => longString isBasic quote fuel ('\n' :: taken) s
      | c :: s =>
        if isBasic && c == '\\' then
          if (lineEnd? (skipBlanks s)).isSome then
            longString isBasic quote fuel taken (skipSpan (skipBlanks s))
          else do
            let (c, s) ← escape? s
            longString isBasic quote fuel (c :: taken) s
        else if c == '\n' || isPlain c then longString isBasic quote fuel (c :: taken) s
        else none

/-- What follows a line end right after the opening quotes. -/
def skipFirstLineEnd (s : List Char) : List Char :=
  (lineEnd? s).getD s

/-- The string in front, of any kind. -/
def string? (fuel : Nat) (s : List Char) : Option (String × List Char) :=
  match s with
  | '"' :: '"' :: '"' :: s => longString true '"' fuel [] (skipFirstLineEnd s)
  | '\'' :: '\'' :: '\'' :: s => longString false '\'' fuel [] (skipFirstLineEnd s)
  | '"' :: s => basic fuel [] s
  | '\'' :: s => literal s
  | _ => none

/-! ### Keys -/

def isBareKeyChar (c : Char) : Bool :=
  c.isAlphanum || c == '_' || c == '-'

/-- One part of a key. -/
def keyPart? (fuel : Nat) (s : List Char) : Option (String × List Char) :=
  match s with
  | '"' :: s => basic fuel [] s
  | '\'' :: s => literal s
  | s =>
    let name := s.takeWhile isBareKeyChar
    if name.isEmpty then none else some (String.ofList name, s.dropWhile isBareKeyChar)

/-- The parts of a key between dots, blanks around each; `fuel` bounds their number and length. -/
def keyParts? : Nat → List Char → Option (List String × List Char)
  | 0, _ => none
  | fuel + 1, s => do
    let (part, s) ← keyPart? fuel (skipBlanks s)
    match skipBlanks s with
    | '.' :: s =>
      let (parts, s) ← keyParts? fuel s
      return (part :: parts, s)
    | s => return ([part], s)

/-- How deep values and keys may nest. -/
def maxDepth : Nat := 80

/-- The key in front: fewer than `maxDepth` parts. -/
def key? (fuel : Nat) (s : List Char) : Option (Key × List Char) := do
  let (parts, s) ← keyParts? fuel s
  if parts.length < maxDepth then return (⟨parts.dropLast, ← parts.getLast?⟩, s) else none

end FrontDoor.Toml
