/-
Patterns that the value of a field is matched against.

Only whether a text is a sound pattern matters here.  A pattern is read piece by piece: groups nest
and close, a repetition follows something to repeat, a set ends, and a backslash stands before a
sign or a known letter.  Neither commas nor closing braces occur, so nothing written with braces is
ever complete.
-/
import FrontDoor.Text.Alphanumeric
import FrontDoor.Text.CodePoint
import FrontDoor.Text.Numeral

namespace FrontDoor.Program.Pattern

/-! ### Escapes -/

/-- What a backslash and the characters after it stand for. -/
inductive Escape
  | character (c : Char)
  /-- Any character of a class. -/
  | someOf
  /-- A place in the text. -/
  | place
  deriving DecidableEq, Repr

/-- Digits after the letter of a character by number. -/
def numberWidth? : Char → Option Nat
  | 'x' => some 2
  | 'u' => some 4
  | 'U' => some 8
  | _ => none

/-- The number of hexadecimal digits. -/
def hexNumber? (ds : List Char) : Option Nat :=
  ds.foldlM (fun n d => (Text.hexValue? d).map (16 * n + ·)) 0

/-- A character by number, of so many digits. -/
def byNumber? (width : Nat) (s : List Char) : Option (Escape × List Char) :=
  if s.length < width then none
  else (hexNumber? (s.take width)).bind Text.codePoint? |>.map fun c =>
    (.character c, s.drop width)

/-- The letters of classes by general kind of character. -/
def kindLetters : List Char :=
  "CLMNPSZclmnpsz".toList

/-- A sign that a backslash may precede. -/
def isEscapable (c : Char) : Bool :=
  c.toNat < 0x80 && !c.isAlphanum && c != '<' && c != '>'

/-- What follows a backslash. -/
def escape? : List Char → Option (Escape × List Char)
  | [] => none
  | c :: s =>
    if (c = 'p' || c = 'P') then
      match s with
      | '^' :: kind :: s | kind :: s => if kindLetters.contains kind then some (.someOf, s) else none
      | [] => none
    else if "dswDSW".toList.contains c then some (.someOf, s)
    else if c = 'A' || c = 'z' then some (.place, s)
    else
      match numberWidth? c with
      | some width => byNumber? width s
      | none =>
        match "aftnrv".toList.zip ['\x07', '\x0c', '\t', '\n', '\r', '\x0b'] |>.lookup c with
        | some control => some (.character control, s)
        | none => if isEscapable c then some (.character c, s) else none

/-! ### Sets -/

/-- The names of sets between `[:` and `:]`. -/
def setNames : List String :=
  ["alnum", "alpha", "ascii", "blank", "cntrl", "digit", "graph", "lower", "print", "punct",
    "space", "upper", "word", "xdigit"]

/-- What follows a named set. -/
def namedSet? : List Char → Option (List Char)
  | '[' :: ':' :: s =>
    let named := if s.head? = some '^' then s.tail else s
    let name := named.takeWhile (· != ':')
    match named.dropWhile (· != ':') with
    | ':' :: ']' :: rest => if setNames.contains (String.ofList name) then some rest else none
    | _ => none
  | _ => none

/-- What follows the beginning of a set: a circumflex, dashes, and a bracket that closes nothing. -/
def setOpened (s : List Char) : List Char :=
  let s := if s.head? = some '^' then s.tail else s
  match s with
  | '-' :: _ => s.dropWhile (· = '-')
  | ']' :: rest => rest
  | _ => s

/-- A member of a set, and the character that it is if it is one. -/
def member? : List Char → Option (Option Char × List Char)
  | '\\' :: s =>
    match escape? s with
    | some (.character c, s) => some (some c, s)
    | some (.someOf, s) => some (none, s)
    | _ => none
  | c :: s => some (some c, s)
  | [] => none

/-- What follows a member of a set, or a range from one to another. -/
def range? (s : List Char) : Option (List Char) :=
  match member? s with
  | none => none
  | some (first, '-' :: c :: s) =>
    if c = ']' || c = '-' then some ('-' :: c :: s)
    else
      match first, member? (c :: s) with
      | some first, some (some last, s) => if first ≤ last then some s else none
      | _, _ => none
  | some (_, s) => some s

/-- What follows a set that has `depth` brackets to close, read in at most `n` steps. -/
def setEnd? : Nat → Nat → List Char → Option (List Char)
  | _, 0, s => some s
  | 0, _, _ => none
  | n + 1, depth + 1, s =>
    match s with
    | [] => none
    | ']' :: s => setEnd? n depth s
    | '&' :: '&' :: s | '-' :: '-' :: s | '~' :: '~' :: s => setEnd? n (depth + 1) s
    | '[' :: inner =>
      match namedSet? s with
      | some s => setEnd? n (depth + 1) s
      | none => setEnd? n (depth + 2) (setOpened inner)
    | s => (range? s).bind (setEnd? n (depth + 1))

/-! ### Groups -/

/-- The name of a group may begin with the character. -/
def isNameStart (c : Char) : Bool :=
  c = '_' || (Text.isAlphanumeric c && !c.isDigit)

/-- The name of a group may hold the character. -/
def isNameChar (c : Char) : Bool :=
  c = '_' || c = '.' || c = '[' || c = ']' || Text.isAlphanumeric c

/-- What follows the name of a group. -/
def groupName? (s : List Char) : Option (List Char) :=
  let name := s.takeWhile (· != '>')
  if (name.head?.map isNameStart).getD false && name.all isNameChar then
    match s.dropWhile (· != '>') with
    | _ :: rest => some rest
    | [] => none
  else none

/-- The letters are flags, each at most once, with a dash before some. -/
def areFlags (flags : List Char) : Bool :=
  flags.all ("imsUuRx-".toList.contains ·) && flags.eraseDups = flags &&
    flags.getLast? != some '-'

/-- A piece of a pattern. -/
inductive Piece
  | opening
  | closing
  | bar
  | repetition
  /-- Flags for what follows. -/
  | flags
  | item
  deriving DecidableEq, Repr

/-- What a parenthesis opens. -/
def group? : List Char → Option (Piece × List Char)
  | '?' :: 'P' :: '<' :: s => (groupName? s).map fun s => (.opening, s)
  | '?' :: '<' :: s => (groupName? s).map fun s => (.opening, s)
  | '?' :: s =>
    let flags := s.takeWhile fun c => c != ':' && c != ')'
    match s.dropWhile fun c => c != ':' && c != ')' with
    | ':' :: rest => if areFlags flags then some (.opening, rest) else none
    | ')' :: rest => if areFlags flags && !flags.isEmpty then some (.flags, rest) else none
    | _ => none
  | s => some (.opening, s)

/-! ### Patterns -/

/-- The piece in front. -/
def piece? : List Char → Option (Piece × List Char)
  | [] => none
  | '(' :: s => group? s
  | ')' :: s => some (.closing, s)
  | '|' :: s => some (.bar, s)
  | '*' :: '?' :: s | '+' :: '?' :: s | '?' :: '?' :: s => some (.repetition, s)
  | '*' :: s | '+' :: s | '?' :: s => some (.repetition, s)
  | '{' :: _ => none
  | '[' :: s => (setEnd? s.length 1 (setOpened s)).map fun s => (.item, s)
  | '\\' :: s => (escape? s).map fun (_, s) => (.item, s)
  | _ :: s => some (.item, s)

/-- The rest of a pattern is sound where `depth` groups are open; `repeatable` says that there is
something to repeat.  It is read in at most `n` steps. -/
def isSoundFrom : Nat → Nat → Bool → List Char → Bool
  | _, depth, _, [] => depth = 0
  | 0, _, _, _ => false
  | n + 1, depth, repeatable, s =>
    match piece? s with
    | none => false
    | some (.opening, s) => isSoundFrom n (depth + 1) false s
    | some (.closing, s) => 0 < depth && isSoundFrom n (depth - 1) true s
    | some (.bar, s) | some (.flags, s) => isSoundFrom n depth false s
    | some (.repetition, s) => repeatable && isSoundFrom n depth true s
    | some (.item, s) => isSoundFrom n depth true s

/-- The pattern is sound. -/
def isSound (s : List Char) : Bool :=
  isSoundFrom s.length 0 false s

end FrontDoor.Program.Pattern
