/-
Addresses of services: a scheme, a host with a port, a path, a query and a fragment.

Six schemes prescribe that a host follows, whatever slashes stand before it; of these `file` may
leave it out.  Under any other scheme a host follows two slashes, and without them the rest is a
path.  Spaces and controls around the text and line ends within it do not count.
-/
import FrontDoor.Url.Host

namespace FrontDoor

/-- An address. -/
structure Url where
  scheme : String
  host? : Option Url.Host := none
  port? : Option Nat := none
  path : String
  query? : Option String := none
  fragment? : Option String := none
  deriving DecidableEq, Repr

namespace Url

/-! ### Scheme -/

/-- What a scheme says about the host. -/
inductive Form
  /-- There is one. -/
  | hosted
  /-- There may be one, after two slashes or backslashes. -/
  | file
  /-- There is one after two slashes. -/
  | free
  deriving DecidableEq, Repr

/-- What a scheme says about the host. -/
def formOf (scheme : String) : Form :=
  if scheme = "file" then .file
  else if ["http", "https", "ws", "wss", "ftp"].contains scheme then .hosted
  else .free

def isSchemeChar (c : Char) : Bool :=
  c.isAlphanum || c = '+' || c = '-' || c = '.'

/-- The scheme in front, in lowercase, and what follows its colon. -/
def scheme? (s : List Char) : Option (String × List Char) := do
  let name := s.takeWhile isSchemeChar
  if !(name.head?.map Char.isAlpha).getD false then none
  match s.dropWhile isSchemeChar with
  | ':' :: rest => return (String.ofList (name.map Char.toLower), rest)
  | _ => none

/-! ### Authority -/

/-- The characters after which the authority has ended. -/
def endsAuthority (form : Form) (c : Char) : Bool :=
  c = '/' || c = '?' || c = '#' || (form ≠ .free && c = '\\')

/-- What precedes the last `@`, if there is one, and what follows it. -/
def splitUser (s : List Char) : Option (List Char) × List Char :=
  if s.contains '@' then
    let host := (s.reverse.takeWhile (· != '@')).reverse
    (some (s.take (s.length - host.length - 1)), host)
  else (none, s)

/-- The text up to the first colon that stands outside brackets, and the rest. -/
def splitHost (inside : Bool) : List Char → List Char × List Char
  | [] => ([], [])
  | c :: s =>
    if c = ':' && !inside then ([], c :: s)
    else
      let (host, rest) := splitHost (c = '[' || (inside && c != ']')) s
      (c :: host, rest)

/-- The port that digits spell, if there are any. -/
def portValue? (ds : List Char) : Option (Option Nat) :=
  if ds.isEmpty then some none else (Text.numeral? 65536 ds).map some

/-- The port after a colon, up to a backslash or the end. -/
def portAfter? : List Char → Option (Option Nat)
  | ':' :: s => portValue? (s.takeWhile (· != '\\'))
  | _ => some none

/-- The authority of a scheme with a host: the host and the port; `final` when the address ends
with it. -/
def authority? (form : Form) (final : Bool) (s : List Char) : Option (Host × Option Nat) := do
  let (user?, s) := splitUser s
  if user? = some [] && s.isEmpty && !final then none
  let (hostText, portText) := splitHost false s
  let named := !((user?.getD []).isEmpty || user? = some [':'])
  if hostText.isEmpty && (form = .hosted || !portText.isEmpty || named) then none
  let host ← if form = .hosted then Host.ofText? hostText else Host.opaque? hostText
  return (host, ← portAfter? portText)

/-! ### The whole -/

/-- The text that counts: without spaces and controls around it and without line ends and
tabs. -/
def trimmed (s : List Char) : List Char :=
  let s := (s.dropWhile (· ≤ ' ')).reverse.dropWhile (· ≤ ' ')
  s.reverse.filter fun c => !(c = '\t' || c = '\n' || c = '\r')

/-- The path, query and fragment that end an address. -/
def withEnd (url : Url) (s : List Char) : Url :=
  let body := s.takeWhile (· != '#')
  let fragment? := match s.dropWhile (· != '#') with
    | _ :: fragment => some (String.ofList fragment)
    | [] => none
  let query? := match body.dropWhile (· != '?') with
    | _ :: query => some (String.ofList query)
    | [] => none
  { url with path := String.ofList (body.takeWhile (· != '?')), query?, fragment? }

/-- The address after a scheme and the slashes before its authority. -/
def afterSlashes? (scheme : String) (form : Form) (s : List Char) : Option Url := do
  let text := s.takeWhile (!endsAuthority form ·)
  let rest := s.dropWhile (!endsAuthority form ·)
  let (host, port?) ← authority? form rest.isEmpty text
  return withEnd { scheme, host? := some host, port?, path := "" } rest

/-- A drive of a file system: a letter and a colon or bar. -/
def isDrive : List Char → Bool
  | [letter, c] => letter.isAlpha && (c = ':' || c = '|')
  | _ => false

def isSlash (c : Char) : Bool := c = '/' || c = '\\'

/-- The address after the scheme `file`. -/
def afterFile? (s : List Char) : Option Url := do
  let url : Url := { scheme := "file", path := "" }
  match s with
  | a :: b :: rest =>
    let text := rest.takeWhile (!endsAuthority .file ·)
    if !(isSlash a && isSlash b) then return withEnd url s
    else if text.isEmpty || isDrive text then return withEnd url rest
    else
      let host ← Host.ofText? text
      return withEnd { url with host? := some host } (rest.dropWhile (!endsAuthority .file ·))
  | _ => return withEnd url s

/-- The address that a text spells. -/
def ofText? (text : String) : Option Url := do
  let (scheme, s) ← scheme? (trimmed text.toList)
  match formOf scheme with
  | .hosted => afterSlashes? scheme .hosted (s.dropWhile isSlash)
  | .file => afterFile? s
  | .free =>
    match s with
    | '/' :: '/' :: s => afterSlashes? scheme .free s
    | s => return withEnd { scheme, path := "" } s

end Url

end FrontDoor
