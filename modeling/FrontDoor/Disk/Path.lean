/-
Paths as texts.

A path is a text of names between slashes.  How many slashes stand in a row means nothing, and
neither does a lone dot between two of them; a slash or a dot at the end means that the path has
to lead to a directory.  The operations here work on the text alone and ask no file system.
-/
import FrontDoor.Text.Pieces

namespace FrontDoor.Disk.Path

/-- The path starts at the root. -/
def isAbsolute (path : String) : Bool :=
  path.toList.head? == some '/'

/-- The names of a path in order, dots among them. -/
def names (path : String) : List String :=
  ((Text.pieces '/' path.toList).filter (!·.isEmpty)).map String.ofList

/-- The path ends in a slash. -/
def endsInSlash (path : String) : Bool :=
  path.toList.getLast? == some '/'

/-- The names to walk; a slash at the end is walked as a dot. -/
def steps (path : String) : List String :=
  names path ++ if endsInSlash path then ["."] else []

/-- A name inside a directory. -/
def join (directory name : String) : String :=
  if directory.isEmpty || endsInSlash directory then directory ++ name
  else directory ++ "/" ++ name

/-- A path read backwards, without the slashes and lone dots at its end; the root keeps its
slash and a path that is only a dot stays. -/
def trimmed : List Char → List Char
  | ['/'] => ['/']
  | '/' :: rest => trimmed rest
  | '.' :: '/' :: rest => trimmed ('/' :: rest)
  | path => path
termination_by path => path.length

/-- The path without its last name; none for the root and for the empty path. -/
def parent? (path : String) : Option String :=
  match trimmed path.toList.reverse with
  | [] => none
  | ['/'] => none
  | whole => some (String.ofList (trimmed (whole.dropWhile (· != '/'))).reverse)

/-- The path, its parent, the parent of that and so on, at most `n` of them. -/
def lineage : Nat → String → List String
  | 0, _ => []
  | n + 1, path =>
    path ::
      match parent? path with
      | some above => lineage n above
      | none => []

end FrontDoor.Disk.Path
