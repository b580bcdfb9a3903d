/-
Making a directory and the directories above it.

One directory is made where the parent of the path leads, provided nothing lies there yet, not
even a dangling link.  To make a whole path, it is tried as it stands; only when something above
it is missing are the directories above made first, and then it is tried again.  A path that
already leads to a directory is as good as made.  What is there before stays as it is.
-/
import FrontDoor.Disk.Resolve

namespace FrontDoor.Disk.Tree

/-- The tree with a directory at the path, which must be free. -/
def makeDirectory (t : Tree) (mode : Nat) (path : String) : Except Error Tree :=
  match checkPath path with
  | .error e => .error e
  | .ok () =>
    match (Path.names path).reverse with
    | [] => .error (.system .fileExists)
    | name :: above =>
      match t.walk maxLinks (t.origin path) above.reverse with
      | .error e => .error (.system e)
      | .ok here =>
        if !t.isDirectoryAt here then .error (.system .notDirectory)
        else if name = "." || name = ".." then .error (.system .fileExists)
        else if name.utf8ByteSize > maxNameSize then .error (.system .nameTooLong)
        else if (t.node? (here ++ [name])).isSome then .error (.system .fileExists)
        else .ok (t.add (here ++ [name]) (.directory (mode &&& (0o777 ^^^ t.umask))))

/-- The last attempt at a path: it is made now or leads to a directory already. -/
def settle (t : Tree) (mode : Nat) (path : String) : Tree × Except Error Unit :=
  match t.makeDirectory mode path with
  | .ok t => (t, .ok ())
  | .error e => (t, if t.leadsToDirectory path then .ok () else .error e)

/-- The tree with directories along a lineage, of which the first path is wanted and each other
one is the parent of the one before it. -/
def makeLineage (t : Tree) (mode : Nat) : List String → Tree × Except Error Unit
  | [] => (t, .ok ())
  | path :: above =>
    if path.isEmpty then (t, .ok ())
    else
      match t.makeDirectory mode path with
      | .ok t => (t, .ok ())
      | .error e =>
        if e = .system .noEntry then
          match t.makeLineage mode above with
          | (t, .ok ()) => t.settle mode path
          | (t, .error e) => (t, .error e)
        else (t, if t.leadsToDirectory path then .ok () else .error e)

/-- The tree with a directory at the path and at every place on the way to it.  The tree may
have changed even when the path cannot be made. -/
def makeDirectories (t : Tree) (mode : Nat) (path : String) : Tree × Except Error Unit :=
  t.makeLineage mode (Path.lineage (path.length + 1) path)

end FrontDoor.Disk.Tree
