/-
Following a path through a tree.

A path is walked name by name from the root or the working directory.  A name is only looked up
inside a directory.  A symbolic link puts the names of its target in front of those still to
come, and at most forty links are followed, so a walk through a loop ends.  `locate` walks the
whole path and follows a link at its end; `stat` says what lies there.
-/
import FrontDoor.Disk.Error
import FrontDoor.Disk.Path
import FrontDoor.Disk.Tree

namespace FrontDoor.Disk

/-- The greatest number of octets in a path, the closing NUL included. -/
def maxPathSize : Nat := 4096

/-- The greatest number of octets in a name. -/
def maxNameSize : Nat := 255

/-- How many symbolic links one walk follows. -/
def maxLinks : Nat := 40

namespace Tree

/-- Where the names lead from a place, when at most `links` more links may be followed. -/
def walk (t : Tree) (links : Nat) (here : Place) : List String → Except Errno Place
  | [] => .ok here
  | name :: names =>
    if !t.isDirectoryAt here then .error .notDirectory
    else if name = "." then t.walk links here names
    else if name = ".." then t.walk links here.dropLast names
    else if name.utf8ByteSize > maxNameSize then .error .nameTooLong
    else
      match t.node? (here ++ [name]) with
      | none => .error .noEntry
      | some (.link target) =>
        match links with
        | 0 => .error .linkLoop
        | links + 1 =>
          t.walk links (if Path.isAbsolute target then [] else here) (Path.steps target ++ names)
      | some _ => t.walk links (here ++ [name]) names
termination_by names => (links, names.length)

/-- Where a walk along the path starts. -/
def origin (t : Tree) (path : String) : Place :=
  if Path.isAbsolute path then [] else t.workingDirectory

/-- The path may be handed to the system. -/
def checkPath (path : String) : Except Error Unit :=
  if path.toList.contains '\x00' then .error .nulInPath
  else if path.isEmpty then .error (.system .noEntry)
  else if path.utf8ByteSize ≥ maxPathSize then .error (.system .nameTooLong)
  else .ok ()

/-- Where the path leads. -/
def locate (t : Tree) (path : String) : Except Error Place :=
  match checkPath path with
  | .error e => .error e
  | .ok () =>
    match t.walk maxLinks (t.origin path) (Path.steps path) with
    | .ok place => .ok place
    | .error e => .error (.system e)

/-- What lies where the path leads. -/
def stat (t : Tree) (path : String) : Except Error Node :=
  match t.locate path with
  | .error e => .error e
  | .ok place =>
    match t.node? place with
    | some node => .ok node
    | none => .error (.system .noEntry)

/-- The path leads to a directory. -/
def leadsToDirectory (t : Tree) (path : String) : Bool :=
  match t.stat path with
  | .ok (.directory _) => true
  | _ => false

/-- The text of the file the path leads to. -/
def readText (t : Tree) (path : String) : Except Error String :=
  match t.stat path with
  | .error e => .error e
  | .ok (.directory _) => .error (.system .isDirectory)
  | .ok (.link _) => .error (.system .linkLoop)
  | .ok (.file _ content) =>
    match Bytes.toString? content with
    | some text => .ok text
    | none => .error .notText

end Tree

end FrontDoor.Disk
