/-
A file system as a value.

A tree lists its entries by their place, which is the list of names from the root.  The root is
always there and is a directory.  Entries are directories, files and symbolic links; beyond
content and target only permission bits are kept.
-/
import FrontDoor.Text.Bytes

namespace FrontDoor.Disk

/-- Where an entry lies: the names from the root on. -/
abbrev Place := List String

/-- What lies at a place. -/
inductive Node
  | directory (mode : Nat)
  | file (mode : Nat) (content : Bytes)
  | link (target : String)
  deriving DecidableEq, Repr

/-- A file system, seen by a process with a working directory and a mask on new permissions. -/
structure Tree where
  entries : List (Place × Node) := []
  workingDirectory : Place := []
  umask : Nat := 0o022
  deriving DecidableEq, Repr

namespace Tree

/-- What lies at a place. -/
def node? (t : Tree) (place : Place) : Option Node :=
  if place.isEmpty then some (.directory 0o755) else t.entries.lookup place

/-- There is a directory at the place. -/
def isDirectoryAt (t : Tree) (place : Place) : Bool :=
  match t.node? place with
  | some (.directory _) => true
  | _ => false

/-- The tree with one more entry. -/
def add (t : Tree) (place : Place) (node : Node) : Tree :=
  { t with entries := t.entries ++ [(place, node)] }

/-- The tree with the directories on the way to a place, for setting a tree up. -/
def addParents (t : Tree) (above : Place) : Place → Tree
  | [] => t
  | name :: names =>
    let here := above ++ [name]
    let t := if (t.node? here).isSome then t else t.add here (.directory 0o755)
    t.addParents here names

/-- The tree with an entry and the directories on the way to it, for setting a tree up. -/
def plant (t : Tree) (place : Place) (node : Node) : Tree :=
  let t := t.addParents [] place.dropLast
  if (t.node? place).isSome then t else t.add place node

end Tree

end FrontDoor.Disk
