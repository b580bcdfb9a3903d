/-
Telling whether a directory holds a repository.

A repository has a directory named `objects`.  Whether there is one is all that is asked, so a
path that leads nowhere is no repository; why it leads nowhere goes into the log.
-/
import FrontDoor.Disk.Resolve
import FrontDoor.Journal

namespace FrontDoor.Repository

/-- Where the objects of a repository lie. -/
def objectsPath (path : String) : String :=
  Disk.Path.join path "objects"

/-- The path looks like a repository, and what there is to log about it. -/
def probe (tree : Disk.Tree) (path : String) : Bool × List Record :=
  match tree.stat (objectsPath path) with
  | .ok (.directory _) => (true, [])
  | .ok _ => (false, [])
  | .error e =>
    (false, [⟨.warn, "repository probe failed",
      [("path", objectsPath path), ("error", e.message)]⟩])

end FrontDoor.Repository
