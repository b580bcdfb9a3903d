/-
What the backend grants with an approval.

A grant has eight texts and a size, each of which may be absent.  An empty text never occurs: the
reader of grants takes it for an absent one.
-/
import FrontDoor.Text.Quoted

namespace FrontDoor

/-- The data the backend attaches to an approved request. -/
structure Grant where
  /-- Whom the repository's hooks act for. -/
  glId : Option String := none
  /-- Where the repository lies on disk. -/
  repoPath : Option String := none
  /-- Where a cached copy of an archive lies. -/
  archivePath : Option String := none
  /-- The directory an archive's content is put under. -/
  archivePrefix : Option String := none
  /-- The commit that was approved. -/
  commitId : Option String := none
  /-- The directory for a large object while it arrives. -/
  storeLfsPath : Option String := none
  lfsOid : Option String := none
  /-- The size of a large object in octets. -/
  lfsSize : Option Nat := none
  /-- The directory for an upload while it arrives. -/
  tempPath : Option String := none
  deriving DecidableEq, Repr, Inhabited

namespace Grant

/-- The texts of a grant. -/
inductive TextField
  | glId
  | repoPath
  | archivePath
  | archivePrefix
  | commitId
  | storeLfsPath
  | lfsOid
  | tempPath
  deriving DecidableEq, Repr

/-- The fields of a grant. -/
inductive Field
  | text (field : TextField)
  | size
  deriving DecidableEq, Repr

/-- Every field, in the order of a grant written as a list. -/
def Field.all : List Field :=
  [.text .glId, .text .repoPath, .text .archivePath, .text .archivePrefix, .text .commitId,
    .text .storeLfsPath, .text .lfsOid, .size, .text .tempPath]

/-- The field's name in a document. -/
def Field.name : Field → String
  | .text .glId => "GL_ID"
  | .text .repoPath => "RepoPath"
  | .text .archivePath => "ArchivePath"
  | .text .archivePrefix => "ArchivePrefix"
  | .text .commitId => "CommitId"
  | .text .storeLfsPath => "StoreLFSPath"
  | .text .lfsOid => "LfsOid"
  | .size => "LfsSize"
  | .text .tempPath => "TempPath"

/-- The field a name in a document belongs to. -/
def Field.named? (name : String) : Option Field :=
  Field.all.find? (·.name == name)

/-- Nine names belong to fields, and no other one does. -/
theorem Field.named?_eq_some_iff {name : String} {f : Field} :
    Field.named? name = some f ↔
      (name, f) ∈ [("GL_ID", .text .glId), ("RepoPath", .text .repoPath),
        ("ArchivePath", .text .archivePath), ("ArchivePrefix", .text .archivePrefix),
        ("CommitId", .text .commitId), ("StoreLFSPath", .text .storeLfsPath),
        ("LfsOid", .text .lfsOid), ("LfsSize", .size), ("TempPath", Field.text .tempPath)] := by
  constructor
  · intro h
    obtain rfl : f.name = name := by simpa using List.find?_some h
    cases f with
    | text f => cases f <;> decide
    | size => decide
  · intro h
    simp only [List.mem_cons, Prod.mk.injEq, List.not_mem_nil, or_false] at h
    rcases h with ⟨rfl, rfl⟩ | ⟨rfl, rfl⟩ | ⟨rfl, rfl⟩ | ⟨rfl, rfl⟩ | ⟨rfl, rfl⟩ | ⟨rfl, rfl⟩ |
      ⟨rfl, rfl⟩ | ⟨rfl, rfl⟩ | ⟨rfl, rfl⟩ <;> rfl

/-- The text under a field. -/
def text? (g : Grant) : TextField → Option String
  | .glId => g.glId
  | .repoPath => g.repoPath
  | .archivePath => g.archivePath
  | .archivePrefix => g.archivePrefix
  | .commitId => g.commitId
  | .storeLfsPath => g.storeLfsPath
  | .lfsOid => g.lfsOid
  | .tempPath => g.tempPath

/-- The grant with another text under a field. -/
def withText (g : Grant) (value : Option String) : TextField → Grant
  | .glId => { g with glId := value }
  | .repoPath => { g with repoPath := value }
  | .archivePath => { g with archivePath := value }
  | .archivePrefix => { g with archivePrefix := value }
  | .commitId => { g with commitId := value }
  | .storeLfsPath => { g with storeLfsPath := value }
  | .lfsOid => { g with lfsOid := value }
  | .tempPath => { g with tempPath := value }

theorem text?_withText (g : Grant) (value : Option String) (f f' : TextField) :
    (g.withText value f).text? f' = if f' = f then value else g.text? f' := by
  cases f <;> cases f' <;> rfl

theorem lfsSize_withText (g : Grant) (value : Option String) (f : TextField) :
    (g.withText value f).lfsSize = g.lfsSize := by
  cases f <;> rfl

/-- Nothing is granted. -/
def isEmpty (g : Grant) : Bool :=
  g == {}

/-- A number that may be missing. -/
def sizeText : Option Nat → String
  | none => "None"
  | some n => "Some(" ++ toString n ++ ")"

/-- The grant as a log shows it. -/
def debugText (g : Grant) : String :=
  let text (label : String) (f : TextField) := label ++ ": " ++ Text.quotedOption (g.text? f)
  "AuthorizationDecision \x7b " ++
    Text.joinWith ", " [text "gl_id" .glId, text "repo_path" .repoPath,
      text "archive_path" .archivePath, text "archive_prefix" .archivePrefix,
      text "commit_id" .commitId, text "store_lfs_path" .storeLfsPath, text "lfs_oid" .lfsOid,
      "lfs_size: " ++ sizeText g.lfsSize, text "temp_path" .tempPath] ++ " \x7d"

end Grant

end FrontDoor
