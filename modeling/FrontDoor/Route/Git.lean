/-
The routes of Git over HTTP.

There are fifteen endpoints.  Ten of them are guarded: a stage that asks the backend stands in
front of the stage that serves the endpoint's family.  The other five go straight to the family.
`Endpoint.all` is their order in the table.  The guards and the family stages are parameters, so
the same table serves the program, which forwards everything, and an application with stages of
its own.
-/
import FrontDoor.Route.Table
import FrontDoor.Route.Template

namespace FrontDoor.Route

open Http (Method)

/-- The endpoints the gateway serves. -/
inductive Endpoint
  | infoRefs
  | uploadPack
  | receivePack
  | archive
  | archiveZip
  | archiveTar
  | archiveTarGz
  | archiveTarBz2
  | uploads
  | lfsStore
  | lfsFetch
  | buildsDownload
  | artifactsFetch
  | artifactsUpload
  | artifactsDelete
  deriving DecidableEq, Repr

/-- The kinds of question asked of the backend before an endpoint is served. -/
inductive Guard
  | repository
  | lfsObject
  | artifacts
  deriving DecidableEq, Repr

/-- The families of endpoints that one stage serves alike. -/
inductive Family
  | infoRefs
  | postRpc
  | archive
  | sendFile
  | storeLfsObject
  | fileUploads
  | proxy
  deriving DecidableEq, Repr

/-- The family's name. -/
def Family.name : Family → String
  | .infoRefs => "info_refs"
  | .postRpc => "post_rpc"
  | .archive => "archive"
  | .sendFile => "send_file"
  | .storeLfsObject => "store_lfs_object"
  | .fileUploads => "file_uploads"
  | .proxy => "proxy"

namespace Endpoint

/-- Every endpoint, in the order of the table. -/
def all : List Endpoint :=
  [infoRefs, uploadPack, receivePack, archive, archiveZip, archiveTar, archiveTarGz,
    archiveTarBz2, uploads, lfsStore, lfsFetch, buildsDownload, artifactsFetch, artifactsUpload,
    artifactsDelete]

/-- The endpoint's name in the log and the metrics. -/
def name : Endpoint → String
  | infoRefs => "info_refs"
  | uploadPack => "upload_pack"
  | receivePack => "receive_pack"
  | archive => "archive"
  | archiveZip => "archive_zip"
  | archiveTar => "archive_tar"
  | archiveTarGz => "archive_tar_gz"
  | archiveTarBz2 => "archive_tar_bz2"
  | uploads => "uploads"
  | lfsStore => "lfs_store"
  | lfsFetch => "lfs_fetch"
  | buildsDownload => "builds_download"
  | artifactsFetch => "artifacts_fetch"
  | artifactsUpload => "artifacts_upload"
  | artifactsDelete => "artifacts_delete"

def method : Endpoint → Method
  | uploadPack | receivePack | artifactsUpload => .post
  | lfsStore => .put
  | artifactsDelete => .delete
  | _ => .get

/-- The path template of the endpoint; uploads are known by a fragment instead. -/
def template? : Endpoint → Option String
  | infoRefs => some "/info/refs"
  | uploadPack => some "/git-upload-pack"
  | receivePack => some "/git-receive-pack"
  | archive => some "/repository/archive"
  | archiveZip => some "/repository/archive.zip"
  | archiveTar => some "/repository/archive.tar"
  | archiveTarGz => some "/repository/archive.tar.gz"
  | archiveTarBz2 => some "/repository/archive.tar.bz2"
  | uploads => none
  | lfsStore => some "/gitlab-lfs/objects/\x7bhex64\x7d/\x7bdigits\x7d"
  | lfsFetch => some "/gitlab-lfs/objects/\x7bhex64\x7d"
  | buildsDownload => some "/builds/download"
  | artifactsFetch | artifactsUpload | artifactsDelete =>
    some "/ci/api/v1/builds/\x7bdigits\x7d/artifacts"

/-- The fragment by which stored uploads are known. -/
def uploadsFragment : String := "/uploads/"

def pattern (e : Endpoint) : Pattern :=
  match e.template? with
  | some template => .tail (Template.parse template)
  | none => .containing uploadsFragment

/-- The question that guards the endpoint, if one does. -/
def guard? : Endpoint → Option Guard
  | infoRefs | uploadPack | receivePack => some .repository
  | archive | archiveZip | archiveTar | archiveTarGz | archiveTarBz2 => some .repository
  | lfsStore => some .lfsObject
  | artifactsUpload => some .artifacts
  | uploads | lfsFetch | buildsDownload | artifactsFetch | artifactsDelete => none

/-- The ten guarded endpoints, each with the question that guards it. -/
theorem guard?_eq_some_iff {e : Endpoint} {guard : Guard} :
    e.guard? = some guard ↔
      e ∈ [infoRefs, uploadPack, receivePack, archive, archiveZip, archiveTar, archiveTarGz,
        archiveTarBz2] ∧ guard = .repository ∨
      e = lfsStore ∧ guard = .lfsObject ∨ e = artifactsUpload ∧ guard = .artifacts := by
  cases e <;> cases guard <;> decide

example : (all.filter (·.guard?.isSome)).length = 10 := by decide

/-- The family that serves the endpoint. -/
def family : Endpoint → Family
  | infoRefs => .infoRefs
  | uploadPack | receivePack => .postRpc
  | archive | archiveZip | archiveTar | archiveTarGz | archiveTarBz2 => .archive
  | uploads | lfsFetch | buildsDownload | artifactsFetch => .sendFile
  | lfsStore => .storeLfsObject
  | artifactsUpload => .fileUploads
  | artifactsDelete => .proxy

/-- The stages of the endpoint: its guard, if it has one, and its family's stage. -/
def stages {σ : Type} (guard : Guard → σ) (serve : Family → σ) (e : Endpoint) : List σ :=
  (e.guard?.map guard).toList ++ [serve e.family]

/-- The endpoint as a route. -/
def route {σ : Type} (guard : Guard → σ) (serve : Family → σ) (e : Endpoint) : Route σ where
  name := e.name
  method := e.method
  pattern := e.pattern
  stages := e.stages guard serve

end Endpoint

/-- The table of all endpoints. -/
def gitTable {σ : Type} (guard : Guard → σ) (serve : Family → σ) : Table σ :=
  ⟨Endpoint.all.map (Endpoint.route guard serve)⟩

end FrontDoor.Route
