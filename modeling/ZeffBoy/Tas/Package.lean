import ZeffBoy.Tas.TimelineEdits
import ZeffBoy.Tas.Transaction

/-! Packages of projects and the digest of a project's content.
The JSON form of a manifest and the archive format are parameters. -/
namespace ZeffBoy.Tas
open Library Replay

def formatVersion : UInt32 := 1

structure ManifestBranch where
  id : String
  name : String
  comment : String
  parent : Option TasBranchOrigin
  frameCount : Nat
  inputSpans : List TasInputSpan
  verification : Option TasVerificationProvenance

structure ManifestAsset where
  sha256 : TasDigest
  size : Nat

structure Manifest where
  format : String
  version : UInt32
  projectId : String
  sourceReplaySha256 : Option TasDigest
  identity : TasProjectIdentity
  startStateSize : Nat
  editGeneration : Nat
  rerecordCount : Nat
  activeBranchId : String
  projectComment : String
  branches : List ManifestBranch
  markers : List TasMarker
  annotations : List TasAnnotation
  assets : List ManifestAsset

/-- What the package format rests on: digests, JSON and the archive of a project in canonical order. -/
structure TasPackaging where
  encoding : TasEncoding
  manifestJson : Manifest → Bytes
  pack : TasProject → Except String Bytes
  unpack : Bytes → Except String TasProject

namespace TasProject

def canonical (project : TasProject) : TasProject := {project with identity := canonicalIdentity project.identity}

def manifest (project : TasProject) : Manifest where
  format := "zeff-tas-project"
  version := formatVersion
  projectId := project.projectId
  sourceReplaySha256 := project.sourceReplaySha256
  identity := canonicalIdentity project.identity
  startStateSize := project.startState.length
  editGeneration := project.editGeneration
  rerecordCount := project.rerecordCount
  activeBranchId := project.activeBranchId
  projectComment := project.projectComment
  branches := project.branches.map fun branch =>
    ⟨branch.id,branch.name,branch.comment,branch.parent,branch.frameCount,branch.inputSpans,branch.verification⟩
  markers := project.markers
  annotations := project.annotations
  assets := project.assets.map fun asset => ⟨asset.1,asset.2.length⟩

end TasProject

def hashed (bytes : Bytes) : Bytes := leBytes 8 bytes.length ++ bytes

namespace TasPackaging
variable (packaging : TasPackaging)

def encodeEditorHistorySnapshot (project : TasProject) : Except String Bytes := do
  project.validate packaging.encoding.sha256
  packaging.pack project.canonical

def editorContentSha256 (project : TasProject) : Except String TasDigest := do
  project.validateEditorState packaging.encoding.sha256
  let replayStart ← encodeReplayStartMetadata project.replayStart
  let branches ← project.branches.mapM fun branch => do
    let events ← encodeReplayEventStream branch.events
    return hashed (utf8 branch.id) ++ hashed events
  return packaging.encoding.sha256 (utf8 "ZTAS-EDITOR-CONTENT-1\x00" ++
    (hashed (packaging.manifestJson project.manifest) ++ (hashed replayStart ++ branches.flatten)))

end TasPackaging
end ZeffBoy.Tas
