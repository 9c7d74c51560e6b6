import ZeffBoy.Replay.EventStream
import ZeffBoy.Tas.Model

/-! Validation of projects, and the content identities of projects and branches.
The digest function and the JSON form of identities and spans are parameters. -/
namespace ZeffBoy.Tas
open Library Replay

def idChar (char : Char) : Bool :=
  char.isAlphanum || char == '-' || char == '_' || char == '.' || char == ':'

def isControl (char : Char) : Bool := char.toNat < 0x20 || (0x7F ≤ char.toNat && char.toNat < 0xA0)

def validateId (value name : String) : Except String Unit :=
  ensure (¬(value.isEmpty ∨ 128 < (utf8 value).length ∨ ¬value.toList.all idChar)) s!"invalid TAS {name} {quoted value}"

def validateText (value name : String) (maxBytes : Nat) : Except String Unit :=
  ensure (¬(maxBytes < (utf8 value).length ∨ value.toList.any isControl)) s!"invalid TAS {name}"

/-- Fails at the first value that occurs earlier in the list, checking each value in turn. -/
def validateDistinct {α : Type} (id : α → String) (check : α → Except String Unit) (duplicate : α → String) :
    List String → List α → Except String Unit
  | _, [] => .ok ()
  | seen, value::values => do
    ensure (id value ∉ seen) (duplicate value)
    check value
    validateDistinct id check duplicate (id value::seen) values

def TasFirmwareIdentity.firmwareId : TasFirmwareIdentity → String
  | external firmwareId _ _ => firmwareId
  | hle firmwareId _ _ => firmwareId
  | builtinOpenSource firmwareId _ _ _ => firmwareId
  | skipped firmwareId _ => firmwareId

def TasFirmwareIdentity.validate : TasFirmwareIdentity → Except String Unit
  | external firmwareId variant _ => do
    validateId firmwareId "firmware ID"
    variant.forM (fun variant => validateText variant "firmware variant" 256)
  | hle firmwareId implementation _ => do
    validateId firmwareId "firmware ID"
    validateId implementation "firmware implementation"
  | builtinOpenSource firmwareId implementation _ _ => do
    validateId firmwareId "firmware ID"
    validateId implementation "firmware implementation"
  | skipped firmwareId _ => validateId firmwareId "firmware ID"

def validateDevices : List String → List TasDeviceIdentity → Except String Unit
  | _, [] => .ok ()
  | ports, device::devices => do
    validateId device.port "device port"
    validateId device.device "device"
    ensure (device.port ∉ ports) s!"duplicate TAS device port {quoted device.port}"
    validateDevices (device.port::ports) devices

def validateIdentity (identity : TasProjectIdentity) : Except String Unit := do
  validateId identity.system "system"
  validateId identity.coreFamily "core family"
  validateId identity.determinismAbi "determinism ABI"
  validateId identity.stateFormatCompatibilityId "state format compatibility ID"
  ensure (identity.devices ≠ []) "TAS project identity must declare at least one device"
  identity.patches.forM (fun patch => validateId patch.format "patch format")
  validateDistinct TasFirmwareIdentity.firmwareId TasFirmwareIdentity.validate
    (fun firmware => s!"duplicate TAS firmware ID {quoted firmware.firmwareId}") [] identity.firmware
  validateDevices [] identity.devices

def containsAsset (assets : List (TasDigest × Bytes)) (digest : TasDigest) : Bool :=
  assets.any (fun asset => asset.1 == digest)

def cameraAvailable (assets : List (TasDigest × Bytes)) : TasCameraInput → Bool
  | .none => true
  | .blob digest => containsAsset assets digest

def validateSpans (frameCount : Nat) (assets : List (TasDigest × Bytes)) (previousEnd : Nat)
    (previousInput : Option TasInputFrame) : List TasInputSpan → Except String Unit
  | [] => .ok ()
  | span::spans => do
    ensure (span.length ≠ 0) "TAS input spans cannot be empty"
    let stop ← checkedAdd span.start span.length "TAS input span overflows"
    ensure (stop ≤ frameCount) "TAS input span extends past its branch end"
    ensure (previousEnd ≤ span.start) "TAS input spans must be sorted and non-overlapping"
    ensure (¬(span.start = previousEnd ∧ previousInput = some span.value))
      "adjacent identical TAS input spans must be merged"
    ensure (span.value ≠ {}) "neutral TAS input spans must be omitted"
    ensure (cameraAvailable assets span.value.camera) "TAS input references a missing camera asset"
    validateSpans frameCount assets stop (some span.value) spans

def validateInputSpans (branch : TasBranch) (assets : List (TasDigest × Bytes)) : Except String Unit :=
  validateSpans branch.frameCount assets 0 none branch.inputSpans

def eventInside (event : ReplayEvent) (frameCount : Nat) : Bool :=
  event.requiredFrameCount.any (fun required => required ≤ frameCount)

def validateCheckpoints (frameCount : Nat) (previousCursor : Option Nat) :
    List TasVerificationCheckpoint → Except String Unit
  | [] => .ok ()
  | checkpoint::checkpoints => do
    ensure (¬(frameCount < checkpoint.cursor ∨ previousCursor.any (fun cursor => checkpoint.cursor ≤ cursor)))
      "TAS verification checkpoints must be ordered and in range"
    validateCheckpoints frameCount (some checkpoint.cursor) checkpoints

/-- One round of the loop over the branches, from its frame limit on. -/
def validateBranchMovie (project : TasProject) (branch : TasBranch) : Except String Unit := do
  validateInputSpans branch project.assets
  let eventBytes ← encodeReplayEventStream branch.events
  let decoded ← decodeReplayEventStream eventBytes
  ensure (decoded = branch.events) s!"TAS branch {quoted branch.id} events are not in canonical order"
  ensure (branch.events.all (fun event => eventInside event branch.frameCount))
    s!"TAS branch {quoted branch.id} contains an event past its end"
  validateReplayStartEvents project.replayStart branch.events
  branch.verification.forM (fun verification => validateCheckpoints branch.frameCount none verification.checkpoints)

/-- Validates the branches one by one and counts their input spans. -/
def validateBranches (project : TasProject) (seen : List String) (inputSpanCount : Nat) :
    List TasBranch → Except String Nat
  | [] => .ok inputSpanCount
  | branch::branches => do
    validateId branch.id "branch ID"
    validateText branch.name "branch name" 256
    validateText branch.comment "branch comment" (64 * 1024)
    ensure (branch.id ∉ seen) s!"duplicate TAS branch ID {quoted branch.id}"
    ensure (branch.frameCount ≤ maxProjectFrames) s!"TAS branch {quoted branch.id} exceeds {maxProjectFrames} frames"
    let inputSpanCount ← checkedAdd inputSpanCount branch.inputSpans.length "TAS input span count overflow"
    validateBranchMovie project branch
    validateBranches project (branch.id::seen) inputSpanCount branches

def validateParent (project : TasProject) (branch : TasBranch) : Except String Unit :=
  branch.parent.forM (fun parent => do
    validateId parent.branchId "parent branch ID"
    ensure (¬(parent.branchId = branch.id ∨ parent.branchId ∉ project.branches.map TasBranch.id))
      s!"invalid parent for TAS branch {quoted branch.id}"
    ensure (parent.forkCursor ≤ branch.frameCount) s!"TAS branch {quoted branch.id} fork cursor is past its end")

/-- Follows the parents of a branch. Every round visits another branch, so as many rounds as there are
branches and one more always end at a root or at a branch visited before. -/
def validateAncestry (project : TasProject) (visited : List String) (current : TasBranch) : Nat → Except String Unit
  | 0 => .ok ()
  | rounds + 1 =>
    match current.parent with
    | none => .ok ()
    | some parent => do
      ensure (current.id ∉ visited) "TAS branch ancestry contains a cycle"
      let next ← context (project.branch parent.branchId) "parent existence was validated above"
      validateAncestry project (current.id::visited) next rounds

def validateMarkers (project : TasProject) (seen : List String) : List TasMarker → Except String Unit
  | [] => .ok ()
  | marker::markers => do
    validateId marker.id "marker ID"
    validateText marker.name "marker name" 1024
    ensure (marker.id ∉ seen) s!"duplicate TAS marker ID {quoted marker.id}"
    let branch ← context (project.branch marker.branchId) "TAS marker references an unknown branch"
    ensure (marker.cursor ≤ branch.frameCount) "TAS marker cursor is past its branch end"
    validateMarkers project (marker.id::seen) markers

def validateAnnotations (project : TasProject) (seen : List String) : List TasAnnotation → Except String Unit
  | [] => .ok ()
  | note::annotations => do
    validateId note.id "annotation ID"
    validateId note.kind "annotation kind"
    validateText note.text "annotation text" (64 * 1024)
    ensure (note.length ≠ 0) "TAS annotations cannot be empty"
    ensure (note.id ∉ seen) s!"duplicate TAS annotation ID {quoted note.id}"
    let branch ← context (project.branch note.branchId) "TAS annotation references an unknown branch"
    let stop ← checkedAdd note.start note.length "TAS annotation range overflows"
    ensure (stop ≤ branch.frameCount) "TAS annotation extends past its branch end"
    validateAnnotations project (note.id::seen) annotations

variable (sha256 : Bytes → TasDigest)

def validateAssets (totalAssetBytes : Nat) : List (TasDigest × Bytes) → Except String Nat
  | [] => .ok totalAssetBytes
  | (digest,bytes)::assets => do
    ensure (bytes.length ≤ maxCameraAssetBytes) s!"TAS camera asset exceeds {maxCameraAssetBytes} bytes"
    ensure (sha256 bytes = digest) "TAS asset SHA-256 does not match its identity"
    let totalAssetBytes ← checkedAdd totalAssetBytes bytes.length "TAS asset size overflow"
    validateAssets totalAssetBytes assets

namespace TasProject

def validateEditorState (project : TasProject) : Except String Unit := do
  validateId project.projectId "project ID"
  validateIdentity project.identity
  ensure (project.startState.length ≤ maxStartStateBytes) s!"TAS starting state exceeds {maxStartStateBytes} bytes"
  let _ ← encodeReplayStartMetadata project.replayStart
  ensure (¬(project.branches = [] ∨ maxProjectBranches < project.branches.length))
    s!"TAS project must contain 1..={maxProjectBranches} branches"
  ensure (project.markers.length ≤ maxProjectMarkers) s!"TAS project exceeds {maxProjectMarkers} markers"
  ensure (project.annotations.length ≤ maxProjectAnnotations) s!"TAS project exceeds {maxProjectAnnotations} annotations"
  ensure (project.assets.length ≤ maxProjectAssets) s!"TAS project exceeds {maxProjectAssets} assets"
  validateText project.projectComment "project comment" (64 * 1024)
  let inputSpanCount ← validateBranches project [] 0 project.branches
  ensure (inputSpanCount ≤ maxProjectInputSpans) s!"TAS project exceeds {maxProjectInputSpans} input spans"
  ensure (project.activeBranchId ∈ project.branches.map TasBranch.id) "active TAS branch does not exist"
  project.branches.forM (validateParent project)
  project.branches.forM (fun branch => validateAncestry project [] branch (project.branches.length + 1))
  validateMarkers project [] project.markers
  validateAnnotations project [] project.annotations
  let totalAssetBytes ← validateAssets sha256 0 project.assets
  ensure (totalAssetBytes ≤ maxTotalAssetBytes) s!"TAS project assets exceed {maxTotalAssetBytes} bytes"

def validate (project : TasProject) : Except String Unit := do
  project.validateEditorState sha256
  ensure (sha256 project.startState = project.identity.startStateSha256)
    "TAS starting state SHA-256 does not match project identity"

end TasProject

/-- All that a project passes before it is edited. -/
structure EditorValid (project : TasProject) : Prop where
  projectId : validateId project.projectId "project ID" = .ok ()
  identity : validateIdentity project.identity = .ok ()
  startState : project.startState.length ≤ maxStartStateBytes
  replayStart : ∃ bytes, encodeReplayStartMetadata project.replayStart = .ok bytes
  branchCount : ¬(project.branches = [] ∨ maxProjectBranches < project.branches.length)
  markerCount : project.markers.length ≤ maxProjectMarkers
  annotationCount : project.annotations.length ≤ maxProjectAnnotations
  assetCount : project.assets.length ≤ maxProjectAssets
  comment : validateText project.projectComment "project comment" (64 * 1024) = .ok ()
  branches : ∃ spanCount, validateBranches project [] 0 project.branches = .ok spanCount ∧ spanCount ≤ maxProjectInputSpans
  active : project.activeBranchId ∈ project.branches.map TasBranch.id
  parents : ∀ branch ∈ project.branches, validateParent project branch = .ok ()
  ancestry : ∀ branch ∈ project.branches, validateAncestry project [] branch (project.branches.length + 1) = .ok ()
  markers : validateMarkers project [] project.markers = .ok ()
  annotations : validateAnnotations project [] project.annotations = .ok ()
  assets : ∃ totalBytes, validateAssets sha256 0 project.assets = .ok totalBytes ∧ totalBytes ≤ maxTotalAssetBytes

theorem validateEditorState_ok (project : TasProject) :
    project.validateEditorState sha256 = .ok () ↔ EditorValid sha256 project := by
  constructor
  · intro valid
    obtain ⟨projectId,valid⟩ := check_bind_ok.mp valid
    obtain ⟨identity,valid⟩ := check_bind_ok.mp valid
    obtain ⟨startState,valid⟩ := check_bind_ok.mp valid
    obtain ⟨bytes,replayStart,valid⟩ := bind_ok.mp valid
    obtain ⟨branchCount,valid⟩ := check_bind_ok.mp valid
    obtain ⟨markerCount,valid⟩ := check_bind_ok.mp valid
    obtain ⟨annotationCount,valid⟩ := check_bind_ok.mp valid
    obtain ⟨assetCount,valid⟩ := check_bind_ok.mp valid
    obtain ⟨comment,valid⟩ := check_bind_ok.mp valid
    obtain ⟨spanCount,branches,valid⟩ := bind_ok.mp valid
    obtain ⟨few,valid⟩ := check_bind_ok.mp valid
    obtain ⟨active,valid⟩ := check_bind_ok.mp valid
    obtain ⟨parents,valid⟩ := check_bind_ok.mp valid
    obtain ⟨ancestry,valid⟩ := check_bind_ok.mp valid
    obtain ⟨markers,valid⟩ := check_bind_ok.mp valid
    obtain ⟨annotations,valid⟩ := check_bind_ok.mp valid
    obtain ⟨totalBytes,assets,small⟩ := bind_ok.mp valid
    simp only [ensure_ok] at startState branchCount markerCount annotationCount assetCount few active small
    exact ⟨projectId,identity,startState,⟨bytes,replayStart⟩,branchCount,markerCount,annotationCount,assetCount,comment,
      ⟨spanCount,branches,few⟩,active,forM_ok.mp parents,forM_ok.mp ancestry,markers,annotations,
      totalBytes,assets,small⟩
  · intro valid
    obtain ⟨bytes,replayStart⟩ := valid.replayStart
    obtain ⟨spanCount,branches,few⟩ := valid.branches
    obtain ⟨totalBytes,assets,small⟩ := valid.assets
    refine check_bind_ok.mpr ⟨valid.projectId,?_⟩
    refine check_bind_ok.mpr ⟨valid.identity,?_⟩
    refine check_bind_ok.mpr ⟨ensure_pos valid.startState _,?_⟩
    refine bind_ok.mpr ⟨bytes,replayStart,?_⟩
    refine check_bind_ok.mpr ⟨ensure_pos valid.branchCount _,?_⟩
    refine check_bind_ok.mpr ⟨ensure_pos valid.markerCount _,?_⟩
    refine check_bind_ok.mpr ⟨ensure_pos valid.annotationCount _,?_⟩
    refine check_bind_ok.mpr ⟨ensure_pos valid.assetCount _,?_⟩
    refine check_bind_ok.mpr ⟨valid.comment,?_⟩
    refine bind_ok.mpr ⟨spanCount,branches,?_⟩
    refine check_bind_ok.mpr ⟨ensure_pos few _,?_⟩
    refine check_bind_ok.mpr ⟨ensure_pos valid.active _,?_⟩
    refine check_bind_ok.mpr ⟨forM_ok.mpr valid.parents,?_⟩
    refine check_bind_ok.mpr ⟨forM_ok.mpr valid.ancestry,?_⟩
    refine check_bind_ok.mpr ⟨valid.markers,?_⟩
    refine check_bind_ok.mpr ⟨valid.annotations,?_⟩
    exact bind_ok.mpr ⟨totalBytes,assets,ensure_pos small _⟩

structure TasEncoding where
  sha256 : Bytes → TasDigest
  identityJson : TasProjectIdentity → Bytes
  inputSpansJson : List TasInputSpan → Bytes

def canonicalIdentity (identity : TasProjectIdentity) : TasProjectIdentity := { identity with
  firmware := identity.firmware.mergeSort (fun left right => ¬right.firmwareId < left.firmwareId)
  devices := identity.devices.mergeSort (fun left right => ¬right.port < left.port) }

def clipSpan (span : TasInputSpan) (cursor : Nat) : Option TasInputSpan :=
  if cursor ≤ span.start then none else some { span with length := min span.length (cursor - span.start) }

def branchBytes (syncIdentity : TasDigest) (cursor : Nat) (inputBytes eventBytes : Bytes) : Bytes :=
  utf8 "ZTAS-BRANCH-1\x00" ++ (syncIdentity.toList ++ (leBytes 8 cursor ++ (leBytes 8 inputBytes.length ++ (inputBytes ++
    (leBytes 8 eventBytes.length ++ eventBytes)))))

def clippedSpans (branch : TasBranch) (cursor : Nat) : List TasInputSpan :=
  branch.inputSpans.filterMap (fun span => clipSpan span cursor)

def eventsBefore (branch : TasBranch) (cursor : Nat) (includeEventsAtCursor : Bool) : List ReplayEvent :=
  branch.events.filter (fun event =>
    event.frame.toNat < cursor || includeEventsAtCursor && event.frame.toNat == cursor)

namespace TasEncoding
variable (encoding : TasEncoding)

def hashBranchBytes (syncIdentity : TasDigest) (cursor : Nat) (inputBytes eventBytes : Bytes) : TasDigest :=
  encoding.sha256 (branchBytes syncIdentity cursor inputBytes eventBytes)

def hashBranch (syncIdentity : TasDigest) (branch : TasBranch) (cursor : Nat) (includeEventsAtCursor : Bool) :
    Except String TasDigest := do
  let inputBytes := encoding.inputSpansJson (clippedSpans branch cursor)
  let eventBytes ← encodeReplayEventStream (eventsBefore branch cursor includeEventsAtCursor)
  return encoding.hashBranchBytes syncIdentity cursor inputBytes eventBytes

def hashCompleteBranch (syncIdentity : TasDigest) (branch : TasBranch) : Except String TasDigest := do
  let inputBytes := encoding.inputSpansJson branch.inputSpans
  let eventBytes ← encodeCanonicalReplayEventStream branch.events
  return encoding.hashBranchBytes syncIdentity branch.frameCount inputBytes eventBytes

def syncIdentitySha256FromValidated (project : TasProject) : Except String TasDigest := do
  let identity := encoding.identityJson (canonicalIdentity project.identity)
  let replayStart ← encodeReplayStartMetadata project.replayStart
  return encoding.sha256 (utf8 "ZTAS-SYNC-1\x00" ++ (leBytes 8 identity.length ++ (identity ++
    (leBytes 8 replayStart.length ++ replayStart))))

def branchMovieSha256FromValidated (project : TasProject) (branch : TasBranch) : Except String TasDigest := do
  let syncIdentity ← encoding.syncIdentitySha256FromValidated project
  encoding.hashCompleteBranch syncIdentity branch

def branchMovieSha256 (project : TasProject) (branchId : String) : Except String TasDigest := do
  project.validate encoding.sha256
  let branch ← context (project.branch branchId) s!"unknown TAS branch {quoted branchId}"
  encoding.branchMovieSha256FromValidated project branch

def branchPrefixSha256FromValidated (project : TasProject) (branchId : String) (cursor : Nat) :
    Except String TasDigest := do
  let branch ← context (project.branch branchId) s!"unknown TAS branch {quoted branchId}"
  ensure (cursor ≤ branch.frameCount) "TAS cursor is past branch end"
  let syncIdentity ← encoding.syncIdentitySha256FromValidated project
  encoding.hashBranch syncIdentity branch cursor false

def branchPrefixSha256 (project : TasProject) (branchId : String) (cursor : Nat) : Except String TasDigest := do
  project.validate encoding.sha256
  encoding.branchPrefixSha256FromValidated project branchId cursor

end TasEncoding

end ZeffBoy.Tas
