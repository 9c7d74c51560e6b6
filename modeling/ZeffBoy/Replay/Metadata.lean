import ZeffBoy.Replay.EventCodec

/-! Replay metadata: what identifies a recording, its events and its checkpoints.
The encoder bounds counts and strings only. The decoder also checks the link states
and the continuation of a transfer that was under way when the recording began.
For the start of a replay outside a replay file the encoder checks that continuation too. -/
namespace ZeffBoy.Replay
open Library MetadataCursor

structure ReplayCheckpoint where
  frame : UInt64
  stateSha256 : Hash
deriving DecidableEq

inductive ReplayFirmwareManifest
  | external (firmwareId : String) (variant : Option String) (sha256 : Hash)
  | hle (firmwareId implementation : String) (compatibilityVersion : UInt32)
  | builtinOpenSource (firmwareId implementation : String) (compatibilityVersion : UInt32) (sha256 : Hash)
  | skipped (firmwareId : String) (compatibilityVersion : UInt32)
deriving DecidableEq

structure ReplayMetadata where
  system : Option String := none
  coreFamily : Option String := none
  romSha256 : Option Hash := none
  firmware : List ReplayFirmwareManifest := []
  events : List ReplayEvent := []
  cheatSha256 : Option Hash := none
  finalStateSha256 : Option Hash := none
  gameBoyLinkStartState : Option ReplayGameBoyLinkState := none
  gameBoyLinkStartTick : Option UInt64 := none
  wonderSwanLinkStartTick : Option UInt64 := none
  checkpoints : List ReplayCheckpoint := []
  gameBoyLinkCoordinatorStartState : Option ReplayGameBoyLinkCoordinatorState := none
deriving DecidableEq

def metadataVersion : Nat := 3
def minMetadataVersion : Nat := 1
def maxReplayFirmwareManifests : Nat := 4096
def maxReplayEvents : Nat := 100000
def maxReplayCheckpoints : Nat := 100000

def validateCount (name : String) (count maximum : Nat) : Except String Unit := do
  ensure (count ≤ maximum) s!"replay exceeds {maximum} {name}"
  ensure (count < 2^32) s!"replay {name} count does not fit u32"

def validateStringLen (value : String) : Except String Unit :=
  ensure ((utf8 value).length < 2^32) "replay metadata string length does not fit u32"

namespace ReplayFirmwareManifest

def encode : ReplayFirmwareManifest → Bytes
  | external firmwareId variant sha256 =>
    0::(writeString firmwareId ++ (writeOptionalString variant ++ sha256.toList))
  | hle firmwareId implementation compatibilityVersion =>
    1::(writeString firmwareId ++ (writeString implementation ++ writeU32 compatibilityVersion))
  | builtinOpenSource firmwareId implementation compatibilityVersion sha256 =>
    2::(writeString firmwareId ++ (writeString implementation ++ (writeU32 compatibilityVersion ++ sha256.toList)))
  | skipped firmwareId compatibilityVersion => 3::(writeString firmwareId ++ writeU32 compatibilityVersion)

def decode : Reader ReplayFirmwareManifest := do
  let tag ← readU8
  match tag.toNat with
  | 0 => do
    let firmwareId ← readString
    let variant ← readOptionalString
    let sha256 ← readHash
    return external firmwareId variant sha256
  | 1 => do
    let firmwareId ← readString
    let implementation ← readString
    let compatibilityVersion ← readU32
    return hle firmwareId implementation compatibilityVersion
  | 2 => do
    let firmwareId ← readString
    let implementation ← readString
    let compatibilityVersion ← readU32
    let sha256 ← readHash
    return builtinOpenSource firmwareId implementation compatibilityVersion sha256
  | 3 => do
    let firmwareId ← readString
    let compatibilityVersion ← readU32
    return skipped firmwareId compatibilityVersion
  | _ => Reader.fail s!"unknown replay firmware manifest tag: {tag}"

def validateStrings : ReplayFirmwareManifest → Except String Unit
  | external firmwareId variant _ => do
    validateStringLen firmwareId
    variant.forM validateStringLen
  | hle firmwareId implementation _ => do
    validateStringLen firmwareId
    validateStringLen implementation
  | builtinOpenSource firmwareId implementation _ _ => do
    validateStringLen firmwareId
    validateStringLen implementation
  | skipped firmwareId _ => validateStringLen firmwareId

end ReplayFirmwareManifest

namespace ReplayEvent

def validateStrings : ReplayEvent → Except String Unit
  | media _ _ event => do
    validateStringLen event.slot.id
    match event with
    | .insert _ mediaId _ _ => validateStringLen mediaId.id
    | _ => .ok ()
  | _ => .ok ()

def linkTransferId : ReplayEvent → Option UInt64
  | gameBoyLink _ _ (.localMasterStart transferId _ _ _) => some transferId
  | gameBoyLink _ _ (.remoteMasterStart transferId _ _ _ _) => some transferId
  | gameBoyLink _ _ (.remoteReply transferId _ _ _) => some transferId
  | _ => none

def isRemoteReply : ReplayEvent → Bool
  | gameBoyLink _ _ (.remoteReply ..) => true
  | _ => false

def isGameBoyLink : ReplayEvent → Bool
  | gameBoyLink .. => true
  | gameBoyLinkState .. => true
  | gameBoyLinkStateAtTick .. => true
  | _ => false

def localStartAction : ReplayEvent → Option ReplayGameBoyLinkAction
  | gameBoyLink _ _ (.localMasterStart _ clockPeriodTCycles outByte serialGeneration) =>
    some ⟨outByte,clockPeriodTCycles,serialGeneration⟩
  | _ => none

end ReplayEvent

def validateUncoordinatedGameBoyLinkStart (state : ReplayGameBoyLinkState) (events : List ReplayEvent) :
    Except String Unit :=
  if state.hasMasterOwnedTransfer then
    match state.queuedMasterAction with
    | none => .error "GB master start state has no coordinator ownership"
    | some action => do
      ensure (¬(state.pendingMasterByte ≠ some action.outByte ∨ state.pendingMasterResponse.isSome ∨
          state.pendingMasterCompletionReady ∨ state.serialGeneration ≠ action.serialGeneration ∨
          action.clockPeriodTCycles = 0 ∨ 4096 < action.clockPeriodTCycles))
        "GB queued master start state is internally inconsistent"
      ensure (events.findSome? ReplayEvent.localStartAction = some action)
        "GB queued master start state has no matching future local-start event"
  else
    .ok ()

def validateGameBoyLinkCoordinatorEvents (coordinator : ReplayGameBoyLinkCoordinatorState)
    (events : List ReplayEvent) : Except String Unit :=
  let matching := events.zipIdx.filter (fun event => event.1.linkTransferId == some coordinator.transferId)
  let replyCount := (matching.filter (fun event => event.1.isRemoteReply)).length
  let firstLinkOrdinal := events.findIdx? ReplayEvent.isGameBoyLink
  match coordinator.owner with
  | .replayAwaitingReply =>
    ensure (matching.length = 1 ∧ replyCount = 1 ∧ matching.head?.map Prod.snd = firstLinkOrdinal)
      s!"GB replay-owned master continuation requires exactly one future event, a reply for transfer {coordinator.transferId}; found {matching.length} matching events and {replyCount} replies"
  | .coreHasReply =>
    ensure (matching = [])
      s!"GB core-owned master continuation repeats transfer {coordinator.transferId} in {matching.length} future events"

def sortCheckpoints (checkpoints : List ReplayCheckpoint) : List ReplayCheckpoint :=
  checkpoints.mergeSort (fun left right => decide (left.frame ≤ right.frame))

def ReplayCheckpoint.encode (checkpoint : ReplayCheckpoint) : Bytes :=
  writeU64 checkpoint.frame ++ checkpoint.stateSha256.toList

def ReplayCheckpoint.decode : Reader ReplayCheckpoint := do
  let frame ← readU64
  let stateSha256 ← readHash
  return ⟨frame,stateSha256⟩

/-- A counted list; a count beyond the limit or beyond the unread bytes is refused before its items are read. -/
def readCounted {α : Type} (maximum : Nat) (tooMany tooShort : String) (item : Reader α) : Reader (List α) := do
  let count ← readU32
  Reader.lift (ensure (count.toNat ≤ maximum) tooMany)
  let remaining ← Reader.remaining
  Reader.lift (ensure (count.toNat ≤ remaining) tooShort)
  Reader.many item count.toNat

-- Fields that older files end without.
def readIfPresent {α : Type} (absent : α) (item : Reader α) : Reader α := do
  let remaining ← Reader.remaining
  if remaining = 0 then return absent else item

def readCheckpoints : Reader (List ReplayCheckpoint) := do
  let count ← readU32
  Reader.lift (ensure (count.toNat ≤ maxReplayCheckpoints) s!"replay exceeds {maxReplayCheckpoints} checkpoints")
  Reader.lift (ensure (count.toNat * 40 < 2^64) "replay checkpoint size overflow")
  let remaining ← Reader.remaining
  Reader.lift (ensure (count.toNat * 40 ≤ remaining) "replay checkpoint count exceeds the remaining metadata")
  let checkpoints ← Reader.many ReplayCheckpoint.decode count.toNat
  return sortCheckpoints checkpoints

-- The continuation is part of the metadata since version 3.
def readOptionalGameBoyLinkCoordinatorState (version : Nat) : Reader (Option ReplayGameBoyLinkCoordinatorState) :=
  if 3 ≤ version then
    readFlagged "GB master continuation present flag" ReplayGameBoyLinkCoordinatorState.decode
  else
    pure none

namespace ReplayMetadata

def validateEncodingLimits (metadata : ReplayMetadata) : Except String Unit := do
  validateCount "firmware manifests" metadata.firmware.length maxReplayFirmwareManifests
  validateCount "events" metadata.events.length maxReplayEvents
  validateCount "checkpoints" metadata.checkpoints.length maxReplayCheckpoints
  metadata.system.forM validateStringLen
  metadata.coreFamily.forM validateStringLen
  metadata.firmware.forM ReplayFirmwareManifest.validateStrings
  metadata.events.forM ReplayEvent.validateStrings

def encodeWithVersion (metadata : ReplayMetadata) (version : UInt32) : Except String Bytes := do
  metadata.validateEncodingLimits
  let events := ReplayEvent.sortCanonical metadata.events
  let checkpoints := sortCheckpoints metadata.checkpoints
  return writeU32 version ++ (writeOptionalString metadata.system ++ (writeOptionalString metadata.coreFamily ++
    (writeOptionalHash metadata.romSha256 ++ (writeU32 (UInt32.ofNat metadata.firmware.length) ++
    (metadata.firmware.flatMap ReplayFirmwareManifest.encode ++ (writeU32 (UInt32.ofNat events.length) ++
    (events.flatMap (fun event => event.encode version.toNat) ++ (writeOptionalHash metadata.cheatSha256 ++
    (writeOptionalHash metadata.finalStateSha256 ++
    (writeOptional (fun state => state.encode version.toNat) metadata.gameBoyLinkStartState ++
    (writeOptionalU64 metadata.gameBoyLinkStartTick ++ (writeOptionalU64 metadata.wonderSwanLinkStartTick ++
    (writeU32 (UInt32.ofNat checkpoints.length) ++ (checkpoints.flatMap ReplayCheckpoint.encode ++
    (if 3 ≤ version.toNat then
      writeOptional ReplayGameBoyLinkCoordinatorState.encode metadata.gameBoyLinkCoordinatorStartState
    else
      [])))))))))))))))

def encode (metadata : ReplayMetadata) : Except String Bytes := metadata.encodeWithVersion (UInt32.ofNat metadataVersion)

/-- The last checks of the decoder: who owns a transfer that the link start state shows under way. -/
def validateLinkStart (metadata : ReplayMetadata) (version : Nat) : Except String Unit :=
  match metadata.gameBoyLinkCoordinatorStartState,metadata.gameBoyLinkStartState with
  | some coordinatorState,startState => do
    let linkState ← context startState "GB master continuation is missing its core link start state"
    ensure metadata.gameBoyLinkStartTick.isSome "GB master continuation is missing its link start tick"
    coordinatorState.validateAgainst linkState
    validateGameBoyLinkCoordinatorEvents coordinatorState metadata.events
  | none,some linkState =>
    if 3 ≤ version then validateUncoordinatedGameBoyLinkStart linkState metadata.events else .ok ()
  | none,none => .ok ()

def decodeFields : Reader ReplayMetadata := do
  let version ← readU32
  Reader.lift (ensure (minMetadataVersion ≤ version.toNat ∧ version.toNat ≤ metadataVersion)
    s!"unsupported replay metadata version: {version}")
  let system ← readOptionalString
  let coreFamily ← readOptionalString
  let romSha256 ← readOptionalHash
  let firmware ← readCounted maxReplayFirmwareManifests s!"replay exceeds {maxReplayFirmwareManifests} firmware manifests"
    "replay firmware count exceeds the remaining metadata" ReplayFirmwareManifest.decode
  let events ← readCounted maxReplayEvents s!"replay exceeds {maxReplayEvents} events"
    "replay event count exceeds the remaining metadata" (ReplayEvent.decode version.toNat)
  let cheatSha256 ← readIfPresent none readOptionalHash
  let finalStateSha256 ← readIfPresent none readOptionalHash
  let gameBoyLinkStartState ← readIfPresent none
    (readFlagged "GB link start state present flag" (ReplayGameBoyLinkState.decode version.toNat))
  let gameBoyLinkStartTick ← readIfPresent none (readOptional (fun tag => s!"invalid optional u64 tag: {tag}") readU64)
  let wonderSwanLinkStartTick ← readIfPresent none (readOptional (fun tag => s!"invalid optional u64 tag: {tag}") readU64)
  let checkpoints ← readIfPresent [] readCheckpoints
  let gameBoyLinkCoordinatorStartState ← readOptionalGameBoyLinkCoordinatorState version.toNat
  finish
  let metadata : ReplayMetadata := {
    system := system, coreFamily := coreFamily, romSha256 := romSha256, firmware := firmware,
    events := ReplayEvent.sortCanonical events, cheatSha256 := cheatSha256, finalStateSha256 := finalStateSha256,
    gameBoyLinkStartState := gameBoyLinkStartState, gameBoyLinkStartTick := gameBoyLinkStartTick,
    wonderSwanLinkStartTick := wonderSwanLinkStartTick, checkpoints := checkpoints,
    gameBoyLinkCoordinatorStartState := gameBoyLinkCoordinatorStartState }
  Reader.lift (metadata.validateLinkStart version.toNat)
  return metadata

def decode (bytes : Bytes) : Except String ReplayMetadata := (decodeFields bytes).map Prod.fst

/-- The metadata with its events and checkpoints in their stable canonical order. -/
def canonical (metadata : ReplayMetadata) : ReplayMetadata :=
  { metadata with
    events := ReplayEvent.sortCanonical metadata.events
    checkpoints := sortCheckpoints metadata.checkpoints }

end ReplayMetadata

structure ReplayStartMetadata where
  gameBoyLinkState : Option ReplayGameBoyLinkState := none
  gameBoyLinkTick : Option UInt64 := none
  wonderSwanLinkTick : Option UInt64 := none
  gameBoyLinkCoordinatorState : Option ReplayGameBoyLinkCoordinatorState := none
deriving DecidableEq

namespace ReplayStartMetadata

def magic : Bytes := utf8 "ZRST"
def version : UInt32 := 1
def replayMetadataVersion : Nat := 3

def validate (metadata : ReplayStartMetadata) : Except String Unit := do
  metadata.gameBoyLinkState.forM ReplayGameBoyLinkState.validate
  metadata.gameBoyLinkCoordinatorState.forM (fun coordinator => do
    let state ← context metadata.gameBoyLinkState "GB replay coordinator is missing its link start state"
    ensure metadata.gameBoyLinkTick.isSome "GB replay coordinator is missing its link start tick"
    coordinator.validateAgainst state)

end ReplayStartMetadata

open ReplayStartMetadata

def encodeReplayStartMetadata (metadata : ReplayStartMetadata) : Except String Bytes := do
  metadata.validate
  return ReplayStartMetadata.magic ++ (writeU32 ReplayStartMetadata.version ++
    (writeOptional (fun state => state.encode replayMetadataVersion) metadata.gameBoyLinkState ++
    (writeOptionalU64 metadata.gameBoyLinkTick ++ (writeOptionalU64 metadata.wonderSwanLinkTick ++
    writeOptional ReplayGameBoyLinkCoordinatorState.encode metadata.gameBoyLinkCoordinatorState))))

namespace ReplayStartMetadata
open MetadataCursor

def readOptionalU64 (name : String) : Reader (Option UInt64) :=
  readOptional (fun value => s!"invalid replay start metadata {name} tag: {value}") readU64

def decodeFields : Reader ReplayStartMetadata := do
  let start ← readExact 4
  Reader.lift (ensure (start = magic) "invalid replay start metadata magic")
  let found ← readU32
  Reader.lift (ensure (found = version) s!"unsupported replay start metadata version: {found}")
  let gameBoyLinkState ← readFlagged "GB link state present flag" (ReplayGameBoyLinkState.decode replayMetadataVersion)
  let gameBoyLinkTick ← readOptionalU64 "GB link tick"
  let wonderSwanLinkTick ← readOptionalU64 "WS link tick"
  let coordinator ← readFlagged "GB link coordinator present flag" ReplayGameBoyLinkCoordinatorState.decode
  finish
  let metadata := ⟨gameBoyLinkState,gameBoyLinkTick,wonderSwanLinkTick,coordinator⟩
  Reader.lift metadata.validate
  return metadata

end ReplayStartMetadata

def decodeReplayStartMetadata (bytes : Bytes) : Except String ReplayStartMetadata := (decodeFields bytes).map Prod.fst

def validateReplayStartEvents (metadata : ReplayStartMetadata) (events : List ReplayEvent) : Except String Unit := do
  metadata.validate
  match metadata.gameBoyLinkCoordinatorState,metadata.gameBoyLinkState with
  | some coordinator,_ => validateGameBoyLinkCoordinatorEvents coordinator events
  | none,some state => validateUncoordinatedGameBoyLinkStart state events
  | none,none => .ok ()

end ZeffBoy.Replay
