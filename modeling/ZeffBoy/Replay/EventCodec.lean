import ZeffBoy.Replay.Event

/-! The byte form of replay events.
Decoding what was encoded answers with the event itself when the link state inside
it is valid, and with that state's complaint otherwise. -/
namespace ZeffBoy.Replay
open Library MetadataCursor

def MediaEvent.encode : MediaEvent → Bytes
  | .insert slot mediaId side writeProtected =>
    0::(writeString slot.id ++ (writeString mediaId.id ++ (writeOptionalU8 side ++ [writeProtected.toUInt8])))
  | .eject slot => 1::writeString slot.id
  | .selectSide slot side => 2::(writeString slot.id ++ [side])
  | .setWriteProtected slot writeProtected => 3::(writeString slot.id ++ [writeProtected.toUInt8])

def MediaEvent.decode : Reader MediaEvent := do
  let tag ← readU8
  match tag.toNat with
  | 0 => do
    let slot ← readString
    let mediaId ← readString
    let side ← readOptionalU8 "media insert side"
    let writeProtected ← readBool "media insert write-protected flag"
    return .insert ⟨slot⟩ ⟨mediaId⟩ side writeProtected
  | 1 => do
    let slot ← readString
    return .eject ⟨slot⟩
  | 2 => do
    let slot ← readString
    let side ← readU8
    return .selectSide ⟨slot⟩ side
  | 3 => do
    let slot ← readString
    let writeProtected ← readBool "media write-protected flag"
    return .setWriteProtected ⟨slot⟩ writeProtected
  | _ => Reader.fail s!"unknown replay media event tag: {tag}"

def ReplayGameBoyLinkReply.encode (reply : ReplayGameBoyLinkReply) : Bytes :=
  reply.outByte::reply.passive.toUInt8::writeU64 reply.serialGeneration

def ReplayGameBoyLinkReply.decode : Reader ReplayGameBoyLinkReply := do
  let outByte ← readU8
  let passive ← readBool "GB remote-master local reply passive flag"
  let serialGeneration ← readU64
  return ⟨outByte,passive,serialGeneration⟩

def ReplayGameBoyLinkAction.encode (action : ReplayGameBoyLinkAction) : Bytes :=
  action.outByte::(writeU64 action.clockPeriodTCycles ++ writeU64 action.serialGeneration)

def ReplayGameBoyLinkAction.decode : Reader ReplayGameBoyLinkAction := do
  let outByte ← readU8
  let clockPeriodTCycles ← readU64
  let serialGeneration ← readU64
  return ⟨outByte,clockPeriodTCycles,serialGeneration⟩

def ReplayGameBoyLinkEvent.encode : ReplayGameBoyLinkEvent → Bytes
  | .localMasterStart transferId clockPeriodTCycles outByte serialGeneration =>
    3::(writeU64 transferId ++ (writeU64 clockPeriodTCycles ++ (outByte::writeU64 serialGeneration)))
  | .remoteMasterStart transferId clockPeriodTCycles outByte serialGeneration (some reply) =>
    2::(writeU64 transferId ++ (writeU64 clockPeriodTCycles ++
      (outByte::(writeU64 serialGeneration ++ reply.encode))))
  | .remoteMasterStart transferId clockPeriodTCycles outByte serialGeneration none =>
    0::(writeU64 transferId ++ (writeU64 clockPeriodTCycles ++ (outByte::writeU64 serialGeneration)))
  | .remoteReply transferId outByte passive serialGeneration =>
    1::(writeU64 transferId ++ (outByte::passive.toUInt8::writeU64 serialGeneration))

def ReplayGameBoyLinkEvent.decode : Reader ReplayGameBoyLinkEvent := do
  let tag ← readU8
  match tag.toNat with
  | 0 => do
    let transferId ← readU64
    let clockPeriodTCycles ← readU64
    let outByte ← readU8
    let serialGeneration ← readU64
    return .remoteMasterStart transferId clockPeriodTCycles outByte serialGeneration none
  | 1 => do
    let transferId ← readU64
    let outByte ← readU8
    let passive ← readBool "GB link reply passive flag"
    let serialGeneration ← readU64
    return .remoteReply transferId outByte passive serialGeneration
  | 2 => do
    let transferId ← readU64
    let clockPeriodTCycles ← readU64
    let outByte ← readU8
    let serialGeneration ← readU64
    let localReply ← ReplayGameBoyLinkReply.decode
    return .remoteMasterStart transferId clockPeriodTCycles outByte serialGeneration (some localReply)
  | 3 => do
    let transferId ← readU64
    let clockPeriodTCycles ← readU64
    let outByte ← readU8
    let serialGeneration ← readU64
    return .localMasterStart transferId clockPeriodTCycles outByte serialGeneration
  | _ => Reader.fail s!"unknown GB replay link event tag: {tag}"

def ReplayGameBoyLinkCoordinatorOwner.encode : ReplayGameBoyLinkCoordinatorOwner → UInt8
  | .replayAwaitingReply => 0
  | .coreHasReply => 1

def ReplayGameBoyLinkCoordinatorOwner.decode : Reader ReplayGameBoyLinkCoordinatorOwner := do
  let tag ← readU8
  match tag.toNat with
  | 0 => return .replayAwaitingReply
  | 1 => return .coreHasReply
  | _ => Reader.fail s!"unknown GB master continuation owner tag: {tag}"

def ReplayGameBoyLinkCoordinatorState.encode (self : ReplayGameBoyLinkCoordinatorState) : Bytes :=
  writeU64 self.transferId ++ (self.action.encode ++
    (self.owner.encode::writeOptional ReplayGameBoyLinkReply.encode self.reply))

def ReplayGameBoyLinkCoordinatorState.decode : Reader ReplayGameBoyLinkCoordinatorState := do
  let transferId ← readU64
  let action ← ReplayGameBoyLinkAction.decode
  let owner ← ReplayGameBoyLinkCoordinatorOwner.decode
  let reply ← readFlagged "GB master continuation reply present flag" ReplayGameBoyLinkReply.decode
  return ⟨transferId,action,owner,reply⟩

def ReplayGameBoyPassiveCompletion.encode (completion : ReplayGameBoyPassiveCompletion) : Bytes :=
  completion.peerByte::writeU64 completion.remainingTCycles

def ReplayGameBoyPassiveCompletion.decode : Reader ReplayGameBoyPassiveCompletion := do
  let peerByte ← readU8
  let remainingTCycles ← readU64
  return ⟨peerByte,remainingTCycles⟩

namespace ReplayGameBoyLinkState

def encode (state : ReplayGameBoyLinkState) (metadataVersion : Nat) : Bytes :=
  state.peerPresent.toUInt8::(writeOptionalU8 state.pendingMasterByte ++
    (writeOptionalU8 state.pendingMasterResponse ++ (state.pendingMasterCompletionReady.toUInt8::
      (writeOptional ReplayGameBoyLinkAction.encode state.queuedMasterAction ++ (writeU64 state.serialGeneration ++
        (if 2 ≤ metadataVersion then
          writeOptional ReplayGameBoyPassiveCompletion.encode state.pendingPassiveCompletion
        else
          []))))))

-- The passive completion is part of the state since metadata version 2.
def decodePassiveCompletion (metadataVersion : Nat) : Reader (Option ReplayGameBoyPassiveCompletion) :=
  if 2 ≤ metadataVersion then
    readFlagged "GB link passive completion present flag" ReplayGameBoyPassiveCompletion.decode
  else
    pure none

def decode (metadataVersion : Nat) : Reader ReplayGameBoyLinkState := do
  let peerPresent ← readBool "GB link start peer-present flag"
  let pendingMasterByte ← readOptionalU8 "GB link start pending master byte"
  let pendingMasterResponse ← readOptionalU8 "GB link start pending master response"
  let pendingMasterCompletionReady ← readBool "GB link start pending master completion flag"
  let queuedMasterAction ← readFlagged "GB link start queued action flag" ReplayGameBoyLinkAction.decode
  let serialGeneration ← readU64
  let pendingPassiveCompletion ← decodePassiveCompletion metadataVersion
  Reader.lift (checkedBy validate ⟨peerPresent,pendingMasterByte,pendingMasterResponse,pendingMasterCompletionReady,
    queuedMasterAction,pendingPassiveCompletion,serialGeneration⟩)

end ReplayGameBoyLinkState

def ReplayWonderSwanLinkEvent.encode : ReplayWonderSwanLinkEvent → Bytes
  | .remoteByte generation baudBps byte => 0::(writeU64 generation ++ (writeU32 baudBps ++ [byte]))

def ReplayWonderSwanLinkEvent.decode : Reader ReplayWonderSwanLinkEvent := do
  let tag ← readU8
  match tag.toNat with
  | 0 => do
    let generation ← readU64
    let baudBps ← readU32
    let byte ← readU8
    return .remoteByte generation baudBps byte
  | _ => Reader.fail s!"unknown WonderSwan replay link event tag: {tag}"

namespace ReplayEvent

def encode (event : ReplayEvent) (metadataVersion : Nat) : Bytes :=
  match event with
  | fdsDiskSide frame side => 0::(writeU64 frame ++ [side])
  | media frame sequence event => 5::(writeU64 frame ++ (writeU32 sequence ++ event.encode))
  | gameBoyLink frame tick event => 1::(writeU64 frame ++ (writeU64 tick ++ event.encode))
  | gameBoyLinkState frame state => 3::(writeU64 frame ++ state.encode metadataVersion)
  | gameBoyLinkStateAtTick frame tick state =>
    4::(writeU64 frame ++ (writeU64 tick ++ state.encode metadataVersion))
  | wonderSwanLink frame sessionCycle event => 2::(writeU64 frame ++ (writeU64 sessionCycle ++ event.encode))

def decode (metadataVersion : Nat) : Reader ReplayEvent := do
  let tag ← readU8
  match tag.toNat with
  | 0 => do
    let frame ← readU64
    let side ← readU8
    return fdsDiskSide frame side
  | 5 => do
    let frame ← readU64
    let sequence ← readU32
    let event ← MediaEvent.decode
    return media frame sequence event
  | 1 => do
    let frame ← readU64
    let tick ← readU64
    let event ← ReplayGameBoyLinkEvent.decode
    return gameBoyLink frame tick event
  | 3 => do
    let frame ← readU64
    let state ← ReplayGameBoyLinkState.decode metadataVersion
    return gameBoyLinkState frame state
  | 4 => do
    let frame ← readU64
    let tick ← readU64
    let state ← ReplayGameBoyLinkState.decode metadataVersion
    return gameBoyLinkStateAtTick frame tick state
  | 2 => do
    let frame ← readU64
    let sessionCycle ← readU64
    let event ← ReplayWonderSwanLinkEvent.decode
    return wonderSwanLink frame sessionCycle event
  | _ => Reader.fail s!"unknown replay event tag: {tag}"

end ReplayEvent

/-- The strings of an event that the format can hold. -/
def MediaEvent.Fits : MediaEvent → Prop
  | .insert slot mediaId _ _ => Replay.Fits slot.id ∧ Replay.Fits mediaId.id
  | .eject slot => Replay.Fits slot.id
  | .selectSide slot _ => Replay.Fits slot.id
  | .setWriteProtected slot _ => Replay.Fits slot.id

def ReplayEvent.Fits : ReplayEvent → Prop
  | .media _ _ event => event.Fits
  | _ => True

def ReplayEvent.validateState : ReplayEvent → Except String Unit
  | .gameBoyLinkState _ state => state.validate
  | .gameBoyLinkStateAtTick _ _ state => state.validate
  | _ => .ok ()

@[simp] theorem run_mediaEvent (event : MediaEvent) (fits : event.Fits) (rest : Bytes) :
    MediaEvent.decode (event.encode ++ rest) = .ok (event,rest) := by
  cases event with
  | insert slot mediaId side writeProtected => simp [MediaEvent.decode,MediaEvent.encode,fits.1,fits.2]
  | eject slot => simp [MediaEvent.decode,MediaEvent.encode,show Fits slot.id from fits]
  | selectSide slot side => simp [MediaEvent.decode,MediaEvent.encode,show Fits slot.id from fits]
  | setWriteProtected slot writeProtected => simp [MediaEvent.decode,MediaEvent.encode,show Fits slot.id from fits]

@[simp] theorem run_reply (reply : ReplayGameBoyLinkReply) (rest : Bytes) :
    ReplayGameBoyLinkReply.decode (reply.encode ++ rest) = .ok (reply,rest) := by
  simp [ReplayGameBoyLinkReply.decode,ReplayGameBoyLinkReply.encode]

@[simp] theorem run_action (action : ReplayGameBoyLinkAction) (rest : Bytes) :
    ReplayGameBoyLinkAction.decode (action.encode ++ rest) = .ok (action,rest) := by
  simp [ReplayGameBoyLinkAction.decode,ReplayGameBoyLinkAction.encode]

@[simp] theorem run_linkEvent (event : ReplayGameBoyLinkEvent) (rest : Bytes) :
    ReplayGameBoyLinkEvent.decode (event.encode ++ rest) = .ok (event,rest) := by
  cases event with
  | localMasterStart => simp [ReplayGameBoyLinkEvent.decode,ReplayGameBoyLinkEvent.encode]
  | remoteMasterStart transferId period outByte generation localReply =>
    cases localReply <;> simp [ReplayGameBoyLinkEvent.decode,ReplayGameBoyLinkEvent.encode]
  | remoteReply => simp [ReplayGameBoyLinkEvent.decode,ReplayGameBoyLinkEvent.encode]

@[simp] theorem run_owner (owner : ReplayGameBoyLinkCoordinatorOwner) (rest : Bytes) :
    ReplayGameBoyLinkCoordinatorOwner.decode (owner.encode::rest) = .ok (owner,rest) := by
  cases owner <;> rfl

@[simp] theorem run_readFlagged_ok {α : Type} (name : String) (item : Reader α) (write : α → Bytes)
    (value : Option α) (rest : Bytes) (reads : ∀ inner, item (write inner ++ rest) = .ok (inner,rest)) :
    readFlagged name item (writeOptional write value ++ rest) = .ok (value,rest) := by
  rw [run_readFlagged name item write .ok value rest (fun inner _ => reads inner)]
  cases value <;> rfl

@[simp] theorem run_coordinatorState (state : ReplayGameBoyLinkCoordinatorState) (rest : Bytes) :
    ReplayGameBoyLinkCoordinatorState.decode (state.encode ++ rest) = .ok (state,rest) := by
  simp [ReplayGameBoyLinkCoordinatorState.decode,ReplayGameBoyLinkCoordinatorState.encode]

@[simp] theorem run_passiveCompletion (completion : ReplayGameBoyPassiveCompletion) (rest : Bytes) :
    ReplayGameBoyPassiveCompletion.decode (completion.encode ++ rest) = .ok (completion,rest) := by
  simp [ReplayGameBoyPassiveCompletion.decode,ReplayGameBoyPassiveCompletion.encode]

@[simp] theorem run_wonderSwanLinkEvent (event : ReplayWonderSwanLinkEvent) (rest : Bytes) :
    ReplayWonderSwanLinkEvent.decode (event.encode ++ rest) = .ok (event,rest) := by
  cases event
  simp [ReplayWonderSwanLinkEvent.decode,ReplayWonderSwanLinkEvent.encode]

@[simp] theorem run_linkState (state : ReplayGameBoyLinkState) (metadataVersion : Nat) (current : 2 ≤ metadataVersion)
    (rest : Bytes) : ReplayGameBoyLinkState.decode metadataVersion (state.encode metadataVersion ++ rest) =
      (checkedBy ReplayGameBoyLinkState.validate state).map (fun state => (state,rest)) := by
  simp [ReplayGameBoyLinkState.decode,ReplayGameBoyLinkState.encode,ReplayGameBoyLinkState.decodePassiveCompletion,
    current]

theorem run_event (event : ReplayEvent) (metadataVersion : Nat) (current : 2 ≤ metadataVersion) (fits : event.Fits)
    (rest : Bytes) : ReplayEvent.decode metadataVersion (event.encode metadataVersion ++ rest) =
      (checkedBy ReplayEvent.validateState event).map (fun event => (event,rest)) := by
  cases event with
  | fdsDiskSide => simp [ReplayEvent.decode,ReplayEvent.encode,checkedBy,ReplayEvent.validateState]
  | media frame sequence event =>
    simp [ReplayEvent.decode,ReplayEvent.encode,checkedBy,ReplayEvent.validateState,show event.Fits from fits]
  | gameBoyLink => simp [ReplayEvent.decode,ReplayEvent.encode,checkedBy,ReplayEvent.validateState]
  | gameBoyLinkState frame state =>
    simp [ReplayEvent.decode,ReplayEvent.encode,checkedBy,ReplayEvent.validateState,current]
    cases state.validate <;> rfl
  | gameBoyLinkStateAtTick frame tick state =>
    simp [ReplayEvent.decode,ReplayEvent.encode,checkedBy,ReplayEvent.validateState,current]
    cases state.validate <;> rfl
  | wonderSwanLink => simp [ReplayEvent.decode,ReplayEvent.encode,checkedBy,ReplayEvent.validateState]

end ZeffBoy.Replay
