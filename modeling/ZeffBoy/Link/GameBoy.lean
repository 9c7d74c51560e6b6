import ZeffBoy.Link.Packet
import ZeffBoy.Link.Serial
import ZeffBoy.Replay.Event

/-! The live remote link of a Game Boy.
A poll is followed stage by stage, one packet at a time, since the peer may act between any two
packets. What a poll finds waiting is given with each stage. -/
namespace ZeffBoy.Link.GameBoy
open Library Replay

def eventMasterStart : UInt8 := 1
def eventTransferReply : UInt8 := 2
def masterStartPayloadLen : Nat := 1 + 8 + 8 + 8 + 1 + 8
def transferReplyPayloadLen : Nat := 1 + 8 + 8 + 1 + 1 + 8

inductive GameBoyLinkEvent
  | masterStart (transferId startTick : UInt64) (action : GameBoyLinkAction)
  | transferReply (transferId sampleTick : UInt64) (reply : GameBoyLinkReply)
deriving DecidableEq

inductive GameBoyLinkPayloadError
  | wrongLength (expected actual : Nat)
  | unknownEvent (kind : UInt8)
deriving DecidableEq

def encodeGameBoyLinkEvent : GameBoyLinkEvent → Bytes
  | .masterStart transferId startTick action =>
    eventMasterStart::(leBytes 8 transferId.toNat ++ (leBytes 8 startTick.toNat ++
      (leBytes 8 action.clockPeriodTCycles.toNat ++ (action.outByte::leBytes 8 action.serialGeneration.toNat))))
  | .transferReply transferId sampleTick reply =>
    eventTransferReply::(leBytes 8 transferId.toNat ++ (leBytes 8 sampleTick.toNat ++
      (reply.outByte::reply.passive.toUInt8::leBytes 8 reply.serialGeneration.toNat)))

def decodeGameBoyLinkEvent (payload : Bytes) : Except GameBoyLinkPayloadError GameBoyLinkEvent :=
  match payload.head? with
  | none => .error (.wrongLength 1 0)
  | some kind =>
    if kind = eventMasterStart then
      if payload.length ≠ masterStartPayloadLen then .error (.wrongLength masterStartPayloadLen payload.length)
      else .ok (.masterStart (readU64 payload 1) (readU64 payload 9)
        ⟨byteAt payload 25,readU64 payload 17,readU64 payload 26⟩)
    else if kind = eventTransferReply then
      if payload.length ≠ transferReplyPayloadLen then .error (.wrongLength transferReplyPayloadLen payload.length)
      else .ok (.transferReply (readU64 payload 1) (readU64 payload 9)
        ⟨byteAt payload 17,byteAt payload 18 ≠ 0,readU64 payload 19⟩)
    else .error (.unknownEvent kind)

theorem length_encodeGameBoyLinkEvent (event : GameBoyLinkEvent) : (encodeGameBoyLinkEvent event).length < 65536 := by
  cases event <;> simp [encodeGameBoyLinkEvent]

theorem decodeGameBoyLinkEvent_encode (event : GameBoyLinkEvent) :
    decodeGameBoyLinkEvent (encodeGameBoyLinkEvent event) = .ok event := by
  cases event with
  | masterStart transferId startTick action =>
    obtain ⟨outByte,period,generation⟩ := action
    simp [decodeGameBoyLinkEvent,encodeGameBoyLinkEvent,eventMasterStart,masterStartPayloadLen,readU64,slice_cons_skip,
      slice_skip,slice_front,slice_all,byteAt_cons_skip,byteAt_skip,ofNat_leBytes_word64]
  | transferReply transferId sampleTick reply =>
    obtain ⟨outByte,passive,generation⟩ := reply
    have flag : decide (passive.toUInt8 ≠ 0) = passive := by cases passive <;> rfl
    simp [decodeGameBoyLinkEvent,encodeGameBoyLinkEvent,eventMasterStart,eventTransferReply,transferReplyPayloadLen,readU64,
      slice_cons_skip,slice_skip,slice_front,slice_all,byteAt_cons_skip,byteAt_skip,ofNat_leBytes_word64]
    simpa using flag

def masterReplySpinLimit : Nat := 64
def passiveRearmGraceTCycles : Nat := 4096

/-- The parts of the machine a poll reads and drives. -/
structure Emulator where
  serial : Serial
  cpuCycles : Nat
  frameCount : UInt64
  interrupted : Bool
deriving DecidableEq

structure PendingMasterTransfer where
  id : UInt64
  startTick : Nat
  action : GameBoyLinkAction
deriving DecidableEq

structure PassiveDrainGate where
  completionTick : Nat
  rearmDeadlineTick : Nat
deriving DecidableEq

structure RemoteLink where
  connected : Bool
  session : LinkSession
  nextTransferId : UInt64
  pendingMasterTransfer : Option PendingMasterTransfer
  passiveDrainGate : Option PassiveDrainGate
  recordedReplayEvents : List ReplayEvent
deriving DecidableEq

/-- Where a poll stands. The spin for a reply keeps its remaining tries. -/
inductive Stage
  | idle
  | draining
  | announcing
  | spinning (tries : Nat)
  | drainingAgain
deriving DecidableEq

/-- What a stage leaves behind: the link, the machine and the packets sent. -/
structure Outcome where
  link : RemoteLink
  emulator : Emulator
  sent : List Bytes
deriving DecidableEq

namespace Emulator

/-- `apply_game_boy_link_reply`, which raises the serial interrupt when the transfer is over. -/
def applyLinkReply (emulator : Emulator) (reply : GameBoyLinkReply) : Bool × Emulator :=
  let (completed,serial) := emulator.serial.applyLinkReply reply
  (completed,{emulator with
    serial := serial
    interrupted := emulator.interrupted || completed && serial.pendingLinkByte.isNone})

end Emulator

namespace RemoteLink

def new (endpoint : UInt8) : RemoteLink := ⟨true,.new .gameBoy endpoint,0,none,none,[]⟩

def recordReplayEvent (link : RemoteLink) (emulator : Emulator) (event : ReplayGameBoyLinkEvent) : RemoteLink :=
  {link with recordedReplayEvents := link.recordedReplayEvents ++
    [.gameBoyLink emulator.frameCount (UInt64.ofNat emulator.cpuCycles) event]}

def sendEvent (link : RemoteLink) (event : GameBoyLinkEvent) : Bytes × RemoteLink :=
  let (bytes,session) := link.session.send .linkEvent (encodeGameBoyLinkEvent event)
  (bytes,{link with session := session})

def allocateTransferId (link : RemoteLink) : UInt64 × RemoteLink :=
  (link.session.endpoint.toUInt64 <<< 56 ||| link.nextTransferId &&& 0x00FFFFFFFFFFFFFF,
    {link with nextTransferId := link.nextTransferId + 1})

/-- Whether the gate behind a passive transfer lets the next packet through, and the gate afterwards. -/
def passiveCompletionAllowsNextPacket (link : RemoteLink) (emulator : Emulator) : Bool × RemoteLink :=
  match link.passiveDrainGate with
  | none => (true,link)
  | some gate =>
    if emulator.cpuCycles < gate.completionTick ∨
        emulator.cpuCycles < gate.rearmDeadlineTick ∧ !emulator.serial.replyToMasterStart.passive then (false,link)
    else (true,{link with passiveDrainGate := none})

def handleMasterStart (link : RemoteLink) (emulator : Emulator) (transferId : UInt64) (action : GameBoyLinkAction) :
    Except LinkSessionError Outcome :=
  let reply := emulator.serial.replyToMasterStart
  let link := link.recordReplayEvent emulator (.remoteMasterStart transferId action.clockPeriodTCycles action.outByte
    action.serialGeneration (some ⟨reply.outByte,reply.passive,reply.serialGeneration⟩))
  let answer (link : RemoteLink) (emulator : Emulator) : Outcome :=
    let (bytes,link) := link.sendEvent (.transferReply transferId (UInt64.ofNat emulator.cpuCycles) reply)
    ⟨link,emulator,[bytes]⟩
  if reply.passive then
    let period := action.clockPeriodTCycles.toNat
    let completionTick := emulator.cpuCycles + period
    let rearmDeadlineTick := completionTick + max period passiveRearmGraceTCycles
    if period = 0 then .error .malformedPacketPayload
    else if 2^64 ≤ completionTick then .error .malformedPacketPayload
    else if 2^64 ≤ rearmDeadlineTick then .error .malformedPacketPayload
    else
      match emulator.serial.scheduleExternalFromMaster action.outByte period with
      | (false,_) => .error .malformedPacketPayload
      | (true,serial) =>
        .ok (answer {link with passiveDrainGate := some ⟨completionTick,rearmDeadlineTick⟩} {emulator with serial := serial})
  else .ok (answer link emulator)

def handleTransferReply (link : RemoteLink) (emulator : Emulator) (transferId : UInt64) (reply : GameBoyLinkReply) :
    Except LinkSessionError Outcome :=
  if link.pendingMasterTransfer.map PendingMasterTransfer.id ≠ some transferId then .error .malformedPacketPayload
  else
    match emulator.applyLinkReply reply with
    | (false,_) => .error .malformedPacketPayload
    | (true,applied) =>
      .ok ⟨{link.recordReplayEvent applied (.remoteReply transferId reply.outByte reply.passive reply.serialGeneration) with
        pendingMasterTransfer := none},applied,[]⟩

def handleEvent (link : RemoteLink) (emulator : Emulator) : GameBoyLinkEvent → Except LinkSessionError Outcome
  | .masterStart transferId _ action => link.handleMasterStart emulator transferId action
  | .transferReply transferId _ reply => link.handleTransferReply emulator transferId reply

/-- One packet out of the transport. -/
def handlePacket (link : RemoteLink) (emulator : Emulator) (bytes : Bytes) : Except LinkSessionError Outcome := do
  let packet ← link.session.receivePacket bytes
  match packet.kind with
  | .linkEvent => do
    let event ← (decodeGameBoyLinkEvent packet.payload).mapError fun _ => .malformedPacketPayload
    link.handleEvent emulator event
  | .disconnect => .error (.transport .disconnected)
  | .hello => .ok ⟨link,emulator,[]⟩
  | .linkState => .ok ⟨link,emulator,[]⟩

def sendPendingMasterStart (link : RemoteLink) (emulator : Emulator) : Except LinkSessionError Outcome :=
  match emulator.serial.takeLinkAction with
  | (none,serial) => .ok ⟨link,{emulator with serial := serial},[]⟩
  | (some action,serial) =>
    if link.pendingMasterTransfer.isSome then .error .malformedPacketPayload
    else
      let (transferId,link) := link.allocateTransferId
      let link := {link with pendingMasterTransfer := some ⟨transferId,emulator.cpuCycles,action⟩}
      let link := link.recordReplayEvent emulator
        (.localMasterStart transferId action.clockPeriodTCycles action.outByte action.serialGeneration)
      let (bytes,link) := link.sendEvent (.masterStart transferId (UInt64.ofNat emulator.cpuCycles) action)
      .ok ⟨link,{emulator with serial := serial},[bytes]⟩

end RemoteLink

/-- One turn of a loop of `drain_incoming`: `none` stands for an empty transport. The flag tells whether to go on. -/
def drainTurn (link : RemoteLink) (emulator : Emulator) (arrived : Option Bytes) :
    Except LinkSessionError (Bool × Outcome) :=
  match link.passiveCompletionAllowsNextPacket emulator with
  | (false,link) => .ok (false,⟨link,emulator,[]⟩)
  | (true,link) =>
    match arrived with
    | none => .ok (false,⟨link,emulator,[]⟩)
    | some bytes => (link.handlePacket emulator bytes).map fun outcome => (true,outcome)

/-- Whether a stage looks into the transport, once the gate lets it. -/
def takesPacket (stage : Stage) (link : RemoteLink) (emulator : Emulator) : Bool :=
  match stage with
  | .draining => (link.passiveCompletionAllowsNextPacket emulator).1
  | .drainingAgain => (link.passiveCompletionAllowsNextPacket emulator).1
  | .spinning (_ + 1) => link.pendingMasterTransfer.isSome && (link.passiveCompletionAllowsNextPacket emulator).1
  | _ => false

/-- `poll_emulator`, one stage at a time. -/
def pollStage (stage : Stage) (link : RemoteLink) (emulator : Emulator) (arrived : Option Bytes) :
    Except LinkSessionError (Stage × Outcome) :=
  match stage with
  | .idle =>
    if !link.connected then .error (.transport .disconnected)
    else .ok (.draining,⟨link,{emulator with serial := emulator.serial.setLinkPeerPresent true},[]⟩)
  | .draining => do
    let (more,outcome) ← drainTurn link emulator arrived
    return (if more then .draining else .announcing,outcome)
  | .announcing => do
    let outcome ← link.sendPendingMasterStart emulator
    return (if outcome.emulator.serial.waitingAtLinkCompletionBoundary then .spinning masterReplySpinLimit else .drainingAgain,outcome)
  | .spinning 0 => .ok (.drainingAgain,⟨link,emulator,[]⟩)
  | .spinning (tries + 1) =>
    if link.pendingMasterTransfer.isNone then .ok (.drainingAgain,⟨link,emulator,[]⟩)
    else
      match link.passiveCompletionAllowsNextPacket emulator with
      | (false,link) => .ok (.drainingAgain,⟨link,emulator,[]⟩)
      | (true,link) =>
        match arrived with
        | none => .ok (.spinning tries,⟨link,emulator,[]⟩)
        | some bytes => (link.handlePacket emulator bytes).map fun outcome => (.spinning tries,outcome)
  | .drainingAgain => do
    let (more,outcome) ← drainTurn link emulator arrived
    return (if more then .drainingAgain else .idle,outcome)

end ZeffBoy.Link.GameBoy
