import ZeffBoy.Link.Packet
import ZeffBoy.Link.Uart
import ZeffBoy.Library.Patch
import ZeffBoy.Replay.Event

/-! The remote link of a WonderSwan.
A poll drains what has arrived, hands a due byte to the UART, sends what the UART completed
and the local clock, and drains once more. Cycles are counted from the first poll. -/
namespace ZeffBoy.Link.WonderSwan
open Library Replay

def eventTxByte : UInt8 := 1
def txBytePayloadLen : Nat := 1 + 8 + 8 + 4 + 1
def watermarkPayloadLen : Nat := 8
def watermarkIntervalCycles : Nat := cyclesPerFrame / 2
def maxRemoteLeadCycles : Nat := cyclesPerFrame * 2
def slowUartByteCycles : Nat := 3200
def remoteRxDelayCycles : Nat := slowUartByteCycles
def maxRxDeliveriesPerPoll : Nat := 1

structure LinkEvent where
  completedCycle : Nat
  generation : UInt64
  baudBps : UInt32
  byte : UInt8
deriving DecidableEq

inductive PayloadError
  | wrongLength (expected actual : Nat)
  | unknownEvent (kind : UInt8)
deriving DecidableEq

def encodeLinkEvent (event : LinkEvent) : Bytes :=
  eventTxByte::(leBytes 8 event.completedCycle ++ (leBytes 8 event.generation.toNat ++
    (leBytes 4 event.baudBps.toNat ++ [event.byte])))

def decodeLinkEvent (payload : Bytes) : Except PayloadError LinkEvent :=
  match payload.head? with
  | none => .error (.wrongLength 1 0)
  | some kind =>
    if kind ≠ eventTxByte then .error (.unknownEvent kind)
    else if payload.length ≠ txBytePayloadLen then .error (.wrongLength txBytePayloadLen payload.length)
    else .ok ⟨(readU64 payload 1).toNat,readU64 payload 9,readU32 payload 17,byteAt payload 21⟩

def encodeWatermark (sessionCycle : Nat) : Bytes := leBytes 8 sessionCycle

def decodeWatermark (payload : Bytes) : Except PayloadError Nat :=
  if payload.length ≠ watermarkPayloadLen then .error (.wrongLength watermarkPayloadLen payload.length)
  else .ok (readU64 payload 0).toNat

/-- A packet of the session, its payload read. -/
inductive Message
  | hello
  | linkEvent (event : LinkEvent)
  | disconnect
  | linkState (watermark : Nat)
deriving DecidableEq

namespace Message

def encode : Message → LinkPacketKind × Bytes
  | hello => (.hello,[])
  | linkEvent event => (.linkEvent,encodeLinkEvent event)
  | disconnect => (.disconnect,[])
  | linkState watermark => (.linkState,encodeWatermark watermark)

def decode (kind : LinkPacketKind) (payload : Bytes) : Except LinkSessionError Message :=
  match kind with
  | .hello => .ok hello
  | .disconnect => .ok disconnect
  | .linkEvent => ((decodeLinkEvent payload).map linkEvent).mapError fun _ => .malformedPacketPayload
  | .linkState => ((decodeWatermark payload).map linkState).mapError fun _ => .malformedPacketPayload

-- The session cycle a message carries, if any.
def cycle : Message → Nat
  | linkEvent event => event.completedCycle
  | linkState watermark => watermark
  | _ => 0

end Message

theorem readU64_leBytes (value : Nat) (rest : Bytes) (offset : Nat) (front : Bytes) (place : front.length = offset)
    (fits : value < 2^64) : (readU64 (front ++ (leBytes 8 value ++ rest)) offset).toNat = value := by
  subst place
  rw [readU64,slice_skip _ _ _ _ le_rfl,Nat.sub_self,Nat.add_sub_cancel_left,slice_front _ _ 8 (length_leBytes 8 value),
    leValue_leBytes 8 value fits,UInt64.toNat_ofNat_of_lt' fits]

theorem decodeLinkEvent_encode (event : LinkEvent) (fits : event.completedCycle < 2^64) :
    decodeLinkEvent (encodeLinkEvent event) = .ok event := by
  obtain ⟨completedCycle,generation,baudBps,byte⟩ := event
  have cycleField : (readU64 (encodeLinkEvent ⟨completedCycle,generation,baudBps,byte⟩) 1).toNat = completedCycle :=
    readU64_leBytes completedCycle _ 1 [eventTxByte] rfl fits
  have generationField : readU64 (encodeLinkEvent ⟨completedCycle,generation,baudBps,byte⟩) 9 = generation := by
    simp [readU64,encodeLinkEvent,slice_cons_skip,slice_skip,slice_front,ofNat_leBytes_word64]
  have baudField : readU32 (encodeLinkEvent ⟨completedCycle,generation,baudBps,byte⟩) 17 = baudBps := by
    simp [readU32,encodeLinkEvent,slice_cons_skip,slice_skip,slice_front,ofNat_leBytes_word32]
  have byteField : byteAt (encodeLinkEvent ⟨completedCycle,generation,baudBps,byte⟩) 21 = byte := by
    simp [encodeLinkEvent,byteAt_cons_skip,byteAt_skip]
  have length : (encodeLinkEvent ⟨completedCycle,generation,baudBps,byte⟩).length = txBytePayloadLen := by
    simp [encodeLinkEvent,txBytePayloadLen]
  have kind : (encodeLinkEvent ⟨completedCycle,generation,baudBps,byte⟩).head? = some eventTxByte := rfl
  simp only [decodeLinkEvent,kind,length,cycleField,generationField,baudField,byteField]
  simp

theorem decodeWatermark_encode (sessionCycle : Nat) (fits : sessionCycle < 2^64) :
    decodeWatermark (encodeWatermark sessionCycle) = .ok sessionCycle := by
  have cycleField : (readU64 (encodeWatermark sessionCycle) 0).toNat = sessionCycle := by
    simpa [encodeWatermark] using readU64_leBytes sessionCycle [] 0 [] rfl fits
  simp only [decodeWatermark,cycleField]
  simp [encodeWatermark,watermarkPayloadLen]

theorem Message.decode_encode (message : Message) (fits : message.cycle < 2^64) :
    Message.decode message.encode.1 message.encode.2 = .ok message := by
  cases message with
  | hello => rfl
  | disconnect => rfl
  | linkEvent event => simp [encode,decode,decodeLinkEvent_encode event fits,Except.mapError]
  | linkState watermark => simp [encode,decode,decodeWatermark_encode watermark fits,Except.mapError]

theorem leBytes_field {bytes : Bytes} {offset width : Nat} (inside : offset + width ≤ bytes.length) :
    leValue (slice bytes offset (offset + width)) < 256^width ∧
      leBytes width (leValue (slice bytes offset (offset + width))) = slice bytes offset (offset + width) := by
  have length := length_slice bytes offset (offset + width) inside
  rw [Nat.add_sub_cancel_left] at length
  have small := leValue_lt (slice bytes offset (offset + width))
  have back := leBytes_leValue (slice bytes offset (offset + width))
  rw [length] at small back
  exact ⟨small,back⟩

theorem leBytes_readU64 {bytes : Bytes} {offset : Nat} (inside : offset + 8 ≤ bytes.length) :
    leBytes 8 (readU64 bytes offset).toNat = slice bytes offset (offset + 8) := by
  obtain ⟨small,back⟩ := leBytes_field inside
  rw [readU64,UInt64.toNat_ofNat_of_lt' small,back]

theorem encodeLinkEvent_decode {payload : Bytes} {event : LinkEvent} (ok : decodeLinkEvent payload = .ok event) :
    event.completedCycle < 2^64 ∧ encodeLinkEvent event = payload := by
  unfold decodeLinkEvent at ok
  cases payload with
  | nil => cases ok
  | cons kind fields =>
    dsimp only [List.head?_cons] at ok
    split at ok
    · cases ok
    split at ok
    · cases ok
    rename_i tx length
    have length : (kind::fields).length = 22 := not_not.mp length
    cases ok
    obtain ⟨small,baud⟩ := @leBytes_field (kind::fields) 17 4 (by omega)
    have last : [byteAt (kind::fields) 21] = slice (kind::fields) 21 22 := by
      rw [slice,List.take_one,List.head?_drop,byteAt,List.getD_eq_getElem?_getD,List.getElem?_eq_getElem (by omega)]
      rfl
    refine ⟨UInt64.toNat_lt _,?_⟩
    rw [encodeLinkEvent,leBytes_readU64 (by omega),leBytes_readU64 (by omega),readU32,UInt32.toNat_ofNat_of_lt' small,baud,last,
      slice_split _ (by decide) (by decide),slice_split _ (by decide) (by decide),slice_split _ (by decide) (by decide),
      slice_cons_skip _ _ _ _ le_rfl,← not_not.mp tx]
    exact congrArg (kind::·) (slice_all fields 21 (Nat.succ.inj length))

/-- A packet with a payload is the one encoding of what it is read as. -/
theorem packets_canonical :
    (∀ message : Message, message.cycle < 2^64 → Message.decode message.encode.1 message.encode.2 = .ok message) ∧
      ∀ (kind : LinkPacketKind) (payload : Bytes) (message : Message), Message.decode kind payload = .ok message →
        message.cycle < 2^64 ∧ message.encode.1 = kind ∧ (kind ≠ .hello → kind ≠ .disconnect → message.encode.2 = payload) := by
  refine ⟨fun message => message.decode_encode,fun kind payload message ok => ?_⟩
  cases kind with
  | hello =>
    cases ok
    exact ⟨Nat.two_pow_pos 64,rfl,fun other => absurd rfl other⟩
  | disconnect =>
    cases ok
    exact ⟨Nat.two_pow_pos 64,rfl,fun _ other => absurd rfl other⟩
  | linkEvent =>
    dsimp only [Message.decode] at ok
    cases read : decodeLinkEvent payload with
    | error error =>
      rw [read] at ok
      cases ok
    | ok event =>
      rw [read] at ok
      cases ok
      obtain ⟨word,same⟩ := encodeLinkEvent_decode read
      exact ⟨word,rfl,fun _ _ => same⟩
  | linkState =>
    dsimp only [Message.decode,decodeWatermark] at ok
    split at ok
    · cases ok
    · rename_i length
      have length : payload.length = 8 := not_not.mp length
      cases ok
      exact ⟨UInt64.toNat_lt _,rfl,fun _ _ => (@leBytes_readU64 payload 0 length.ge).trans (slice_all payload 8 length)⟩

structure RemoteLink where
  connected : Bool
  localEpochCycle : Option Nat
  lastSentWatermark : Option Nat
  remoteWatermark : Option Nat
  inboundEvents : List LinkEvent
  nextRxDeliveryCycle : Option Nat
  recordedReplayEvents : List ReplayEvent

/-- A byte handed to the UART and the session cycle of that moment. -/
structure Delivery where
  event : LinkEvent
  cycle : Nat
deriving DecidableEq

/-- What a stage of a poll leaves behind. -/
structure Outcome where
  link : RemoteLink
  emulator : Emulator
  delivered : List Delivery
  sent : List Message

def byteCycles (baudBps : UInt32) : Nat := cpuClockHz / baudBps.toNat * 10

theorem byteCycles_le (baudBps : UInt32) : byteCycles baudBps ≤ cpuClockHz * 10 :=
  Nat.mul_le_mul_right 10 (Nat.div_le_self _ _)

theorem byteCycles_pos {baudBps : UInt32} (fair : FairBaud baudBps) : 0 < byteCycles baudBps :=
  Nat.mul_pos (Nat.div_pos fair.2 fair.1) (by decide)

namespace RemoteLink

def new : RemoteLink := ⟨true,none,none,none,[],none,[]⟩

def localSessionCycle (link : RemoteLink) (emulator : Emulator) : Nat :=
  emulator.busCycles - link.localEpochCycle.getD emulator.busCycles

def canAdvance (link : RemoteLink) (emulator : Emulator) : Prop :=
  link.localSessionCycle emulator ≤ link.remoteWatermark.getD 0 + maxRemoteLeadCycles

def initializeEpoch (link : RemoteLink) (emulator : Emulator) : RemoteLink × Emulator :=
  match link.localEpochCycle with
  | some _ => (link,emulator)
  | none => ({link with localEpochCycle := some emulator.busCycles},emulator.takeLinkTxEvents)

def drainIncoming (link : RemoteLink) : List Message → Except LinkSessionError RemoteLink
  | [] => .ok link
  | .linkEvent event::rest => drainIncoming {link with inboundEvents := link.inboundEvents ++ [event]} rest
  | .disconnect::_ => .error (.transport .disconnected)
  | .linkState watermark::rest =>
    drainIncoming {link with remoteWatermark := some ((link.remoteWatermark.map (max · watermark)).getD watermark)} rest
  | .hello::rest => drainIncoming link rest

def scheduledDeliveryCycle (link : RemoteLink) (event : LinkEvent) : Nat :=
  match link.nextRxDeliveryCycle with
  | none => event.completedCycle + remoteRxDelayCycles
  | some nextCycle => max (event.completedCycle + remoteRxDelayCycles) nextCycle

-- The loop of `deliver_due_events` over the inbound queue, with its count of delivered bytes.
def deliverFrom (localCycle : Nat) : List LinkEvent → Nat → RemoteLink → Emulator → Outcome
  | [], _, link, emulator => ⟨{link with inboundEvents := []},emulator,[],[]⟩
  | event::rest, delivered, link, emulator =>
    if link.scheduledDeliveryCycle event ≤ localCycle then
      if maxRxDeliveriesPerPoll ≤ delivered then
        ⟨{link with
          inboundEvents := event::rest
          nextRxDeliveryCycle := some (localCycle + byteCycles event.baudBps)},emulator,[],[]⟩
      else
        let later := deliverFrom localCycle rest (delivered + 1)
          {link with
            nextRxDeliveryCycle := some (localCycle + byteCycles event.baudBps)
            recordedReplayEvents := link.recordedReplayEvents ++
              [.wonderSwanLink emulator.frameCount emulator.cpuCycles
                (.remoteByte event.generation event.baudBps event.byte)]}
          (emulator.receiveLinkByte event.byte)
        {later with delivered := ⟨event,localCycle⟩::later.delivered}
    else ⟨{link with inboundEvents := event::rest},emulator,[],[]⟩

def deliverDueEvents (link : RemoteLink) (emulator : Emulator) : Outcome :=
  deliverFrom (link.localSessionCycle emulator) link.inboundEvents 0 link emulator

def sendEvent (link : RemoteLink) (event : TxEvent) : Option Message :=
  match link.localEpochCycle with
  | none => none
  | some epoch =>
    if event.completedCycle ≤ epoch then none
    else some (.linkEvent ⟨event.completedCycle - epoch,event.generation,event.baudBps,event.byte⟩)

def sendCompletedTxEvents (link : RemoteLink) (emulator : Emulator) : List Message × Emulator :=
  (emulator.uart.completedTxEvents.filterMap link.sendEvent,emulator.takeLinkTxEvents)

def sendWatermark (link : RemoteLink) (emulator : Emulator) : List Message × RemoteLink :=
  let sessionCycle := link.localSessionCycle emulator
  let shouldSend := match link.lastSentWatermark with
    | none => true
    | some last => sessionCycle = 0 ∨ watermarkIntervalCycles ≤ sessionCycle - last
  if shouldSend then ([.linkState sessionCycle],{link with lastSentWatermark := some sessionCycle}) else ([],link)

/-- A poll up to and including what it sends. -/
def beginPoll (link : RemoteLink) (emulator : Emulator) (arrived : List Message) : Except LinkSessionError Outcome :=
  if !link.connected then .error (.transport .disconnected)
  else do
    let (link,emulator) := link.initializeEpoch emulator
    let link ← link.drainIncoming arrived
    let due := link.deliverDueEvents emulator
    let (events,emulator) := due.link.sendCompletedTxEvents due.emulator
    let (watermark,link) := due.link.sendWatermark emulator
    return ⟨link,emulator,due.delivered,events ++ watermark⟩

def finishPoll (link : RemoteLink) (emulator : Emulator) (arrived : List Message) : Except LinkSessionError Outcome := do
  let link ← link.drainIncoming arrived
  return link.deliverDueEvents emulator

end RemoteLink
end ZeffBoy.Link.WonderSwan
