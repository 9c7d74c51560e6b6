import ZeffBoy.Link.SerialInvariant
import ZeffBoy.Library.Transition
import ZeffBoy.Netplay.Rollback

/-! Two Game Boys over reliable ordered channels.
Guests write their serial registers and let time pass between polls; polls advance one stage at a
time, so that either side may act between any two packets of the other. -/
namespace ZeffBoy.Link.GameBoy
open Library Netplay Replay List

/-- One side. The log of bytes a master shifted in, each with the number of its transfer, is read by no step. -/
structure Endpoint where
  link : RemoteLink
  emulator : Emulator
  stage : Stage
  inbox : List Bytes
  handled : List (UInt64 × UInt8)
  shifted : List (Nat × UInt8)

abbrev Pair := Ports Endpoint

/-- What a packet of an honest peer says. -/
def eventOf (bytes : Bytes) : Option GameBoyLinkEvent :=
  match LinkPacket.decode bytes with
  | .error _ => none
  | .ok packet =>
    if packet.system = .gameBoy ∧ packet.kind = .linkEvent then (decodeGameBoyLinkEvent packet.payload).toOption else none

def startOf (bytes : Bytes) : Option (UInt64 × GameBoyLinkAction) :=
  match eventOf bytes with
  | some (.masterStart transferId _ action) => some (transferId,action)
  | _ => none

def replyOf (bytes : Bytes) : Option (UInt64 × UInt8) :=
  match eventOf bytes with
  | some (.transferReply transferId _ reply) => some (transferId,reply.outByte)
  | _ => none

-- The transfers of the link's own log: announced by this side, and answered by the other.
def announcedId : ReplayEvent → Option UInt64
  | .gameBoyLink _ _ (.localMasterStart transferId _ _ _) => some transferId
  | _ => none

def repliedId : ReplayEvent → Option UInt64
  | .gameBoyLink _ _ (.remoteReply transferId _ _ _) => some transferId
  | _ => none

def RemoteLink.announced (link : RemoteLink) : List UInt64 := link.recordedReplayEvents.filterMap announcedId

def Answered (log : List ReplayEvent) : Prop :=
  ∀ before event after transferId, log = before ++ event::after → repliedId event = some transferId →
    (before.filterMap announcedId).getLast? = some transferId

theorem Answered.append {log : List ReplayEvent} (answered : Answered log) (event : ReplayEvent)
    (latest : ∀ transferId, repliedId event = some transferId → (log.filterMap announcedId).getLast? = some transferId) :
    Answered (log ++ [event]) := by
  intro before reply after transferId split replied
  rcases eq_nil_or_concat after with rfl | ⟨earlier,last,rfl⟩
  · obtain ⟨rfl,same⟩ := append_inj' split rfl
    cases same
    exact latest transferId replied
  · rw [concat_eq_append,← cons_append,← append_assoc] at split
    exact answered before reply earlier transferId (append_inj' split rfl).1 replied

namespace Endpoint

def initial (endpoint : UInt8) (emulator : Emulator) : Endpoint := ⟨.new endpoint,emulator,.idle,[],[],[]⟩

-- A pending byte that is gone was shifted in, unless the guest dropped it.
def shiftedBy (endpoint : Endpoint) (link : RemoteLink) (emulator : Emulator) : List (Nat × UInt8) :=
  if endpoint.emulator.serial.pendingLinkByte.isSome ∧ emulator.serial.pendingLinkByte = none then
    endpoint.shifted ++ [(link.announced.length - 1,emulator.serial.sb)]
  else endpoint.shifted

def writeSb (endpoint : Endpoint) (value : UInt8) : Endpoint :=
  {endpoint with emulator := {endpoint.emulator with serial := endpoint.emulator.serial.writeSb value}}

def writeSc (endpoint : Endpoint) (value : UInt8) : Endpoint :=
  {endpoint with emulator := {endpoint.emulator with serial := endpoint.emulator.serial.writeSc value}}

/-- The guest runs for some cycles without touching the serial registers. -/
def step (endpoint : Endpoint) (cycles : Nat) (device : Device) : Endpoint :=
  let emulator := {endpoint.emulator with
    serial := endpoint.emulator.serial.stepSerial cycles device
    cpuCycles := endpoint.emulator.cpuCycles + cycles}
  {endpoint with emulator := emulator, shifted := endpoint.shiftedBy endpoint.link emulator}

def arrival (endpoint : Endpoint) (arrived : Bool) : Option Bytes :=
  if arrived && takesPacket endpoint.stage endpoint.link endpoint.emulator then endpoint.inbox.head? else none

def polled (endpoint : Endpoint) (packet : Option Bytes) (stage : Stage) (outcome : Outcome) : Endpoint where
  link := outcome.link
  emulator := outcome.emulator
  stage := stage
  inbox := if packet.isSome then endpoint.inbox.tail else endpoint.inbox
  handled := endpoint.handled ++ ((packet.bind startOf).map fun start => (start.1,endpoint.emulator.serial.sb)).toList
  shifted := endpoint.shiftedBy outcome.link outcome.emulator

def receive (endpoint : Endpoint) (packets : List Bytes) : Endpoint := {endpoint with inbox := endpoint.inbox ++ packets}

end Endpoint

inductive Act
  | writeSb (value : UInt8)
  | writeSc (value : UInt8)
  | step (cycles : Nat) (device : Device)
  | poll (arrived : Bool)

namespace Pair

def initial (endpoints : UInt8 × UInt8) (one two : Emulator) : Pair :=
  ⟨.initial endpoints.1 one,.initial endpoints.2 two⟩

def poll (pair : Pair) (side : Player) (arrived : Bool) : Except LinkSessionError Pair :=
  let endpoint := pair.get side
  let packet := endpoint.arrival arrived
  (pollStage endpoint.stage endpoint.link endpoint.emulator packet).map fun result =>
    (pair.set side (endpoint.polled packet result.1 result.2)).set (other side)
      ((pair.get (other side)).receive result.2.sent)

def perform (pair : Pair) (side : Player) : Act → Except LinkSessionError Pair
  | .writeSb value => .ok (pair.set side ((pair.get side).writeSb value))
  | .writeSc value => .ok (pair.set side ((pair.get side).writeSc value))
  | .step cycles device => .ok (pair.set side ((pair.get side).step cycles device))
  | .poll arrived => pair.poll side arrived

/-- A guest runs between polls only, and the clock is not about to leave its 64 bits. -/
def Timely (pair : Pair) (side : Player) : Act → Prop
  | .poll _ => True
  | .step cycles _ => (pair.get side).stage = .idle ∧ (pair.get side).emulator.cpuCycles + cycles + 8192 < 2^64
  | _ => (pair.get side).stage = .idle

/-- A guest that does not clear the transfer bit of SC while its announced transfer awaits the reply. -/
def Patient (pair : Pair) (side : Player) : Act → Prop
  | .writeSc value => value &&& 0x80 = 0 → (pair.get side).link.pendingMasterTransfer = none
  | _ => True

def Step (allowed : Pair → Player → Act → Prop) (before after : Pair) : Prop :=
  ∃ side act, allowed before side act ∧ before.perform side act = .ok after

abbrev Run (allowed : Pair → Player → Act → Prop) : Pair → Pair → Prop := Relation.ReflTransGen (Step allowed)

end Pair

/-- A machine that has no transfer of a link: as built, restored or left by a closed link. -/
structure Emulator.Unlinked (emulator : Emulator) : Prop where
  absent : emulator.serial.linkPeerPresent = false
  dropped : emulator.serial.dropLink = emulator.serial
  clock : emulator.cpuCycles + 8192 < 2^64

end ZeffBoy.Link.GameBoy
