import ZeffBoy.Library.Bytes
import ZeffBoy.Wire.Message

/-! The packet codec of an admitted session.
A packet is a header with the transcript, the sender's role and a sequence number, a
message, and a tag over both. The keyed hash is a parameter: nothing here looks inside it. -/
namespace ZeffBoy.Wire
open Library Netplay

def magic : Bytes := utf8 "ZNPL"
def version : Nat := 7
def headerLen : Nat := 48
def tagLen : Nat := 32
def maxPacket : Nat := 1024
def packetDomain : Bytes := utf8 "zeff-netplay-packet-v1"
def inputDomain : Bytes := utf8 "zeff-netplay-input-v1"

def role : Player → UInt8
  | .one => 1
  | .two => 2

def digest? (bytes : Bytes) : Option Digest := if width : bytes.length = 32 then some ⟨bytes,width⟩ else none

@[simp] theorem length_magic : magic.length = 4 := by decide

@[simp] theorem length_digest (digest : Digest) : digest.toList.length = 32 := digest.toList_length

@[simp] theorem digest?_toList (digest : Digest) : digest? digest.toList = some digest := by
  rw [digest?,dif_pos digest.toList_length]
  rfl

theorem role_injective : Function.Injective role := by
  intro left right same
  cases left <;> cases right <;> simp_all [role]

def Message.isClose : Message → Bool
  | .close _ => true
  | _ => false

namespace Messages

def flag (value : Bool) : UInt8 := if value then 1 else 0

theorem flag_le (value : Bool) : flag value ≤ 1 := by cases value <;> decide

theorem flag_eq_one (value : Bool) : decide (flag value = 1) = value := by cases value <;> rfl

def encode : Message → Bytes
  | .chat text => 8::utf8 text
  | .input player frame buttons => 1::role player::(beBytes 8 frame ++ beBytes 2 buttons.toNat)
  | .checkpoint frame logical video audio persistent =>
    2::(beBytes 8 frame ++ (logical.toList ++ (video.toList ++ (audio.toList ++ persistent.toList))))
  | .close frame => 3::beBytes 8 frame
  | .pause frame paused => 4::(beBytes 8 frame ++ [flag paused])
  | .progress frame confirmed => 5::(beBytes 8 frame ++ beBytes 8 confirmed)
  | .pauseChange request frame paused => 6::(beBytes 8 request ++ (beBytes 8 frame ++ [flag paused]))
  | .pauseAck request => 7::beBytes 8 request

def decode (kind : UInt8) (payload : Bytes) (sender : Player) : Except String Message :=
  match kind.toNat with
  | 1 => do
    ensure (payload.length = 11) "invalid input length"
    ensure (byteAt payload 0 = role sender) "input player does not own peer port"
    return .input sender (beValue (slice payload 1 9)) (UInt16.ofNat (beValue (slice payload 9 11)))
  | 2 => do
    ensure (payload.length = 136) "invalid checkpoint length"
    let logical ← context (digest? (slice payload 8 40)) "could not convert slice to array"
    let video ← context (digest? (slice payload 40 72)) "could not convert slice to array"
    let audio ← context (digest? (slice payload 72 104)) "could not convert slice to array"
    let persistent ← context (digest? (slice payload 104 136)) "could not convert slice to array"
    return .checkpoint (beValue (slice payload 0 8)) logical video audio persistent
  | 3 => do
    ensure (payload.length = 8) "invalid close length"
    return .close (beValue payload)
  | 4 => do
    ensure (payload.length = 9) "invalid pause length"
    ensure (byteAt payload 8 ≤ 1) "invalid pause flag"
    return .pause (beValue (slice payload 0 8)) (byteAt payload 8 = 1)
  | 5 => do
    ensure (payload.length = 16) "invalid progress length"
    let frame := beValue (slice payload 0 8)
    let confirmed := beValue (slice payload 8 16)
    ensure (confirmed ≤ frame) "confirmed progress exceeds simulated frame"
    return .progress frame confirmed
  | 6 => do
    ensure (payload.length = 17) "invalid pause change length"
    let request := beValue (slice payload 0 8)
    ensure (request ≠ 0) "invalid pause request ID"
    ensure (byteAt payload 16 ≤ 1) "invalid pause flag"
    return .pauseChange request (beValue (slice payload 8 16)) (byteAt payload 16 = 1)
  | 7 => do
    ensure (payload.length = 8) "invalid pause acknowledgment length"
    let request := beValue payload
    ensure (request ≠ 0) "invalid pause request ID"
    return .pauseAck request
  | 8 => do
    let text ← context (fromUtf8 payload) "invalid chat UTF-8"
    validateChat text
    return .chat text
  | _ => .error "unknown packet kind"

end Messages

-- The parts of a tagged text are hashed one after the other, so the tag is over their concatenation.
def verify (hmac : Digest → Bytes → Digest) (secret : Digest) (data received : Bytes) : Except String Unit :=
  ensure ((hmac secret data).toList = received) "authentication failed"

structure PacketCodec where
  player : Player
  secret : Digest
  transcript : Digest
  sent : Nat
  received : Nat
  sentClose : Bool
  receivedClose : Bool
  terminal : Bool
deriving DecidableEq

namespace PacketCodec

def new (player : Player) (secret transcript : Digest) : PacketCodec where
  player := player
  secret := secret
  transcript := transcript
  sent := 0
  received := 0
  sentClose := false
  receivedClose := false
  terminal := false

-- What a peer refuses to send.
def checkMessage (c : PacketCodec) : Message → Except String Unit
  | .input player _ _ => ensure (player = c.player) "input player does not own this port"
  | .progress frame confirmed => ensure (confirmed ≤ frame) "confirmed progress exceeds simulated frame"
  | .pauseChange request _ _ => ensure (request ≠ 0) "invalid pause request ID"
  | .pauseAck request => ensure (request ≠ 0) "invalid pause request ID"
  | .chat text => validateChat text
  | _ => .ok ()

def packetBody (c : PacketCodec) (message : Message) : Bytes :=
  magic ++ (beBytes 2 version ++ (c.transcript.toList ++ ([role c.player] ++ (beBytes 8 c.sent ++ Messages.encode message))))

variable (hmac : Digest → Bytes → Digest)

def encodeInner (c : PacketCodec) (message : Message) : Except String (Bytes × PacketCodec) := do
  ensure (!c.terminal && !c.sentClose) "connection is terminal"
  ensure (!c.receivedClose || message.isClose) "only Close acknowledgment permitted"
  c.checkMessage message
  let next ← checkedAdd c.sent 1 "send sequence exhausted"
  let packet := c.packetBody message
  ensure (packet.length + tagLen ≤ maxPacket) "invalid packet length"
  return (packet ++ (hmac c.secret (packetDomain ++ packet)).toList,{c with sent := next, sentClose := message.isClose})

def decodeInner (c : PacketCodec) (packet : Bytes) : Except String (Message × PacketCodec) := do
  ensure (!c.terminal && !c.receivedClose) "connection is terminal"
  ensure (headerLen + tagLen ≤ packet.length ∧ packet.length ≤ maxPacket) "invalid packet length"
  let body := packet.take (packet.length - tagLen)
  let signature := packet.drop (packet.length - tagLen)
  ensure (slice body 0 4 = magic ∧ slice body 4 6 = beBytes 2 version) "invalid packet version"
  ensure (slice body 6 38 = c.transcript.toList) "packet session mismatch"
  ensure (byteAt body 38 = role (other c.player)) "packet sender role mismatch"
  ensure (beValue (slice body 39 47) = c.received) "packet sequence mismatch"
  verify hmac c.secret (packetDomain ++ body) signature
  let message ← Messages.decode (byteAt body 47) (body.drop headerLen) (other c.player)
  ensure (!c.sentClose || message.isClose) "gameplay packet after local Close"
  let next ← checkedAdd c.received 1 "receive sequence exhausted"
  return (message,{c with received := next, receivedClose := message.isClose})

-- A failed call makes the codec terminal.
def finish {α : Type} (c : PacketCodec) (result : Except String (α × PacketCodec)) : Call PacketCodec α :=
  match result with
  | .ok (value,next) => (.ok value,next)
  | .error error => (.error error,{c with terminal := true})

def encode (c : PacketCodec) (message : Message) : Call PacketCodec Bytes := c.finish (c.encodeInner hmac message)

def decode (c : PacketCodec) (packet : Bytes) : Call PacketCodec Message := c.finish (c.decodeInner hmac packet)

def authenticateDatagram (c : PacketCodec) (body : Bytes) : Digest :=
  hmac c.secret (inputDomain ++ (c.transcript.toList ++ body))

def verifyDatagram (c : PacketCodec) (body signature : Bytes) : Except String Unit :=
  verify hmac c.secret (inputDomain ++ (c.transcript.toList ++ body)) signature

end PacketCodec
end ZeffBoy.Wire
