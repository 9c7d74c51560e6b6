import ZeffBoy.Wire.Codec

/-! Inputs over unreliable datagrams.
A channel repeats its unacknowledged inputs in batches and acknowledges cumulatively
what it has received. A packet carries the acknowledgment, the first frame of the batch
and the buttons, under the session's tag. -/
namespace ZeffBoy.Netplay
open Library Wire

structure InputChannel where
  player : Player
  first : Nat
  sent : Nat
  acknowledged : Nat
  received : Nat
  pending : OrderedMap UInt16
  waiting : OrderedMap UInt16
  history : OrderedMap UInt16
  ackDirty : Bool

/-- The fields of an authenticated packet. -/
structure InputPacket where
  ack : Nat
  first : Nat
  count : Nat
  buttons : List UInt16

namespace InputChannel

def window : Nat := 64
def batch : Nat := 32
def header : Nat := 54
def signatureLen : Nat := 32
def inputMagic : Bytes := utf8 "ZND2"
def inputBytes : Nat := 2

def new (player : Player) (first : Nat) : InputChannel where
  player := player
  first := first
  sent := first
  acknowledged := first
  received := first
  pending := .empty
  waiting := .empty
  history := .empty
  ackDirty := false

def push (c : InputChannel) (frame : Nat) (buttons : UInt16) : Call InputChannel Unit :=
  let checked : Except String Nat := do
    ensure (frame = c.sent) "local input is not contiguous"
    ensure (c.pending.size < window) "unacknowledged input window exhausted"
    checkedAdd frame 1 "input frame overflow"
  match checked with
  | .error error => (.error error,c)
  | .ok next => (.ok (),{c with pending := c.pending.insert frame buttons, sent := next})

def packetBody (codec : PacketCodec) (player : Player) (ack first : Nat) (buttons : List UInt16) : Bytes :=
  inputMagic ++ (codec.transcript.toList ++ ([role player] ++ (beBytes 8 ack ++ (beBytes 8 first ++
    ([UInt8.ofNat buttons.length] ++ buttons.flatMap (fun value => beBytes inputBytes value.toNat))))))

variable (hmac : Digest → Bytes → Digest)

def encode (c : InputChannel) (codec : PacketCodec) : Call InputChannel (Option Bytes) :=
  if c.pending.size = 0 ∧ !c.ackDirty then (.ok none,c)
  else
    let count := min c.pending.size batch
    let first := (c.pending.first?.map Prod.fst).getD 0
    let body := packetBody codec c.player c.received first (c.pending.values.take count)
    (.ok (some (body ++ (codec.authenticateDatagram hmac body).toList)),{c with ackDirty := false})

-- Big-endian words of two bytes; an odd last byte is left over.
def chunks : Bytes → List UInt16
  | high::low::rest => UInt16.ofNat (beValue [high,low])::chunks rest
  | _ => []

def readPacket (player : Player) (codec : PacketCodec) (bytes : Bytes) : Except String InputPacket := do
  ensure (header + signatureLen ≤ bytes.length ∧ bytes.length ≤ header + batch * inputBytes + signatureLen)
    "invalid input packet length"
  let body := bytes.take (bytes.length - signatureLen)
  let signature := bytes.drop (bytes.length - signatureLen)
  ensure (slice body 0 4 = inputMagic ∧ slice body 4 36 = codec.transcript.toList) "input session mismatch"
  ensure (byteAt body 36 = role (other player)) "input sender role mismatch"
  codec.verifyDatagram hmac body signature
  let count := (byteAt body 53).toNat
  ensure (count ≤ batch ∧ body.length = header + count * inputBytes) "invalid input batch length"
  return ⟨beValue (slice body 37 45),beValue (slice body 45 53),count,chunks (body.drop header)⟩

-- Adds a batch to the waiting inputs. Known values must be repeated, and confirmed frames are not stored again.
def merge (c : InputChannel) (waiting : OrderedMap UInt16) (frame : Nat) : List UInt16 → Except String (OrderedMap UInt16)
  | [] => .ok waiting
  | buttons::rest => do
    ensure (((c.history.get? frame).or (waiting.get? frame)).all (fun previous => buttons = previous))
      "remote input was rewritten"
    c.merge (if c.received ≤ frame then waiting.insert frame buttons else waiting) (frame + 1) rest

def accept (c : InputChannel) (packet : InputPacket) : Except String (OrderedMap UInt16) := do
  ensure (c.first ≤ packet.ack ∧ packet.ack ≤ c.sent) "input acknowledgment exceeds sent frames"
  ensure (packet.count ≠ 0 ∨ packet.first = 0) "invalid empty input batch"
  let stop ← checkedAdd packet.first packet.count "input frame overflow"
  let upper ← checkedAdd c.received window "input frame overflow"
  ensure (packet.count ≠ 0 → c.first ≤ packet.first ∧ stop ≤ upper) "input exceeds receive window"
  let waiting ← c.merge c.waiting packet.first packet.buttons
  ensure (waiting.size ≤ window) "input receive window exhausted"
  return waiting

-- Releases the contiguous inputs. Each turn removes one waiting entry, so their number bounds the turns.
def drain : Nat → InputChannel → Call InputChannel (List Message)
  | 0, c => (.ok [],c)
  | turns + 1, c =>
    match c.waiting.get? c.received with
    | none => (.ok [],c)
    | some buttons =>
      match checkedAdd c.received 1 "input frame overflow" with
      | .error error => (.error error,{c with waiting := c.waiting.erase c.received})
      | .ok next =>
        let rest := drain turns {c with
          waiting := c.waiting.erase c.received
          received := next
          history := c.history.insert c.received buttons}
        (rest.1.map (.input (other c.player) c.received buttons::·),rest.2)

def trimHistory : Nat → OrderedMap UInt16 → OrderedMap UInt16
  | 0, history => history
  | turns + 1, history => if window < history.size then trimHistory turns history.popFirst else history

def receive (c : InputChannel) (codec : PacketCodec) (bytes : Bytes) : Call InputChannel (List Message) :=
  let checked : Except String (InputPacket × OrderedMap UInt16) := do
    let packet ← readPacket hmac c.player codec bytes
    let waiting ← c.accept packet
    return (packet,waiting)
  match checked with
  | .error error => (.error error,c)
  | .ok (packet,waiting) =>
    let acknowledged := max c.acknowledged packet.ack
    let drained := drain waiting.size {c with
      waiting := waiting
      acknowledged := acknowledged
      pending := c.pending.retain (fun frame _ => acknowledged ≤ frame)}
    match drained with
    | (.error error,c) => (.error error,c)
    | (.ok messages,c) => (.ok messages,{c with
        history := trimHistory c.history.size c.history
        ackDirty := c.ackDirty || packet.count ≠ 0})

end InputChannel
end ZeffBoy.Netplay
