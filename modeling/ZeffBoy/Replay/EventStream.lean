import ZeffBoy.Replay.EventCodec

/-! The standalone stream of replay events.
The encoder sorts; the decoder accepts only a stream that is in canonical order. -/
namespace ZeffBoy.Replay
open Library MetadataCursor

namespace EventStream

def magic : Bytes := utf8 "ZREV"
def version : UInt32 := 1
def maxEvents : Nat := 100000
def maxEventBytes : Nat := 64 * 1024
def maxStreamBytes : Nat := 8 * 1024 * 1024
def metadataVersion : Nat := 3

def inOrder : List ReplayEvent → Bool
  | first::second::rest => first.canonicalCmp second != .gt && inOrder (second::rest)
  | _ => true

def encodeEvents (out : Bytes) : List ReplayEvent → Except String Bytes
  | [] => .ok out
  | event::events => do
    let bytes := event.encode metadataVersion
    ensure (bytes.length ≤ maxEventBytes) s!"encoded replay event exceeds {maxEventBytes} bytes"
    let grown := out ++ (writeU32 (UInt32.ofNat bytes.length) ++ bytes)
    ensure (grown.length ≤ maxStreamBytes) s!"replay event stream exceeds {maxStreamBytes} bytes"
    encodeEvents grown events

def decodeEvent (index : Nat) : Reader ReplayEvent := do
  let length ← readU32
  Reader.lift (ensure (length.toNat ≤ maxEventBytes) s!"replay event {index} exceeds {maxEventBytes} bytes")
  let bytes ← Reader.withContext s!"truncated replay event {index}" (readExact length.toNat)
  let event ← Reader.lift ((ReplayEvent.decode metadataVersion bytes).mapError (fun _ => s!"invalid replay event {index}"))
  let _ ← Reader.lift ((finish event.2).mapError (fun _ => s!"invalid replay event {index}"))
  return event.1

def decodeEvents (index : Nat) : Nat → Reader (List ReplayEvent)
  | 0 => pure []
  | count + 1 => do
    let event ← decodeEvent index
    let events ← decodeEvents (index + 1) count
    return event::events

def decodeStream : Reader (List ReplayEvent) := do
  let start ← readExact 4
  Reader.lift (ensure (start = magic) "invalid replay event stream magic")
  let found ← readU32
  Reader.lift (ensure (found = version) s!"unsupported replay event stream version: {found}")
  let count ← readU32
  Reader.lift (ensure (count.toNat ≤ maxEvents) s!"replay event stream exceeds {maxEvents} events")
  let events ← decodeEvents 0 count.toNat
  finish
  return events

end EventStream

open EventStream

def encodeCanonicalReplayEventStream (events : List ReplayEvent) : Except String Bytes := do
  ensure (events.length ≤ maxEvents) s!"replay event stream exceeds {maxEvents} events"
  ensure (inOrder events) "replay event stream is not in canonical order"
  encodeEvents (magic ++ (writeU32 version ++ writeU32 (UInt32.ofNat events.length))) events

def encodeReplayEventStream (events : List ReplayEvent) : Except String Bytes := do
  ensure (events.length ≤ maxEvents) s!"replay event stream exceeds {maxEvents} events"
  encodeCanonicalReplayEventStream (ReplayEvent.sortCanonical events)

def decodeReplayEventStream (bytes : Bytes) : Except String (List ReplayEvent) := do
  ensure (bytes.length ≤ maxStreamBytes) s!"replay event stream exceeds {maxStreamBytes} bytes"
  let decoded ← decodeStream bytes
  ensure (decoded.1 = ReplayEvent.sortCanonical decoded.1) "replay event stream is not in canonical order"
  return decoded.1

theorem decodeReplayEventStream_canonical (bytes : Bytes) (events : List ReplayEvent)
    (ok : decodeReplayEventStream bytes = .ok events) : ReplayEvent.Canonical events := by
  obtain ⟨_,_,ok⟩ := bind_ok.mp ok
  obtain ⟨decoded,_,ok⟩ := bind_ok.mp ok
  obtain ⟨_,sorted,ok⟩ := bind_ok.mp ok
  have fixed := ensure_ok.mp sorted
  cases ok
  rw [fixed]
  exact ReplayEvent.sortCanonical_pairwise decoded.1

end ZeffBoy.Replay
