import ZeffBoy.Library.Bytes
import ZeffBoy.Library.Checked

/-! The rewind buffer: compressed snapshots of the machine at the emulated frames they were taken at.
Counters are unsigned 64-bit words. The compression is a parameter. -/
namespace ZeffBoy.Rewind
open Library

structure Compression where
  compressPrependSize : Bytes → Bytes
  decompressSizePrepended : Bytes → Option Bytes

structure RewindSnapshot where
  compressed : Bytes
  stateLen : UInt32
  emulatedFrame : Nat
  capturePhase : Nat
deriving DecidableEq

structure RewindFrame where
  stateBytes : Bytes
  framebuffer : Bytes
  rewoundFrames : Nat
deriving DecidableEq

/-- The snapshots stand with the newest in front. -/
structure RewindBuffer where
  snapshots : List RewindSnapshot := []
  capacity : Nat
  captureInterval : Nat
  frameCounter : Nat := 0
  emulatedFrame : Nat := 0
deriving DecidableEq

namespace RewindSnapshot
variable (compression : Compression)

def compress (stateBytes framebuffer : Bytes) (emulatedFrame capturePhase : Nat) : RewindSnapshot :=
  ⟨compression.compressPrependSize (stateBytes ++ framebuffer),UInt32.ofNat stateBytes.length,emulatedFrame,capturePhase⟩

def decompress (snapshot : RewindSnapshot) : Option RewindFrame := do
  let combined ← compression.decompressSizePrepended snapshot.compressed
  let split := snapshot.stateLen.toNat
  if combined.length < split then none else some ⟨combined.take split,combined.drop split,0⟩

end RewindSnapshot

namespace RewindBuffer
variable (compression : Compression)

def newWithFrameDuration (seconds captureInterval frameDurationNs : Nat) : RewindBuffer :=
  let captureInterval := max captureInterval 1
  let historyNs := min (seconds * 1000000000) (2^128 - 1)
  let snapshotNs := min (max frameDurationNs 1 * captureInterval) (2^128 - 1)
  { capacity := min ((historyNs + snapshotNs - 1) / snapshotNs) (2^64 - 1), captureInterval := captureInterval }

def advanceFrames (buffer : RewindBuffer) (frames : Nat) : Bool × RewindBuffer :=
  let emulatedFrame := saturatingAdd buffer.emulatedFrame frames
  let frameCounter := saturatingAdd buffer.frameCounter frames
  if buffer.captureInterval ≤ frameCounter then
    (true,{ buffer with emulatedFrame := emulatedFrame, frameCounter := frameCounter % buffer.captureInterval })
  else
    (false,{ buffer with emulatedFrame := emulatedFrame, frameCounter := frameCounter })

def push (buffer : RewindBuffer) (stateBytes framebuffer : Bytes) : RewindBuffer :=
  if buffer.capacity = 0 then buffer
  else
    let room := if buffer.capacity ≤ buffer.snapshots.length then buffer.snapshots.dropLast else buffer.snapshots
    let snapshot := .compress compression stateBytes framebuffer buffer.emulatedFrame buffer.frameCounter
    { buffer with snapshots := snapshot::room }

def popBack (snapshot : Option RewindSnapshot) : Nat → List RewindSnapshot → Option RewindSnapshot × List RewindSnapshot
  | 0,snapshots => (snapshot,snapshots)
  | _ + 1,[] => (snapshot,[])
  | steps + 1,next::snapshots => popBack (some next) steps snapshots

def popSteps (buffer : RewindBuffer) (steps : Nat) : Option RewindFrame × RewindBuffer :=
  let (snapshot,snapshots) := popBack none (max steps 1) buffer.snapshots
  match snapshot with
  | none => (none,{ buffer with snapshots := snapshots })
  | some snapshot =>
    let rewoundFrames := buffer.emulatedFrame - snapshot.emulatedFrame
    let frame := (snapshot.decompress compression).map fun frame => { frame with rewoundFrames := rewoundFrames }
    (frame,{ buffer with
      snapshots := snapshots
      emulatedFrame := snapshot.emulatedFrame
      frameCounter := snapshot.capturePhase })

def discardLatest (buffer : RewindBuffer) : RewindBuffer := { buffer with snapshots := buffer.snapshots.tail }

def clear (buffer : RewindBuffer) : RewindBuffer := { buffer with snapshots := [], frameCounter := 0, emulatedFrame := 0 }

end RewindBuffer

/-- A call of one of the operations with its arguments. -/
inductive RewindOperation
  | advanceFrames (frames : Nat)
  | push (stateBytes framebuffer : Bytes)
  | popSteps (steps : Nat)
  | discardLatest
  | clear
deriving DecidableEq

namespace RewindBuffer
variable (compression : Compression)

def perform (buffer : RewindBuffer) : RewindOperation → RewindBuffer
  | .advanceFrames frames => (buffer.advanceFrames frames).2
  | .push stateBytes framebuffer => buffer.push compression stateBytes framebuffer
  | .popSteps steps => (buffer.popSteps compression steps).2
  | .discardLatest => buffer.discardLatest
  | .clear => buffer.clear

def run (buffer : RewindBuffer) (operations : List RewindOperation) : RewindBuffer :=
  operations.foldl (perform compression) buffer

end RewindBuffer

end ZeffBoy.Rewind
