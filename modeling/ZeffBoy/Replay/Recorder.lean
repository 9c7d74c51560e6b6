import ZeffBoy.Replay.Input
import ZeffBoy.Replay.Metadata

/-! The recorder and the replay file it writes. The path and the file of the source's
recorder are left out; the bytes are those that both of its writers produce. -/
namespace ZeffBoy.Replay
open Library

def magic : Bytes := utf8 "ZRPL"
def v2Version : UInt32 := 2
def version : UInt32 := 3
def v1FrameFixedBytes : Nat := 18
def v2FrameFixedBytes : Nat := 24
def frameFixedBytes : Nat := 27
def cameraRepeatSentinel : UInt32 := 0xFFFFFFFF
def maxReplayCameraFrameBytes : Nat := 1024 * 1024

/-- The number of frames that the events and the checkpoints of a recording need. -/
def requiredFrames (metadata : ReplayMetadata) : Option Nat :=
  (metadata.events.filterMap ReplayEvent.requiredFrameCount ++
    metadata.checkpoints.map (fun checkpoint => checkpoint.frame.toNat)).max?

def padFramesToMetadataEvents (frames : List ReplayJoypadFrame) (metadata : ReplayMetadata) : List ReplayJoypadFrame :=
  match requiredFrames metadata with
  | none => frames
  | some required =>
    if required ≤ frames.length then
      frames
    else
      frames ++ List.replicate (required - frames.length) (frames.getLast?.getD {})

structure ReplayRecorder where
  saveState : Bytes
  frames : List ReplayJoypadFrame := []
  metadata : ReplayMetadata := {}
  colecoInputFormat : Bool := false

namespace ReplayRecorder

def checkFrame (frame : ReplayJoypadFrame) : Except String Unit := do
  ensure (frame.coleco.1.keypad ≤ 12) s!"invalid Coleco replay keypad value: {frame.coleco.1.keypad}"
  ensure (frame.coleco.2.keypad ≤ 12) s!"invalid Coleco replay keypad value: {frame.coleco.2.keypad}"
  match frame.cameraFrame with
  | none => .ok ()
  | some cameraFrame => do
    ensure (cameraFrame.length < 2^32) "replay camera frame is too large"
    ensure (cameraFrame.length ≠ cameraRepeatSentinel.toNat) "replay camera frame is too large"

/-- The encoded metadata, and the recorder with its frames padded. -/
def prepareEncoding (recorder : ReplayRecorder) : Except String (Bytes × ReplayRecorder) := do
  let metadata ← recorder.metadata.encode
  let frames := padFramesToMetadataEvents recorder.frames recorder.metadata
  ensure (metadata.length < 2^32) "replay metadata is too large"
  ensure (recorder.saveState.length < 2^32) "replay save state is too large"
  ensure (frames.length < 2^32) "replay contains too many frames"
  frames.forM checkFrame
  return (metadata,{ recorder with frames := frames })

def version (recorder : ReplayRecorder) : UInt32 :=
  if recorder.colecoInputFormat || recorder.frames.any ReplayJoypadFrame.usesColecoInput then
    Replay.version
  else
    v2Version

def fixedBytes (version : UInt32) (frame : ReplayJoypadFrame) : Bytes :=
  let pos := frame.zapper.screenPos.getD (0,0)
  [frame.buttons,frame.dpad,frame.buttonsP2,frame.dpadP2,frame.buttonsP3,frame.dpadP3,frame.buttonsP4,frame.dpadP4,
    frame.buttonsP5,frame.dpadP5,frame.zapper.flags] ++ (leBytes 2 pos.1.toNat ++ (leBytes 2 pos.2.toNat ++
    (writeU32 frame.hostTilt.1 ++ (writeU32 frame.hostTilt.2 ++ ([0] ++
    (if version = Replay.version then (writeU32 (packColeco frame.coleco)).take 3 else []))))))

/-- The camera part of a frame, and the camera frame that a later frame can repeat. -/
def encodeCamera (previousCameraFrame cameraFrame : Option Bytes) : Except String (Bytes × Option Bytes) :=
  match cameraFrame with
  | none => .ok (writeU32 0,previousCameraFrame)
  | some cameraFrame =>
    if some cameraFrame = previousCameraFrame then
      .ok (writeU32 cameraRepeatSentinel,previousCameraFrame)
    else do
      ensure (cameraFrame.length < 2^32) "replay camera frame is too large"
      ensure (cameraFrame.length ≠ cameraRepeatSentinel.toNat) "replay camera frame is too large"
      return (writeU32 (UInt32.ofNat cameraFrame.length) ++ cameraFrame,some cameraFrame)

def encodeFrames (version : UInt32) (previousCameraFrame : Option Bytes) : List ReplayJoypadFrame → Except String Bytes
  | [] => .ok []
  | frame::frames => do
    let (camera,previousCameraFrame) ← encodeCamera previousCameraFrame frame.cameraFrame
    let rest ← encodeFrames version previousCameraFrame frames
    return fixedBytes version frame ++ (camera ++ rest)

def encodeTo (recorder : ReplayRecorder) (metadata : Bytes) (version : UInt32) : Except String Bytes := do
  ensure (metadata.length < 2^32) "replay metadata is too large"
  ensure (recorder.saveState.length < 2^32) "replay save state is too large"
  ensure (recorder.frames.length < 2^32) "replay contains too many frames"
  let frames ← encodeFrames version none recorder.frames
  return magic ++ (writeU32 version ++ (writeU32 (UInt32.ofNat metadata.length) ++ (metadata ++
    (writeU32 (UInt32.ofNat recorder.saveState.length) ++ (recorder.saveState ++
    (writeU32 (UInt32.ofNat recorder.frames.length) ++ frames))))))

def intoBytes (recorder : ReplayRecorder) : Except String Bytes := do
  let (metadata,recorder) ← recorder.prepareEncoding
  recorder.encodeTo metadata recorder.version

end ReplayRecorder

end ZeffBoy.Replay
