import ZeffBoy.Replay.Recorder

/-! The player and the decoder of replay files, with and without load limits. -/
namespace ZeffBoy.Replay
open Library

def legacyGbSaveStateMagic : Bytes := utf8 "ZBSTATE" ++ [0]
def legacyNesSaveStateMagic : Bytes := utf8 "ZBNSTATE"

structure ReplayLoadLimits where
  maxFileBytes : Nat
  maxMetadataBytes : Nat
  maxStateBytes : Nat
  maxFrames : Nat
  maxDecodedCameraBytes : Nat

structure ReplayPlayer where
  saveState : Bytes
  frames : List ReplayJoypadFrame
  cursor : Nat
  metadata : ReplayMetadata
  eventCursor : Nat
  version : UInt32
deriving DecidableEq

-- A bound that holds whenever there are no limits.
def within (limits : Option ReplayLoadLimits) (bound : ReplayLoadLimits → Nat) (value : Nat) : Prop :=
  ∀ limit, limits = some limit → value ≤ bound limit

instance (limits : Option ReplayLoadLimits) (bound : ReplayLoadLimits → Nat) (value : Nat) :
    Decidable (within limits bound value) :=
  match limits with
  | none => isTrue (fun _ absent => nomatch absent)
  | some limit => decidable_of_iff (value ≤ bound limit)
      ⟨fun inside _ same => by cases same; exact inside,fun inside => inside limit rfl⟩

def readFile (count : Nat) : Reader Bytes := Reader.exact "failed to fill whole buffer" count

def readFileU32 : Reader UInt32 := do
  let bytes ← readFile 4
  return UInt32.ofNat (leValue bytes)

def readToEnd : Reader Bytes := fun input => .ok (input,[])

def legacyV1SaveStateBlock (bytes : Bytes) : Bool :=
  legacyGbSaveStateMagic.isPrefixOf bytes || legacyNesSaveStateMagic.isPrefixOf bytes

def legacyChunks : Bytes → List ReplayJoypadFrame
  | buttons::dpad::rest => .p1 buttons dpad::legacyChunks rest
  | _ => []

def decodeLegacyV1InputFrames (inputData : Bytes) (limits : Option ReplayLoadLimits) :
    Except String (List ReplayJoypadFrame) := do
  ensure (inputData.length % 2 = 0) s!"legacy replay input stream has odd byte length: {inputData.length}"
  ensure (within limits ReplayLoadLimits.maxFrames (inputData.length / 2))
    "legacy replay frame count exceeds its bounded load limit"
  return legacyChunks inputData

def fixedLen (version : UInt32) : Nat :=
  if version = Replay.version then frameFixedBytes
  else if version = v2Version then v2FrameFixedBytes
  else v1FrameFixedBytes

def playerOffset (version : UInt32) : Nat := if v2Version ≤ version then 6 else 0

/-- The camera frame of an input frame, and the one that a later frame can repeat. -/
def decodeCamera (frameIndex : Nat) (previousCameraFrame : Option Bytes) : Reader (Option Bytes × Option Bytes) := do
  let lenBytes ← Reader.withContext s!"truncated replay camera length at frame {frameIndex}"
    (Reader.exact "truncated replay input stream" 4)
  let cameraLen := UInt32.ofNat (leValue lenBytes)
  if cameraLen = 0 then
    return (none,previousCameraFrame)
  else if cameraLen = cameraRepeatSentinel then
    let cameraFrame ← Reader.lift (context previousCameraFrame "replay camera frame repeats before any camera frame")
    return (some cameraFrame,previousCameraFrame)
  else
    Reader.lift (ensure (cameraLen.toNat ≤ maxReplayCameraFrameBytes)
      s!"replay camera frame is too large: {cameraLen} bytes")
    let bytes ← Reader.withContext s!"truncated replay camera frame {frameIndex}"
      (Reader.exact "truncated replay input stream" cameraLen.toNat)
    return (some bytes,some bytes)

def decodeColeco (version : UInt32) (chunk : Bytes) :
    Except String (ReplayColecoControllerFrame × ReplayColecoControllerFrame) :=
  if version = Replay.version then
    unpackColeco (UInt32.ofNat (leValue (slice chunk 24 27 ++ [0])))
  else
    .ok ({},{})

def decodeChunk (version : UInt32) (chunk : Bytes) (cameraFrame : Option Bytes) : Except String ReplayJoypadFrame := do
  let offset := playerOffset version
  let player := fun index => if v2Version ≤ version then byteAt chunk index else 0
  let zapper ← ReplayZapperFrame.fromParts (byteAt chunk (4 + offset))
    (UInt16.ofNat (leValue (slice chunk (5 + offset) (7 + offset))))
    (UInt16.ofNat (leValue (slice chunk (7 + offset) (9 + offset))))
  let coleco ← decodeColeco version chunk
  return {
    buttons := byteAt chunk 0, dpad := byteAt chunk 1, buttonsP2 := byteAt chunk 2, dpadP2 := byteAt chunk 3
    buttonsP3 := player 4, dpadP3 := player 5, buttonsP4 := player 6, dpadP4 := player 7, buttonsP5 := player 8
    dpadP5 := player 9, zapper := zapper
    hostTilt := (UInt32.ofNat (leValue (slice chunk (9 + offset) (13 + offset))),
      UInt32.ofNat (leValue (slice chunk (13 + offset) (17 + offset))))
    cameraFrame := cameraFrame, coleco := coleco }

def cameraLength (cameraFrame : Option Bytes) : Nat := (cameraFrame.map List.length).getD 0

def decodeFrames (version : UInt32) (limits : Option ReplayLoadLimits) (frameIndex : Nat)
    (previousCameraFrame : Option Bytes) (decodedCameraBytes : Nat) : Nat → Reader (List ReplayJoypadFrame)
  | 0 => pure []
  | count + 1 => do
    let chunk ← Reader.withContext s!"truncated replay input frame {frameIndex}"
      (Reader.exact "truncated replay input stream" (fixedLen version))
    Reader.lift (ensure (byteAt chunk (17 + playerOffset version) = 0)
      s!"invalid replay frame reserved byte: {hex 4 (byteAt chunk (17 + playerOffset version)).toNat}")
    let (cameraFrame,previousCameraFrame) ← decodeCamera frameIndex previousCameraFrame
    let decodedCameraBytes ← Reader.lift (checkedAdd decodedCameraBytes (cameraLength cameraFrame)
      "decoded replay camera size overflow")
    Reader.lift (ensure (cameraFrame = none ∨ within limits ReplayLoadLimits.maxDecodedCameraBytes decodedCameraBytes)
      "decoded replay camera data exceeds its bounded load limit")
    let frame ← Reader.lift (decodeChunk version chunk cameraFrame)
    let frames ← decodeFrames version limits (frameIndex + 1) previousCameraFrame decodedCameraBytes count
    return frame::frames

def decodeInputFrames (inputData : Bytes) (version : UInt32) (limits : Option ReplayLoadLimits) :
    Except String (List ReplayJoypadFrame) := do
  ensure (4 ≤ inputData.length) "replay input stream is missing frame count"
  let frameCount := UInt32.ofNat (leValue (slice inputData 0 4))
  ensure (within limits ReplayLoadLimits.maxFrames frameCount.toNat) "replay frame count exceeds its bounded load limit"
  let (frames,rest) ← decodeFrames version limits 0 none 0 frameCount.toNat (inputData.drop 4)
  ensure (rest = [])
    s!"replay input stream has trailing bytes: expected {inputData.length - rest.length} bytes, got {inputData.length}"
  return frames

def validateBoundedMetadataFrames (metadata : ReplayMetadata) (maxFrames : Nat) : Except String Nat := do
  let events ← metadata.events.foldlM (fun requiredFrames event => do
    let required ← context event.requiredFrameCount "replay event frame count overflow"
    ensure (required ≤ maxFrames) "replay event exceeds the bounded frame limit"
    return max requiredFrames required) 0
  metadata.checkpoints.foldlM (fun requiredFrames checkpoint => do
    ensure (checkpoint.frame.toNat ≤ maxFrames) "replay checkpoint exceeds the bounded frame limit"
    return max requiredFrames checkpoint.frame.toNat) events

def validateBoundedPadding (frames : List ReplayJoypadFrame) (requiredFrames maxDecodedCameraBytes : Nat) :
    Except String Unit :=
  if requiredFrames ≤ frames.length then
    .ok ()
  else do
    let decodedCameraBytes ← frames.foldlM (fun total frame =>
      checkedAdd total (cameraLength frame.cameraFrame) "decoded replay camera size overflow") 0
    let padBytes := (requiredFrames - frames.length) * cameraLength (frames.getLast?.bind ReplayJoypadFrame.cameraFrame)
    ensure (padBytes < 2^64) "padded replay camera size overflow"
    let totalCameraBytes ← checkedAdd decodedCameraBytes padBytes "padded replay camera size overflow"
    ensure (totalCameraBytes ≤ maxDecodedCameraBytes) "padded replay camera data exceeds its bounded load limit"

namespace ReplayPlayer

def decodeFile (limits : Option ReplayLoadLimits) : Reader ReplayPlayer := do
  let start ← readFile 4
  Reader.lift (ensure (start = magic) "not a valid replay file")
  let version ← readFileU32
  Reader.lift (ensure (version = 1 ∨ version = v2Version ∨ version = Replay.version)
    s!"unsupported replay version: {version}")
  let firstLen ← readFileU32
  Reader.lift (ensure (within limits (fun limit => max limit.maxMetadataBytes limit.maxStateBytes) firstLen.toNat)
    "replay first block exceeds its bounded load limit")
  let firstBlock ← readFile firstLen.toNat
  if legacyV1SaveStateBlock firstBlock then
    Reader.lift (ensure (within limits ReplayLoadLimits.maxStateBytes firstLen.toNat)
      "replay save state exceeds its bounded load limit")
    let inputData ← readToEnd
    let frames ← Reader.lift (decodeLegacyV1InputFrames inputData limits)
    return ⟨firstBlock,frames,0,{},0,1⟩
  else
    Reader.lift (ensure (within limits ReplayLoadLimits.maxMetadataBytes firstLen.toNat)
      "replay metadata exceeds its bounded load limit")
    let metadata ← Reader.lift ((ReplayMetadata.decode firstBlock).mapError (fun _ => "invalid replay metadata"))
    let requiredFrames ← Reader.lift (limits.mapM (fun limit => validateBoundedMetadataFrames metadata limit.maxFrames))
    let stateLen ← readFileU32
    Reader.lift (ensure (within limits ReplayLoadLimits.maxStateBytes stateLen.toNat)
      "replay save state exceeds its bounded load limit")
    let saveState ← readFile stateLen.toNat
    let inputData ← readToEnd
    let frames ← Reader.lift (decodeInputFrames inputData version limits)
    match limits,requiredFrames with
    | some limit,some required => Reader.lift (validateBoundedPadding frames required limit.maxDecodedCameraBytes)
    | _,_ => pure ()
    return ⟨saveState,padFramesToMetadataEvents frames metadata,0,metadata,0,version⟩

def decode (bytes : Bytes) (limits : Option ReplayLoadLimits) : Except String ReplayPlayer :=
  (decodeFile limits bytes).map Prod.fst

def load (bytes : Bytes) : Except String ReplayPlayer := decode bytes none

def decodeBounded (bytes : Bytes) (limits : ReplayLoadLimits) : Except String ReplayPlayer := do
  ensure (bytes.length ≤ limits.maxFileBytes) "replay file exceeds its bounded load limit"
  decode bytes (some limits)

end ReplayPlayer

end ZeffBoy.Replay
