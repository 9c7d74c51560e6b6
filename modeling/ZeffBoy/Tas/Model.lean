import ZeffBoy.Library.Spans
import ZeffBoy.Replay.Metadata

/-! Projects for tool-assisted movies: branches of input spans and replay events, with
markers and annotations on their timelines. Counters are unsigned 64-bit words held as
natural numbers; the edits check every sum that could leave the range. -/
namespace ZeffBoy.Tas
open Library Replay

abbrev TasDigest := Hash

-- Beyond ASCII only the controls are escaped here; of the rest, what cannot be printed stands as it is.
def escapeDebug (char : Char) : String :=
  match char.toNat with
  | 0x00 => "\\0"
  | 0x09 => "\\t"
  | 0x0A => "\\n"
  | 0x0D => "\\r"
  | 0x22 => "\\\""
  | 0x5C => "\\\\"
  | code =>
    if code < 0x20 ∨ (0x7F ≤ code ∧ code < 0xA0) then "\\u\x7b" ++ String.ofList (Nat.toDigits 16 code) ++ "\x7d"
    else char.toString

def quoted (value : String) : String := "\"" ++ String.join (value.toList.map escapeDebug) ++ "\""

structure TasPatchIdentity where
  format : String
  sha256 : TasDigest
deriving DecidableEq

inductive TasFirmwareIdentity
  | external (firmwareId : String) (variant : Option String) (sha256 : TasDigest)
  | hle (firmwareId implementation : String) (compatibilityVersion : UInt32)
  | builtinOpenSource (firmwareId implementation : String) (compatibilityVersion : UInt32) (sha256 : TasDigest)
  | skipped (firmwareId : String) (compatibilityVersion : UInt32)
deriving DecidableEq

structure TasDeviceIdentity where
  port : String
  device : String
  configurationSha256 : TasDigest
deriving DecidableEq

inductive TasExternalIdentity
  | absent
  | externalSha256 (sha256 : TasDigest)
deriving DecidableEq

structure TasProjectIdentity where
  system : String
  coreFamily : String
  determinismAbi : String
  sourceMediaSha256 : TasDigest
  effectiveMediaSha256 : TasDigest
  patches : List TasPatchIdentity
  firmware : List TasFirmwareIdentity
  devices : List TasDeviceIdentity
  syncConfigSha256 : TasDigest
  persistentState : TasExternalIdentity
  rtcState : TasExternalIdentity
  sensorState : TasExternalIdentity
  cheats : TasExternalIdentity
  stateFormatCompatibilityId : String
  startStateSha256 : TasDigest
deriving DecidableEq

structure TasControllerInput where
  buttons : UInt8 := 0
  dpad : UInt8 := 0
deriving DecidableEq

inductive TasColecoKeypadKey
  | none | zero | one | two | three | four | five | six | seven | eight | nine | star | pound
deriving DecidableEq

structure TasColecoControllerInput where
  up : Bool := false
  right : Bool := false
  down : Bool := false
  left : Bool := false
  leftButton : Bool := false
  rightButton : Bool := false
  keypad : TasColecoKeypadKey := .none
deriving DecidableEq

structure TasZapperInput where
  enabled : Bool := false
  trigger : Bool := false
  hit : Bool := false
  screenPos : Option (UInt16 × UInt16) := none
deriving DecidableEq

inductive TasCameraInput
  | none
  | blob (digest : TasDigest)
deriving DecidableEq

structure TasInputFrame where
  players : List.Vector TasControllerInput 5 := List.Vector.replicate 5 {}
  coleco : TasColecoControllerInput × TasColecoControllerInput := ({},{})
  zapper : TasZapperInput := {}
  tiltXBits : UInt32 := 0
  tiltYBits : UInt32 := 0
  camera : TasCameraInput := .none
deriving DecidableEq

/-- A run of frames with one input, which is the value of the span. -/
abbrev TasInputSpan := Span TasInputFrame

structure TasBranchOrigin where
  branchId : String
  branchMovieSha256 : TasDigest
  forkCursor : Nat
deriving DecidableEq

structure TasVerificationCheckpoint where
  cursor : Nat
  stateSha256 : TasDigest
deriving DecidableEq

structure TasVerificationProvenance where
  branchMovieSha256 : TasDigest
  checkpoints : List TasVerificationCheckpoint
  finalStateSha256 : Option TasDigest
deriving DecidableEq

structure TasBranch where
  id : String
  name : String
  comment : String := ""
  parent : Option TasBranchOrigin := none
  frameCount : Nat
  inputSpans : List TasInputSpan
  events : List ReplayEvent
  verification : Option TasVerificationProvenance := none
deriving DecidableEq

structure TasMarker where
  id : String
  branchId : String
  cursor : Nat
  name : String
deriving DecidableEq

structure TasAnnotation where
  id : String
  branchId : String
  start : Nat
  length : Nat
  kind : String
  text : String
deriving DecidableEq

structure TasProject where
  projectId : String
  sourceReplaySha256 : Option TasDigest := none
  identity : TasProjectIdentity
  startState : Bytes
  replayStart : ReplayStartMetadata
  editGeneration : Nat := 0
  rerecordCount : Nat := 0
  activeBranchId : String
  projectComment : String := ""
  branches : List TasBranch
  markers : List TasMarker := []
  annotations : List TasAnnotation := []
  assets : List (TasDigest × Bytes)
deriving DecidableEq

def maxProjectFrames : Nat := 1000000000
def maxProjectBranches : Nat := 256
def maxProjectMarkers : Nat := 100000
def maxProjectAnnotations : Nat := 100000
def maxProjectInputSpans : Nat := 1000000
def maxProjectAssets : Nat := 4096
def maxCameraAssetBytes : Nat := 1024 * 1024
def maxTotalAssetBytes : Nat := 32 * 1024 * 1024
def maxStartStateBytes : Nat := 32 * 1024 * 1024

def TasProject.branch (project : TasProject) (id : String) : Option TasBranch :=
  project.branches.find? (fun branch => branch.id == id)

/-- The input of a frame: the first span that ends after it, if that span has begun, and
otherwise the neutral input. -/
def TasBranch.inputAt (branch : TasBranch) (frame : Nat) : TasInputFrame :=
  (((branch.inputSpans.dropWhile (fun span => saturatingAdd span.start span.length ≤ frame)).head?.filter
    (fun span => span.start ≤ frame)).map Span.value).getD {}

end ZeffBoy.Tas
