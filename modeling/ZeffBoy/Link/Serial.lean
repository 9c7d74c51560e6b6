import Mathlib

/-! The serial unit of a Game Boy with a link peer.
A transfer the guest starts as master is queued for the link, waits for the peer's reply and
completes at the end of its period; a transfer the peer clocks is scheduled for its period. -/
namespace ZeffBoy.Link.GameBoy

def normalSerialTransferTCycles : Nat := 4096
def fastSerialTransferTCycles : Nat := 128

inductive HardwareMode
  | dmg
  | sgb1
  | sgb2
  | cgbNormal
  | cgbDouble
deriving DecidableEq

def HardwareMode.isCgb : HardwareMode → Bool
  | cgbNormal => true
  | cgbDouble => true
  | _ => false

structure GameBoyLinkAction where
  outByte : UInt8
  clockPeriodTCycles : UInt64
  serialGeneration : UInt64
deriving DecidableEq

structure GameBoyLinkReply where
  outByte : UInt8
  passive : Bool
  serialGeneration : UInt64
deriving DecidableEq

structure Serial where
  sb : UInt8
  sc : UInt8
  cycles : Nat
  mode : HardwareMode
  outputLog : List UInt8
  linkPeerPresent : Bool
  pendingLinkByte : Option UInt8
  pendingLinkResponse : Option UInt8
  pendingLinkCompletionReady : Bool
  pendingExternalCompletion : Option (UInt8 × Nat)
  queuedLinkAction : Option GameBoyLinkAction
  serialGeneration : UInt64
deriving DecidableEq

-- A device on the port: its answer to a byte, and the byte it clocks in when the guest waits for one.
structure Device where
  exchangeByte : UInt8 → UInt8
  clocked : Option UInt8

namespace Serial

def new : Serial := ⟨0,0,0,.dmg,[],false,none,none,false,none,none,0⟩

def internalActive (serial : Serial) : Bool := serial.sc &&& 0x81 = 0x81

def transferPeriod (serial : Serial) : Nat :=
  let fastSerial := serial.mode.isCgb && serial.sc &&& 0x02 ≠ 0
  let normalSpeedPeriod := if fastSerial then fastSerialTransferTCycles else normalSerialTransferTCycles
  if serial.mode = .cgbDouble then normalSpeedPeriod / 2 else normalSpeedPeriod

def bumpSerialGeneration (serial : Serial) : Serial := {serial with serialGeneration := serial.serialGeneration + 1}

def writeSb (serial : Serial) (value : UInt8) : Serial := {serial with sb := value}.bumpSerialGeneration

-- What a cleared transfer bit and a lost peer both forget.
def dropLink (serial : Serial) : Serial :=
  {serial with
    pendingLinkByte := none
    pendingLinkResponse := none
    pendingLinkCompletionReady := false
    pendingExternalCompletion := none
    queuedLinkAction := none}

def newAction (serial : Serial) : GameBoyLinkAction :=
  ⟨serial.sb,UInt64.ofNat serial.transferPeriod,serial.serialGeneration⟩

def queueAction (serial : Serial) : Serial :=
  {serial with
    pendingLinkByte := some serial.sb
    pendingLinkResponse := none
    pendingLinkCompletionReady := false
    queuedLinkAction := some serial.newAction}

def writeSc (serial : Serial) (value : UInt8) : Serial :=
  let wasInternalActive := serial.internalActive
  let written := {serial with sc := value}.bumpSerialGeneration
  if value &&& 0x80 = 0 then written.dropLink
  else if written.linkPeerPresent && !wasInternalActive && written.pendingLinkByte.isNone && written.internalActive then
    {written.queueAction with pendingExternalCompletion := none}
  else written

def setMode (serial : Serial) (mode : HardwareMode) : Serial := {serial with mode := mode}

def setLinkPeerPresent (serial : Serial) (present : Bool) : Serial :=
  let updated := {serial with linkPeerPresent := present}
  if !present then updated.dropLink
  else if !serial.linkPeerPresent && serial.pendingLinkByte.isNone && serial.internalActive then updated.queueAction
  else updated

def waitingAtLinkCompletionBoundary (serial : Serial) : Bool :=
  serial.pendingLinkByte.isSome && serial.pendingLinkCompletionReady && serial.pendingLinkResponse.isNone

def takeLinkAction (serial : Serial) : Option GameBoyLinkAction × Serial :=
  (serial.queuedLinkAction,{serial with queuedLinkAction := none})

def externalClockTransferActive (serial : Serial) : Bool := serial.pendingLinkByte.isNone && serial.sc &&& 0x81 = 0x80

def activeDeviceCanClockExternalTransfer (serial : Serial) : Bool :=
  !serial.linkPeerPresent && serial.pendingExternalCompletion.isNone && serial.externalClockTransferActive

def completeLinkTransfer (serial : Serial) (response : UInt8) : Bool × Serial :=
  let taken := {serial with pendingLinkByte := none}
  if serial.pendingLinkByte.isNone && !taken.externalClockTransferActive then (false,taken)
  else (true,{taken with
    sb := response
    sc := serial.sc &&& 0x7F
    pendingLinkResponse := none
    pendingLinkCompletionReady := false
    pendingExternalCompletion := none
    queuedLinkAction := none}.bumpSerialGeneration)

def applyLinkReply (serial : Serial) (reply : GameBoyLinkReply) : Bool × Serial :=
  if serial.pendingLinkByte.isNone then (false,serial)
  else if serial.pendingLinkCompletionReady then serial.completeLinkTransfer reply.outByte
  else (true,{serial with pendingLinkResponse := some reply.outByte})

def replyToMasterStart (serial : Serial) : GameBoyLinkReply :=
  ⟨serial.sb,serial.externalClockTransferActive,serial.serialGeneration⟩

def completeExternalFromMaster (serial : Serial) (peerByte : UInt8) : Bool × Serial :=
  if !serial.externalClockTransferActive then (false,serial) else serial.completeLinkTransfer peerByte

def canScheduleExternalFromMaster (serial : Serial) : Bool :=
  serial.externalClockTransferActive && serial.pendingExternalCompletion.isNone

def scheduleExternalFromMaster (serial : Serial) (peerByte : UInt8) (period : Nat) : Bool × Serial :=
  if !serial.canScheduleExternalFromMaster then (false,serial)
  else (true,{serial with pendingExternalCompletion := some (peerByte,period)})

/-- `Serial::step`: whether a transfer completed, and the unit after the cycles. -/
def step (serial : Serial) (cycles : Nat) (device : Device) : Bool × Serial :=
  let transferPeriod := serial.transferPeriod
  let active := serial.internalActive
  -- Both sums of the source are 64 bits wide.
  let summed := (serial.cycles + cycles) % 2^64
  let crossedPeriod := transferPeriod ≤ summed
  let moved := {serial with cycles := summed % transferPeriod}
  let finish (serial : Serial) : Bool × Serial :=
    if active && crossedPeriod then
      match serial.pendingLinkResponse with
      | some response => serial.completeLinkTransfer response
      | none =>
        if serial.linkPeerPresent && serial.pendingLinkByte.isSome then
          (false,{serial with pendingLinkCompletionReady := true})
        else (true,{serial with
          outputLog := serial.outputLog ++ [serial.sb]
          sb := device.exchangeByte serial.sb
          sc := serial.sc &&& 0x7F}.bumpSerialGeneration)
    else (false,serial)
  match moved.pendingExternalCompletion with
  | some (peerByte,remaining) =>
    if remaining ≤ cycles then {moved with pendingExternalCompletion := none}.completeLinkTransfer peerByte
    else finish {moved with pendingExternalCompletion := some (peerByte,remaining - cycles)}
  | none => finish moved

/-- `Bus::step_serial`: a device with its own clock goes first, when the guest waits for one. -/
def stepSerial (serial : Serial) (cycles : Nat) (device : Device) : Serial :=
  let clocked := match device.clocked with
    | some response =>
      if serial.activeDeviceCanClockExternalTransfer then (serial.completeExternalFromMaster response).2 else serial
    | none => serial
  (clocked.step cycles device).2

end Serial
end ZeffBoy.Link.GameBoy
