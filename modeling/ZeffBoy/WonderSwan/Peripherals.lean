import ZeffBoy.Library.Clockwork

/-! The keypad and the clock of the cartridge. -/
namespace ZeffBoy.WonderSwan
open Function

-- Channels, segments and registers are numbered.
instance neZero_four : NeZero 4 := ⟨by decide⟩

instance neZero_eight : NeZero 8 := ⟨by decide⟩

structure Keypad where
  select : UInt8
  xButtons : UInt8
  yButtons : UInt8
  abStart : UInt8

namespace Keypad

def new : Keypad := ⟨0,0,0,0⟩

def mapHostButtonsToWsRow (buttons : UInt8) : UInt8 :=
  (if buttons &&& 1 ≠ 0 then 4 else 0) ||| (if buttons &&& 2 ≠ 0 then 8 else 0) ||| (if buttons &&& 8 ≠ 0 then 2 else 0)

def anyPressed (keypad : Keypad) : Bool := keypad.xButtons ||| keypad.yButtons ||| keypad.abStart ≠ 0

def setHostInput (keypad : Keypad) (buttons dpad : UInt8) : Bool × Keypad :=
  let pressed : Keypad := {keypad with
    xButtons := dpad &&& 0x0F
    abStart := mapHostButtonsToWsRow buttons
    yButtons := buttons >>> 4 &&& 0x0F}
  (!keypad.anyPressed && pressed.anyPressed,pressed)

def read (keypad : Keypad) : UInt8 :=
  let value := (if keypad.select &&& 0x10 ≠ 0 then keypad.yButtons else 0) |||
    (if keypad.select &&& 0x20 ≠ 0 then keypad.xButtons else 0) |||
    (if keypad.select &&& 0x40 ≠ 0 then keypad.abStart else 0)
  (keypad.select &&& 0x70) ||| (value &&& 0x0F)

def write (keypad : Keypad) (value : UInt8) : Keypad := {keypad with select := value &&& 0x70}

end Keypad

def cpuClockHz : Nat := 3072000
def rtcReady : UInt8 := 0x80
def rtcActive : UInt8 := 0x10
def rtcCommandMask : UInt8 := 0x1F
def rtcWriteDatetimeCommand : UInt8 := 0x14
def rtcReadDatetimeCommand : UInt8 := 0x15
def rtcReadyDelayReads : UInt8 := 2

def bcdToU8 (value : UInt8) : UInt8 := (value >>> 4) * 10 + (value &&& 0x0F)
def u8ToBcd (value : UInt8) : UInt8 := (value / 10) <<< 4 ||| value % 10

def daysInMonth (year month : UInt8) : UInt8 :=
  match month.toNat with
  | 1 | 3 | 5 | 7 | 8 | 10 | 12 => 31
  | 4 | 6 | 9 | 11 => 30
  | 2 => if year % 4 = 0 then 29 else 28
  | _ => 0

-- Year, month, day, weekday, hour, minute, second.
abbrev Datetime := Fin 7 → UInt8

def deterministicRtcEpoch : Datetime := ![0x00,0x01,0x01,0x06,0,0,0]

def incrementDatetime (payload : Datetime) : Datetime :=
  let second := bcdToU8 (payload 6) + 1
  if second < 60 then update payload 6 (u8ToBcd second)
  else
    let minute := bcdToU8 (payload 5) + 1
    if minute < 60 then update (update payload 5 (u8ToBcd minute)) 6 0
    else
      let hour := bcdToU8 (payload 4) + 1
      if hour < 24 then update (update (update payload 4 (u8ToBcd hour)) 5 0) 6 0
      else
        let year := bcdToU8 (payload 0)
        let month := bcdToU8 (payload 1)
        let day := bcdToU8 (payload 2) + 1
        let weekday := (payload 3 + 1) % 7
        if day > daysInMonth year month then
          if month + 1 > 12 then ![u8ToBcd ((year + 1) % 100),0x01,u8ToBcd 1,weekday,0,0,0]
          else ![payload 0,u8ToBcd (month + 1),u8ToBcd 1,weekday,0,0,0]
        else ![payload 0,payload 1,u8ToBcd day,weekday,0,0,0]

def rtcCommandLength (command : UInt8) : Nat :=
  match command.toNat with
  | 0x10 | 0x11 | 0x12 | 0x13 => 1
  | 0x14 | 0x15 => 7
  | 0x16 | 0x17 => 3
  | 0x18 | 0x19 | 0x1A | 0x1B => 2
  | _ => 0

structure Rtc where
  command : UInt8
  payload : Datetime
  payloadIndex : Nat
  payloadLen : Nat
  readyDelayReads : UInt8
  invalidCommand : Bool
  subsecondCycles : Nat

namespace Rtc

def new : Rtc := ⟨0,deterministicRtcEpoch,0,0,0,false,0⟩

def stepCycles (cycles : Nat) (rtc : Rtc) : Rtc :=
  let total := rtc.subsecondCycles + cycles
  {rtc with subsecondCycles := total % cpuClockHz, payload := incrementDatetime^[total / cpuClockHz] rtc.payload}

def validCommand (command : UInt8) : Bool := 0x10 ≤ command && command ≤ 0x1B

def isReadCommand (rtc : Rtc) : Bool := rtc.command &&& 1 ≠ 0 && !rtc.invalidCommand
def isWriteCommand (rtc : Rtc) : Bool := rtc.command &&& 1 = 0 && !rtc.invalidCommand

-- The payload is only indexed below its length.
def setPayload (payload : Datetime) (index : Nat) (value : UInt8) : Datetime :=
  if inside : index < 7 then update payload ⟨index,inside⟩ value else payload

def payloadByte (rtc : Rtc) : UInt8 := if inside : rtc.payloadIndex < 7 then rtc.payload ⟨rtc.payloadIndex,inside⟩ else 0

def writeCommand (rtc : Rtc) (value initialPayload : UInt8) : Rtc :=
  let command := value &&& rtcCommandMask
  let length := rtcCommandLength command
  let rtc : Rtc := {rtc with
    command := command
    payloadLen := length
    invalidCommand := !validCommand command
    payload := if command = rtcWriteDatetimeCommand ∧ 0 < length then setPayload rtc.payload 0 initialPayload else rtc.payload}
  {rtc with
    payloadIndex := if rtc.isWriteCommand then min length 1 else 0
    readyDelayReads := rtcReadyDelayReads}

def writePayload (rtc : Rtc) (value : UInt8) : Rtc :=
  if rtc.isWriteCommand = false ∨ rtc.payloadLen ≤ rtc.payloadIndex then rtc
  else {rtc with
    payload := if rtc.command = rtcWriteDatetimeCommand then setPayload rtc.payload rtc.payloadIndex value else rtc.payload
    payloadIndex := rtc.payloadIndex + 1}

def peekStatus (rtc : Rtc) : UInt8 :=
  let command := rtc.command &&& 0x0F
  if rtc.invalidCommand then rtcActive ||| command
  else if rtc.readyDelayReads > 0 then rtcActive ||| command
  else
    let remaining := rtc.payloadLen - rtc.payloadIndex
    if rtc.isWriteCommand then rtcReady ||| (if 0 < remaining then rtcActive else 0) ||| command
    else if remaining = 0 then command
    else rtcReady ||| (if 1 < remaining then rtcActive else 0) ||| command

def readStatus (rtc : Rtc) : UInt8 × Rtc :=
  (rtc.peekStatus,if rtc.readyDelayReads > 0 then {rtc with readyDelayReads := rtc.readyDelayReads - 1} else rtc)

def readPayload (rtc : Rtc) : UInt8 × Rtc :=
  if rtc.isReadCommand = false ∨ rtc.payloadLen ≤ rtc.payloadIndex then (rtcReady,rtc)
  else (if rtc.command = rtcReadDatetimeCommand then rtc.payloadByte else 0,{rtc with payloadIndex := rtc.payloadIndex + 1})

theorem stepCycles_additive : Library.Additive stepCycles := by
  intro first second rtc
  have seconds : (rtc.subsecondCycles + (first + second)) / cpuClockHz =
      ((rtc.subsecondCycles + first) % cpuClockHz + second) / cpuClockHz + (rtc.subsecondCycles + first) / cpuClockHz := by
    unfold cpuClockHz
    omega
  have rest : (rtc.subsecondCycles + (first + second)) % cpuClockHz =
      ((rtc.subsecondCycles + first) % cpuClockHz + second) % cpuClockHz := by
    unfold cpuClockHz
    omega
  simp only [stepCycles,seconds,rest,iterate_add_apply]

end Rtc

end ZeffBoy.WonderSwan
