import ZeffBoy.GameBoy.StateFormat

/-! The clock in a cartridge of a Game Boy Advance: a calendar behind the pins of a serial line.
A sum, a shift or an index that is out of range stops the program; such a step has no result. -/
namespace ZeffBoy.Gba.Rtc
open Library (Bytes Reader checkedByte)
open GameBoy (writeU32)
open GameBoy.StateReader (readU8 readBool readU32 readExact)

local instance neZero_clock : NeZero 7 := ⟨by decide⟩

def cpuClockHz : Nat := 16777216
def gpioData : UInt32 := 0x080000C4
def gpioDirection : UInt32 := 0x080000C6
def gpioControl : UInt32 := 0x080000C8
def gpioMask : UInt8 := 0x0F
def sck : UInt8 := 0x01
def sio : UInt8 := 0x02
def cs : UInt8 := 0x04
def controlHour24 : UInt8 := 0x40
def controlMask : UInt8 := 0x6A

inductive Command
  | reset
  | dateTime
  | forceIrq
  | control
  | time
deriving DecidableEq

namespace Command

def fromBits (bits : UInt8) : Option Command :=
  match bits.toNat with
  | 0 => some reset
  | 2 => some dateTime
  | 3 => some forceIrq
  | 4 => some control
  | 6 => some time
  | _ => none

def bits : Command → UInt8
  | reset => 0
  | dateTime => 2
  | forceIrq => 3
  | control => 4
  | time => 6

def byteLen : Command → Nat
  | dateTime => 7
  | control => 1
  | time => 3
  | reset | forceIrq => 0

end Command

section Decimal

def daysInMonth (year month : Nat) : Nat :=
  match month with
  | 1 | 3 | 5 | 7 | 8 | 10 | 12 => 31
  | 4 | 6 | 9 | 11 => 30
  | 2 => if year % 4 = 0 then 29 else 28
  | _ => 0

def toBcd (value : Nat) : UInt8 := UInt8.ofNat (value / 10) <<< 4 ||| UInt8.ofNat (value % 10)

/-- A number that may be refused, unless the program stops. -/
abbrev Decoded (α : Type) := OptionT Option α

def fromBcd (value : UInt8) : Decoded Nat := do
  let high := (value >>> 4).toNat
  let low := (value &&& 0x0F).toNat
  let decoded ← OptionT.lift (checkedByte (high * 10) >>= fun tens => checkedByte (tens + low))
  if high ≤ 9 ∧ low ≤ 9 then pure decoded else failure

def decodeHour (value control : UInt8) : Decoded Nat := do
  let hour ← fromBcd (value &&& 0x3F)
  if control &&& controlHour24 ≠ 0 then if hour < 24 then pure hour else failure
  else if ¬(1 ≤ hour ∧ hour ≤ 12) then failure
  else
    let pm : Bool := value &&& 0x80 ≠ 0
    if hour = 12 ∧ pm = false then pure 0
    else if hour = 12 then pure 12
    else if pm then OptionT.lift (checkedByte (hour + 12))
    else pure hour

def decodeTime (bytes : Bytes) (control : UInt8) : Decoded (Nat × Nat × Nat) :=
  match bytes with
  | [hour,minute,second] => do
    let hour ← decodeHour hour control
    let minute ← fromBcd minute
    let second ← fromBcd second
    if hour ≤ 23 ∧ minute ≤ 59 ∧ second ≤ 59 then pure (hour,minute,second) else failure
  | _ => failure

end Decimal

structure Calendar where
  year : Nat
  month : Nat
  day : Nat
  weekday : Nat
  hour : Nat
  minute : Nat
  second : Nat
deriving DecidableEq

namespace Calendar

def initial : Calendar := ⟨0,1,1,6,0,0,0⟩

/-- A date and a time of the years from 2000 to 2099. -/
structure Valid (calendar : Calendar) : Prop where
  year : calendar.year ≤ 99
  month : 1 ≤ calendar.month ∧ calendar.month ≤ 12
  day : 1 ≤ calendar.day ∧ calendar.day ≤ daysInMonth calendar.year calendar.month
  weekday : calendar.weekday ≤ 6
  hour : calendar.hour ≤ 23
  minute : calendar.minute ≤ 59
  second : calendar.second ≤ 59

def stepSecond (calendar : Calendar) : Option Calendar := do
  let second ← checkedByte (calendar.second + 1)
  if second < 60 then some {calendar with second := second}
  else do
    let minute ← checkedByte (calendar.minute + 1)
    if minute < 60 then some {calendar with minute := minute, second := 0}
    else do
      let hour ← checkedByte (calendar.hour + 1)
      if hour < 24 then some {calendar with hour := hour, minute := 0, second := 0}
      else do
        let weekday ← checkedByte (calendar.weekday + 1)
        let day ← checkedByte (calendar.day + 1)
        let calendar : Calendar := {calendar with weekday := weekday % 7, hour := 0, minute := 0, second := 0}
        if day ≤ daysInMonth calendar.year calendar.month then some {calendar with day := day}
        else do
          let month ← checkedByte (calendar.month + 1)
          if month ≤ 12 then some {calendar with month := month, day := 1}
          else do
            let year ← checkedByte (calendar.year + 1)
            some {calendar with year := year % 100, month := 1, day := 1}

def hourByte (hour : Nat) (control : UInt8) : UInt8 :=
  if control &&& controlHour24 = 0 then
    toBcd (if hour % 12 = 0 then 12 else hour % 12) ||| if 12 ≤ hour then 0x80 else 0
  else toBcd hour

def dateTimeBytes (calendar : Calendar) (control : UInt8) : Fin 7 → UInt8 :=
  ![toBcd calendar.year,toBcd calendar.month,toBcd calendar.day,toBcd calendar.weekday,hourByte calendar.hour control,
    toBcd calendar.minute,toBcd calendar.second]

def decodeDateTime (bytes : Bytes) (control : UInt8) : Decoded Calendar :=
  match bytes with
  | [year,month,day,weekday,hour,minute,second] => do
    let year ← fromBcd year
    let month ← fromBcd month
    let day ← fromBcd day
    let weekday ← fromBcd weekday
    let (hour,minute,second) ← decodeTime [hour,minute,second] control
    if (1 ≤ month ∧ month ≤ 12) ∧ (1 ≤ day ∧ day ≤ daysInMonth year month) ∧ weekday ≤ 6 ∧ hour ≤ 23 ∧ minute ≤ 59 ∧
        second ≤ 59 then
      pure ⟨year,month,day,weekday,hour,minute,second⟩
    else failure
  | _ => failure

-- What is refused leaves the calendar as it is.
def setDateTime (bytes : Bytes) (control : UInt8) (calendar : Calendar) : Option Calendar := do
  let decoded ← (decodeDateTime bytes control).run
  some (decoded.getD calendar)

def setTime (bytes : Bytes) (control : UInt8) (calendar : Calendar) : Option Calendar := do
  let decoded ← (decodeTime bytes control).run
  match decoded with
  | some (hour,minute,second) => some {calendar with hour := hour, minute := minute, second := second}
  | none => some calendar

/-- The seconds in a number of cycles, and the cycles that are left. -/
def stepSeconds (cycles : Nat) (calendar : Calendar) : Option (Nat × Calendar) :=
  if cpuClockHz ≤ cycles then do
    let calendar ← calendar.stepSecond
    stepSeconds (cycles - cpuClockHz) calendar
  else some (cycles,calendar)
termination_by cycles
decreasing_by
  unfold cpuClockHz at *
  omega

end Calendar

structure RtcGpio where
  dataLatch : UInt8
  pinState : UInt8
  direction : UInt8
  readWrite : Bool
  transferStep : Nat
  lastSck : Bool
  readBitSampled : Bool
  bitsRead : Nat
  bits : UInt8
  command : Option Command
  commandReading : Bool
  bytesRemaining : Nat
  transferBytes : Fin 7 → UInt8
  transferIndex : Nat
  control : UInt8
  calendar : Calendar
  subsecondCycles : Nat

namespace RtcGpio

def initial : RtcGpio where
  dataLatch := 0
  pinState := 0
  direction := 0
  readWrite := false
  transferStep := 0
  lastSck := false
  readBitSampled := false
  bitsRead := 0
  bits := 0
  command := none
  commandReading := false
  bytesRemaining := 0
  transferBytes := fun _ => 0
  transferIndex := 0
  control := controlHour24
  calendar := .initial
  subsecondCycles := 0

def abortTransfer (rtc : RtcGpio) : RtcGpio :=
  {rtc with
    bitsRead := 0
    bits := 0
    command := none
    commandReading := false
    bytesRemaining := 0
    transferIndex := 0
    readBitSampled := false}

def driveSio (bit : UInt8) (rtc : RtcGpio) : RtcGpio :=
  if rtc.direction &&& sio = 0 then {rtc with pinState := rtc.pinState &&& ~~~sio ||| (bit &&& 1) <<< 1} else rtc

def outputBit (rtc : RtcGpio) : Option UInt8 :=
  if inside : rtc.transferIndex < 7 then
    if rtc.bitsRead < 8 then some (rtc.transferBytes ⟨rtc.transferIndex,inside⟩ >>> UInt8.ofNat rtc.bitsRead &&& 1) else none
  else none

def driveOutput (rtc : RtcGpio) : Option RtcGpio := rtc.outputBit.map fun bit => rtc.driveSio bit

def finishOutputByte (rtc : RtcGpio) : Option RtcGpio :=
  let rtc : RtcGpio := {rtc with
    bitsRead := 0
    transferIndex := min (rtc.transferIndex + 1) 255
    bytesRemaining := rtc.bytesRemaining - 1}
  if rtc.bytesRemaining = 0 then some rtc.abortTransfer else rtc.driveOutput

def prepareOutput (command : Command) (rtc : RtcGpio) : RtcGpio :=
  let dateTime := rtc.calendar.dateTimeBytes rtc.control
  {rtc with
    transferBytes := match command with
      | .control => ![rtc.control,0,0,0,0,0,0]
      | .dateTime => dateTime
      | .time => ![dateTime 4,dateTime 5,dateTime 6,0,0,0,0]
      | .reset | .forceIrq => fun _ => 0}

def putByte (index : Nat) (byte : UInt8) (bytes : Fin 7 → UInt8) : Fin 7 → UInt8 :=
  if inside : index < 7 then Function.update bytes ⟨index,inside⟩ byte else bytes

/-- What a command does with all of its bytes. -/
def executeCommand (command : Command) (rtc : RtcGpio) : Option RtcGpio :=
  let bytes := List.ofFn rtc.transferBytes
  match command with
  | .control => some {rtc with control := rtc.transferBytes 0 &&& controlMask}
  | .dateTime => (rtc.calendar.setDateTime bytes rtc.control).map fun calendar => {rtc with calendar := calendar}
  | .time => (rtc.calendar.setTime (bytes.take 3) rtc.control).map fun calendar => {rtc with calendar := calendar}
  | .reset => some {rtc with control := 0}
  | .forceIrq => some rtc

def storeCommandByte (command : Command) (byte : UInt8) (rtc : RtcGpio) : Option RtcGpio :=
  let rtc : RtcGpio := {rtc with
    transferBytes := putByte rtc.transferIndex byte rtc.transferBytes
    transferIndex := min (rtc.transferIndex + 1) 255
    bytesRemaining := rtc.bytesRemaining - 1}
  if rtc.bytesRemaining ≠ 0 then some rtc else (rtc.executeCommand command).map abortTransfer

/-- The first byte of a transfer. -/
def startCommand (command : Command) (reading : Bool) (rtc : RtcGpio) : RtcGpio :=
  let rtc : RtcGpio := {rtc with
    command := some command
    commandReading := reading
    bytesRemaining := command.byteLen
    transferIndex := 0}
  let rtc := if reading then rtc.prepareOutput command else rtc
  if rtc.bytesRemaining = 0 then
    (if command = .reset then {rtc with control := 0} else rtc : RtcGpio).abortTransfer
  else rtc

def processInputByte (rtc : RtcGpio) : Option RtcGpio :=
  let byte := rtc.bits
  let rtc : RtcGpio := {rtc with bits := 0, bitsRead := 0}
  match rtc.command with
  | some command => rtc.storeCommandByte command byte
  | none =>
    if byte &&& 0x0F ≠ 0x06 then some rtc.abortTransfer
    else
      match Command.fromBits (byte >>> 4 &&& 0x07) with
      | none => some rtc.abortTransfer
      | some command => some (rtc.startCommand command (byte &&& 0x80 ≠ 0))

/-- The clock rises while bits are taken in. -/
def inputEdge (rtc : RtcGpio) : Option RtcGpio :=
  if rtc.bitsRead < 8 then do
    let bitsRead ← checkedByte (rtc.bitsRead + 1)
    let rtc : RtcGpio := {rtc with
      bits := rtc.bits ||| (rtc.pinState &&& sio) >>> 1 <<< UInt8.ofNat rtc.bitsRead
      bitsRead := bitsRead}
    let rtc ← if rtc.bitsRead = 8 then rtc.processInputByte else some rtc
    some {rtc with lastSck := true}
  else none

/-- The clock falls while bits are given out. -/
def outputEdge (rtc : RtcGpio) : Option RtcGpio := do
  let rtc ← if rtc.readBitSampled then do
      let bitsRead ← checkedByte (rtc.bitsRead + 1)
      let rtc : RtcGpio := {rtc with bitsRead := bitsRead}
      let rtc ← if rtc.bitsRead = 8 then rtc.finishOutputByte else rtc.driveOutput
      some {rtc with readBitSampled := false}
    else some rtc
  some {rtc with lastSck := false}

def observePins (rtc : RtcGpio) : Option RtcGpio :=
  let high : Bool := rtc.pinState &&& sck ≠ 0
  match rtc.transferStep with
  | 0 =>
    if rtc.pinState &&& (sck ||| cs) = sck then some {rtc with transferStep := 1}
    else if rtc.pinState &&& (sck ||| cs) = sck ||| cs then some {rtc with transferStep := 2, lastSck := true}
    else some rtc
  | 1 =>
    if rtc.pinState &&& (sck ||| cs) = sck ||| cs then some {rtc with transferStep := 2, lastSck := true}
    else if rtc.pinState &&& (sck ||| cs) ≠ sck then some {rtc with transferStep := 0}
    else some rtc
  | 2 =>
    if rtc.pinState &&& cs = 0 then some {rtc.abortTransfer with transferStep := if high then 1 else 0}
    else if rtc.commandReading = false ∧ rtc.lastSck = false ∧ high then rtc.inputEdge
    else if rtc.commandReading ∧ rtc.lastSck ∧ high = false then rtc.outputEdge
    else some {rtc with
      readBitSampled := rtc.readBitSampled || (rtc.commandReading && !rtc.lastSck && high)
      lastSck := high}
  | _ => none

def drivePins (rtc : RtcGpio) : RtcGpio :=
  {rtc with pinState := rtc.pinState &&& ~~~rtc.direction ||| rtc.dataLatch &&& rtc.direction}

def read8 (addr : UInt32) (rtc : RtcGpio) : Option UInt8 :=
  if rtc.readWrite = false ∨ ¬(gpioData ≤ addr ∧ addr ≤ gpioControl + 1) then none
  else
    let value := if addr &&& ~~~1 = gpioData then rtc.pinState else if addr &&& ~~~1 = gpioDirection then rtc.direction
      else rtc.readWrite.toUInt8
    some (if addr &&& 1 = 0 then value else 0)

def write16 (addr : UInt32) (value : UInt16) (rtc : RtcGpio) : Option (Bool × RtcGpio) :=
  let low := value.toUInt8 &&& gpioMask
  if addr = gpioData then do
    let rtc ← {rtc with dataLatch := low}.drivePins.observePins
    some (true,rtc)
  else if addr = gpioDirection then do
    let rtc ← {rtc with direction := low}.drivePins.observePins
    let rtc ← if rtc.transferStep = 2 ∧ rtc.commandReading then rtc.driveOutput else some rtc
    some (true,rtc)
  else if addr = gpioControl then some (true,{rtc with readWrite := value &&& 1 ≠ 0})
  else some (false,rtc)

def stepCycles (cycles : Nat) (rtc : RtcGpio) : Option RtcGpio := do
  let (subsecond,calendar) ← rtc.calendar.stepSeconds (min (rtc.subsecondCycles + cycles) 0xFFFFFFFF)
  some {rtc with subsecondCycles := subsecond, calendar := calendar}

section State

def writeState (rtc : RtcGpio) : Bytes :=
  rtc.dataLatch::rtc.pinState::rtc.direction::rtc.readWrite.toUInt8::UInt8.ofNat rtc.transferStep::rtc.lastSck.toUInt8::
    rtc.readBitSampled.toUInt8::UInt8.ofNat rtc.bitsRead::rtc.bits::(rtc.command.map Command.bits).getD 0xFF::
    rtc.commandReading.toUInt8::UInt8.ofNat rtc.bytesRemaining::((List.Vector.ofFn rtc.transferBytes).toList ++
    (UInt8.ofNat rtc.transferIndex::rtc.control::UInt8.ofNat rtc.calendar.year::UInt8.ofNat rtc.calendar.month::
    UInt8.ofNat rtc.calendar.day::UInt8.ofNat rtc.calendar.weekday::UInt8.ofNat rtc.calendar.hour::
    UInt8.ofNat rtc.calendar.minute::UInt8.ofNat rtc.calendar.second::writeU32 rtc.subsecondCycles))

def readCommand : Reader (Option Command) := do
  let bits ← readU8
  if bits = 0xFF then return none
  else
    match Command.fromBits bits with
    | some command => return some command
    | none => Reader.fail "invalid GBA RTC command"

def readCalendar : Reader Calendar := do
  let year ← readU8
  let month ← readU8
  let day ← readU8
  let weekday ← readU8
  let hour ← readU8
  let minute ← readU8
  let second ← readU8
  return ⟨year.toNat,month.toNat,day.toNat,weekday.toNat,hour.toNat,minute.toNat,second.toNat⟩

/-- What is read, before it is checked. -/
def readFields : Reader RtcGpio := do
  let dataLatch ← readU8
  let pinState ← readU8
  let direction ← readU8
  let readWrite ← readBool
  let transferStep ← readU8
  let lastSck ← readBool
  let readBitSampled ← readBool
  let bitsRead ← readU8
  let bits ← readU8
  let command ← readCommand
  let commandReading ← readBool
  let bytesRemaining ← readU8
  let transferBytes ← readExact 7
  let transferIndex ← readU8
  let control ← readU8
  let calendar ← readCalendar
  let subsecondCycles ← readU32
  return {
    dataLatch := dataLatch &&& gpioMask
    pinState := pinState &&& gpioMask
    direction := direction &&& gpioMask
    readWrite := readWrite
    transferStep := transferStep.toNat
    lastSck := lastSck
    readBitSampled := readBitSampled
    bitsRead := bitsRead.toNat
    bits := bits
    command := command
    commandReading := commandReading
    bytesRemaining := bytesRemaining.toNat
    transferBytes := transferBytes.get
    transferIndex := transferIndex.toNat
    control := control &&& controlMask
    calendar := calendar
    subsecondCycles := subsecondCycles}

def outOfRange (rtc : RtcGpio) : Prop :=
  2 < rtc.transferStep ∨ 7 < rtc.bitsRead ∨ 7 < rtc.bytesRemaining ∨ 7 < rtc.transferIndex ∨ 99 < rtc.calendar.year ∨
    ¬(1 ≤ rtc.calendar.month ∧ rtc.calendar.month ≤ 12) ∨
    ¬(1 ≤ rtc.calendar.day ∧ rtc.calendar.day ≤ daysInMonth rtc.calendar.year rtc.calendar.month) ∨
    6 < rtc.calendar.weekday ∨ 23 < rtc.calendar.hour ∨ 59 < rtc.calendar.minute ∨ 59 < rtc.calendar.second ∨
    cpuClockHz ≤ rtc.subsecondCycles

instance (rtc : RtcGpio) : Decidable rtc.outOfRange := inferInstanceAs (Decidable (_ ∨ _))

def readState : Reader RtcGpio := do
  let rtc ← readFields
  if rtc.outOfRange then Reader.fail "invalid GBA RTC state" else return rtc

end State

inductive GpioCall
  | read8 (addr : UInt32)
  | write16 (addr : UInt32) (value : UInt16)
  | stepCycles (cycles : Nat)

def perform (rtc : RtcGpio) : GpioCall → Option RtcGpio
  | .read8 _ => some rtc
  | .write16 addr value => (rtc.write16 addr value).map Prod.snd
  | .stepCycles cycles => rtc.stepCycles cycles

def run (rtc : RtcGpio) (calls : List GpioCall) : Option RtcGpio := calls.foldlM perform rtc

end RtcGpio

end ZeffBoy.Gba.Rtc
