import ZeffBoy.GameBoy.Mappers

/-! The mappers with a clock: the MBC3 counts emulated cycles, the HuC3 asks the host for the time. -/
namespace ZeffBoy.GameBoy
open Library

def gbTCyclesPerSecond : Nat := 4194304

abbrev rtcRegCount : Nat := 5

def rtcSeconds : Fin rtcRegCount := 0

def rtcMinutes : Fin rtcRegCount := 1

def rtcHours : Fin rtcRegCount := 2

def rtcDayLow : Fin rtcRegCount := 3

def rtcDayHigh : Fin rtcRegCount := 4

def rtcDhDayHighBit : UInt8 := 0x01

def rtcDhHaltBit : UInt8 := 0x40

def rtcDhCarryBit : UInt8 := 0x80

def sanitizeRtcRegister (index : Fin rtcRegCount) (value : UInt8) : UInt8 :=
  if index = rtcSeconds then value &&& 0x3F
  else if index = rtcMinutes then value &&& 0x3F
  else if index = rtcHours then value &&& 0x1F
  else if index = rtcDayLow then value
  else value &&& (rtcDhDayHighBit ||| rtcDhHaltBit ||| rtcDhCarryBit)

def rtcIndex (rtcSelect : UInt8) : Fin rtcRegCount := Fin.ofNat rtcRegCount (rtcSelect - 0x08).toNat

abbrev RtcRegisters := List.Vector UInt8 rtcRegCount

@[ext] structure Rtc where
  internal : RtcRegisters
  latched : RtcRegisters
  subsecondCycles : Nat

namespace Rtc

def new : Rtc := ⟨List.Vector.replicate rtcRegCount 0,List.Vector.replicate rtcRegCount 0,0⟩

def setInternal (self : Rtc) (index : Fin rtcRegCount) (value : UInt8) : Rtc :=
  {self with internal := self.internal.set index value}

def incrementDays (self : Rtc) : Rtc :=
  let dayHigh := self.internal.get rtcDayHigh
  let day := ((dayHigh &&& rtcDhDayHighBit).toUInt16 <<< 8) ||| (self.internal.get rtcDayLow).toUInt16
  let overflowed := day == 0x1FF
  let nextDay := if overflowed then 0 else day + 1
  let dh := (dayHigh &&& rtcDhHaltBit) ||| ((nextDay >>> 8).toUInt8 &&& rtcDhDayHighBit)
  let dh := if dayHigh &&& rtcDhCarryBit != 0 || overflowed then dh ||| rtcDhCarryBit else dh
  (self.setInternal rtcDayLow (nextDay &&& 0xFF).toUInt8).setInternal rtcDayHigh dh

def incrementHours (self : Rtc) : Rtc :=
  let hours := self.internal.get rtcHours
  if hours = 23 then (self.setInternal rtcHours 0).incrementDays
  else self.setInternal rtcHours ((hours + 1) &&& 0x1F)

def incrementMinutes (self : Rtc) : Rtc :=
  let minutes := self.internal.get rtcMinutes
  if minutes = 59 then (self.setInternal rtcMinutes 0).incrementHours
  else self.setInternal rtcMinutes ((minutes + 1) &&& 0x3F)

def tickOneSecond (self : Rtc) : Rtc :=
  let seconds := self.internal.get rtcSeconds
  if seconds = 59 then (self.setInternal rtcSeconds 0).incrementMinutes
  else self.setInternal rtcSeconds ((seconds + 1) &&& 0x3F)

theorem tickOneSecond_subsecondCycles (self : Rtc) : self.tickOneSecond.subsecondCycles = self.subsecondCycles := by
  unfold tickOneSecond incrementMinutes incrementHours
  dsimp only
  repeat' split
  all_goals rfl

def drainSeconds (self : Rtc) : Rtc :=
  if gbTCyclesPerSecond ≤ self.subsecondCycles then
    drainSeconds ({self with subsecondCycles := self.subsecondCycles - gbTCyclesPerSecond} : Rtc).tickOneSecond
  else self
termination_by self.subsecondCycles
decreasing_by
  rw [tickOneSecond_subsecondCycles]
  simp only [gbTCyclesPerSecond] at *
  omega

def advanceCycles (self : Rtc) (tCycles : UInt64) : Rtc :=
  if self.internal.get rtcDayHigh &&& rtcDhHaltBit != 0 then self
  else
    drainSeconds {self with subsecondCycles := min (self.subsecondCycles + tCycles.toNat) (2^64 - 1)}

def latch (self : Rtc) : Rtc := {self with latched := self.internal}

def readLatched (self : Rtc) (rtcSelect : UInt8) : UInt8 := self.latched.get (rtcIndex rtcSelect)

def writeInternal (self : Rtc) (rtcSelect value : UInt8) : Rtc :=
  let idx := rtcIndex rtcSelect
  let written := self.setInternal idx (sanitizeRtcRegister idx value)
  if idx = rtcSeconds then {written with subsecondCycles := 0} else written

def Sanitized (registers : RtcRegisters) : Prop :=
  ∀ index, sanitizeRtcRegister index (registers.get index) = registers.get index

structure Sound (rtc : Rtc) : Prop where
  internal : Sanitized rtc.internal
  latched : Sanitized rtc.latched
  subsecondCycles : rtc.subsecondCycles < gbTCyclesPerSecond

theorem sanitized_zero : Sanitized (List.Vector.replicate rtcRegCount 0) := by
  intro index
  rw [List.Vector.get_replicate]
  unfold sanitizeRtcRegister
  repeat' split
  all_goals rfl

theorem sanitize_idem (index : Fin rtcRegCount) (value : UInt8) :
    sanitizeRtcRegister index (sanitizeRtcRegister index value) = sanitizeRtcRegister index value := by
  unfold sanitizeRtcRegister
  repeat' split
  all_goals simp [UInt8.and_assoc]

theorem Sanitized.set {registers : RtcRegisters} (clean : Sanitized registers) (index : Fin rtcRegCount) (value : UInt8)
    (kept : sanitizeRtcRegister index value = value) : Sanitized (registers.set index value) := by
  intro other
  rcases eq_or_ne index other with rfl | apart
  · rw [List.Vector.get_set_same,kept]
  · rw [List.Vector.get_set_of_ne apart]
    exact clean other

theorem or_and_right (left right mask : UInt8) : (left ||| right) &&& mask = (left &&& mask) ||| (right &&& mask) :=
  UInt8.toBitVec_inj.mp BitVec.and_or_distrib_right

theorem sanitize_dayHigh (halted day : UInt8) (carry : Bool) :
    let dh := (halted &&& rtcDhHaltBit) ||| (day &&& rtcDhDayHighBit)
    sanitizeRtcRegister rtcDayHigh (if carry then dh ||| rtcDhCarryBit else dh) =
      if carry then dh ||| rtcDhCarryBit else dh := by
  intro dh
  have clean (value : UInt8) : sanitizeRtcRegister rtcDayHigh value = value &&& 0xC1 := rfl
  have kept : dh &&& 0xC1 = dh := by
    rw [or_and_right,UInt8.and_assoc,UInt8.and_assoc]
    rfl
  rw [clean]
  split
  · rw [or_and_right,kept]
    rfl
  · exact kept

theorem sanitized_incrementDays (self : Rtc) (clean : Sanitized self.internal) : Sanitized self.incrementDays.internal := by
  exact (clean.set rtcDayLow _ rfl).set rtcDayHigh _ (sanitize_dayHigh _ _ _)

theorem sanitized_incrementHours (self : Rtc) (clean : Sanitized self.internal) : Sanitized self.incrementHours.internal := by
  unfold incrementHours
  dsimp only
  split
  · exact sanitized_incrementDays _ (clean.set rtcHours 0 rfl)
  · exact clean.set rtcHours _ (sanitize_idem rtcHours _)

theorem sanitized_incrementMinutes (self : Rtc) (clean : Sanitized self.internal) :
    Sanitized self.incrementMinutes.internal := by
  unfold incrementMinutes
  dsimp only
  split
  · exact sanitized_incrementHours _ (clean.set rtcMinutes 0 rfl)
  · exact clean.set rtcMinutes _ (sanitize_idem rtcMinutes _)

theorem sanitized_tickOneSecond (self : Rtc) (clean : Sanitized self.internal) : Sanitized self.tickOneSecond.internal := by
  unfold tickOneSecond
  dsimp only
  split
  · exact sanitized_incrementMinutes _ (clean.set rtcSeconds 0 rfl)
  · exact clean.set rtcSeconds _ (sanitize_idem rtcSeconds _)

theorem tickOneSecond_latched (self : Rtc) : self.tickOneSecond.latched = self.latched := by
  unfold tickOneSecond incrementMinutes incrementHours
  dsimp only
  repeat' split
  all_goals rfl

theorem sound_drainSeconds (self : Rtc) (internal : Sanitized self.internal) (latched : Sanitized self.latched) :
    self.drainSeconds.Sound := by
  induction self using drainSeconds.induct with
  | case1 self full ih =>
    rw [drainSeconds,if_pos full]
    apply ih
    · exact sanitized_tickOneSecond _ internal
    · rw [tickOneSecond_latched]
      exact latched
  | case2 self partial_ =>
    rw [drainSeconds,if_neg partial_]
    exact ⟨internal,latched,Nat.lt_of_not_le partial_⟩

theorem sound_new : new.Sound := ⟨sanitized_zero,sanitized_zero,by decide⟩

theorem Sound.advanceCycles {self : Rtc} (sound : self.Sound) (tCycles : UInt64) : (self.advanceCycles tCycles).Sound := by
  unfold Rtc.advanceCycles
  split
  · exact sound
  · exact sound_drainSeconds _ sound.internal sound.latched

theorem Sound.latch {self : Rtc} (sound : self.Sound) : self.latch.Sound := {sound with latched := sound.internal}

theorem Sound.writeInternal {self : Rtc} (sound : self.Sound) (rtcSelect value : UInt8) :
    (self.writeInternal rtcSelect value).Sound := by
  have clean := sound.internal.set (rtcIndex rtcSelect) _ (sanitize_idem (rtcIndex rtcSelect) value)
  unfold Rtc.writeInternal
  dsimp only
  split
  · exact ⟨clean,sound.latched,Nat.succ_pos _⟩
  · exact ⟨clean,sound.latched,sound.subsecondCycles⟩

end Rtc

@[ext] structure Mbc3 where
  rom : Bytes
  ram : Bytes
  hasRtc : Bool
  ramEnable : Bool
  romBank : Nat
  ramOrRtcSelect : UInt8
  rtcLatchWrite : UInt8
  rtc : Rtc

namespace Mbc3

def new (rom : Bytes) (ramSize : Nat) (hasRtc : Bool) : Mbc3 where
  rom := rom
  ram := List.replicate ramSize 0
  hasRtc := hasRtc
  ramEnable := false
  romBank := 1
  ramOrRtcSelect := 0
  rtcLatchWrite := 0
  rtc := Rtc.new

def step (self : Mbc3) (tCycles : UInt64) : Mbc3 :=
  if self.hasRtc then {self with rtc := self.rtc.advanceCycles tCycles} else self

def readRom (self : Mbc3) (addr : UInt16) : UInt8 :=
  if addr ≤ 0x3FFF then readFixedRom self.rom addr
  else if addr ≤ 0x7FFF then readBankedRom self.rom self.romBank addr
  else 0xFF

def writeRom (self : Mbc3) (addr : UInt16) (value : UInt8) : Mbc3 :=
  if addr ≤ 0x1FFF then {self with ramEnable := isRamEnable value}
  else if addr ≤ 0x3FFF then {self with romBank := nonzeroBank (value &&& 0x7F).toNat}
  else if addr ≤ 0x5FFF then {self with ramOrRtcSelect := value &&& 0x0F}
  else if addr ≤ 0x7FFF then
    {self with rtc := if self.hasRtc then self.rtc.latch else self.rtc, rtcLatchWrite := value}
  else self

def selectsRtc (self : Mbc3) : Bool := self.hasRtc && 0x08 ≤ self.ramOrRtcSelect && self.ramOrRtcSelect ≤ 0x0C

def readRam (self : Mbc3) (addr : UInt16) : UInt8 :=
  if !self.ramEnable then 0xFF
  else if self.selectsRtc then self.rtc.readLatched self.ramOrRtcSelect
  else if self.hasRtc && 0x03 < self.ramOrRtcSelect then 0xFF
  else if self.ram.isEmpty then 0xFF
  else readBankedRam self.ram (self.ramOrRtcSelect &&& 0x03).toNat addr

def writeRam (self : Mbc3) (addr : UInt16) (value : UInt8) : Mbc3 :=
  if !self.ramEnable then self
  else if self.selectsRtc then {self with rtc := self.rtc.writeInternal self.ramOrRtcSelect value}
  else if self.hasRtc && 0x03 < self.ramOrRtcSelect then self
  else if self.ram.isEmpty then self
  else {self with ram := writeBankedRam self.ram (self.ramOrRtcSelect &&& 0x03).toNat addr value}

def debugInfo (self : Mbc3) : CartridgeDebugInfo :=
  ⟨"MBC3",self.romBank,(self.ramOrRtcSelect &&& 0x03).toNat,self.ramEnable,none⟩

def restoreRomBytes (self : Mbc3) (rom : Bytes) : Mbc3 := {self with rom}

def bessMbcWrites (self : Mbc3) : List (UInt16 × UInt8) :=
  [(0x0000,if self.ramEnable then 0x0A else 0x00),
   (0x2000,UInt8.ofNat (self.romBank &&& 0x7F)),
   (0x4000,self.ramOrRtcSelect)]

structure Sound (rom : Bytes) (ramSize : Nat) (hasRtc : Bool) (mapper : Mbc3) : Prop where
  sameRom : mapper.rom = rom
  ramLength : mapper.ram.length = ramSize
  sameClock : mapper.hasRtc = hasRtc
  romBank : mapper.romBank < 2^7
  positive : 0 < mapper.romBank
  ramOrRtcSelect : mapper.ramOrRtcSelect &&& 0x0F = mapper.ramOrRtcSelect
  rtc : mapper.rtc.Sound

theorem sound_new (rom : Bytes) (ramSize : Nat) (hasRtc : Bool) : (new rom ramSize hasRtc).Sound rom ramSize hasRtc where
  sameRom := rfl
  ramLength := List.length_replicate
  sameClock := rfl
  romBank := Nat.one_lt_two_pow (by decide)
  positive := Nat.one_pos
  ramOrRtcSelect := UInt8.zero_and
  rtc := Rtc.sound_new

variable {rom : Bytes} {ramSize : Nat} {hasRtc : Bool} {self : Mbc3}

theorem Sound.step (sound : self.Sound rom ramSize hasRtc) (tCycles : UInt64) :
    (self.step tCycles).Sound rom ramSize hasRtc := by
  unfold Mbc3.step
  split
  · exact {sound with rtc := sound.rtc.advanceCycles tCycles}
  · exact sound

theorem Sound.writeRom (sound : self.Sound rom ramSize hasRtc) (addr : UInt16) (value : UInt8) :
    (self.writeRom addr value).Sound rom ramSize hasRtc := by
  unfold Mbc3.writeRom
  split
  · exact {sound with}
  split
  · have below := masked_lt value 0x7F (2^7) (by decide)
    exact {sound with romBank := nonzeroBank_lt below (by decide), positive := nonzeroBank_pos _}
  split
  · exact {sound with ramOrRtcSelect := by rw [UInt8.and_assoc]; rfl}
  split
  · refine {sound with rtc := ?_}
    show (if _ then _ else _ : Rtc).Sound
    split
    · exact sound.rtc.latch
    · exact sound.rtc
  · exact sound

theorem Sound.writeRam (sound : self.Sound rom ramSize hasRtc) (addr : UInt16) (value : UInt8) :
    (self.writeRam addr value).Sound rom ramSize hasRtc := by
  unfold Mbc3.writeRam
  split
  · exact sound
  split
  · exact {sound with rtc := sound.rtc.writeInternal ..}
  split
  · exact sound
  split
  · exact sound
  · exact {sound with ramLength := (length_writeBankedRam ..).trans sound.ramLength}

end Mbc3

def flagRamEnabled : UInt8 := 0x0A

def flagCommandMode : UInt8 := 0x0B

def flagReadMode : UInt8 := 0x0C

def flagReady : UInt8 := 0x0D

def rtcCmdReadNibble : UInt8 := 0x10

def rtcCmdWriteNibble : UInt8 := 0x30

def rtcCmdModeShift : UInt8 := 0x40

def rtcCmdLatch : UInt8 := 0x60

def secondsPerDay : UInt64 := 86400

def minutesPerDay : UInt32 := 1440

@[ext] structure HuC3 where
  rom : Bytes
  ram : Bytes
  ramEnable : Bool
  romBank : Nat
  ramBank : Nat
  ramFlag : UInt8
  rtcDatetime : UInt32
  rtcWritingTime : UInt32
  rtcClockShift : UInt8
  rtcTimerRead : Bool
  rtcReadValue : UInt8
  rtcBaseTime : UInt64

namespace HuC3

def new (rom : Bytes) (ramSize : Nat) (now : UInt64) : HuC3 where
  rom := rom
  ram := List.replicate ramSize 0
  ramEnable := false
  romBank := 1
  ramBank := 0
  ramFlag := 0
  rtcDatetime := 0
  rtcWritingTime := 0
  rtcClockShift := 0
  rtcTimerRead := false
  rtcReadValue := 0
  rtcBaseTime := now

def readRom (self : HuC3) (addr : UInt16) : UInt8 :=
  if addr ≤ 0x3FFF then readFixedRom self.rom addr
  else if addr ≤ 0x7FFF then readBankedRom self.rom self.romBank addr
  else 0xFF

def writeRom (self : HuC3) (addr : UInt16) (value : UInt8) : HuC3 :=
  if addr ≤ 0x1FFF then {self with ramEnable := value == flagRamEnabled, ramFlag := value}
  else if addr ≤ 0x3FFF then {self with romBank := nonzeroBank (value &&& 0x7F).toNat}
  else if addr ≤ 0x5FFF then {self with ramBank := (value &&& 0x03).toNat}
  else self

def readRam (self : HuC3) (addr : UInt16) : UInt8 :=
  if self.ramFlag = flagReadMode then self.rtcReadValue
  else if self.ramFlag = flagReady then 1
  else if self.ramFlag = flagRamEnabled then
    if self.ram.isEmpty then 0xFF else readBankedRam self.ram self.ramBank addr
  else 0xFF

def updateLatch (self : HuC3) (now : UInt64) : HuC3 :=
  let diff := if now < self.rtcBaseTime then 0 else now - self.rtcBaseTime
  let minute := (diff / 60 % minutesPerDay.toUInt64).toUInt32
  let day := (diff / secondsPerDay &&& 0xFFF).toUInt32
  {self with rtcDatetime := day <<< 12 ||| minute}

def commitWrittenTime (self : HuC3) (now : UInt64) : HuC3 :=
  let minute := (self.rtcWritingTime &&& 0xFFF) % minutesPerDay
  let day := self.rtcWritingTime >>> 12 &&& 0xFFF
  {self with rtcBaseTime := now - minute.toUInt64 * 60 - day.toUInt64 * secondsPerDay}

def readNibble (self : HuC3) (now : UInt64) : HuC3 :=
  let self := self.updateLatch now
  let shift := self.rtcClockShift
  let value := (self.rtcDatetime >>> shift.toUInt32 &&& 0x0F).toUInt8
  {self with rtcReadValue := value, rtcClockShift := if 24 < shift + 4 then 0 else shift + 4}

def writeNibble (self : HuC3) (value : UInt8) (now : UInt64) : HuC3 :=
  let self := if self.rtcClockShift = 0 then {self with rtcWritingTime := 0} else self
  if self.rtcClockShift < 24 then
    let nibble := (value &&& 0x0F).toUInt32 <<< self.rtcClockShift.toUInt32
    let self := {self with rtcWritingTime := self.rtcWritingTime ||| nibble, rtcClockShift := self.rtcClockShift + 4}
    if self.rtcClockShift = 24 then {self.commitWrittenTime now with rtcTimerRead := true} else self
  else self

def modeShift (self : HuC3) (mode : UInt8) : HuC3 :=
  if mode = 0x0 then {self with rtcClockShift := 0}
  else if mode = 0x3 then {self with rtcTimerRead := false, rtcClockShift := 0}
  else if mode = 0x7 then {self with rtcTimerRead := true, rtcClockShift := 0}
  else self

def handleCommand (self : HuC3) (value : UInt8) (now : UInt64) : HuC3 :=
  let command := value &&& 0xF0
  if command = rtcCmdReadNibble ∧ self.rtcTimerRead then self.readNibble now
  else if command = rtcCmdWriteNibble ∧ !self.rtcTimerRead then self.writeNibble value now
  else if command = rtcCmdModeShift then self.modeShift (value &&& 0x0F)
  else if command = rtcCmdLatch then {self with rtcTimerRead := true}
  else self

def writeRam (self : HuC3) (addr : UInt16) (value : UInt8) (now : UInt64) : HuC3 :=
  if self.ramFlag = flagCommandMode then self.handleCommand value now
  else if self.ramFlag = flagRamEnabled ∧ !self.ram.isEmpty then
    {self with ram := writeBankedRam self.ram self.ramBank addr value}
  else self

def debugInfo (self : HuC3) : CartridgeDebugInfo := ⟨"HuC3",self.romBank,self.ramBank,self.ramEnable,none⟩

def restoreRomBytes (self : HuC3) (rom : Bytes) : HuC3 := {self with rom}

def bessMbcWrites (self : HuC3) : List (UInt16 × UInt8) :=
  [(0x0000,if self.ramEnable then 0x0A else 0x00),
   (0x2000,UInt8.ofNat self.romBank),
   (0x4000,UInt8.ofNat self.ramBank)]

structure Sound (rom : Bytes) (ramSize : Nat) (mapper : HuC3) : Prop where
  sameRom : mapper.rom = rom
  ramLength : mapper.ram.length = ramSize
  romBank : mapper.romBank < 2^7
  positive : 0 < mapper.romBank
  ramBank : mapper.ramBank < 2^2

theorem sound_new (rom : Bytes) (ramSize : Nat) (now : UInt64) : (new rom ramSize now).Sound rom ramSize where
  sameRom := rfl
  ramLength := List.length_replicate
  romBank := Nat.one_lt_two_pow (by decide)
  positive := Nat.one_pos
  ramBank := Nat.two_pow_pos _

variable {rom : Bytes} {ramSize : Nat} {self : HuC3}

theorem Sound.writeRom (sound : self.Sound rom ramSize) (addr : UInt16) (value : UInt8) :
    (self.writeRom addr value).Sound rom ramSize := by
  unfold HuC3.writeRom
  split
  · exact {sound with}
  split
  · have below := masked_lt value 0x7F (2^7) (by decide)
    exact {sound with romBank := nonzeroBank_lt below (by decide), positive := nonzeroBank_pos _}
  split
  · exact {sound with ramBank := masked_lt value 0x03 _ (by decide)}
  · exact sound

theorem Sound.of_banks (sound : self.Sound rom ramSize) (other : HuC3)
    (same : (other.rom,other.ram,other.romBank,other.ramBank) = (self.rom,self.ram,self.romBank,self.ramBank)) :
    other.Sound rom ramSize := by
  simp only [Prod.mk.injEq] at same
  obtain ⟨sameRom,sameRam,sameRomBank,sameRamBank⟩ := same
  exact ⟨by rw [sameRom,sound.sameRom],by rw [sameRam,sound.ramLength],by rw [sameRomBank]; exact sound.romBank,
    by rw [sameRomBank]; exact sound.positive,by rw [sameRamBank]; exact sound.ramBank⟩

theorem Sound.handleCommand (sound : self.Sound rom ramSize) (value : UInt8) (now : UInt64) :
    (self.handleCommand value now).Sound rom ramSize := by
  apply sound.of_banks
  unfold HuC3.handleCommand HuC3.readNibble HuC3.writeNibble HuC3.modeShift HuC3.commitWrittenTime HuC3.updateLatch
  dsimp only
  repeat' split
  all_goals rfl

theorem Sound.writeRam (sound : self.Sound rom ramSize) (addr : UInt16) (value : UInt8) (now : UInt64) :
    (self.writeRam addr value now).Sound rom ramSize := by
  unfold HuC3.writeRam
  split
  · exact sound.handleCommand value now
  split
  · exact {sound with ramLength := (length_writeBankedRam ..).trans sound.ramLength}
  · exact sound

end HuC3

end ZeffBoy.GameBoy
