import ZeffBoy.GameBoy.Clocks

/-! The clock of the HuC3, which a program reads and writes a digit at a time.
Every digit is taken from the host's time when its command comes, so a time can be torn; and the time that is written is subtracted
from the host's, which may be less. -/
namespace ZeffBoy.GameBoy
open Library List
namespace HuC3

section Checked

def writtenMinute (self : HuC3) : UInt32 := (self.rtcWritingTime &&& 0xFFF) % minutesPerDay
def writtenDay (self : HuC3) : UInt32 := self.rtcWritingTime >>> 12 &&& 0xFFF

def commitWrittenTimeChecked (self : HuC3) (now : UInt64) : Option HuC3 := do
  let midnight ← checkedSubWord now (self.writtenMinute.toUInt64 * 60)
  let base ← checkedSubWord midnight (self.writtenDay.toUInt64 * secondsPerDay)
  some {self with rtcBaseTime := base}

def writeNibbleChecked (self : HuC3) (value : UInt8) (now : UInt64) : Option HuC3 :=
  let self := if self.rtcClockShift = 0 then {self with rtcWritingTime := 0} else self
  if self.rtcClockShift < 24 then
    let nibble := (value &&& 0x0F).toUInt32 <<< self.rtcClockShift.toUInt32
    let self := {self with rtcWritingTime := self.rtcWritingTime ||| nibble, rtcClockShift := self.rtcClockShift + 4}
    if self.rtcClockShift = 24 then (self.commitWrittenTimeChecked now).map fun self => {self with rtcTimerRead := true}
    else some self
  else some self

def handleCommandChecked (self : HuC3) (value : UInt8) (now : UInt64) : Option HuC3 :=
  let command := value &&& 0xF0
  if command = rtcCmdReadNibble ∧ self.rtcTimerRead then some (self.readNibble now)
  else if command = rtcCmdWriteNibble ∧ !self.rtcTimerRead then self.writeNibbleChecked value now
  else if command = rtcCmdModeShift then some (self.modeShift (value &&& 0x0F))
  else if command = rtcCmdLatch then some {self with rtcTimerRead := true}
  else some self

def writeRamChecked (self : HuC3) (addr : UInt16) (value : UInt8) (now : UInt64) : Option HuC3 :=
  if self.ramFlag = flagCommandMode then self.handleCommandChecked value now else some (self.writeRam addr value now)

end Checked

section Programs

def issue (self : HuC3) (command : UInt8) (now : UInt64) : Option HuC3 :=
  (self.writeRom 0x0000 flagCommandMode).writeRamChecked 0xA000 command now

def takeNibble (self : HuC3) (now : UInt64) : Option (UInt8 × HuC3) := do
  let asked ← self.issue rtcCmdReadNibble now
  let reading := asked.writeRom 0x0000 flagReadMode
  some (reading.readRam 0xA000,reading)

def takeNibbles : List UInt64 → HuC3 → Option (List UInt8 × HuC3)
  | [],self => some ([],self)
  | now::times,self => do
    let (nibble,self) ← self.takeNibble now
    let (nibbles,self) ← takeNibbles times self
    some (nibble::nibbles,self)

def readClock (self : HuC3) (latch select : UInt64) (times : List UInt64) : Option (List UInt8 × HuC3) := do
  let latched ← self.issue rtcCmdLatch latch
  let selected ← latched.issue (rtcCmdModeShift ||| 0x7) select
  takeNibbles times selected

def giveNibbles : List (UInt8 × UInt64) → HuC3 → Option HuC3
  | [],self => some self
  | (nibble,now)::rest,self => self.issue (rtcCmdWriteNibble ||| (nibble &&& 0x0F)) now >>= giveNibbles rest

def writeClock (self : HuC3) (select : UInt64) (nibbles : List (UInt8 × UInt64)) : Option HuC3 :=
  self.issue (rtcCmdModeShift ||| 0x3) select >>= giveNibbles nibbles

end Programs

section Time

def minutesAt (base now : UInt64) : Nat := (now.toNat - base.toNat) / 60

def numberOf (day minute : Nat) : Nat := day * 0x1000 + minute

def clockNumber (minutes : Nat) : Nat := numberOf (minutes / 1440 % 0x1000) (minutes % 1440)

def digit (index number : Nat) : Nat := number / 16^index % 16

def nibblesOf (numbers : Fin 6 → Nat) : List UInt8 := List.ofFn fun index => UInt8.ofNat (digit index (numbers index))

theorem clockNumber_lt (minutes : Nat) : clockNumber minutes < 16^6 := by
  unfold clockNumber numberOf
  omega

theorem clockNumber_mod (minutes : Nat) : clockNumber minutes % 16 = minutes % 16 := by
  unfold clockNumber numberOf
  omega

variable {self : HuC3}

theorem updateLatch_toNat (self : HuC3) (now : UInt64) :
    (self.updateLatch now).rtcDatetime.toNat = clockNumber (minutesAt self.rtcBaseTime now) := by
  have diff : (if now < self.rtcBaseTime then 0 else now - self.rtcBaseTime).toNat = now.toNat - self.rtcBaseTime.toNat := by
    by_cases early : now < self.rtcBaseTime
    · have less := UInt64.lt_iff_toNat_lt.mp early
      rw [if_pos early]
      show 0 = _
      omega
    · have more := UInt64.le_iff_toNat_le.mp (UInt64.not_lt.mp early)
      rw [if_neg early,UInt64.toNat_sub_of_le _ _ (UInt64.le_iff_toNat_le.mpr more)]
  unfold HuC3.updateLatch minutesAt
  dsimp only
  generalize (if now < self.rtcBaseTime then 0 else now - self.rtcBaseTime) = gap at diff ⊢
  rw [← diff]
  have minute : ((gap / 60 % minutesPerDay.toUInt64).toUInt32).toNat = gap.toNat / 60 % 1440 := by
    rw [UInt64.toNat_toUInt32,UInt64.toNat_mod,UInt64.toNat_div]
    exact Nat.mod_eq_of_lt ((Nat.mod_lt _ (by decide)).trans (by decide))
  have day : ((gap / secondsPerDay &&& 0xFFF).toUInt32).toNat = gap.toNat / 60 / 1440 % 0x1000 := by
    rw [UInt64.toNat_toUInt32,UInt64.toNat_and,UInt64.toNat_div]
    have masked : gap.toNat / 86400 &&& 2^12 - 1 = gap.toNat / 86400 % 2^12 := Nat.and_two_pow_sub_one_eq_mod _ 12
    show (gap.toNat / 86400 &&& 2^12 - 1) % 2^32 = _
    rw [masked,Nat.mod_eq_of_lt ((Nat.mod_lt _ (by decide)).trans (by decide)),Nat.div_div_eq_div_mul]
    rfl
  have room : (gap.toNat / 60 / 1440 % 0x1000) <<< 12 < 2^32 := by
    rw [Nat.shiftLeft_eq]
    omega
  rw [UInt32.toNat_or,UInt32.toNat_shiftLeft,minute,day]
  show (gap.toNat / 60 / 1440 % 0x1000) <<< 12 % 2^32 ||| _ = _
  rw [Nat.mod_eq_of_lt room,← Nat.shiftLeft_add_eq_or_of_lt (show gap.toNat / 60 % 1440 < 2^12 by omega),Nat.shiftLeft_eq]
  rfl

theorem digit_lt (index number : Nat) : digit index number < 16 := Nat.mod_lt _ (by decide)

theorem readNibble_spec {index : Nat} (shift : self.rtcClockShift.toNat = 4 * index) (inside : index < 6) (now : UInt64) :
    (self.readNibble now).rtcReadValue = UInt8.ofNat (digit index (clockNumber (minutesAt self.rtcBaseTime now))) ∧
    (self.readNibble now).rtcClockShift.toNat = 4 * (index + 1) ∧ (self.readNibble now).rtcTimerRead = self.rtcTimerRead ∧
    (self.readNibble now).rtcBaseTime = self.rtcBaseTime ∧ (self.readNibble now).ramFlag = self.ramFlag := by
  have number := updateLatch_toNat self now
  have next : (self.rtcClockShift + 4).toNat = 4 * (index + 1) := by
    rw [UInt8.toNat_add,shift]
    show (4 * index + 4) % 256 = _
    omega
  have goes : ¬24 < self.rtcClockShift + 4 := by
    rw [UInt8.lt_iff_toNat_lt,next]
    show ¬24 < 4 * (index + 1)
    omega
  unfold readNibble
  refine ⟨?_,?_,rfl,rfl,rfl⟩
  · show ((self.updateLatch now).rtcDatetime >>> self.rtcClockShift.toUInt32 &&& 0x0F).toUInt8 = _
    apply UInt8.toNat_inj.mp
    have small := digit_lt index (clockNumber (minutesAt self.rtcBaseTime now))
    have masked (number : Nat) : number &&& 2^4 - 1 = number % 2^4 := Nat.and_two_pow_sub_one_eq_mod _ 4
    rw [UInt32.toNat_toUInt8,UInt32.toNat_and,UInt32.toNat_shiftRight,number,UInt8.toNat_toUInt32,shift,UInt8.toNat_ofNat',
      Nat.mod_eq_of_lt (small.trans (by decide)),Nat.mod_eq_of_lt (show 4 * index < 32 by omega),Nat.shiftRight_eq_div_pow]
    show ((_ &&& 2^4 - 1) % 2^8) = _
    rw [masked,Nat.mod_eq_of_lt ((Nat.mod_lt _ (by decide)).trans (by decide)),Nat.pow_mul]
    rfl
  · show (if 24 < self.rtcClockShift + 4 then (0 : UInt8) else self.rtcClockShift + 4).toNat = _
    rw [if_neg goes,next]

end Time

section Reading
variable {self : HuC3}

theorem issue_eq (self : HuC3) (command : UInt8) (now : UInt64) :
    self.issue command now = (self.writeRom 0x0000 flagCommandMode).handleCommandChecked command now := rfl

theorem takeNibble_spec {index : Nat} (reading : self.rtcTimerRead = true) (shift : self.rtcClockShift.toNat = 4 * index)
    (inside : index < 6) (now : UInt64) : ∃ next, self.takeNibble now =
      some (UInt8.ofNat (digit index (clockNumber (minutesAt self.rtcBaseTime now))),next) ∧ next.rtcTimerRead = true ∧
        next.rtcClockShift.toNat = 4 * (index + 1) ∧ next.rtcBaseTime = self.rtcBaseTime := by
  have spec := @readNibble_spec (self.writeRom 0x0000 flagCommandMode) index shift inside now
  obtain ⟨value,next,timer,base,_⟩ := spec
  have asked : self.issue rtcCmdReadNibble now = some ((self.writeRom 0x0000 flagCommandMode).readNibble now) := by
    rw [issue_eq,handleCommandChecked]
    exact if_pos ⟨by decide,reading⟩
  refine ⟨((self.writeRom 0x0000 flagCommandMode).readNibble now).writeRom 0x0000 flagReadMode,?_,timer.trans reading,next,base⟩
  unfold takeNibble
  rw [asked]
  show some (((self.writeRom 0x0000 flagCommandMode).readNibble now).rtcReadValue,_) = _
  rw [value]
  rfl

theorem takeNibbles_spec {index : Nat} (reading : self.rtcTimerRead = true) (shift : self.rtcClockShift.toNat = 4 * index)
    (times : List UInt64) (inside : index + times.length ≤ 6) : ∃ next, takeNibbles times self =
      some ((times.zipIdx index).map fun time => UInt8.ofNat (digit time.2 (clockNumber (minutesAt self.rtcBaseTime time.1))),next) := by
  induction times generalizing self index with
  | nil => exact ⟨self,rfl⟩
  | cons now times ih =>
    have room : index + 1 + times.length ≤ 6 := by
      rw [length_cons] at inside
      omega
    obtain ⟨between,taken,again,further,base⟩ := takeNibble_spec reading shift (by omega) now
    obtain ⟨next,rest⟩ := ih again further room
    refine ⟨next,?_⟩
    rw [takeNibbles,taken]
    show (do let (nibbles,self) ← takeNibbles times between; some (_::nibbles,self)) = _
    rw [rest,base]
    rfl

theorem readClock_spec (self : HuC3) (latch select : UInt64) (times : List UInt64) (six : times.length = 6) :
    ∃ next, self.readClock latch select times =
      some ((times.zipIdx).map fun time => UInt8.ofNat (digit time.2 (clockNumber (minutesAt self.rtcBaseTime time.1))),next) := by
  have latched : self.issue rtcCmdLatch latch = some {self.writeRom 0x0000 flagCommandMode with rtcTimerRead := true} := rfl
  have selected (self : HuC3) : self.issue (rtcCmdModeShift ||| 0x7) select =
      some {self.writeRom 0x0000 flagCommandMode with rtcTimerRead := true, rtcClockShift := 0} := by
    rw [issue_eq,handleCommandChecked]
    dsimp only
    rw [if_neg fun both => absurd both.1 (by decide),if_neg fun both => absurd both.1 (by decide),if_pos (by decide)]
    rfl
  obtain ⟨next,taken⟩ := @takeNibbles_spec {{self.writeRom 0x0000 flagCommandMode with rtcTimerRead := true}.writeRom 0x0000
    flagCommandMode with rtcTimerRead := true, rtcClockShift := 0} 0 rfl rfl times (by omega)
  refine ⟨next,?_⟩
  unfold readClock
  rw [latched,Option.bind_eq_bind,Option.bind_some,selected]
  exact taken

theorem readClock_nibbles (self : HuC3) (latch select : UInt64) (times : Fin 6 → UInt64) :
    ∃ next, self.readClock latch select (List.ofFn times) =
      some (nibblesOf fun index => clockNumber (minutesAt self.rtcBaseTime (times index)),next) := by
  obtain ⟨next,taken⟩ := readClock_spec self latch select (List.ofFn times) length_ofFn
  refine ⟨next,taken.trans ?_⟩
  refine congrArg (fun nibbles => some (nibbles,next)) (ext_getElem ?_ fun index left right => ?_)
  · rw [length_map,length_zipIdx,length_ofFn,nibblesOf,length_ofFn]
  · simp [nibblesOf]

end Reading

section Torn

def Settled (numbers : Fin 6 → Nat) : Prop :=
  ∀ index : Fin 5, numbers index.castSucc / 16^(index.val + 1) = numbers index.succ / 16^(index.val + 1)

variable {numbers : Fin 6 → Nat}

theorem nibblesOf_inj {others : Fin 6 → Nat} : nibblesOf numbers = nibblesOf others ↔
    ∀ index : Fin 6, digit index (numbers index) = digit index (others index) := by
  have small (number index : Nat) : (UInt8.ofNat (digit index number)).toNat = digit index number := by
    rw [UInt8.toNat_ofNat']
    exact Nat.mod_eq_of_lt ((digit_lt index number).trans (by decide))
  constructor
  · intro same index
    have equal := congrFun (ofFn_injective same) index
    rw [← small (numbers index) index,equal,small]
  · intro same
    exact congrArg List.ofFn (funext fun index => congrArg UInt8.ofNat (same index))

theorem Settled.quotient (settled : Settled numbers) (index : Nat) (inside : index < 6) :
    numbers ⟨index,inside⟩ / 16^index = numbers 0 / 16^index := by
  induction index with
  | zero => rfl
  | succ index ih =>
    have before := ih (by omega)
    calc
      numbers ⟨index + 1,inside⟩ / 16^(index + 1) = numbers ⟨index,by omega⟩ / 16^(index + 1) := (settled ⟨index,by omega⟩).symm
      _ = numbers ⟨index,by omega⟩ / 16^index / 16 := by rw [Nat.div_div_eq_div_mul,← Nat.pow_succ]
      _ = numbers 0 / 16^(index + 1) := by rw [before,Nat.div_div_eq_div_mul,← Nat.pow_succ]

theorem Settled.nibbles (settled : Settled numbers) : nibblesOf numbers = nibblesOf fun _ => numbers 0 := by
  refine nibblesOf_inj.mpr fun index => ?_
  unfold digit
  rw [settled.quotient index index.isLt]

theorem quotient_of_digits {one two : Nat} (first : one < 16^6) (second : two < 16^6) {index : Nat} (inside : index ≤ 6)
    (same : ∀ place, index ≤ place → place < 6 → digit place one = digit place two) : one / 16^index = two / 16^index := by
  induction inside using Nat.decreasingInduction with
  | self => rw [Nat.div_eq_of_lt first,Nat.div_eq_of_lt second]
  | of_succ index inside ih =>
    have rest := ih fun place below => same place (by omega)
    have last := same index le_rfl inside
    unfold digit at last
    rw [Nat.pow_succ,← Nat.div_div_eq_div_mul,← Nat.div_div_eq_div_mul] at rest
    omega

theorem settled_of_nibbles {minutes : Fin 6 → Nat} {start moment : Nat} (rising : Monotone minutes) (from' : ∀ index, start ≤ minutes index)
    (last : ∀ index, minutes index ≤ start + 1) (within : start ≤ moment ∧ moment ≤ start + 1)
    (same : nibblesOf (fun index => clockNumber (minutes index)) = nibblesOf fun _ => clockNumber moment) :
    Settled fun index => clockNumber (minutes index) := by
  have digits := nibblesOf_inj.mp same
  intro index
  dsimp only
  obtain equal | less := (rising (Fin.castSucc_lt_succ (i := index)).le).eq_or_lt
  · rw [equal]
  have before : minutes index.castSucc = start := by
    have := from' index.castSucc
    have := last index.succ
    omega
  have after : minutes index.succ = start + 1 := by
    have := last index.succ
    omega
  rw [before,after]
  obtain early | late : moment = start ∨ moment = start + 1 := by omega
  · -- The digits that are read after the change are those from before it.
    apply quotient_of_digits (clockNumber_lt _) (clockNumber_lt _) (by omega)
    intro place above below
    have later : minutes index.succ ≤ minutes ⟨place,below⟩ := rising (Fin.le_def.mpr above)
    have bound := last ⟨place,below⟩
    have found := digits ⟨place,below⟩
    dsimp only at found
    rw [show minutes ⟨place,below⟩ = start + 1 by omega,early] at found
    exact found.symm
  · -- The first digit changes with every minute.
    have first : minutes 0 = start := by
      have := rising (Fin.zero_le index.castSucc)
      have := from' 0
      omega
    have found := digits 0
    unfold digit at found
    rw [first,late] at found
    have one := clockNumber_mod start
    have two := clockNumber_mod (start + 1)
    simp only [Fin.val_zero,Nat.pow_zero,Nat.div_one] at found
    omega

end Torn

section Writing
variable {self : HuC3}

def writtenSeconds (number : Nat) : Nat := number % 0x1000 % 1440 * 60 + number / 0x1000 % 0x1000 * 86400

theorem written_toNat (self : HuC3) : self.writtenMinute.toNat = self.rtcWritingTime.toNat % 0x1000 % 1440 ∧
    self.writtenDay.toNat = self.rtcWritingTime.toNat / 0x1000 % 0x1000 := by
  have masked (number : Nat) : number &&& 2^12 - 1 = number % 2^12 := Nat.and_two_pow_sub_one_eq_mod _ 12
  constructor
  · rw [writtenMinute,UInt32.toNat_mod,UInt32.toNat_and]
    show (_ &&& 2^12 - 1) % 1440 = _
    rw [masked]
    rfl
  · rw [writtenDay,UInt32.toNat_and,UInt32.toNat_shiftRight]
    show self.rtcWritingTime.toNat >>> 12 &&& 2^12 - 1 = _
    rw [masked,Nat.shiftRight_eq_div_pow]
    rfl

theorem commitWrittenTimeChecked_eq (self : HuC3) (now : UInt64) :
    self.commitWrittenTimeChecked now = if writtenSeconds self.rtcWritingTime.toNat ≤ now.toNat then
      some {self with rtcBaseTime := UInt64.ofNat (now.toNat - writtenSeconds self.rtcWritingTime.toNat)} else none := by
  obtain ⟨minute,day⟩ := self.written_toNat
  have minutes : (self.writtenMinute.toUInt64 * 60).toNat = self.rtcWritingTime.toNat % 0x1000 % 1440 * 60 := by
    rw [UInt64.toNat_mul,UInt32.toNat_toUInt64,minute]
    show _ * 60 % 2^64 = _
    omega
  have days : (self.writtenDay.toUInt64 * secondsPerDay).toNat = self.rtcWritingTime.toNat / 0x1000 % 0x1000 * 86400 := by
    rw [UInt64.toNat_mul,UInt32.toNat_toUInt64,day]
    show _ * 86400 % 2^64 = _
    omega
  have bound := now.toNat_lt
  unfold commitWrittenTimeChecked writtenSeconds
  rw [checkedSubWord_eq,minutes]
  by_cases first : self.rtcWritingTime.toNat % 0x1000 % 1440 * 60 ≤ now.toNat
  · have short : (now.toNat - self.rtcWritingTime.toNat % 0x1000 % 1440 * 60) % 2^64 =
        now.toNat - self.rtcWritingTime.toNat % 0x1000 % 1440 * 60 := Nat.mod_eq_of_lt ((Nat.sub_le _ _).trans_lt bound)
    rw [if_pos first,Option.bind_eq_bind,Option.bind_some,checkedSubWord_eq,days,UInt64.toNat_ofNat',short]
    by_cases second : self.rtcWritingTime.toNat / 0x1000 % 0x1000 * 86400 ≤ now.toNat - self.rtcWritingTime.toNat % 0x1000 % 1440 * 60
    · rw [if_pos second,if_pos (by omega),Option.bind_some,Nat.sub_sub]
    · rw [if_neg second,if_neg (by omega)]
      rfl
  · rw [if_neg first,if_neg (by omega)]
    rfl

theorem or_nibble {index written : Nat} (value : UInt8) (time : UInt32) (shift : UInt8) (place : shift.toNat = 4 * index) (inside : index < 6)
    (below : written < 16^index) (same : time.toNat = written) :
    (time ||| (value &&& 0x0F).toUInt32 <<< shift.toUInt32).toNat = written + value.toNat % 16 * 16^index := by
  have masked : (value &&& 0x0F).toNat = value.toNat % 16 := by
    rw [UInt8.toNat_and]
    exact Nat.and_two_pow_sub_one_eq_mod _ 4
  have power : 2^(4 * index) = 16^index := by rw [Nat.pow_mul]
  have room : value.toNat % 16 * 16^index < 2^32 := by
    have step : value.toNat % 16 * 16^index < 16 * 16^index :=
      Nat.mul_lt_mul_of_pos_right (Nat.mod_lt _ (by decide)) (Nat.pow_pos (by decide))
    have most : 16 * 16^index ≤ 16^6 := by
      rw [← Nat.pow_succ']
      exact Nat.pow_le_pow_right (by decide) inside
    exact (step.trans_le most).trans (by decide)
  rw [UInt32.toNat_or,UInt32.toNat_shiftLeft,UInt8.toNat_toUInt32,UInt8.toNat_toUInt32,masked,place,same,
    Nat.mod_eq_of_lt (show 4 * index < 32 by omega),Nat.shiftLeft_eq,power,Nat.mod_eq_of_lt room,Nat.or_comm,← power,← Nat.shiftLeft_eq,
    ← Nat.shiftLeft_add_eq_or_of_lt (by rw [power]; exact below),add_comm]

def numberGiven (nibbles : List UInt8) : Nat := Nat.ofDigits 16 (nibbles.map fun nibble => nibble.toNat % 16)

theorem numberGiven_lt (nibbles : List UInt8) : numberGiven nibbles < 16^nibbles.length := by
  have bound := @Nat.ofDigits_lt_base_pow_length 16 (nibbles.map fun nibble => nibble.toNat % 16) (by decide) fun digit member => by
    obtain ⟨nibble,_,rfl⟩ := mem_map.mp member
    exact Nat.mod_lt _ (by decide)
  rwa [length_map] at bound

theorem numberGiven_append (nibbles : List UInt8) (nibble : UInt8) :
    numberGiven (nibbles ++ [nibble]) = numberGiven nibbles + nibble.toNat % 16 * 16^nibbles.length := by
  rw [numberGiven,map_append,Nat.ofDigits_append,length_map,map_singleton,Nat.ofDigits_singleton,mul_comm]
  rfl

/-- Digits have been given, and the time is still to be committed. -/
structure Given (nibbles : List UInt8) (chip : HuC3) : Prop where
  writing : chip.rtcTimerRead = false
  shift : chip.rtcClockShift.toNat = 4 * nibbles.length
  number : nibbles ≠ [] → chip.rtcWritingTime.toNat = numberGiven nibbles

variable {nibbles : List UInt8}

def startedTime (self : HuC3) : UInt32 := if self.rtcClockShift = 0 then 0 else self.rtcWritingTime

def withNibble (self : HuC3) (value : UInt8) : HuC3 := {self with
  rtcWritingTime := self.startedTime ||| (value &&& 0x0F).toUInt32 <<< self.rtcClockShift.toUInt32
  rtcClockShift := self.rtcClockShift + 4}

theorem writeNibbleChecked_eq (self : HuC3) (room : self.rtcClockShift < 24) (value : UInt8) (now : UInt64) :
    self.writeNibbleChecked value now = if self.rtcClockShift + 4 = 24 then
      ((self.withNibble value).commitWrittenTimeChecked now).map fun self => {self with rtcTimerRead := true}
        else some (self.withNibble value) := by
  unfold writeNibbleChecked withNibble startedTime
  by_cases zero : self.rtcClockShift = 0
  · rw [if_pos zero,if_pos zero]
    exact if_pos room
  · rw [if_neg zero,if_neg zero]
    exact if_pos room

theorem Given.startedTime (given : Given nibbles self) : self.startedTime.toNat = numberGiven nibbles := by
  unfold HuC3.startedTime
  cases nibbles with
  | nil =>
    rw [if_pos (UInt8.toNat_inj.mp given.shift)]
    rfl
  | cons first rest =>
    have some' : self.rtcClockShift ≠ 0 := by
      intro zero
      have shift := given.shift
      rw [zero,length_cons] at shift
      exact absurd shift.symm (Nat.succ_ne_zero _)
    rw [if_neg some']
    exact given.number (cons_ne_nil _ _)

theorem Given.issue (given : Given nibbles self) (inside : nibbles.length < 6) (nibble : UInt8) (now : UInt64) :
    ∃ next : HuC3, next.rtcWritingTime.toNat = numberGiven (nibbles ++ [nibble]) ∧ next.rtcClockShift.toNat = 4 * (nibbles.length + 1) ∧
      next.rtcTimerRead = false ∧ self.issue (rtcCmdWriteNibble ||| (nibble &&& 0x0F)) now = if nibbles.length = 5 then
        (next.commitWrittenTimeChecked now).map fun self => {self with rtcTimerRead := true} else some next := by
  have command : (rtcCmdWriteNibble ||| (nibble &&& 0x0F)) &&& 0xF0 = rtcCmdWriteNibble ∧
      (rtcCmdWriteNibble ||| (nibble &&& 0x0F)) &&& 0x0F = nibble &&& 0x0F := by
    have all : ∀ nibble : BitVec 8, (rtcCmdWriteNibble ||| (UInt8.ofBitVec nibble &&& 0x0F)) &&& 0xF0 = rtcCmdWriteNibble ∧
      (rtcCmdWriteNibble ||| (UInt8.ofBitVec nibble &&& 0x0F)) &&& 0x0F = UInt8.ofBitVec nibble &&& 0x0F := by decide +kernel
    exact all nibble.toBitVec
  let chip := self.writeRom 0x0000 flagCommandMode
  have asked : Given nibbles chip := ⟨given.writing,given.shift,given.number⟩
  have shift := asked.shift
  have room : chip.rtcClockShift < 24 := by
    rw [UInt8.lt_iff_toNat_lt,shift]
    show 4 * nibbles.length < 24
    omega
  have further : (chip.rtcClockShift + 4).toNat = 4 * (nibbles.length + 1) := by
    rw [UInt8.toNat_add,shift]
    show (4 * nibbles.length + 4) % 256 = _
    omega
  have last : chip.rtcClockShift + 4 = 24 ↔ nibbles.length = 5 := by
    rw [← UInt8.toNat_inj,further]
    show 4 * (nibbles.length + 1) = 24 ↔ _
    omega
  refine ⟨chip.withNibble (rtcCmdWriteNibble ||| (nibble &&& 0x0F)),?_,further,given.writing,?_⟩
  · have put := or_nibble nibble chip.startedTime chip.rtcClockShift shift inside (numberGiven_lt nibbles) asked.startedTime
    show (chip.startedTime ||| ((rtcCmdWriteNibble ||| (nibble &&& 0x0F)) &&& 0x0F).toUInt32 <<< chip.rtcClockShift.toUInt32).toNat = _
    rw [command.2,put,numberGiven_append]
  · have writes : chip.handleCommandChecked (rtcCmdWriteNibble ||| (nibble &&& 0x0F)) now =
        chip.writeNibbleChecked (rtcCmdWriteNibble ||| (nibble &&& 0x0F)) now := by
      have mode : (!chip.rtcTimerRead) = true := by
        rw [asked.writing]
        rfl
      unfold handleCommandChecked
      dsimp only
      rw [command.1,if_neg fun both => absurd both.1 (by decide),if_pos ⟨rfl,mode⟩]
    rw [issue_eq,writes,chip.writeNibbleChecked_eq room]
    by_cases five : nibbles.length = 5
    · rw [if_pos five,if_pos (last.mpr five)]
    · rw [if_neg five,if_neg (mt last.mp five)]

theorem Given.giveNibbles (given : Given nibbles self) (writes : List (UInt8 × UInt64)) (short : nibbles.length + writes.length ≤ 5) :
    ∃ next, HuC3.giveNibbles writes self = some next ∧ Given (nibbles ++ writes.map Prod.fst) next := by
  induction writes generalizing self nibbles with
  | nil =>
    rw [map_nil,append_nil]
    exact ⟨self,rfl,given⟩
  | cons write writes ih =>
    rw [length_cons] at short
    obtain ⟨between,number,shift,writing,issued⟩ := given.issue (by omega) write.1 write.2
    rw [if_neg (by omega)] at issued
    have after : Given (nibbles ++ [write.1]) between := ⟨writing,by rw [shift,length_append]; rfl,fun _ => number⟩
    obtain ⟨next,rest,more⟩ := ih after (by rw [length_append,length_singleton]; omega)
    refine ⟨next,?_,?_⟩
    · rw [HuC3.giveNibbles,issued]
      exact rest
    · rw [append_assoc] at more
      exact more

theorem giveNibbles_append (one two : List (UInt8 × UInt64)) (self : HuC3) :
    giveNibbles (one ++ two) self = giveNibbles one self >>= giveNibbles two := by
  induction one generalizing self with
  | nil => rfl
  | cons write one ih =>
    rw [cons_append,giveNibbles,giveNibbles]
    cases self.issue (rtcCmdWriteNibble ||| (write.1 &&& 0x0F)) write.2 with
    | none => rfl
    | some next => exact ih next

theorem writeClock_spec (self : HuC3) (select : UInt64) (front : List (UInt8 × UInt64)) (five : front.length = 5) (last : UInt8) (now : UInt64) :
    let seconds := writtenSeconds (numberGiven (front.map Prod.fst ++ [last]))
    if seconds ≤ now.toNat then ∃ next, self.writeClock select (front ++ [(last,now)]) = some next ∧
      next.rtcBaseTime = UInt64.ofNat (now.toNat - seconds) else self.writeClock select (front ++ [(last,now)]) = none := by
  have selected : self.issue (rtcCmdModeShift ||| 0x3) select =
      some {self.writeRom 0x0000 flagCommandMode with rtcTimerRead := false, rtcClockShift := 0} := by
    rw [issue_eq,handleCommandChecked]
    dsimp only
    rw [if_neg fun both => absurd both.1 (by decide),if_neg fun both => absurd both.1 (by decide),if_pos (by decide)]
    rfl
  have start : Given [] {self.writeRom 0x0000 flagCommandMode with rtcTimerRead := false, rtcClockShift := 0} :=
    ⟨rfl,rfl,fun some' => absurd rfl some'⟩
  obtain ⟨before,gave,given⟩ := start.giveNibbles front (by rw [five]; decide)
  rw [nil_append] at given
  obtain ⟨next,number,_,_,issued⟩ := given.issue (by rw [length_map,five]; decide) last now
  rw [length_map,if_pos five,commitWrittenTimeChecked_eq,number] at issued
  have whole : self.writeClock select (front ++ [(last,now)]) = before.issue (rtcCmdWriteNibble ||| (last &&& 0x0F)) now := by
    rw [writeClock,selected,Option.bind_eq_bind,Option.bind_some,giveNibbles_append,gave,Option.bind_eq_bind,Option.bind_some,HuC3.giveNibbles]
    cases before.issue (rtcCmdWriteNibble ||| (last &&& 0x0F)) now with
    | none => rfl
    | some set => rfl
  dsimp only
  rw [whole,issued]
  by_cases enough : writtenSeconds (numberGiven (front.map Prod.fst ++ [last])) ≤ now.toNat
  · rw [if_pos enough,if_pos enough]
    exact ⟨_,rfl,rfl⟩
  · rw [if_neg enough,if_neg enough]
    rfl

end Writing

section Underflow
variable {self : HuC3}

def Underflows (self : HuC3) (command : UInt8) (now : UInt64) : Prop :=
  command &&& 0xF0 = rtcCmdWriteNibble ∧ self.rtcTimerRead = false ∧ self.rtcClockShift = 20 ∧
    now.toNat < writtenSeconds (self.withNibble command).rtcWritingTime.toNat

theorem writeNibbleChecked_none (self : HuC3) (value : UInt8) (now : UInt64) : self.writeNibbleChecked value now = none ↔
    self.rtcClockShift = 20 ∧ now.toNat < writtenSeconds (self.withNibble value).rtcWritingTime.toNat := by
  have place : ∀ shift : BitVec 8, UInt8.ofBitVec shift < 24 → (UInt8.ofBitVec shift + 4 = 24 ↔ UInt8.ofBitVec shift = 20) := by
    decide +kernel
  by_cases room : self.rtcClockShift < 24
  · have last := place self.rtcClockShift.toBitVec room
    rw [writeNibbleChecked_eq self room]
    by_cases sixth : self.rtcClockShift = 20
    · rw [if_pos (last.mpr sixth),commitWrittenTimeChecked_eq,Option.map_eq_none_iff]
      by_cases enough : writtenSeconds (self.withNibble value).rtcWritingTime.toNat ≤ now.toNat
      · rw [if_pos enough]
        exact ⟨fun none' => absurd none' (Option.some_ne_none _),fun both => absurd enough (not_le.mpr both.2)⟩
      · rw [if_neg enough]
        exact ⟨fun _ => ⟨sixth,not_le.mp enough⟩,fun _ => rfl⟩
    · rw [if_neg (mt last.mp sixth)]
      exact ⟨fun none' => absurd none' (Option.some_ne_none _),fun both => absurd both.1 sixth⟩
  · have done : self.writeNibbleChecked value now ≠ none := by
      unfold writeNibbleChecked
      dsimp only
      have full : ¬(if self.rtcClockShift = 0 then {self with rtcWritingTime := 0} else self : HuC3).rtcClockShift < 24 := by
        split
        · exact room
        · exact room
      rw [if_neg full]
      exact Option.some_ne_none _
    have apart : self.rtcClockShift ≠ 20 := fun same => room (by rw [same]; decide)
    exact ⟨fun none' => absurd none' done,fun both => absurd both.1 apart⟩

theorem issue_none (self : HuC3) (command : UInt8) (now : UInt64) : self.issue command now = none ↔ self.Underflows command now := by
  have never {same : HuC3} (apart : ¬self.Underflows command now) : some same = none ↔ self.Underflows command now :=
    ⟨fun none' => absurd none' (Option.some_ne_none _),fun under => absurd under apart⟩
  rw [issue_eq,handleCommandChecked]
  by_cases reads : command &&& 0xF0 = rtcCmdReadNibble ∧ (self.writeRom 0x0000 flagCommandMode).rtcTimerRead = true
  · rw [if_pos reads]
    exact never fun under => absurd (under.1.symm.trans reads.1) (by decide)
  rw [if_neg reads]
  by_cases writes : command &&& 0xF0 = rtcCmdWriteNibble ∧ (!(self.writeRom 0x0000 flagCommandMode).rtcTimerRead) = true
  · have mode : self.rtcTimerRead = false := by simpa using (show (!self.rtcTimerRead) = true from writes.2)
    rw [if_pos writes,writeNibbleChecked_none]
    exact ⟨fun ⟨sixth,late⟩ => ⟨writes.1,mode,sixth,late⟩,fun ⟨_,_,sixth,late⟩ => ⟨sixth,late⟩⟩
  have apart : ¬self.Underflows command now := by
    intro under
    refine writes ⟨under.1,?_⟩
    show (!self.rtcTimerRead) = true
    rw [under.2.1]
    rfl
  rw [if_neg writes]
  by_cases mode : command &&& 0xF0 = rtcCmdModeShift
  · rw [if_pos mode]
    exact never apart
  rw [if_neg mode]
  by_cases latch : command &&& 0xF0 = rtcCmdLatch
  · rw [if_pos latch]
    exact never apart
  · rw [if_neg latch]
    exact never apart

def issueAll (commands : List (UInt8 × UInt64)) (self : HuC3) : Option HuC3 :=
  commands.foldlM (fun self command => self.issue command.1 command.2) self

theorem issueAll_iff (commands : List (UInt8 × UInt64)) (self : HuC3) : (∃ next, issueAll commands self = some next) ↔
    ∀ before command after state, commands = before ++ command::after → issueAll before self = some state →
      ¬state.Underflows command.1 command.2 := by
  induction commands generalizing self with
  | nil =>
    refine ⟨fun _ before command after state split => ?_,fun _ => ⟨self,rfl⟩⟩
    exact absurd split.symm (append_ne_nil_of_right_ne_nil _ (cons_ne_nil _ _))
  | cons first commands ih =>
    have start : issueAll (first::commands) self = self.issue first.1 first.2 >>= issueAll commands := foldlM_cons
    cases issued : self.issue first.1 first.2 with
    | none =>
      have under := (issue_none self first.1 first.2).mp issued
      rw [start,issued]
      exact ⟨fun ⟨next,made⟩ => absurd made (Option.some_ne_none next).symm,
        fun fine => absurd under (fine [] first commands self rfl rfl)⟩
    | some second =>
      rw [start,issued,Option.bind_eq_bind,Option.bind_some,ih second]
      constructor
      · intro fine before command after state split reached
        cases before with
        | nil =>
          obtain ⟨rfl,_⟩ := List.cons.inj split
          obtain rfl := Option.some.inj reached
          intro under
          exact absurd ((issue_none self first.1 first.2).mpr under) (by rw [issued]; exact Option.some_ne_none second)
        | cons earlier before =>
          obtain ⟨rfl,rest⟩ := List.cons.inj split
          have passed : issueAll (first::before) self = self.issue first.1 first.2 >>= issueAll before := foldlM_cons
          rw [passed,issued] at reached
          exact fine before command after state rest reached
      · intro fine before command after state split reached
        refine fine (first::before) command after state (by rw [split,cons_append]) ?_
        have passed : issueAll (first::before) self = self.issue first.1 first.2 >>= issueAll before := foldlM_cons
        rw [passed,issued]
        exact reached

end Underflow

/-- The digits that are read are those of one time, which the clock had between the latch and the last digit. -/
def Untorn (base latch last : UInt64) (nibbles : List UInt8) : Prop :=
  ∃ moment, latch ≤ moment ∧ moment ≤ last ∧ nibbles = nibblesOf fun _ => clockNumber (minutesAt base moment)

def Rising (times : Fin 6 → UInt64) : Prop := ∀ one two, one ≤ two → times one ≤ times two

instance (times : Fin 6 → UInt64) : Decidable (Rising times) := inferInstanceAs (Decidable (∀ _, _))

theorem minutesAt_mono (base : UInt64) {one two : UInt64} (later : one ≤ two) : minutesAt base one ≤ minutesAt base two := by
  have less := UInt64.le_iff_toNat_le.mp later
  unfold minutesAt
  omega

/-- The digits of a clock are those of one time where none of them changes before it is read, and, where the minute changes at most
once, only there; a time that is written is read back, and nothing underflows, exactly where it is not more than the host's. -/
theorem clock_consistent_iff (self : HuC3) :
    (∀ (latch select : UInt64) (times : Fin 6 → UInt64), latch ≤ select → select ≤ times 0 → Rising times →
      let shown := fun index => clockNumber (minutesAt self.rtcBaseTime (times index))
      ∃ nibbles next, self.readClock latch select (List.ofFn times) = some (nibbles,next) ∧
        (Settled shown → Untorn self.rtcBaseTime latch (times 5) nibbles) ∧
        (minutesAt self.rtcBaseTime (times 5) ≤ minutesAt self.rtcBaseTime latch + 1 →
          Untorn self.rtcBaseTime latch (times 5) nibbles → Settled shown)) ∧
    (∀ (select : UInt64) (front : List (UInt8 × UInt64)) (last : UInt8) (now : UInt64), front.length = 5 →
      let number := numberGiven (front.map Prod.fst ++ [last])
      (∃ next, (self.writeClock select (front ++ [(last,now)]) >>= fun written => written.readClock now now (List.ofFn fun _ : Fin 6 => now)) =
        some (nibblesOf fun _ => numberOf (number / 0x1000 % 0x1000) (number % 0x1000 % 1440),next)) ↔
      writtenSeconds number ≤ now.toNat) ∧
    ∀ commands : List (UInt8 × UInt64), (∃ next, issueAll commands self = some next) ↔
      ∀ before command after state, commands = before ++ command::after → issueAll before self = some state →
        ¬state.Underflows command.1 command.2 := by
  refine ⟨?reads,?writes,fun commands => issueAll_iff commands self⟩
  case reads =>
    intro latch select times early first rising shown
    obtain ⟨next,taken⟩ := self.readClock_nibbles latch select times
    have begins : latch ≤ times 0 := UInt64.le_trans early first
    refine ⟨_,next,taken,fun settled => ⟨times 0,begins,rising 0 5 (Fin.zero_le 5),settled.nibbles⟩,?_⟩
    rintro once ⟨moment,after,before,same⟩
    have counted : Monotone fun index => minutesAt self.rtcBaseTime (times index) :=
      fun one two later => minutesAt_mono _ (rising one two later)
    apply settled_of_nibbles counted _ _ _ same
    · exact minutesAt self.rtcBaseTime latch
    · exact fun index => minutesAt_mono _ (UInt64.le_trans begins (rising 0 index (Fin.zero_le index)))
    · exact fun index => (counted (Fin.le_last index)).trans once
    · exact ⟨minutesAt_mono _ after,(minutesAt_mono _ before).trans once⟩
  case writes =>
    intro select front last now five number
    have wrote := self.writeClock_spec select front five last now
    dsimp only at wrote
    by_cases enough : writtenSeconds number ≤ now.toNat
    · rw [if_pos enough] at wrote
      obtain ⟨written,set,base⟩ := wrote
      obtain ⟨next,taken⟩ := written.readClock_nibbles now now fun _ => now
      have bound := now.toNat_lt
      have minutes : minutesAt written.rtcBaseTime now = number / 0x1000 % 0x1000 * 1440 + number % 0x1000 % 1440 := by
        have whole : now.toNat - (now.toNat - writtenSeconds number) = writtenSeconds number := Nat.sub_sub_self enough
        rw [minutesAt,base,UInt64.toNat_ofNat',Nat.mod_eq_of_lt ((Nat.sub_le _ _).trans_lt bound),whole]
        unfold writtenSeconds
        omega
      have back : clockNumber (number / 0x1000 % 0x1000 * 1440 + number % 0x1000 % 1440) =
          numberOf (number / 0x1000 % 0x1000) (number % 0x1000 % 1440) := by
        unfold clockNumber numberOf
        omega
      refine ⟨fun _ => enough,fun _ => ⟨next,?_⟩⟩
      rw [set,Option.bind_eq_bind,Option.bind_some,taken,minutes,back]
    · rw [if_neg enough] at wrote
      rw [wrote]
      exact ⟨fun ⟨next,made⟩ => absurd made (Option.some_ne_none _).symm,fun less => absurd less enough⟩

/-- The minute goes from 15 to 16 after the first digit has been read: the program reads 31. -/
theorem clock_consistent_torn : ¬∀ (self : HuC3) (latch select : UInt64) (times : Fin 6 → UInt64), latch ≤ select → select ≤ times 0 →
    Rising times → ∃ nibbles next, self.readClock latch select (List.ofFn times) = some (nibbles,next) ∧
      Untorn self.rtcBaseTime latch (times 5) nibbles := by
  intro always
  let times : Fin 6 → UInt64 := ![959,960,960,960,960,960]
  obtain ⟨nibbles,next,taken,moment,after,before,same⟩ := always (new [] 0 0) 959 959 times (by decide) (by decide) (by decide)
  obtain ⟨next',read⟩ := (new [] 0 0).readClock_nibbles 959 959 times
  have torn : nibbles = _ := (Prod.mk.inj (Option.some.inj (taken.symm.trans read))).1
  have low := minutesAt_mono 0 after
  have high := minutesAt_mono 0 before
  have minutes : minutesAt 0 moment = 15 ∨ minutesAt 0 moment = 16 := by
    have first : minutesAt 0 959 = 15 := by decide
    have last : minutesAt 0 (times 5) = 16 := by decide
    omega
  rw [torn] at same
  obtain fifteen | sixteen := minutes
  · rw [show minutesAt (new [] 0 0).rtcBaseTime moment = 15 from fifteen] at same
    exact absurd same (by decide)
  · rw [show minutesAt (new [] 0 0).rtcBaseTime moment = 16 from sixteen] at same
    exact absurd same (by decide)

end HuC3
end ZeffBoy.GameBoy
