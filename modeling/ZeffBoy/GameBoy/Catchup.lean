import ZeffBoy.GameBoy.Clocks

/-! The MBC3 clock caught up with the seconds that have passed.
Registers that hold a time of day are one number of seconds within 512 days; ticking and catching up both add to it. -/
namespace ZeffBoy.GameBoy
namespace Rtc

def secondsPerDay : Nat := 24 * 60 * 60

def periodSeconds : Nat := 512 * secondsPerDay

def halted (self : Rtc) : Bool := self.internal.get rtcDayHigh &&& rtcDhHaltBit != 0

def outOfRange (self : Rtc) : Bool :=
  59 < self.internal.get rtcSeconds || 59 < self.internal.get rtcMinutes || 23 < self.internal.get rtcHours

-- The loop of `catchup_seconds`: registers out of range are ticked until they are in it.
def tickIntoRange (self : Rtc) : Nat → Rtc × Nat
  | 0 => (self,0)
  | remaining + 1 => if self.outOfRange then self.tickOneSecond.tickIntoRange remaining else (self,remaining + 1)

def day (self : Rtc) : Nat := (self.internal.get rtcDayHigh &&& rtcDhDayHighBit).toNat <<< 8 ||| (self.internal.get rtcDayLow).toNat

def current (self : Rtc) : Nat :=
  self.day * secondsPerDay + (self.internal.get rtcHours).toNat * 60 * 60 + (self.internal.get rtcMinutes).toNat * 60 +
    (self.internal.get rtcSeconds).toNat

def setCurrent (self : Rtc) (next : Nat) (overflowed : Bool) : Rtc :=
  let nextDay := next / secondsPerDay
  let daySeconds := next % secondsPerDay
  let dayHigh := self.internal.get rtcDayHigh
  let high := (dayHigh &&& rtcDhHaltBit) ||| (UInt8.ofNat (nextDay >>> 8) &&& rtcDhDayHighBit)
  let high := if overflowed || dayHigh &&& rtcDhCarryBit != 0 then high ||| rtcDhCarryBit else high
  ((((self.setInternal rtcSeconds (UInt8.ofNat (daySeconds % 60))).setInternal rtcMinutes
    (UInt8.ofNat (daySeconds / 60 % 60))).setInternal rtcHours (UInt8.ofNat (daySeconds / (60 * 60)))).setInternal
      rtcDayLow (UInt8.ofNat nextDay)).setInternal rtcDayHigh high

def catchupSeconds (self : Rtc) (seconds : Nat) : Rtc :=
  if self.halted then self
  else
    let (self,remaining) := self.tickIntoRange seconds
    if remaining = 0 then self
    else
      let overflowed : Bool := periodSeconds - self.current ≤ remaining
      self.setCurrent ((self.current + remaining % periodSeconds) % periodSeconds) overflowed

def ofParts (self : Rtc) (days hours minutes seconds : Nat) (carry : Bool) : Rtc :=
  {self with internal := ⟨[UInt8.ofNat seconds,UInt8.ofNat minutes,UInt8.ofNat hours,UInt8.ofNat days,
    (self.internal.get rtcDayHigh &&& rtcDhHaltBit) ||| (UInt8.ofNat (days >>> 8) &&& rtcDhDayHighBit) |||
      (if carry then rtcDhCarryBit else 0)],rfl⟩}

def ofCurrent (self : Rtc) (time : Nat) (carry : Bool) : Rtc :=
  self.ofParts (time / secondsPerDay) (time % secondsPerDay / (60 * 60)) (time % secondsPerDay / 60 % 60)
    (time % secondsPerDay % 60) carry

def carry (self : Rtc) : Bool := self.internal.get rtcDayHigh &&& rtcDhCarryBit != 0

theorem exists_registers : ∀ registers : RtcRegisters, ∃ seconds minutes hours low high,
    registers = ⟨[seconds,minutes,hours,low,high],rfl⟩
  | ⟨[seconds,minutes,hours,low,high],_⟩ => ⟨seconds,minutes,hours,low,high,rfl⟩

theorem setCurrent_eq (self : Rtc) (next : Nat) (overflowed : Bool) :
    self.setCurrent next overflowed = self.ofCurrent next (overflowed || self.carry) := by
  obtain ⟨internal,latched,subsecond⟩ := self
  obtain ⟨seconds,minutes,hours,low,high,rfl⟩ := exists_registers internal
  cases set : overflowed || carry ⟨⟨[seconds,minutes,hours,low,high],rfl⟩,latched,subsecond⟩ with
  | false =>
    unfold setCurrent
    simp only [carry] at set
    dsimp only
    rw [set]
    simp [ofCurrent,ofParts]
    rfl
  | true =>
    unfold setCurrent
    simp only [carry] at set
    dsimp only
    rw [set]
    rfl

theorem halt_cases (high : UInt8) : high &&& rtcDhHaltBit = 0 ∨ high &&& rtcDhHaltBit = rtcDhHaltBit := by
  revert high
  decide +kernel

theorem second_bumped : ∀ second < 59, UInt8.ofNat second ≠ 59 ∧ (UInt8.ofNat second + 1) &&& 0x3F = UInt8.ofNat (second + 1) := by
  decide

theorem hour_bumped : ∀ hour < 23, UInt8.ofNat hour ≠ 23 ∧ (UInt8.ofNat hour + 1) &&& 0x1F = UInt8.ofNat (hour + 1) := by
  decide

theorem day_bumped : ∀ (days : Fin 512) (halt carry : Bool),
    let held : UInt8 := if halt then rtcDhHaltBit else 0
    let high := held ||| (UInt8.ofNat (days.val >>> 8) &&& rtcDhDayHighBit) ||| (if carry then rtcDhCarryBit else 0)
    let day := ((high &&& rtcDhDayHighBit).toUInt16 <<< 8) ||| (UInt8.ofNat days.val).toUInt16
    let nextDay := if day == 0x1FF then 0 else day + 1
    (nextDay &&& 0xFF).toUInt8 = UInt8.ofNat ((days.val + 1) % 512) ∧
      (if high &&& rtcDhCarryBit != 0 || day == 0x1FF then
        ((high &&& rtcDhHaltBit) ||| ((nextDay >>> 8).toUInt8 &&& rtcDhDayHighBit)) ||| rtcDhCarryBit
      else (high &&& rtcDhHaltBit) ||| ((nextDay >>> 8).toUInt8 &&& rtcDhDayHighBit)) =
        (held ||| (UInt8.ofNat (((days.val + 1) % 512) >>> 8) &&& rtcDhDayHighBit) |||
          (if carry || days.val = 511 then rtcDhCarryBit else 0)) := by
  decide +kernel

section
variable {self : Rtc} {days hours minutes seconds : Nat} {carry : Bool}

theorem incrementDays_ofParts (inside : days < 512) :
    (self.ofParts days hours minutes seconds carry).incrementDays =
      self.ofParts ((days + 1) % 512) hours minutes seconds (carry || days = 511) := by
  obtain ⟨halt,held⟩ : ∃ halt : Bool, self.internal.get rtcDayHigh &&& rtcDhHaltBit = if halt then rtcDhHaltBit else 0 := by
    obtain none | set := halt_cases (self.internal.get rtcDayHigh)
    · exact ⟨false,none⟩
    · exact ⟨true,set⟩
  obtain ⟨low,high⟩ := day_bumped ⟨days,inside⟩ halt carry
  unfold ofParts
  rw [held]
  exact congrArg₂ (fun low high => ({self with
    internal := ⟨[UInt8.ofNat seconds,UInt8.ofNat minutes,UInt8.ofNat hours,low,high],rfl⟩} : Rtc)) low high

theorem incrementHours_ofParts (inside : hours < 23) :
    (self.ofParts days hours minutes seconds carry).incrementHours = self.ofParts days (hours + 1) minutes seconds carry := by
  obtain ⟨below,bumped⟩ := hour_bumped hours inside
  have read : (self.ofParts days hours minutes seconds carry).internal.get rtcHours = UInt8.ofNat hours := rfl
  rw [incrementHours,read,if_neg below,bumped]
  rfl

theorem incrementHours_midnight (inside : days < 512) :
    (self.ofParts days 23 minutes seconds carry).incrementHours =
      self.ofParts ((days + 1) % 512) 0 minutes seconds (carry || days = 511) := by
  have read : (self.ofParts days 23 minutes seconds carry).internal.get rtcHours = 23 := rfl
  rw [incrementHours,if_pos read]
  exact incrementDays_ofParts inside

theorem incrementMinutes_ofParts (inside : minutes < 59) :
    (self.ofParts days hours minutes seconds carry).incrementMinutes = self.ofParts days hours (minutes + 1) seconds carry := by
  obtain ⟨below,bumped⟩ := second_bumped minutes inside
  have read : (self.ofParts days hours minutes seconds carry).internal.get rtcMinutes = UInt8.ofNat minutes := rfl
  rw [incrementMinutes,read,if_neg below,bumped]
  rfl

theorem incrementMinutes_hour :
    (self.ofParts days hours 59 seconds carry).incrementMinutes = (self.ofParts days hours 0 seconds carry).incrementHours := by
  have read : (self.ofParts days hours 59 seconds carry).internal.get rtcMinutes = 59 := rfl
  rw [incrementMinutes,if_pos read]
  rfl

theorem tick_second (inside : seconds < 59) :
    (self.ofParts days hours minutes seconds carry).tickOneSecond = self.ofParts days hours minutes (seconds + 1) carry := by
  obtain ⟨below,bumped⟩ := second_bumped seconds inside
  have read : (self.ofParts days hours minutes seconds carry).internal.get rtcSeconds = UInt8.ofNat seconds := rfl
  rw [tickOneSecond,read,if_neg below,bumped]
  rfl

theorem tick_minute :
    (self.ofParts days hours minutes 59 carry).tickOneSecond = (self.ofParts days hours minutes 0 carry).incrementMinutes := by
  have read : (self.ofParts days hours minutes 59 carry).internal.get rtcSeconds = 59 := rfl
  rw [tickOneSecond,if_pos read]
  rfl

theorem ofCurrent_eq {time : Nat} (hour : hours < 24) (minute : minutes < 60) (second : seconds < 60)
    (whole : time = days * secondsPerDay + hours * 60 * 60 + minutes * 60 + seconds) :
    self.ofCurrent time carry = self.ofParts days hours minutes seconds carry := by
  subst whole
  unfold ofCurrent secondsPerDay
  congr 1 <;> omega

theorem exists_parts (time : Nat) : ∃ days hours minutes seconds, hours < 24 ∧ minutes < 60 ∧ seconds < 60 ∧
    time = days * secondsPerDay + hours * 60 * 60 + minutes * 60 + seconds := by
  unfold secondsPerDay
  refine ⟨time / 86400,time % 86400 / 3600,time % 3600 / 60,time % 60,?_,?_,?_,?_⟩ <;> omega

theorem tick_ofCurrent {time : Nat} (inside : time < periodSeconds) :
    (self.ofCurrent time carry).tickOneSecond =
      self.ofCurrent ((time + 1) % periodSeconds) (carry || time + 1 = periodSeconds) := by
  obtain ⟨days,hours,minutes,seconds,hour,minute,second,whole⟩ := exists_parts time
  rw [ofCurrent_eq hour minute second whole]
  unfold periodSeconds secondsPerDay at *
  have below : days < 512 := by omega
  by_cases midnight : hours = 23 ∧ minutes = 59 ∧ seconds = 59
  · obtain ⟨rfl,rfl,rfl⟩ := midnight
    rw [tick_minute,incrementMinutes_hour,incrementHours_midnight below]
    have same : decide (time + 1 = 512 * (24 * 60 * 60)) = decide (days = 511) := by
      rw [decide_eq_decide]
      omega
    rw [same]
    exact (ofCurrent_eq (by omega) (by omega) (by omega) (by unfold secondsPerDay; omega)).symm
  · have early : decide (time + 1 = 512 * (24 * 60 * 60)) = false := by
      rw [decide_eq_false_iff_not]
      omega
    rw [early,Bool.or_false]
    by_cases lastSecond : seconds = 59
    · subst lastSecond
      rw [tick_minute]
      by_cases lastMinute : minutes = 59
      · subst lastMinute
        rw [incrementMinutes_hour,incrementHours_ofParts (by omega)]
        exact (ofCurrent_eq (by omega) (by omega) (by omega) (by unfold secondsPerDay; omega)).symm
      · rw [incrementMinutes_ofParts (by omega)]
        exact (ofCurrent_eq (by omega) (by omega) (by omega) (by unfold secondsPerDay; omega)).symm
    · rw [tick_second (by omega)]
      exact (ofCurrent_eq (by omega) (by omega) (by omega) (by unfold secondsPerDay; omega)).symm

theorem ticks_ofCurrent {time : Nat} (inside : time < periodSeconds) (count : Nat) :
    tickOneSecond^[count] (self.ofCurrent time carry) =
      self.ofCurrent ((time + count) % periodSeconds) (carry || periodSeconds ≤ time + count) := by
  induction count with
  | zero =>
    have early : decide (periodSeconds ≤ time) = false := decide_eq_false (by omega)
    simp [Nat.mod_eq_of_lt inside,early]
  | succ count ih =>
    have wrapped := Nat.mod_lt (time + count) (show 0 < periodSeconds by decide)
    rw [Function.iterate_succ_apply',ih,tick_ofCurrent wrapped]
    congr 1
    · rw [← add_assoc,Nat.mod_add_mod]
    · rw [Bool.or_assoc,← Bool.decide_or]
      congr 1
      rw [decide_eq_decide]
      by_cases past : periodSeconds ≤ time + count
      · omega
      · rw [Nat.mod_eq_of_lt (by omega)]
        omega

end

theorem high_kept : ∀ high : UInt8, high &&& 0xC1 = high →
    (high &&& rtcDhHaltBit) ||| (high &&& rtcDhDayHighBit) ||| (if high &&& rtcDhCarryBit != 0 then rtcDhCarryBit else 0) = high := by
  decide +kernel

theorem dayBit_cases (high : UInt8) : high &&& rtcDhDayHighBit = 0 ∨ high &&& rtcDhDayHighBit = 1 := by
  revert high
  decide +kernel

theorem day_eq (self : Rtc) : self.day < 512 ∧ UInt8.ofNat self.day = self.internal.get rtcDayLow ∧
    UInt8.ofNat (self.day >>> 8) &&& rtcDhDayHighBit = self.internal.get rtcDayHigh &&& rtcDhDayHighBit := by
  have low := (self.internal.get rtcDayLow).toNat_lt
  have whole : self.day = (self.internal.get rtcDayHigh &&& rtcDhDayHighBit).toNat * 256 + (self.internal.get rtcDayLow).toNat := by
    rw [day,← Nat.shiftLeft_add_eq_or_of_lt low,Nat.shiftLeft_eq]
  have shifted : self.day >>> 8 = (self.internal.get rtcDayHigh &&& rtcDhDayHighBit).toNat := by
    rw [Nat.shiftRight_eq_div_pow]
    omega
  rw [shifted,UInt8.ofNat_toNat,UInt8.and_assoc]
  refine ⟨?_,?_,rfl⟩
  · obtain none | set := dayBit_cases (self.internal.get rtcDayHigh)
    · rw [whole,none]
      exact (Nat.zero_add _).trans_lt (low.trans (by decide))
    · rw [whole,set]
      exact Nat.add_lt_add_left low 256
  · rw [whole,UInt8.ofNat_add,UInt8.ofNat_mul,UInt8.ofNat_toNat,UInt8.ofNat_toNat]
    simp

variable {self : Rtc}

theorem current_registers (clean : Sanitized self.internal) (inRange : self.outOfRange = false) :
    self.current < periodSeconds ∧ self.ofCurrent self.current self.carry = self := by
  simp only [outOfRange,Bool.or_eq_false_iff,decide_eq_false_iff_not,UInt8.not_lt,UInt8.le_iff_toNat_le] at inRange
  obtain ⟨⟨second,minute⟩,hour⟩ := inRange
  change _ ≤ 59 at second minute
  change _ ≤ 23 at hour
  obtain ⟨below,low,bit⟩ := self.day_eq
  constructor
  · unfold current periodSeconds secondsPerDay
    omega
  · have whole : self.current = self.day * secondsPerDay + (self.internal.get rtcHours).toNat * 60 * 60 +
        (self.internal.get rtcMinutes).toNat * 60 + (self.internal.get rtcSeconds).toNat := by
      rw [current]
    refine (ofCurrent_eq (Nat.lt_succ_of_le hour) (Nat.lt_succ_of_le minute) (Nat.lt_succ_of_le second) whole).trans ?_
    have high := high_kept _ (clean rtcDayHigh)
    rw [← bit] at high
    refine Rtc.ext (List.Vector.ext fun index => ?_) rfl rfl
    fin_cases index
    · exact UInt8.ofNat_toNat
    · exact UInt8.ofNat_toNat
    · exact UInt8.ofNat_toNat
    · exact low
    · exact high

theorem sanitized_ticks (clean : Sanitized self.internal) (count : Nat) :
    Sanitized (tickOneSecond^[count] self).internal := by
  induction count with
  | zero => exact clean
  | succ count ih =>
    rw [Function.iterate_succ_apply']
    exact sanitized_tickOneSecond _ ih

theorem tickIntoRange_spec (self : Rtc) (seconds : Nat) :
    ∃ count, count + (self.tickIntoRange seconds).2 = seconds ∧ (self.tickIntoRange seconds).1 = tickOneSecond^[count] self ∧
      ((self.tickIntoRange seconds).2 = 0 ∨ (self.tickIntoRange seconds).1.outOfRange = false) := by
  induction seconds generalizing self with
  | zero => exact ⟨0,rfl,rfl,.inl rfl⟩
  | succ seconds ih =>
    rw [tickIntoRange]
    split
    · obtain ⟨count,whole,ticked,done⟩ := ih self.tickOneSecond
      exact ⟨count + 1,by omega,ticked,done⟩
    · rename_i inRange
      exact ⟨0,zero_add _,rfl,.inr (Bool.eq_false_iff.mpr inRange)⟩

theorem catchupSeconds_eq (clean : Sanitized self.internal) (running : self.halted = false) (seconds : Nat) :
    self.catchupSeconds seconds = tickOneSecond^[seconds] self := by
  obtain ⟨count,whole,ticked,done⟩ := self.tickIntoRange_spec seconds
  unfold catchupSeconds
  rw [running]
  dsimp only
  rw [if_neg Bool.false_ne_true,ticked]
  split
  · rename_i none
    rw [none,add_zero] at whole
    rw [whole]
  · rename_i left
    have inRange := done.resolve_left left
    rw [ticked] at inRange
    obtain ⟨inside,same⟩ := current_registers (sanitized_ticks clean count) inRange
    have ticks : tickOneSecond^[seconds] self =
        tickOneSecond^[(self.tickIntoRange seconds).2] (tickOneSecond^[count] self) := by
      rw [← Function.iterate_add_apply,add_comm,whole]
    rw [ticks,setCurrent_eq]
    generalize tickOneSecond^[count] self = ticked at inside same ⊢
    generalize (self.tickIntoRange seconds).2 = remaining
    conv_rhs => rw [← same]
    rw [ticks_ofCurrent inside,Nat.add_mod_mod,Bool.or_comm]
    congr 2
    rw [decide_eq_decide]
    omega

theorem halt_kept (high day : UInt8) (carry : Bool) :
    let dh := (high &&& rtcDhHaltBit) ||| (day &&& rtcDhDayHighBit)
    (if carry then dh ||| rtcDhCarryBit else dh) &&& rtcDhHaltBit = high &&& rtcDhHaltBit := by
  intro dh
  have kept : dh &&& rtcDhHaltBit = high &&& rtcDhHaltBit := by
    rw [or_and_right,UInt8.and_assoc,UInt8.and_assoc]
    change high &&& rtcDhHaltBit ||| day &&& 0 = high &&& rtcDhHaltBit
    rw [UInt8.and_zero,UInt8.or_zero]
  split
  · rw [or_and_right,kept]
    exact UInt8.or_zero
  · exact kept

theorem incrementDays_halted (self : Rtc) : self.incrementDays.halted = self.halted := by
  unfold halted incrementDays setInternal
  dsimp only
  rw [List.Vector.get_set_same,halt_kept]

theorem setInternal_halted (self : Rtc) {index : Fin rtcRegCount} (other : index ≠ rtcDayHigh) (value : UInt8) :
    (self.setInternal index value).halted = self.halted := by
  unfold halted setInternal
  dsimp only
  rw [List.Vector.get_set_of_ne other]

theorem tickOneSecond_halted (self : Rtc) : self.tickOneSecond.halted = self.halted := by
  have seconds := fun (self : Rtc) => self.setInternal_halted (show rtcSeconds ≠ rtcDayHigh by decide)
  have minutes := fun (self : Rtc) => self.setInternal_halted (show rtcMinutes ≠ rtcDayHigh by decide)
  have hours := fun (self : Rtc) => self.setInternal_halted (show rtcHours ≠ rtcDayHigh by decide)
  unfold tickOneSecond incrementMinutes incrementHours
  dsimp only
  split
  · split
    · split
      · rw [incrementDays_halted,hours,minutes,seconds]
      · rw [hours,minutes,seconds]
    · rw [minutes,seconds]
  · rw [seconds]

theorem advanceCycles_second (phase : self.subsecondCycles < gbTCyclesPerSecond) :
    self.advanceCycles (UInt64.ofNat gbTCyclesPerSecond) = if self.halted then self else self.tickOneSecond := by
  unfold advanceCycles
  change (if self.halted then self else _) = _
  split
  · rfl
  · have word : min (self.subsecondCycles + (UInt64.ofNat gbTCyclesPerSecond).toNat) (2^64 - 1) =
        self.subsecondCycles + gbTCyclesPerSecond := by
      change min (self.subsecondCycles + gbTCyclesPerSecond) _ = _
      unfold gbTCyclesPerSecond at *
      omega
    rw [word,drainSeconds,if_pos (Nat.le_add_left _ _),drainSeconds,if_neg]
    · simp
    · rw [tickOneSecond_subsecondCycles]
      simpa using phase

theorem advanceCycles_seconds (phase : self.subsecondCycles < gbTCyclesPerSecond) (seconds : Nat) :
    (fun rtc => rtc.advanceCycles (UInt64.ofNat gbTCyclesPerSecond))^[seconds] self =
      if self.halted then self else tickOneSecond^[seconds] self := by
  induction seconds generalizing self with
  | zero => simp
  | succ seconds ih =>
    rw [Function.iterate_succ_apply,advanceCycles_second phase]
    cases running : self.halted with
    | true =>
      rw [if_pos rfl,ih phase,running]
      rfl
    | false =>
      rw [if_neg Bool.false_ne_true,ih (by rwa [tickOneSecond_subsecondCycles]),tickOneSecond_halted,running]
      rfl

theorem catchupSeconds_halted (halted : self.halted = true) (seconds : Nat) : self.catchupSeconds seconds = self := by
  rw [catchupSeconds,if_pos halted]

end Rtc
end ZeffBoy.GameBoy
