import ZeffBoy.WonderSwan.BatteryClock
import ZeffBoy.WonderSwan.Calendar

/-! The clock of a cartridge against the calendar, with every addition of bytes checked.
The registers of the clock are also the buffer that a program fills, so any byte can be in any of them when a second has passed. -/
namespace ZeffBoy.WonderSwan
open Library Function

local instance neZero_payload : NeZero 7 := ⟨by decide⟩

section Checked

def bcdToU8Checked (value : UInt8) : Option UInt8 := checkedAddByte ((value >>> 4) * 10) (value &&& 0x0F)

/-- A second passes, if no addition overflows. -/
def incrementDatetimeChecked (payload : Datetime) : Option Datetime := do
  let second ← checkedAddByte (← bcdToU8Checked (payload 6)) 1
  if second < 60 then some (update payload 6 (u8ToBcd second))
  else do
    let minute ← checkedAddByte (← bcdToU8Checked (payload 5)) 1
    if minute < 60 then some (update (update payload 5 (u8ToBcd minute)) 6 0)
    else do
      let hour ← checkedAddByte (← bcdToU8Checked (payload 4)) 1
      if hour < 24 then some (update (update (update payload 4 (u8ToBcd hour)) 5 0) 6 0)
      else do
        let year ← bcdToU8Checked (payload 0)
        let month ← bcdToU8Checked (payload 1)
        let day ← checkedAddByte (← bcdToU8Checked (payload 2)) 1
        if day > daysInMonth year month then do
          let nextMonth ← checkedAddByte month 1
          if nextMonth > 12 then do
            let nextYear ← checkedAddByte year 1
            let weekday ← checkedAddByte (payload 3) 1
            some ![u8ToBcd (nextYear % 100),0x01,u8ToBcd 1,weekday % 7,0,0,0]
          else do
            let weekday ← checkedAddByte (payload 3) 1
            some ![payload 0,u8ToBcd nextMonth,u8ToBcd 1,weekday % 7,0,0,0]
        else do
          let weekday ← checkedAddByte (payload 3) 1
          some ![payload 0,payload 1,u8ToBcd day,weekday % 7,0,0,0]

def incrementTimes : Nat → Datetime → Option Datetime
  | 0,payload => some payload
  | seconds + 1,payload => incrementDatetimeChecked payload >>= incrementTimes seconds

theorem incrementTimes_add (one two : Nat) (payload : Datetime) :
    incrementTimes (one + two) payload = incrementTimes one payload >>= incrementTimes two := by
  induction one generalizing payload with
  | zero =>
    rw [zero_add]
    rfl
  | succ one ih =>
    rw [Nat.succ_add,incrementTimes,incrementTimes]
    cases incrementDatetimeChecked payload with
    | none => rfl
    | some next => exact ih next

def Rtc.elapsedSeconds (rtc : Rtc) (cycles : Nat) : Nat := (rtc.subsecondCycles + cycles) / cpuClockHz

def Rtc.stepCyclesChecked (cycles : Nat) (rtc : Rtc) : Option Rtc :=
  (incrementTimes (rtc.elapsedSeconds cycles) rtc.payload).map fun payload =>
    {rtc with subsecondCycles := (rtc.subsecondCycles + cycles) % cpuClockHz, payload := payload}

end Checked

section Bytes

theorem bcdToU8_le (value : UInt8) : (bcdToU8 value).toNat ≤ 165 := by
  have all : ∀ value : BitVec 8, (bcdToU8 ⟨value⟩).toNat ≤ 165 := by decide +kernel
  exact all value.toBitVec

variable {value : UInt8}

theorem bcdToU8_lt (valid : validBcd value = true) : (bcdToU8 value).toNat < 100 := by
  have all : ∀ value : BitVec 8, validBcd ⟨value⟩ = true → (bcdToU8 ⟨value⟩).toNat < 100 := by decide +kernel
  exact all value.toBitVec valid

theorem bcdToU8_u8ToBcd (small : value.toNat < 100) :
    bcdToU8 (u8ToBcd value) = value ∧ validBcd (u8ToBcd value) = true := by
  have all : ∀ value : BitVec 8, value.toNat < 100 → bcdToU8 (u8ToBcd ⟨value⟩) = ⟨value⟩ ∧ validBcd (u8ToBcd ⟨value⟩) = true := by
    decide +kernel
  exact all value.toBitVec small

theorem u8ToBcd_bcdToU8 (valid : validBcd value = true) : u8ToBcd (bcdToU8 value) = value := by
  have all : ∀ value : BitVec 8, validBcd ⟨value⟩ = true → u8ToBcd (bcdToU8 ⟨value⟩) = ⟨value⟩ := by decide +kernel
  exact all value.toBitVec valid

theorem bcdToU8Checked_eq (value : UInt8) : bcdToU8Checked value = some (bcdToU8 value) := by
  have all : ∀ value : BitVec 8, ((UInt8.ofBitVec value >>> 4) * 10).toNat + (UInt8.ofBitVec value &&& 0x0F).toNat < 256 := by decide +kernel
  exact if_pos (all value.toBitVec)

theorem toNat_succ (small : value.toNat < 255) : (value + 1).toNat = value.toNat + 1 := by
  rw [UInt8.toNat_add]
  exact Nat.mod_eq_of_lt (Nat.succ_lt_succ small)

theorem checkedAddByte_succ (small : value.toNat < 255) : checkedAddByte value 1 = some (value + 1) :=
  if_pos (Nat.succ_lt_succ small)

theorem toNat_bcdToU8_succ (value : UInt8) : (bcdToU8 value + 1).toNat = (bcdToU8 value).toNat + 1 :=
  toNat_succ ((bcdToU8_le value).trans_lt (by decide))

theorem checkedAddByte_bcdToU8 (value : UInt8) : checkedAddByte (bcdToU8 value) 1 = some (bcdToU8 value + 1) :=
  checkedAddByte_succ ((bcdToU8_le value).trans_lt (by decide))

end Bytes

section Overflow
variable {payload : Datetime}

/-- The next second is the first of a day. -/
structure Midnight (payload : Datetime) : Prop where
  second : 60 ≤ (bcdToU8 (payload 6)).toNat + 1
  minute : 60 ≤ (bcdToU8 (payload 5)).toNat + 1
  hour : 24 ≤ (bcdToU8 (payload 4)).toNat + 1

instance (payload : Datetime) : Decidable (Midnight payload) :=
  decidable_of_iff (60 ≤ (bcdToU8 (payload 6)).toNat + 1 ∧ 60 ≤ (bcdToU8 (payload 5)).toNat + 1 ∧ 24 ≤ (bcdToU8 (payload 4)).toNat + 1)
    ⟨fun ⟨second,minute,hour⟩ => ⟨second,minute,hour⟩,fun ⟨second,minute,hour⟩ => ⟨second,minute,hour⟩⟩

/-- The seconds until a day begins; a register that is out of its range is at its end. -/
def untilMidnight (payload : Datetime) : Nat :=
  max (60 - (bcdToU8 (payload 6)).toNat) 1 + 60 * (max (60 - (bcdToU8 (payload 5)).toNat) 1 - 1) +
    3600 * (max (24 - (bcdToU8 (payload 4)).toNat) 1 - 1)

theorem bcd_lt (value bound : UInt8) : bcdToU8 value + 1 < bound ↔ (bcdToU8 value).toNat + 1 < bound.toNat := by
  rw [UInt8.lt_iff_toNat_lt,toNat_bcdToU8_succ]

theorem incrementDatetimeChecked_eq (payload : Datetime) : incrementDatetimeChecked payload =
    if payload 3 = 0xFF ∧ Midnight payload then none else some (incrementDatetime payload) := by
  have weekday : checkedAddByte (payload 3) 1 = if payload 3 = 0xFF then none else some (payload 3 + 1) := by
    have all : ∀ value : BitVec 8, checkedAddByte ⟨value⟩ 1 = if (⟨value⟩ : UInt8) = 0xFF then none else some (⟨value⟩ + 1) := by
      decide +kernel
    exact all (payload 3).toBitVec
  have runs (same : ¬Midnight payload) : ¬(payload 3 = 0xFF ∧ Midnight payload) := fun both => same both.2
  unfold incrementDatetimeChecked incrementDatetime
  simp only [bcdToU8Checked_eq,checkedAddByte_bcdToU8,Option.bind_eq_bind,Option.bind_some]
  by_cases second : bcdToU8 (payload 6) + 1 < 60
  · have early : ¬Midnight payload := fun midnight => absurd ((bcd_lt _ _).mp second) (not_lt.mpr midnight.second)
    rw [if_pos second,if_pos second,if_neg (runs early)]
  rw [if_neg second,if_neg second]
  by_cases minute : bcdToU8 (payload 5) + 1 < 60
  · have early : ¬Midnight payload := fun midnight => absurd ((bcd_lt _ _).mp minute) (not_lt.mpr midnight.minute)
    rw [if_pos minute,if_pos minute,if_neg (runs early)]
  rw [if_neg minute,if_neg minute]
  by_cases hour : bcdToU8 (payload 4) + 1 < 24
  · have early : ¬Midnight payload := fun midnight => absurd ((bcd_lt _ _).mp hour) (not_lt.mpr midnight.hour)
    rw [if_pos hour,if_pos hour,if_neg (runs early)]
  rw [if_neg hour,if_neg hour]
  have midnight : Midnight payload :=
    ⟨Nat.le_of_not_lt (mt (bcd_lt _ 60).mpr second),Nat.le_of_not_lt (mt (bcd_lt _ 60).mpr minute),
      Nat.le_of_not_lt (mt (bcd_lt _ 24).mpr hour)⟩
  by_cases last : payload 3 = 0xFF
  · have overflows : payload 3 = 0xFF ∧ Midnight payload := ⟨last,midnight⟩
    rw [if_pos last] at weekday
    rw [if_pos overflows,weekday]
    simp only [Option.bind_none,ite_self]
  · have fine : ¬(payload 3 = 0xFF ∧ Midnight payload) := fun both => last both.1
    rw [if_neg last] at weekday
    rw [if_neg fine,weekday]
    simp only [Option.bind_some]
    by_cases monthEnds : bcdToU8 (payload 2) + 1 > daysInMonth (bcdToU8 (payload 0)) (bcdToU8 (payload 1))
    · by_cases yearEnds : bcdToU8 (payload 1) + 1 > 12
      · rw [if_pos monthEnds,if_pos monthEnds,if_pos yearEnds,if_pos yearEnds]
      · rw [if_pos monthEnds,if_pos monthEnds,if_neg yearEnds,if_neg yearEnds]
    · rw [if_neg monthEnds,if_neg monthEnds]

theorem untilMidnight_pos (payload : Datetime) : 0 < untilMidnight payload := by
  unfold untilMidnight
  omega

theorem untilMidnight_eq_one : untilMidnight payload = 1 ↔ Midnight payload := by
  constructor
  · intro one
    unfold untilMidnight at one
    exact ⟨by omega,by omega,by omega⟩
  · intro ⟨second,minute,hour⟩
    unfold untilMidnight
    omega

theorem untilMidnight_increment (early : ¬Midnight payload) :
    untilMidnight (incrementDatetime payload) + 1 = untilMidnight payload ∧ incrementDatetime payload 3 = payload 3 := by
  have zero : (bcdToU8 0).toNat = 0 := by decide
  have shown {value : UInt8} {bound : Nat} (below : (bcdToU8 value).toNat + 1 < bound) (small : bound ≤ 100) :
      (bcdToU8 (u8ToBcd (bcdToU8 value + 1))).toNat = (bcdToU8 value).toNat + 1 := by
    have next := toNat_bcdToU8_succ value
    rw [(bcdToU8_u8ToBcd (by omega)).1,next]
  unfold incrementDatetime
  dsimp only
  split
  · rename_i second
    have below := (bcd_lt _ _).mp second
    have next := shown below (by decide)
    refine ⟨?_,by simp⟩
    have below : (bcdToU8 (payload 6)).toNat + 1 < 60 := below
    simp only [untilMidnight,update_self,update_of_ne,ne_eq,Fin.reduceEq,not_false_eq_true,next]
    omega
  rename_i second
  have ended : ¬(bcdToU8 (payload 6)).toNat + 1 < 60 := mt (bcd_lt _ 60).mpr second
  split
  · rename_i minute
    have below : (bcdToU8 (payload 5)).toNat + 1 < 60 := (bcd_lt _ 60).mp minute
    have next := shown below (by decide)
    refine ⟨?_,by simp⟩
    simp only [untilMidnight,update_self,update_of_ne,ne_eq,Fin.reduceEq,not_false_eq_true,next,zero]
    omega
  rename_i minute
  have full : ¬(bcdToU8 (payload 5)).toNat + 1 < 60 := mt (bcd_lt _ 60).mpr minute
  split
  · rename_i hour
    have below : (bcdToU8 (payload 4)).toNat + 1 < 24 := (bcd_lt _ 24).mp hour
    have next := shown below (by decide)
    refine ⟨?_,by simp⟩
    simp only [untilMidnight,update_self,update_of_ne,ne_eq,Fin.reduceEq,not_false_eq_true,next,zero]
    omega
  · rename_i hour
    have last : ¬(bcdToU8 (payload 4)).toNat + 1 < 24 := mt (bcd_lt _ 24).mpr hour
    exact absurd ⟨by omega,by omega,by omega⟩ early

theorem weekday_increment (midnight : Midnight payload) :
    incrementDatetime payload 3 = (payload 3 + 1) % 7 := by
  have second : ¬bcdToU8 (payload 6) + 1 < 60 := fun below => absurd ((bcd_lt _ _).mp below) (not_lt.mpr midnight.second)
  have minute : ¬bcdToU8 (payload 5) + 1 < 60 := fun below => absurd ((bcd_lt _ _).mp below) (not_lt.mpr midnight.minute)
  have hour : ¬bcdToU8 (payload 4) + 1 < 24 := fun below => absurd ((bcd_lt _ _).mp below) (not_lt.mpr midnight.hour)
  unfold incrementDatetime
  dsimp only
  rw [if_neg second,if_neg minute,if_neg hour]
  split
  · split
    · rfl
    · rfl
  · rfl

theorem incrementTimes_eq (seconds : Nat) (payload : Datetime) : incrementTimes seconds payload =
    if payload 3 = 0xFF ∧ untilMidnight payload ≤ seconds then none else some (incrementDatetime^[seconds] payload) := by
  induction seconds generalizing payload with
  | zero =>
    have positive := untilMidnight_pos payload
    rw [if_neg (by omega)]
    rfl
  | succ seconds ih =>
    rw [incrementTimes,incrementDatetimeChecked_eq]
    by_cases midnight : Midnight payload
    · have one := untilMidnight_eq_one.mpr midnight
      by_cases last : payload 3 = 0xFF
      · rw [if_pos ⟨last,midnight⟩,if_pos ⟨last,by omega⟩]
        rfl
      · have small : incrementDatetime payload 3 ≠ 0xFF := by
          have all : ∀ value : BitVec 8, ((⟨value⟩ : UInt8) + 1) % 7 ≠ 0xFF := by decide +kernel
          rw [weekday_increment midnight]
          exact all (payload 3).toBitVec
        rw [if_neg fun both => last both.1,if_neg fun both => last both.1]
        show incrementTimes seconds (incrementDatetime payload) = _
        rw [ih,if_neg fun both => small both.1]
        rfl
    · obtain ⟨one,same⟩ := untilMidnight_increment midnight
      rw [if_neg fun both => midnight both.2]
      show incrementTimes seconds (incrementDatetime payload) = _
      rw [ih,same]
      by_cases last : payload 3 = 0xFF ∧ untilMidnight payload ≤ seconds + 1
      · rw [if_pos last,if_pos ⟨last.1,by omega⟩]
      · rw [if_neg last,if_neg fun both => last ⟨both.1,by omega⟩]
        rfl

end Overflow

section Dates
variable {payload other : Datetime}

/-- The second of the century that the registers show. -/
def moment (payload : Datetime) : Moment where
  year := (bcdToU8 (payload 0)).toNat
  month := (bcdToU8 (payload 1)).toNat
  day := (bcdToU8 (payload 2)).toNat
  hour := (bcdToU8 (payload 4)).toNat
  minute := (bcdToU8 (payload 5)).toNat
  second := (bcdToU8 (payload 6)).toNat

def Digits (payload : Datetime) : Prop := ∀ index, index ≠ 3 → validBcd (payload index) = true

/-- The registers show a date of the calendar. -/
structure Dated (payload : Datetime) : Prop where
  digits : Digits payload
  valid : (moment payload).Valid
  weekday : (payload 3).toNat < 7

theorem toNat_daysInMonth (year month : UInt8) : (daysInMonth year month).toNat = monthLength year.toNat month.toNat := by
  have leap : year % 4 = 0 ↔ year.toNat % 4 = 0 := by
    rw [← UInt8.toNat_inj,UInt8.toNat_mod]
    rfl
  unfold daysInMonth monthLength
  generalize month.toNat = number
  by_cases fourth : year % 4 = 0
  · rw [if_pos fourth,if_pos (leap.mp fourth)]
    split <;> simp_all
  · rw [if_neg fourth,if_neg (mt leap.mpr fourth)]
    split <;> simp_all

theorem dated_of_validDatetime (valid : validDatetime payload = true) : Dated payload := by
  simp only [validDatetime,Bool.and_eq_true,decide_eq_true_eq,UInt8.le_iff_toNat_le,UInt8.lt_iff_toNat_lt,toNat_daysInMonth] at valid
  obtain ⟨⟨⟨⟨⟨⟨⟨⟨⟨⟨⟨year,month⟩,day⟩,hour⟩,minute⟩,second⟩,months⟩,days⟩,weekday⟩,hours⟩,minutes⟩,seconds⟩ := valid
  refine ⟨fun index other => ?_,⟨bcdToU8_lt year,months,days,hours,minutes,seconds⟩,weekday⟩
  fin_cases index
  · exact year
  · exact month
  · exact day
  · exact absurd rfl other
  · exact hour
  · exact minute
  · exact second

theorem Dated.validDatetime (dated : Dated payload) : validDatetime payload = true := by
  obtain ⟨digits,⟨year,month,day,hour,minute,second⟩,weekday⟩ := dated
  simp only [ZeffBoy.WonderSwan.validDatetime,Bool.and_eq_true,decide_eq_true_eq,UInt8.le_iff_toNat_le,UInt8.lt_iff_toNat_lt,
    toNat_daysInMonth]
  exact ⟨⟨⟨⟨⟨⟨⟨⟨⟨⟨⟨digits 0 (by decide),digits 1 (by decide)⟩,digits 2 (by decide)⟩,digits 4 (by decide)⟩,digits 5 (by decide)⟩,
    digits 6 (by decide)⟩,month⟩,day⟩,weekday⟩,hour⟩,minute⟩,second⟩

theorem eq_of_bcdToU8 {one two : UInt8} (first : validBcd one = true) (second : validBcd two = true)
    (same : (bcdToU8 one).toNat = (bcdToU8 two).toNat) : one = two := by
  rw [← u8ToBcd_bcdToU8 first,← u8ToBcd_bcdToU8 second,UInt8.toNat_inj.mp same]

theorem Dated.eq_of_moment (one : Dated payload) (two : Dated other) (same : (moment payload).seconds = (moment other).seconds)
    (weekday : (payload 3).toNat = (other 3).toNat) : payload = other := by
  have shown := Moment.seconds_injective one.valid two.valid same
  ext index
  by_cases day : index = 3
  · rw [day,weekday]
  have equal : (bcdToU8 (payload index)).toNat = (bcdToU8 (other index)).toNat := by
    fin_cases index
    · exact congrArg Moment.year shown
    · exact congrArg Moment.month shown
    · exact congrArg Moment.day shown
    · exact absurd rfl day
    · exact congrArg Moment.hour shown
    · exact congrArg Moment.minute shown
    · exact congrArg Moment.second shown
  rw [eq_of_bcdToU8 (one.digits index day) (two.digits index day) equal]

theorem Dated.midnight_iff (dated : Dated payload) : Midnight payload ↔ (moment payload).secondOfDay + 1 = daySeconds := by
  have hour : (bcdToU8 (payload 4)).toNat < 24 := dated.valid.hour
  have minute : (bcdToU8 (payload 5)).toNat < 60 := dated.valid.minute
  have second : (bcdToU8 (payload 6)).toNat < 60 := dated.valid.second
  unfold Moment.secondOfDay moment daySeconds
  dsimp only
  constructor
  · intro ⟨seconds,minutes,hours⟩
    omega
  · intro last
    exact ⟨by omega,by omega,by omega⟩

theorem Digits.update (digits : Digits payload) (place : Fin 7) {value : UInt8} (valid : validBcd value = true) :
    Digits (update payload place value) := by
  intro index other
  by_cases written : index = place
  · rw [written,update_self]
    exact valid
  · rw [update_of_ne written]
    exact digits index other

theorem digits_midnight {year month day : UInt8} (weekday : UInt8) (one : validBcd year = true) (two : validBcd month = true)
    (three : validBcd day = true) : Digits ![year,month,day,weekday,0,0,0] := by
  have zero : validBcd 0 = true := by decide
  intro index other
  fin_cases index
  · exact one
  · exact two
  · exact three
  · exact absurd rfl other
  · exact zero
  · exact zero
  · exact zero

theorem moment_midnight (year month day weekday : UInt8) : moment ![year,month,day,weekday,0,0,0] =
    ⟨(bcdToU8 year).toNat,(bcdToU8 month).toNat,(bcdToU8 day).toNat,0,0,0⟩ := by
  have zero : (bcdToU8 0).toNat = 0 := by decide
  exact Moment.ext rfl rfl rfl zero zero zero

theorem shown_succ {value : UInt8} (small : (bcdToU8 value).toNat + 1 < 100) :
    (bcdToU8 (u8ToBcd (bcdToU8 value + 1))).toNat = (bcdToU8 value).toNat + 1 ∧ validBcd (u8ToBcd (bcdToU8 value + 1)) = true := by
  have next := toNat_bcdToU8_succ value
  obtain ⟨same,valid⟩ := @bcdToU8_u8ToBcd (bcdToU8 value + 1) (by omega)
  exact ⟨by rw [same,next],valid⟩

theorem Dated.moment_nextDay (dated : Dated payload) (midnight : Midnight payload) :
    moment (incrementDatetime payload) = (moment payload).nextDay ∧ Digits (incrementDatetime payload) := by
  have second : ¬bcdToU8 (payload 6) + 1 < 60 := fun below => absurd ((bcd_lt _ _).mp below) (not_lt.mpr midnight.second)
  have minute : ¬bcdToU8 (payload 5) + 1 < 60 := fun below => absurd ((bcd_lt _ _).mp below) (not_lt.mpr midnight.minute)
  have hour : ¬bcdToU8 (payload 4) + 1 < 24 := fun below => absurd ((bcd_lt _ _).mp below) (not_lt.mpr midnight.hour)
  have digits := dated.digits
  have century : (bcdToU8 (payload 0)).toNat < 100 := dated.valid.year
  have known : (bcdToU8 (payload 1)).toNat ≤ 12 := dated.valid.month.2
  have inside : (bcdToU8 (payload 2)).toNat ≤ (daysInMonth (bcdToU8 (payload 0)) (bcdToU8 (payload 1))).toNat := by
    rw [toNat_daysInMonth]
    exact dated.valid.day.2
  have short : (daysInMonth (bcdToU8 (payload 0)) (bcdToU8 (payload 1))).toNat ≤ 31 := by
    unfold daysInMonth
    split
    all_goals first | decide | (split <;> decide)
  have one : (bcdToU8 (u8ToBcd 1)).toNat = 1 ∧ validBcd (u8ToBcd 1) = true := by decide
  unfold incrementDatetime Moment.nextDay
  dsimp only
  rw [if_neg second,if_neg minute,if_neg hour]
  have dayEnds : bcdToU8 (payload 2) + 1 > daysInMonth (bcdToU8 (payload 0)) (bcdToU8 (payload 1)) ↔
      ¬(moment payload).day < monthLength (moment payload).year (moment payload).month := by
    rw [gt_iff_lt,UInt8.lt_iff_toNat_lt,toNat_bcdToU8_succ,toNat_daysInMonth]
    exact Nat.lt_succ_iff.trans not_lt.symm
  by_cases stays : (moment payload).day < monthLength (moment payload).year (moment payload).month
  · have day : (bcdToU8 (payload 2)).toNat < (daysInMonth (bcdToU8 (payload 0)) (bcdToU8 (payload 1))).toNat := by
      rw [toNat_daysInMonth]
      exact stays
    obtain ⟨next,valid⟩ := @shown_succ (payload 2) (by omega)
    rw [if_neg fun ends => dayEnds.mp ends stays,if_pos stays]
    refine ⟨?_,digits_midnight _ (digits 0 (by decide)) (digits 1 (by decide)) valid⟩
    rw [moment_midnight,next]
    rfl
  rw [if_pos (dayEnds.mpr stays),if_neg stays]
  have monthEnds : bcdToU8 (payload 1) + 1 > 12 ↔ ¬(moment payload).month < 12 := by
    rw [gt_iff_lt,UInt8.lt_iff_toNat_lt,toNat_bcdToU8_succ]
    show 12 < _ ↔ ¬(bcdToU8 (payload 1)).toNat < 12
    omega
  by_cases early : (moment payload).month < 12
  · obtain ⟨next,valid⟩ := @shown_succ (payload 1) (by omega)
    rw [if_neg fun ends => monthEnds.mp ends early,if_pos early]
    refine ⟨?_,digits_midnight _ (digits 0 (by decide)) valid one.2⟩
    rw [moment_midnight,next,one.1]
    rfl
  · have number : ((bcdToU8 (payload 0) + 1) % 100).toNat = ((bcdToU8 (payload 0)).toNat + 1) % 100 := by
      rw [UInt8.toNat_mod,toNat_bcdToU8_succ]
      rfl
    obtain ⟨next,valid⟩ := @bcdToU8_u8ToBcd ((bcdToU8 (payload 0) + 1) % 100) (by omega)
    rw [if_pos (monthEnds.mpr early),if_neg early]
    refine ⟨?_,digits_midnight _ valid (by decide) one.2⟩
    rw [moment_midnight,next,number,one.1]
    rfl

theorem Dated.moment_increment (dated : Dated payload) :
    moment (incrementDatetime payload) = (moment payload).next ∧ Digits (incrementDatetime payload) := by
  have zero : validBcd 0 = true := by decide
  have none' : (bcdToU8 0).toNat = 0 := by decide
  have lastHour : (bcdToU8 (payload 4)).toNat < 24 := dated.valid.hour
  have lastMinute : (bcdToU8 (payload 5)).toNat < 60 := dated.valid.minute
  have lastSecond : (bcdToU8 (payload 6)).toNat < 60 := dated.valid.second
  unfold Moment.next
  by_cases second : (bcdToU8 (payload 6)).toNat + 1 < 60
  · obtain ⟨next,valid⟩ := @shown_succ (payload 6) (by omega)
    unfold incrementDatetime
    dsimp only
    rw [if_pos ((bcd_lt _ 60).mpr second),if_pos (show (moment payload).second + 1 < 60 from second)]
    exact ⟨Moment.ext rfl rfl rfl rfl rfl next,Digits.update dated.digits 6 valid⟩
  rw [if_neg (show ¬(moment payload).second + 1 < 60 from second)]
  by_cases minute : (bcdToU8 (payload 5)).toNat + 1 < 60
  · obtain ⟨next,valid⟩ := @shown_succ (payload 5) (by omega)
    unfold incrementDatetime
    dsimp only
    rw [if_neg (mt (bcd_lt _ 60).mp second),if_pos ((bcd_lt _ 60).mpr minute),
      if_pos (show (moment payload).minute + 1 < 60 from minute)]
    exact ⟨Moment.ext rfl rfl rfl rfl next none',(Digits.update dated.digits 5 valid).update 6 zero⟩
  rw [if_neg (show ¬(moment payload).minute + 1 < 60 from minute)]
  by_cases hour : (bcdToU8 (payload 4)).toNat + 1 < 24
  · obtain ⟨next,valid⟩ := @shown_succ (payload 4) (by omega)
    unfold incrementDatetime
    dsimp only
    rw [if_neg (mt (bcd_lt _ 60).mp second),if_neg (mt (bcd_lt _ 60).mp minute),if_pos ((bcd_lt _ 24).mpr hour),
      if_pos (show (moment payload).hour + 1 < 24 from hour)]
    exact ⟨Moment.ext rfl rfl rfl next none' none',((Digits.update dated.digits 4 valid).update 5 zero).update 6 zero⟩
  rw [if_neg (show ¬(moment payload).hour + 1 < 24 from hour)]
  exact dated.moment_nextDay ⟨Nat.le_of_not_lt second,Nat.le_of_not_lt minute,Nat.le_of_not_lt hour⟩

theorem Dated.increment (dated : Dated payload) : Dated (incrementDatetime payload) ∧
    (incrementDatetime payload 3).toNat = ((payload 3).toNat + ((moment payload).secondOfDay + 1) / daySeconds) % 7 := by
  obtain ⟨next,digits⟩ := dated.moment_increment
  have inside := dated.valid.secondOfDay_lt
  have weekday := dated.weekday
  have counted : (incrementDatetime payload 3).toNat = ((payload 3).toNat + ((moment payload).secondOfDay + 1) / daySeconds) % 7 := by
    by_cases midnight : Midnight payload
    · have all : ∀ value : BitVec 8, (UInt8.ofBitVec value).toNat < 7 →
          ((UInt8.ofBitVec value + 1) % 7).toNat = ((UInt8.ofBitVec value).toNat + 1) % 7 := by decide +kernel
      rw [weekday_increment midnight,dated.midnight_iff.mp midnight]
      exact all (payload 3).toBitVec weekday
    · have early := mt dated.midnight_iff.mpr midnight
      rw [(untilMidnight_increment midnight).2,Nat.div_eq_of_lt (by omega),add_zero,Nat.mod_eq_of_lt weekday]
  refine ⟨⟨digits,?_,?_⟩,counted⟩
  · rw [next]
    exact dated.valid.next
  · rw [counted]
    exact Nat.mod_lt _ (by decide)

theorem Dated.increment_times (dated : Dated payload) (seconds : Nat) : Dated (incrementDatetime^[seconds] payload) ∧
    (moment (incrementDatetime^[seconds] payload)).seconds = ((moment payload).seconds + seconds) % centurySeconds ∧
    (moment (incrementDatetime^[seconds] payload)).secondOfDay = ((moment payload).secondOfDay + seconds) % daySeconds ∧
    (incrementDatetime^[seconds] payload 3).toNat = ((payload 3).toNat + ((moment payload).secondOfDay + seconds) / daySeconds) % 7 := by
  induction seconds with
  | zero =>
    have inside := dated.valid.secondOfDay_lt
    rw [iterate_zero_apply,add_zero,add_zero,Nat.div_eq_of_lt inside,add_zero]
    exact ⟨dated,(Nat.mod_eq_of_lt dated.valid.seconds_lt).symm,(Nat.mod_eq_of_lt inside).symm,(Nat.mod_eq_of_lt dated.weekday).symm⟩
  | succ seconds ih =>
    obtain ⟨before,number,time,weekday⟩ := ih
    obtain ⟨after,counted⟩ := before.increment
    rw [iterate_succ_apply']
    refine ⟨after,?_,?_,?_⟩
    · rw [before.moment_increment.1,before.valid.next_seconds,number,Nat.mod_add_mod,add_assoc]
    · rw [before.moment_increment.1,before.valid.next_secondOfDay,time,Nat.mod_add_mod,add_assoc]
    · rw [counted,weekday,time]
      unfold daySeconds
      omega

end Dates

namespace Rtc
variable {rtc : Rtc}

inductive RtcCall
  | writeCommand (value initialPayload : UInt8)
  | writePayload (value : UInt8)
  | readStatus
  | readPayload
  | stepCycles (cycles : Nat)

def perform (rtc : Rtc) : RtcCall → Option Rtc
  | .writeCommand value initialPayload => some (rtc.writeCommand value initialPayload)
  | .writePayload value => some (rtc.writePayload value)
  | .readStatus => some rtc.readStatus.2
  | .readPayload => some rtc.readPayload.2
  | .stepCycles cycles => rtc.stepCyclesChecked cycles

def run (rtc : Rtc) (calls : List RtcCall) : Option Rtc := calls.foldlM perform rtc

/-- Some day begins with the day of the week at 0xFF, a value only a program can have left there. -/
def OverflowsIn (rtc : Rtc) (cycles : Nat) : Prop :=
  rtc.payload 3 = 0xFF ∧ untilMidnight rtc.payload ≤ rtc.elapsedSeconds cycles

instance (rtc : Rtc) (cycles : Nat) : Decidable (rtc.OverflowsIn cycles) := inferInstanceAs (Decidable (_ ∧ _))

theorem stepCyclesChecked_eq (rtc : Rtc) (cycles : Nat) : rtc.stepCyclesChecked cycles =
    if rtc.OverflowsIn cycles then none else some (rtc.stepCycles cycles) := by
  rw [stepCyclesChecked,incrementTimes_eq]
  by_cases overflows : rtc.payload 3 = 0xFF ∧ untilMidnight rtc.payload ≤ rtc.elapsedSeconds cycles
  · rw [if_pos overflows,if_pos (show rtc.OverflowsIn cycles from overflows)]
    rfl
  · rw [if_neg overflows,if_neg (show ¬rtc.OverflowsIn cycles from overflows)]
    rfl

theorem stepCyclesChecked_add (rtc : Rtc) (one two : Nat) :
    rtc.stepCyclesChecked (one + two) = rtc.stepCyclesChecked one >>= stepCyclesChecked two := by
  have seconds (next : Rtc) (left : next.subsecondCycles = (rtc.subsecondCycles + one) % cpuClockHz) :
      rtc.elapsedSeconds (one + two) = rtc.elapsedSeconds one + next.elapsedSeconds two ∧
        (rtc.subsecondCycles + (one + two)) % cpuClockHz = (next.subsecondCycles + two) % cpuClockHz := by
    unfold elapsedSeconds cpuClockHz at *
    rw [left]
    omega
  let between (payload : Datetime) : Rtc :=
    {rtc with subsecondCycles := (rtc.subsecondCycles + one) % cpuClockHz, payload := payload}
  rw [stepCyclesChecked,(seconds (between rtc.payload) rfl).1,(seconds (between rtc.payload) rfl).2,incrementTimes_add,stepCyclesChecked]
  cases incrementTimes (rtc.elapsedSeconds one) rtc.payload with
  | none => rfl
  | some payload => rfl

/-- The clock never overflows but where a day begins with the day of the week at 0xFF; from a date of the calendar it goes on by the
seconds that have passed; and it does not matter in how many parts the cycles come. -/
theorem stepCycles_counts_iff (rtc : Rtc) :
    (∀ cycles, (∃ next, rtc.stepCyclesChecked cycles = some next) ↔ ¬rtc.OverflowsIn cycles) ∧
    (∀ cycles, validDatetime rtc.payload = true → ∃ next, rtc.stepCyclesChecked cycles = some next ∧
      next.subsecondCycles = (rtc.subsecondCycles + cycles) % cpuClockHz ∧
      ∀ date, date = next.payload ↔ validDatetime date = true ∧
        (moment date).seconds = ((moment rtc.payload).seconds + rtc.elapsedSeconds cycles) % centurySeconds ∧
        (date 3).toNat = ((rtc.payload 3).toNat + ((moment rtc.payload).secondOfDay + rtc.elapsedSeconds cycles) / daySeconds) % 7) ∧
    ∀ one two, rtc.stepCyclesChecked (one + two) = rtc.stepCyclesChecked one >>= stepCyclesChecked two := by
  refine ⟨?safe,?counts,rtc.stepCyclesChecked_add⟩
  case safe =>
    intro cycles
    rw [stepCyclesChecked_eq]
    by_cases overflows : rtc.OverflowsIn cycles
    · rw [if_pos overflows]
      exact ⟨fun ⟨next,made⟩ => absurd made (Option.some_ne_none next).symm,fun fine => absurd overflows fine⟩
    · rw [if_neg overflows]
      exact ⟨fun _ => overflows,fun _ => ⟨_,rfl⟩⟩
  case counts =>
    intro cycles valid
    have dated := dated_of_validDatetime valid
    have fine : ¬rtc.OverflowsIn cycles := by
      intro overflows
      have weekday := dated.weekday
      rw [overflows.1] at weekday
      exact absurd weekday (by decide)
    obtain ⟨after,number,_,weekday⟩ := dated.increment_times (rtc.elapsedSeconds cycles)
    refine ⟨rtc.stepCycles cycles,by rw [stepCyclesChecked_eq,if_neg fine],rfl,fun date => ?_⟩
    constructor
    · rintro rfl
      exact ⟨after.validDatetime,number,weekday⟩
    · intro ⟨other,same,day⟩
      exact (dated_of_validDatetime other).eq_of_moment after (same.trans number.symm) (day.trans weekday.symm)

/-- A program writes 0xFF for the day of the week, a second before midnight. -/
theorem stepCycles_counts_weekdayOverflows : ¬∀ (calls : List RtcCall) (rtc : Rtc), run new calls = some rtc →
    ∀ cycles, ∃ next, rtc.stepCyclesChecked cycles = some next := by
  intro always
  obtain ⟨next,made⟩ := always [.writeCommand 0x14 0x00,.writePayload 0x01,.writePayload 0x01,.writePayload 0xFF,.writePayload 0x23,
    .writePayload 0x59,.writePayload 0x59] _ rfl cpuClockHz
  rw [stepCyclesChecked_eq,if_pos (by decide)] at made
  exact Option.some_ne_none next made.symm

end Rtc

end ZeffBoy.WonderSwan
