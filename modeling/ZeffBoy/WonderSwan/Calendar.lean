import Mathlib

/-! A century with a leap year every fourth year, counted in seconds. -/
namespace ZeffBoy.WonderSwan
open List

def monthLength (year month : Nat) : Nat :=
  match month with
  | 1 | 3 | 5 | 7 | 8 | 10 | 12 => 31
  | 4 | 6 | 9 | 11 => 30
  | 2 => if year % 4 = 0 then 29 else 28
  | _ => 0

def daysBeforeMonth (year month : Nat) : Nat := ((List.range month).map (monthLength year)).sum

def daysBeforeYear (year : Nat) : Nat := 365 * year + (year + 3) / 4

def daySeconds : Nat := 86400

def centurySeconds : Nat := 36525 * daySeconds

section Days

theorem daysBeforeMonth_succ (year month : Nat) :
    daysBeforeMonth year (month + 1) = daysBeforeMonth year month + monthLength year month := by
  simp only [daysBeforeMonth,range_succ,map_append,sum_append,map_cons,map_nil,sum_cons,sum_nil,
    add_zero]

theorem daysBeforeMonth_mono (year : Nat) : Monotone (daysBeforeMonth year) := by
  apply monotone_nat_of_le_succ
  intro month
  rw [daysBeforeMonth_succ]
  exact Nat.le_add_right _ _

theorem daysBeforeYear_succ (year : Nat) : daysBeforeYear (year + 1) = daysBeforeYear year + daysBeforeMonth year 13 := by
  have whole : daysBeforeMonth year 13 = 365 + if year % 4 = 0 then 1 else 0 := by
    simp only [daysBeforeMonth_succ,monthLength]
    split <;> rfl
  rw [whole]
  unfold daysBeforeYear
  split <;> omega

theorem daysBeforeYear_mono : Monotone daysBeforeYear := by
  apply monotone_nat_of_le_succ
  intro year
  rw [daysBeforeYear_succ]
  exact Nat.le_add_right _ _

end Days

/-- A second of the century. -/
@[ext] structure Moment where
  year : Nat
  month : Nat
  day : Nat
  hour : Nat
  minute : Nat
  second : Nat

namespace Moment
variable {moment other : Moment}

structure Valid (moment : Moment) : Prop where
  year : moment.year < 100
  month : 1 ≤ moment.month ∧ moment.month ≤ 12
  day : 1 ≤ moment.day ∧ moment.day ≤ monthLength moment.year moment.month
  hour : moment.hour < 24
  minute : moment.minute < 60
  second : moment.second < 60

def days (moment : Moment) : Nat := daysBeforeYear moment.year + daysBeforeMonth moment.year moment.month + (moment.day - 1)

def secondOfDay (moment : Moment) : Nat := (moment.hour * 60 + moment.minute) * 60 + moment.second

def seconds (moment : Moment) : Nat := moment.days * daySeconds + moment.secondOfDay

def nextDay (moment : Moment) : Moment :=
  if moment.day < monthLength moment.year moment.month then ⟨moment.year,moment.month,moment.day + 1,0,0,0⟩
  else if moment.month < 12 then ⟨moment.year,moment.month + 1,1,0,0,0⟩
  else ⟨(moment.year + 1) % 100,1,1,0,0,0⟩

def next (moment : Moment) : Moment :=
  if moment.second + 1 < 60 then {moment with second := moment.second + 1}
  else if moment.minute + 1 < 60 then {moment with minute := moment.minute + 1, second := 0}
  else if moment.hour + 1 < 24 then {moment with hour := moment.hour + 1, minute := 0, second := 0}
  else moment.nextDay

theorem Valid.secondOfDay_lt (valid : moment.Valid) : moment.secondOfDay < daySeconds := by
  obtain ⟨_,_,_,hour,minute,second⟩ := valid
  unfold secondOfDay daySeconds
  omega

theorem Valid.days_lt (valid : moment.Valid) : moment.days < daysBeforeYear (moment.year + 1) := by
  have within := daysBeforeMonth_succ moment.year moment.month
  have through := daysBeforeMonth_mono moment.year (show moment.month + 1 ≤ 13 by have := valid.month.2; omega)
  have day := valid.day
  rw [daysBeforeYear_succ,days]
  omega

theorem Valid.seconds_lt (valid : moment.Valid) : moment.seconds < centurySeconds := by
  have last : moment.days < 36525 := valid.days_lt.trans_le (daysBeforeYear_mono (Nat.succ_le_of_lt valid.year))
  have rest := valid.secondOfDay_lt
  unfold seconds centurySeconds daySeconds at *
  omega

theorem Valid.month_le (valid : moment.Valid) (same : moment.year = other.year) (days : other.days = moment.days) :
    other.month ≤ moment.month := by
  by_contra later
  have within := daysBeforeMonth_succ moment.year moment.month
  have through := daysBeforeMonth_mono moment.year (show moment.month + 1 ≤ other.month by omega)
  have day := valid.day
  unfold Moment.days at days
  rw [← same] at days
  omega

theorem Valid.year_le (valid : moment.Valid) (days : other.days = moment.days) : other.year ≤ moment.year := by
  by_contra later
  have passed := daysBeforeYear_mono (show moment.year + 1 ≤ other.year by omega)
  have inside := valid.days_lt
  have from' : daysBeforeYear other.year ≤ other.days := by
    unfold Moment.days
    omega
  omega

theorem seconds_injective (one : moment.Valid) (two : other.Valid) (same : moment.seconds = other.seconds) : moment = other := by
  have first := one.secondOfDay_lt
  have second := two.secondOfDay_lt
  have days : moment.days = other.days := by
    unfold seconds daySeconds at *
    omega
  have time : moment.secondOfDay = other.secondOfDay := by
    unfold seconds at same
    rw [days] at same
    omega
  have year := le_antisymm (two.year_le days) (one.year_le days.symm)
  have month := le_antisymm (two.month_le year.symm days) (one.month_le year days.symm)
  have dayOne := one.day.1
  have dayTwo := two.day.1
  have day : moment.day = other.day := by
    unfold Moment.days at days
    rw [year,month] at days
    omega
  obtain ⟨_,_,_,hour,minute,sec⟩ := one
  obtain ⟨_,_,_,hour',minute',sec'⟩ := two
  unfold secondOfDay at time
  apply Moment.ext year month day
  · omega
  · omega
  · omega

theorem one_le_monthLength (year : Nat) {month : Nat} (known : 1 ≤ month ∧ month ≤ 12) : 1 ≤ monthLength year month := by
  obtain ⟨low,high⟩ := known
  have leap : 1 ≤ if year % 4 = 0 then 29 else 28 := by
    split
    · exact Nat.le_add_left 1 28
    · exact Nat.le_add_left 1 27
  interval_cases month
  case «2» => exact leap
  all_goals exact Nat.succ_le_succ zero_le

theorem valid_midnight {year month day : Nat} (century : year < 100) (known : 1 ≤ month ∧ month ≤ 12)
    (inside : 1 ≤ day ∧ day ≤ monthLength year month) : Valid ⟨year,month,day,0,0,0⟩ :=
  ⟨century,known,inside,Nat.zero_lt_succ _,Nat.zero_lt_succ _,Nat.zero_lt_succ _⟩

theorem Valid.nextDay (valid : moment.Valid) : moment.nextDay.Valid := by
  unfold Moment.nextDay
  obtain ⟨year,month,day,_⟩ := valid
  split
  · exact valid_midnight year month ⟨Nat.le_add_left _ _,‹_›⟩
  split
  · have known : 1 ≤ moment.month + 1 ∧ moment.month + 1 ≤ 12 := by omega
    exact valid_midnight year known ⟨le_rfl,one_le_monthLength _ known⟩
  · exact valid_midnight (Nat.mod_lt _ (by decide)) (by decide) ⟨le_rfl,one_le_monthLength _ (by decide)⟩

theorem Valid.nextDay_days (valid : moment.Valid) : moment.nextDay.days = (moment.days + 1) % 36525 := by
  have inside : moment.days < 36525 := valid.days_lt.trans_le (daysBeforeYear_mono (Nat.succ_le_of_lt valid.year))
  obtain ⟨year,month,day,_⟩ := valid
  have within := daysBeforeMonth_succ moment.year moment.month
  unfold Moment.nextDay
  split
  · have stays : moment.days + 1 = Moment.days ⟨moment.year,moment.month,moment.day + 1,0,0,0⟩ := by
      unfold Moment.days
      dsimp only
      omega
    have bound : Moment.days ⟨moment.year,moment.month,moment.day + 1,0,0,0⟩ < 36525 := by
      refine (valid_midnight year month ⟨Nat.le_add_left _ _,‹_›⟩).days_lt.trans_le ?_
      exact daysBeforeYear_mono (Nat.succ_le_of_lt year)
    rw [stays,Nat.mod_eq_of_lt bound]
  split
  · rename_i full early
    have known : 1 ≤ moment.month + 1 ∧ moment.month + 1 ≤ 12 := by omega
    have stays : moment.days + 1 = Moment.days ⟨moment.year,moment.month + 1,1,0,0,0⟩ := by
      unfold Moment.days
      dsimp only
      omega
    have bound : Moment.days ⟨moment.year,moment.month + 1,1,0,0,0⟩ < 36525 := by
      refine (valid_midnight year known ⟨le_rfl,one_le_monthLength _ known⟩).days_lt.trans_le ?_
      exact daysBeforeYear_mono (Nat.succ_le_of_lt year)
    rw [stays,Nat.mod_eq_of_lt bound]
  · rename_i full late
    have december : moment.month = 12 := by omega
    rw [december] at day full
    have ends : moment.days + 1 = daysBeforeYear (moment.year + 1) := by
      rw [daysBeforeYear_succ,show daysBeforeMonth moment.year 13 = _ from daysBeforeMonth_succ moment.year 12]
      unfold Moment.days
      rw [december]
      omega
    have january (year : Nat) : daysBeforeMonth year 1 = 0 := by
      rw [daysBeforeMonth_succ]
      rfl
    have begins : Moment.days ⟨(moment.year + 1) % 100,1,1,0,0,0⟩ = daysBeforeYear ((moment.year + 1) % 100) := by
      unfold Moment.days
      rw [january]
      rfl
    rw [ends,begins]
    obtain last | earlier := Nat.eq_or_lt_of_le (Nat.succ_le_of_lt year)
    · rw [show moment.year + 1 = 100 from last]
      rfl
    · have bound := daysBeforeYear_mono (Nat.succ_le_of_lt earlier)
      rw [daysBeforeYear_succ] at bound
      rw [Nat.mod_eq_of_lt earlier,Nat.mod_eq_of_lt]
      refine (lt_of_lt_of_le ?_ bound).trans_le le_rfl
      exact Nat.lt_add_of_pos_right ((show 0 < daysBeforeMonth (moment.year + 1) 2 from Nat.zero_lt_succ _).trans_le
        (daysBeforeMonth_mono _ (by decide)))

theorem Valid.next (valid : moment.Valid) : moment.next.Valid := by
  unfold Moment.next
  split
  · exact ⟨valid.year,valid.month,valid.day,valid.hour,valid.minute,‹_›⟩
  split
  · exact ⟨valid.year,valid.month,valid.day,valid.hour,‹_›,Nat.zero_lt_succ _⟩
  split
  · exact ⟨valid.year,valid.month,valid.day,‹_›,Nat.zero_lt_succ _,Nat.zero_lt_succ _⟩
  · exact valid.nextDay

theorem Valid.next_seconds (valid : moment.Valid) : moment.next.seconds = (moment.seconds + 1) % centurySeconds := by
  have fits := valid.next.seconds_lt
  have minute := valid.minute
  have hour := valid.hour
  have second := valid.second
  -- Within a day only the second of the day changes.
  have goes {later : Moment} (days : later.days = moment.days) (time : later.secondOfDay = moment.secondOfDay + 1) :
      later.seconds = moment.seconds + 1 := by
    rw [seconds,seconds,days,time]
    exact (add_assoc _ _ _).symm
  unfold Moment.next at fits ⊢
  split
  · rename_i early
    rw [if_pos early] at fits
    have next := @goes {moment with second := moment.second + 1} rfl (by unfold secondOfDay; rfl)
    rw [next] at fits ⊢
    exact (Nat.mod_eq_of_lt fits).symm
  rename_i minuteEnds
  rw [if_neg minuteEnds] at fits
  split
  · rename_i early
    rw [if_pos early] at fits
    have next := @goes {moment with minute := moment.minute + 1, second := 0} rfl (by unfold secondOfDay; dsimp only; omega)
    rw [next] at fits ⊢
    exact (Nat.mod_eq_of_lt fits).symm
  rename_i hourEnds
  rw [if_neg hourEnds] at fits
  split
  · rename_i early
    rw [if_pos early] at fits
    have next := @goes {moment with hour := moment.hour + 1, minute := 0, second := 0} rfl (by unfold secondOfDay; dsimp only; omega)
    rw [next] at fits ⊢
    exact (Nat.mod_eq_of_lt fits).symm
  · have midnight : moment.nextDay.secondOfDay = 0 := by
      unfold Moment.nextDay
      repeat' split
      all_goals rfl
    rw [seconds,midnight,valid.nextDay_days]
    unfold seconds secondOfDay centurySeconds daySeconds
    omega

theorem Valid.next_secondOfDay (valid : moment.Valid) : moment.next.secondOfDay = (moment.secondOfDay + 1) % daySeconds := by
  have same (moment : Moment) (valid : moment.Valid) : moment.seconds % daySeconds = moment.secondOfDay := by
    rw [seconds,mul_comm,Nat.mul_add_mod,Nat.mod_eq_of_lt valid.secondOfDay_lt]
  rw [← same _ valid.next,← same _ valid,valid.next_seconds]
  unfold centurySeconds daySeconds
  omega

end Moment

end ZeffBoy.WonderSwan
