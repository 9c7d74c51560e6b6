import ZeffBoy.Library.Cascade

/-! The four timers of the GBA.
A timer that uses the CPU clock counts prescaled cycles after its start delay. One that counts up is pulsed by what
runs over in the timer before it. -/
namespace ZeffBoy.Gba
open Library Function

local instance neZero_timers : NeZero 4 := ⟨by decide⟩

def u32Max : Nat := 0xFFFFFFFF

structure Timer where
  reload : UInt16
  counter : UInt16
  control : UInt16
deriving DecidableEq

structure TimerTimingState where
  cycleAccum : Fin 4 → Nat
  startDelayCycles : Fin 4 → Nat
  clockPhase : Nat
deriving DecidableEq

@[ext]
structure Timers where
  timers : Fin 4 → Timer
  clockedTimerMask : UInt8
  cycleAccum : Fin 4 → Nat
  startDelayCycles : Fin 4 → Nat
  clockPhase : Nat
deriving DecidableEq

/-- The interrupt flags, overflow counts and interrupt delays that a step hands back. -/
@[ext]
structure TimerOverflows where
  irqFlags : UInt16
  overflowCounts : Fin 4 → Nat
  irqExtraDelays : Fin 4 → Nat
deriving DecidableEq

def TimerOverflows.none : TimerOverflows := ⟨0,fun _ => 0,fun _ => 0⟩

def timerUsesCpuClock (index : Fin 4) (control : UInt16) : Bool :=
  control &&& 0x0080 != 0 && (index == 0 || control &&& 0x0004 == 0)

def timerPeriod (control : UInt16) : Nat :=
  match (control &&& 0x0003).toNat with
  | 0 => 1
  | 1 => 64
  | 2 => 256
  | _ => 1024

namespace Timers

def default : Timers := ⟨fun _ => ⟨0,0,0⟩,0,fun _ => 0,fun _ => 0,0⟩

def maskBit (index : Fin 4) : UInt8 := 1 <<< UInt8.ofNat index.val

def refreshClockedTimerMask (self : Timers) (index : Fin 4) : Timers :=
  if timerUsesCpuClock index (self.timers index).control then
    { self with clockedTimerMask := self.clockedTimerMask ||| maskBit index }
  else { self with clockedTimerMask := self.clockedTimerMask &&& ~~~maskBit index }

def write16 (self : Timers) (index : Nat) (control : Bool) (value : UInt16) : Timers :=
  if inside : index < 4 then
    let index : Fin 4 := ⟨index,inside⟩
    let timer := self.timers index
    if control then
      let written := { timer with control := value &&& 0x00C7 }
      let self :=
        if timer.control &&& 0x0080 = 0 ∧ written.control &&& 0x0080 ≠ 0 then
          { self with
            timers := update self.timers index { written with counter := timer.reload },
            cycleAccum := update self.cycleAccum index
              ((self.clockPhase + 1) % 0x10000 &&& (timerPeriod written.control - 1)),
            startDelayCycles := update self.startDelayCycles index 1 }
        else if written.control &&& 0x0080 = 0 then
          { self with
            timers := update self.timers index written,
            startDelayCycles := update self.startDelayCycles index 0 }
        else { self with timers := update self.timers index written }
      self.refreshClockedTimerMask index
    else { self with timers := update self.timers index { timer with reload := value } }
  else self

def incrementTimerBy (self : Timers) (index : Fin 4) (increments : Nat) (raised : TimerOverflows) :
    Timers × TimerOverflows × Nat :=
  if increments = 0 then (self,raised,0) else
  let timer := self.timers index
  let firstOverflow := 0x10000 - timer.counter.toNat
  if increments < firstOverflow then
    ({ self with
        timers := update self.timers index
          { timer with counter := timer.counter + UInt16.ofNat increments } },raised,0)
  else
    let remaining := increments - firstOverflow
    let reloadSpan := 0x10000 - timer.reload.toNat
    let overflows := min (1 + remaining / reloadSpan) u32Max
    ({ self with
        timers := update self.timers index
          { timer with counter := timer.reload + UInt16.ofNat (remaining % reloadSpan) } },
      { raised with
        overflowCounts := update raised.overflowCounts index
          (min (raised.overflowCounts index + overflows) u32Max),
        irqFlags :=
          if timer.control &&& 0x0040 ≠ 0 then raised.irqFlags ||| 1 <<< UInt16.ofNat (3 + index.val)
          else raised.irqFlags,
        irqExtraDelays :=
          if timer.control &&& 0x0040 ≠ 0 then update raised.irqExtraDelays index 0
          else raised.irqExtraDelays },overflows)

def incrementCascadeBy (self : Timers) (index increments : Nat) (raised : TimerOverflows) : Timers × TimerOverflows :=
  if inside : index < 4 then
    let timer := self.timers ⟨index,inside⟩
    if timer.control &&& 0x0080 = 0 ∨ timer.control &&& 0x0004 = 0 then (self,raised) else
    let (self,raised,cascades) := self.incrementTimerBy ⟨index,inside⟩ increments raised
    if cascades ≠ 0 then self.incrementCascadeBy (index + 1) cascades raised else (self,raised)
  else (self,raised)
termination_by 4 - index

/-- One turn of the loop over the timers. -/
def clockTimer (cycles : Nat) (self : Timers) (raised : TimerOverflows) (index : Fin 4) : Timers × TimerOverflows :=
  let timer := self.timers index
  if ¬timerUsesCpuClock index timer.control then (self,raised) else
  let delay := min (self.startDelayCycles index) cycles
  let self := { self with
    startDelayCycles := update self.startDelayCycles index (self.startDelayCycles index - delay) }
  let countCycles := cycles - delay
  if countCycles = 0 then (self,raised) else
  let period := timerPeriod timer.control
  let total := min (self.cycleAccum index + countCycles) u32Max
  let increments := total / period
  let self := { self with cycleAccum := update self.cycleAccum index (total % period) }
  let (self,raised,cascades) := self.incrementTimerBy index increments raised
  if cascades ≠ 0 then self.incrementCascadeBy (index.val + 1) cascades raised else (self,raised)

def stepWithOverflows (self : Timers) (cycles : Nat) : Timers × TimerOverflows :=
  let self := { self with clockPhase := (self.clockPhase + cycles % 0x10000) % 0x10000 &&& 0x03FF }
  if self.clockedTimerMask = 0 then (self,.none) else
  ([0,1,2,3] : List (Fin 4)).foldl (fun run index => clockTimer cycles run.1 run.2 index) (self,.none)

def setTimingState (self : Timers) (state : TimerTimingState) : Option Timers :=
  if state.clockPhase > 0x03FF ∨ (∃ index, state.cycleAccum index > 0x03FF) ∨ (∃ index, state.startDelayCycles index > 1) then
    Option.none
  else some { self with
    cycleAccum := state.cycleAccum, startDelayCycles := state.startDelayCycles, clockPhase := state.clockPhase }

def migrateLegacyTiming (self : Timers) (cycles : Nat) : Timers :=
  let phase := cycles % 0x10000 &&& 0x03FF
  { self with
    clockPhase := phase,
    startDelayCycles := fun _ => 0,
    cycleAccum := fun index =>
      if timerUsesCpuClock index (self.timers index).control then phase &&& (timerPeriod (self.timers index).control - 1)
      else 0 }

def cyclesUntilOverflow (self : Timers) (index : Nat) : Option Nat :=
  if inside : index < 4 then
    let index : Fin 4 := ⟨index,inside⟩
    if self.clockedTimerMask &&& maskBit index = 0 then Option.none else
    let timer := self.timers index
    let period := timerPeriod timer.control
    let incrementsUntilOverflow := 0x10000 - timer.counter.toNat
    some (min (self.startDelayCycles index +
      max (min (incrementsUntilOverflow * period) u32Max - self.cycleAccum index) 1) u32Max)
  else Option.none

def setAll (timers : Fin 4 → Timer) : Timers :=
  { timers,
    clockedTimerMask := ([0,1,2,3] : List (Fin 4)).foldl
      (fun mask index => mask ||| (if timerUsesCpuClock index (timers index).control then 1 else 0) <<< UInt8.ofNat index.val) 0,
    cycleAccum := fun _ => 0,
    startDelayCycles := fun _ => 0,
    clockPhase := 0 }

/-- What the loader accepts and what register writes and steps lead to. -/
inductive Reachable : Timers → Prop
  | default : Reachable default
  | setAll (timers : Fin 4 → Timer) : Reachable (setAll timers)
  | setTimingState {self loaded : Timers} (state : TimerTimingState) :
      Reachable self → self.setTimingState state = some loaded → Reachable loaded
  | migrateLegacyTiming {self : Timers} (cycles : Nat) : Reachable self → Reachable (self.migrateLegacyTiming cycles)
  | write16 {self : Timers} (index : Nat) (control : Bool) (value : UInt16) :
      Reachable self → Reachable (self.write16 index control value)
  | step {self : Timers} (cycles : Nat) : Reachable self → Reachable (self.stepWithOverflows cycles).1

/-- The mask says which timers use the CPU clock, and the timing state is one that the loader accepts. -/
structure Sound (bank : Timers) : Prop where
  mask : ∀ index, bank.clockedTimerMask &&& maskBit index ≠ 0 ↔ timerUsesCpuClock index (bank.timers index).control
  accum : ∀ index, bank.cycleAccum index ≤ 0x03FF
  delay : ∀ index, bank.startDelayCycles index ≤ 1
  phase : bank.clockPhase ≤ 0x03FF

end Timers

theorem timerPeriod_pos (control : UInt16) : 0 < timerPeriod control := by
  unfold timerPeriod
  split <;> omega

theorem timerPeriod_le (control : UInt16) : timerPeriod control ≤ 0x0400 := by
  unfold timerPeriod
  split <;> omega

namespace Timers

theorem maskBit_or (mask : UInt8) (index other : Fin 4) :
    (mask ||| maskBit index) &&& maskBit other ≠ 0 ↔ other = index ∨ mask &&& maskBit other ≠ 0 := by
  revert mask index other
  decide +kernel

theorem maskBit_clear (mask : UInt8) (index other : Fin 4) :
    (mask &&& ~~~maskBit index) &&& maskBit other ≠ 0 ↔ other ≠ index ∧ mask &&& maskBit other ≠ 0 := by
  revert mask index other
  decide +kernel

variable {self : Timers}

theorem refresh_mask {index : Fin 4}
    (others : ∀ other, other ≠ index →
      (self.clockedTimerMask &&& maskBit other ≠ 0 ↔ timerUsesCpuClock other (self.timers other).control)) (other : Fin 4) :
    (self.refreshClockedTimerMask index).clockedTimerMask &&& maskBit other ≠ 0 ↔
      timerUsesCpuClock other ((self.refreshClockedTimerMask index).timers other).control := by
  unfold refreshClockedTimerMask
  split
  · rename_i clocked
    rw [maskBit_or]
    by_cases same : other = index
    · simp [same,clocked]
    · simp [same,others other same]
  · rename_i idle
    rw [maskBit_clear]
    by_cases same : other = index
    · simpa [same] using idle
    · simp [same,others other same]

@[simp] theorem refresh_cycleAccum (self : Timers) (index : Fin 4) :
    (self.refreshClockedTimerMask index).cycleAccum = self.cycleAccum := by
  unfold refreshClockedTimerMask
  split <;> rfl

@[simp] theorem refresh_clockPhase (self : Timers) (index : Fin 4) :
    (self.refreshClockedTimerMask index).clockPhase = self.clockPhase := by
  unfold refreshClockedTimerMask
  split <;> rfl

@[simp] theorem refresh_startDelayCycles (self : Timers) (index : Fin 4) :
    (self.refreshClockedTimerMask index).startDelayCycles = self.startDelayCycles := by
  unfold refreshClockedTimerMask
  split <;> rfl

theorem update_le {values : Fin 4 → Nat} {bound value : Nat} (all : ∀ index, values index ≤ bound) (new : value ≤ bound)
    (index other : Fin 4) : update values index value other ≤ bound := by
  rw [update_apply]
  split
  · exact new
  · exact all other

theorem phase_le (phase : Nat) (control : UInt16) : phase &&& (timerPeriod control - 1) ≤ 0x03FF := by
  have low := Nat.and_le_right (n := phase) (m := timerPeriod control - 1)
  have period := timerPeriod_le control
  omega

theorem Sound.rewrite (sound : self.Sound) (index : Fin 4) (timer : Timer) {accum delay : Fin 4 → Nat}
    (accumBound : ∀ other, accum other ≤ 0x03FF) (delayBound : ∀ other, delay other ≤ 1) :
    (refreshClockedTimerMask { self with
      timers := update self.timers index timer, cycleAccum := accum, startDelayCycles := delay } index).Sound where
  mask := refresh_mask fun other different => by
    simpa only [update_of_ne different] using sound.mask other
  accum := by simpa using accumBound
  delay := by simpa using delayBound
  phase := by simpa using sound.phase

theorem Sound.write16 (sound : self.Sound) (index : Nat) (control : Bool) (value : UInt16) :
    (self.write16 index control value).Sound := by
  unfold Timers.write16
  split
  · rename_i inside
    dsimp only
    split
    · split
      · exact sound.rewrite _ _ (update_le sound.accum (phase_le _ _) _) (update_le sound.delay le_rfl _)
      · split
        · exact sound.rewrite _ _ sound.accum (update_le sound.delay (Nat.zero_le 1) _)
        · exact sound.rewrite _ _ sound.accum sound.delay
    · refine ⟨fun other => ?_,sound.accum,sound.delay,sound.phase⟩
      rw [sound.mask other]
      by_cases same : other = ⟨index,inside⟩
      · rw [same]
        simp
      · simp [update_of_ne same]
  · exact sound

theorem setAll_bit (one two three four : Bool) (index : Fin 4) :
    ((((0 : UInt8) ||| (if one then 1 else 0) <<< UInt8.ofNat 0) ||| (if two then 1 else 0) <<< UInt8.ofNat 1) |||
      (if three then 1 else 0) <<< UInt8.ofNat 2 ||| (if four then 1 else 0) <<< UInt8.ofNat 3) &&& maskBit index ≠ 0 ↔
      ![one,two,three,four] index := by
  revert one two three four index
  decide

theorem Sound.setAll (timers : Fin 4 → Timer) : (setAll timers).Sound where
  mask index := by
    refine (setAll_bit _ _ _ _ index).trans (Iff.of_eq ?_)
    fin_cases index <;> rfl
  accum _ := Nat.zero_le _
  delay _ := Nat.zero_le _
  phase := Nat.zero_le _

theorem Sound.setTimingState {self loaded : Timers} (sound : self.Sound) {state : TimerTimingState}
    (accepted : self.setTimingState state = some loaded) : loaded.Sound := by
  unfold Timers.setTimingState at accepted
  split at accepted
  · cases accepted
  · rename_i fits
    cases accepted
    simp only [not_or,not_exists,not_lt] at fits
    exact ⟨sound.mask,fits.2.1,fits.2.2,fits.1⟩

theorem Sound.migrateLegacyTiming (sound : self.Sound) (cycles : Nat) :
    (self.migrateLegacyTiming cycles).Sound where
  mask := sound.mask
  accum index := by
    dsimp only [Timers.migrateLegacyTiming]
    split
    · exact phase_le _ _
    · exact Nat.zero_le _
  delay _ := Nat.zero_le _
  phase := Nat.and_le_right

@[simp] theorem incrementTimerBy_control (self : Timers) (index other : Fin 4) (increments : Nat) (raised : TimerOverflows) :
    ((self.incrementTimerBy index increments raised).1.timers other).control = (self.timers other).control := by
  unfold incrementTimerBy
  split
  · rfl
  · dsimp only
    split <;> dsimp only <;> by_cases same : other = index <;> simp [same]

theorem incrementTimerBy_frame (self : Timers) (index : Fin 4) (increments : Nat) (raised : TimerOverflows) :
    (self.incrementTimerBy index increments raised).1 =
      { self with timers := (self.incrementTimerBy index increments raised).1.timers } := by
  unfold incrementTimerBy
  split
  · rfl
  · dsimp only
    split <;> rfl

theorem incrementCascadeBy_frame {index increments : Nat} {raised : TimerOverflows} :
    (self.incrementCascadeBy index increments raised).1 =
        { self with timers := (self.incrementCascadeBy index increments raised).1.timers } ∧
      ∀ other, ((self.incrementCascadeBy index increments raised).1.timers other).control = (self.timers other).control := by
  fun_induction incrementCascadeBy self index increments raised with
  | case1 => exact ⟨rfl,fun _ => rfl⟩
  | case2 self index increments raised inside timer counting next out cascades counted running ih =>
    have frame := incrementTimerBy_frame self ⟨index,inside⟩ increments raised
    have controls := fun other => incrementTimerBy_control self ⟨index,inside⟩ other increments raised
    rw [counted] at frame controls
    refine ⟨?_,fun other => (ih.2 other).trans (controls other)⟩
    rw [ih.1]
    dsimp only at frame ⊢
    rw [frame]
  | case3 self index increments raised inside timer counting next out cascades counted stopped =>
    have frame := incrementTimerBy_frame self ⟨index,inside⟩ increments raised
    have controls := fun other => incrementTimerBy_control self ⟨index,inside⟩ other increments raised
    rw [counted] at frame controls
    exact ⟨frame,controls⟩
  | case4 => exact ⟨rfl,fun _ => rfl⟩

theorem Sound.counted {self counting : Timers} (sound : self.Sound) (frame : counting = { self with timers := counting.timers })
    (controls : ∀ index, (counting.timers index).control = (self.timers index).control) : counting.Sound := by
  refine ⟨fun index => ?_,?_,?_,?_⟩
  · rw [controls index,frame]
    exact sound.mask index
  · rw [frame]
    exact sound.accum
  · rw [frame]
    exact sound.delay
  · rw [frame]
    exact sound.phase

theorem Sound.increment (sound : self.Sound) (index : Fin 4) (increments : Nat) (raised : TimerOverflows) :
    (self.incrementTimerBy index increments raised).1.Sound :=
  sound.counted (incrementTimerBy_frame _ _ _ _) (fun _ => incrementTimerBy_control _ _ _ _ _)

theorem Sound.incrementCascade (sound : self.Sound) (index increments : Nat) (raised : TimerOverflows) :
    (self.incrementCascadeBy index increments raised).1.Sound :=
  sound.counted incrementCascadeBy_frame.1 incrementCascadeBy_frame.2

theorem Sound.clockTimer (sound : self.Sound) (cycles : Nat) (raised : TimerOverflows) (index : Fin 4) :
    (clockTimer cycles self raised index).1.Sound := by
  have waits : ∀ other, update self.startDelayCycles index
      (self.startDelayCycles index - min (self.startDelayCycles index) cycles) other ≤ 1 := fun other =>
    update_le sound.delay ((Nat.sub_le _ _).trans (sound.delay index)) _ _
  have rest : ∀ total other, update self.cycleAccum index
      (total % timerPeriod (self.timers index).control) other ≤ 0x03FF := fun total other => by
    have low := Nat.mod_lt total (timerPeriod_pos (self.timers index).control)
    have period := timerPeriod_le (self.timers index).control
    exact update_le sound.accum (by omega) _ _
  unfold Timers.clockTimer
  dsimp only
  split
  · exact sound
  · split
    · exact ⟨sound.mask,sound.accum,waits,sound.phase⟩
    · split
      · apply Sound.incrementCascade
        apply Sound.increment
        exact ⟨sound.mask,rest _,waits,sound.phase⟩
      · apply Sound.increment
        exact ⟨sound.mask,rest _,waits,sound.phase⟩

@[simp] theorem clockTimer_control (cycles : Nat) (self : Timers) (raised : TimerOverflows) (index other : Fin 4) :
    ((clockTimer cycles self raised index).1.timers other).control = (self.timers other).control := by
  unfold clockTimer
  dsimp only
  split
  · rfl
  · split
    · rfl
    · split
      · rw [incrementCascadeBy_frame.2,incrementTimerBy_control]
      · rw [incrementTimerBy_control]

@[simp] theorem step_control (self : Timers) (cycles : Nat) (index : Fin 4) :
    ((self.stepWithOverflows cycles).1.timers index).control = (self.timers index).control := by
  unfold stepWithOverflows
  dsimp only
  split
  · rfl
  · simp only [List.foldl_cons,List.foldl_nil,clockTimer_control]

theorem Sound.step (sound : self.Sound) (cycles : Nat) : (self.stepWithOverflows cycles).1.Sound := by
  have loop (indices : List (Fin 4)) (run : Timers × TimerOverflows) (sound : run.1.Sound) :
      (indices.foldl (fun run index => Timers.clockTimer cycles run.1 run.2 index) run).1.Sound := by
    induction indices generalizing run with
    | nil => exact sound
    | cons index rest ih => exact ih _ (sound.clockTimer _ _ _)
  unfold stepWithOverflows
  dsimp only
  split
  · exact ⟨sound.mask,sound.accum,sound.delay,Nat.and_le_right⟩
  · exact loop _ _ ⟨sound.mask,sound.accum,sound.delay,Nat.and_le_right⟩

theorem Reachable.sound (reachable : Reachable self) : self.Sound := by
  induction reachable with
  | default => exact ⟨by decide,fun _ => Nat.zero_le _,fun _ => Nat.zero_le _,Nat.zero_le _⟩
  | setAll timers => exact Sound.setAll timers
  | setTimingState state _ accepted sound => exact sound.setTimingState accepted
  | migrateLegacyTiming cycles _ sound => exact sound.migrateLegacyTiming cycles
  | write16 index control value _ sound => exact sound.write16 index control value
  | step cycles _ sound => exact sound.step cycles

end Timers

end ZeffBoy.Gba
