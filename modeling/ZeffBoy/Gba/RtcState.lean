import ZeffBoy.Gba.RtcSafety

/-! What holds of a clock from power on: its state is written and read back whole, in the middle of a transfer too, and its cycles
may be counted in one step or in two. -/
namespace ZeffBoy.Gba.Rtc
open Library (Bytes Reader)

theorem Calendar.stepSeconds_add (first second : Nat) (calendar : Calendar) :
    (calendar.stepSeconds first >>= fun rest => rest.2.stepSeconds (rest.1 + second)) = calendar.stepSeconds (first + second) := by
  induction first using Nat.strong_induction_on generalizing calendar with
  | h first ih =>
    by_cases full : cpuClockHz ≤ first
    · have less : first - cpuClockHz < first := Nat.sub_lt (lt_of_lt_of_le cpuClockHz_pos full) cpuClockHz_pos
      rw [stepSeconds,if_pos full,stepSeconds.eq_def (first + second),if_pos (Nat.le_add_right_of_le full)]
      simp only [Option.bind_eq_bind,Option.bind_assoc]
      refine congrArg _ (funext fun next => ?_)
      rw [Nat.sub_add_comm full,← ih _ less,Option.bind_eq_bind]
    · rw [stepSeconds,if_neg full]
      rfl

theorem Calendar.stepSeconds_le {cycles rest : Nat} {calendar next : Calendar}
    (stepped : calendar.stepSeconds cycles = some (rest,next)) : rest ≤ cycles := by
  induction cycles using Nat.strong_induction_on generalizing calendar with
  | h cycles ih =>
    rw [stepSeconds] at stepped
    split at stepped
    · rename_i full
      have less : cycles - cpuClockHz < cycles := Nat.sub_lt (lt_of_lt_of_le cpuClockHz_pos full) cpuClockHz_pos
      obtain ⟨later,_,after⟩ := Option.bind_eq_some_iff.mp stepped
      exact (ih _ less after).trans less.le
    · cases stepped
      exact le_rfl

namespace RtcGpio
variable {rtc next : RtcGpio}

theorem stepCycles_add (first second : Nat) (below : rtc.subsecondCycles + first + second ≤ 0xFFFFFFFF) :
    (rtc.stepCycles first >>= fun rtc => rtc.stepCycles second) = rtc.stepCycles (first + second) := by
  have whole : rtc.subsecondCycles + (first + second) = rtc.subsecondCycles + first + second := (add_assoc _ _ _).symm
  unfold stepCycles
  rw [min_eq_left (by omega),min_eq_left (by omega),whole,← Calendar.stepSeconds_add (rtc.subsecondCycles + first)]
  cases stepped : rtc.calendar.stepSeconds (rtc.subsecondCycles + first) with
  | none => rfl
  | some rest =>
    have short : rest.1 ≤ rtc.subsecondCycles + first := Calendar.stepSeconds_le stepped
    simp only [Option.bind_eq_bind,Option.bind_some]
    rw [min_eq_left (by omega)]

/-- Registers with no other bits than those that are wired, and less than a second left over. -/
structure Wired (latch pins direction control : UInt8) (subsecond : Nat) : Prop where
  latch : latch &&& gpioMask = latch
  pins : pins &&& gpioMask = pins
  direction : direction &&& gpioMask = direction
  control : control &&& controlMask = control
  below : subsecond < cpuClockHz

def Masked (rtc : RtcGpio) : Prop := Wired rtc.dataLatch rtc.pinState rtc.direction rtc.control rtc.subsecondCycles

def Open (rtc : RtcGpio) : Prop :=
  rtc.Masked ∧ rtc.transferIndex + rtc.bytesRemaining ≤ 7 ∧ (rtc.command ≠ none → 1 ≤ rtc.bytesRemaining)

/-- What holds of a clock between two calls, besides that it is steady. -/
structure Tidy (rtc : RtcGpio) : Prop where
  opened : rtc.Open
  idle : rtc.transferStep = 2 ∨ rtc.abortTransfer = rtc
  clocked : rtc.transferStep = 2 → rtc.lastSck = pin 0 rtc.pinState

theorem tidy_initial : Tidy initial := by
  refine ⟨⟨⟨?_,?_,?_,?_,?_⟩,?_,?_⟩,.inr rfl,?_⟩ <;> decide

theorem masked_bits (pins : UInt8) : pins &&& gpioMask = pins ↔ ∀ index < 8, pins.toBitVec.getLsbD index = true → index < 4 := by
  rw [← UInt8.toBitVec_inj]
  exact (by decide : ∀ pins : BitVec 8, pins &&& 15#8 = pins ↔ ∀ index < 8, pins.getLsbD index = true → index < 4) pins.toBitVec

theorem shown_masked (pins bit : UInt8) (masked : pins &&& gpioMask = pins) :
    (pins &&& ~~~sio ||| (bit &&& 1) <<< 1) &&& gpioMask = pins &&& ~~~sio ||| (bit &&& 1) <<< 1 := by
  rw [masked_bits] at masked ⊢
  intro index inside high
  have apart := masked index inside
  simp only [UInt8.toBitVec_or,UInt8.toBitVec_and,UInt8.toBitVec_not,BitVec.getLsbD_or,BitVec.getLsbD_and,Bool.or_eq_true,Bool.and_eq_true] at high
  rcases high with kept | shown
  · exact apart kept.1
  · have : index = 1 := by
      interval_cases index <;> simp_all
    omega

theorem driven_masked {pins latch direction : UInt8} (one : pins &&& gpioMask = pins) (two : latch &&& gpioMask = latch) :
    (pins &&& ~~~direction ||| latch &&& direction) &&& gpioMask = pins &&& ~~~direction ||| latch &&& direction := by
  rw [masked_bits] at one two ⊢
  intro index inside high
  simp only [UInt8.toBitVec_or,UInt8.toBitVec_and,BitVec.getLsbD_or,BitVec.getLsbD_and,Bool.or_eq_true,Bool.and_eq_true] at high
  rcases high with kept | shown
  · exact one index inside kept.1
  · exact two index inside shown.1

/-- The transfer has not gone on to another step, nor the clock to another level. -/
def Same (rtc next : RtcGpio) : Prop :=
  next.Open ∧ next.transferStep = rtc.transferStep ∧ pin 0 next.pinState = pin 0 rtc.pinState

theorem Masked.abortTransfer (masked : rtc.Masked) : rtc.abortTransfer.Open :=
  ⟨masked,(by decide : 0 + 0 ≤ 7),fun some' => absurd rfl some'⟩

theorem Masked.setControl (masked : rtc.Masked) (value : UInt8) : Masked {rtc with control := value &&& controlMask} :=
  ⟨masked.latch,masked.pins,masked.direction,by rw [UInt8.and_assoc,UInt8.and_self],masked.below⟩

theorem Masked.clearControl (masked : rtc.Masked) : Masked {rtc with control := 0} :=
  ⟨masked.latch,masked.pins,masked.direction,UInt8.zero_and,masked.below⟩

theorem Masked.executeCommand {command : Command} (masked : rtc.Masked)
    (done : (rtc.executeCommand command).map RtcGpio.abortTransfer = some next) : Same rtc next := by
  obtain ⟨changed,executed,rfl⟩ := Option.map_eq_some_iff.mp done
  cases command with
  | reset =>
    cases executed
    exact ⟨masked.clearControl.abortTransfer,rfl,rfl⟩
  | forceIrq =>
    cases executed
    exact ⟨masked.abortTransfer,rfl,rfl⟩
  | control =>
    cases executed
    exact ⟨(masked.setControl _).abortTransfer,rfl,rfl⟩
  | dateTime =>
    obtain ⟨calendar,_,rfl⟩ := Option.map_eq_some_iff.mp executed
    exact ⟨Masked.abortTransfer masked,rfl,rfl⟩
  | time =>
    obtain ⟨calendar,_,rfl⟩ := Option.map_eq_some_iff.mp executed
    exact ⟨Masked.abortTransfer masked,rfl,rfl⟩

namespace Open

theorem driveSio (bit : UInt8) (opened : rtc.Open) : Same rtc (rtc.driveSio bit) := by
  obtain ⟨masked,room,due⟩ := opened
  rw [driveSio_eq]
  split
  · exact ⟨⟨⟨masked.latch,shown_masked _ _ masked.pins,masked.direction,masked.control,masked.below⟩,room,due⟩,rfl,(pin_shown _ _).1⟩
  · exact ⟨⟨masked,room,due⟩,rfl,rfl⟩

theorem driveOutput (opened : rtc.Open) (driven : rtc.driveOutput = some next) : Same rtc next := by
  obtain ⟨bit,_,rfl⟩ := Option.map_eq_some_iff.mp driven
  exact opened.driveSio bit

theorem storeCommandByte {command : Command} {byte : UInt8} (opened : rtc.Open) (due : 1 ≤ rtc.bytesRemaining)
    (stored : rtc.storeCommandByte command byte = some next) : Same rtc next := by
  obtain ⟨masked,room,_⟩ := opened
  unfold RtcGpio.storeCommandByte at stored
  dsimp only at stored
  split at stored
  · rename_i more
    cases stored
    refine ⟨⟨masked,?_,fun _ => Nat.one_le_iff_ne_zero.mpr more⟩,rfl,rfl⟩
    dsimp only
    omega
  · have whole : Masked {rtc with
      transferBytes := putByte rtc.transferIndex byte rtc.transferBytes
      transferIndex := min (rtc.transferIndex + 1) 255
      bytesRemaining := rtc.bytesRemaining - 1} := masked
    exact whole.executeCommand stored

theorem startCommand (command : Command) (reading : Bool) (opened : rtc.Open) : Same rtc (rtc.startCommand command reading) := by
  have short : 0 + command.byteLen ≤ 7 := by cases command <;> decide
  have finish {started : RtcGpio} (fine : started.Masked) (room : started.transferIndex + started.bytesRemaining ≤ 7)
      (step : started.transferStep = rtc.transferStep) (pins : started.pinState = rtc.pinState) :
      Same rtc (if started.bytesRemaining = 0 then
        (if command = .reset then {started with control := 0} else started : RtcGpio).abortTransfer else started) := by
    split
    · split
      · exact ⟨fine.clearControl.abortTransfer,step,congrArg _ pins⟩
      · exact ⟨fine.abortTransfer,step,congrArg _ pins⟩
    · rename_i some'
      exact ⟨⟨fine,room,fun _ => Nat.one_le_iff_ne_zero.mpr some'⟩,step,congrArg _ pins⟩
  unfold RtcGpio.startCommand
  cases reading
  · exact finish opened.1 short rfl rfl
  · exact finish opened.1 short rfl rfl

theorem processInputByte (opened : rtc.Open) (processed : rtc.processInputByte = some next) : Same rtc next := by
  have cleared : Open {rtc with bits := 0, bitsRead := 0} := opened
  unfold RtcGpio.processInputByte at processed
  dsimp only at processed
  split at processed
  · rename_i command found
    exact cleared.storeCommandByte (opened.2.2 (by rw [found]; exact Option.some_ne_none _)) processed
  · split at processed
    · cases processed
      exact ⟨Masked.abortTransfer cleared.1,rfl,rfl⟩
    · split at processed
      · cases processed
        exact ⟨Masked.abortTransfer cleared.1,rfl,rfl⟩
      · obtain rfl := Option.some.inj processed
        exact startCommand _ _ cleared

theorem inputEdge (opened : rtc.Open) (taken : rtc.inputEdge = some next) : Same rtc next ∧ next.lastSck = true := by
  unfold RtcGpio.inputEdge at taken
  split at taken
  · obtain ⟨bitsRead,_,taken⟩ := Option.bind_eq_some_iff.mp taken
    have shifted (bits : UInt8) : Open {rtc with bits := bits, bitsRead := bitsRead} := opened
    dsimp only at taken
    split at taken
    · obtain ⟨last,processed,taken⟩ := Option.bind_eq_some_iff.mp taken
      have done : Same rtc last := (shifted _).processInputByte processed
      cases taken
      exact ⟨done,rfl⟩
    · cases taken
      exact ⟨⟨opened,rfl,rfl⟩,rfl⟩
  · nomatch taken

theorem finishOutputByte (opened : rtc.Open) (given : rtc.finishOutputByte = some next) : Same rtc next := by
  obtain ⟨masked,room,_⟩ := opened
  unfold RtcGpio.finishOutputByte at given
  dsimp only at given
  split at given
  · cases given
    exact ⟨Masked.abortTransfer masked,rfl,rfl⟩
  · rename_i more
    have left : Open {rtc with
        bitsRead := 0
        transferIndex := min (rtc.transferIndex + 1) 255
        bytesRemaining := rtc.bytesRemaining - 1} := by
      refine ⟨masked,?_,fun _ => Nat.one_le_iff_ne_zero.mpr more⟩
      dsimp only
      omega
    exact left.driveOutput given

theorem outputEdge (opened : rtc.Open) (given : rtc.outputEdge = some next) : Same rtc next ∧ next.lastSck = false := by
  unfold RtcGpio.outputEdge at given
  split at given
  · obtain ⟨bitsRead,_,given⟩ := Option.bind_eq_some_iff.mp given
    have counted : Open {rtc with bitsRead := bitsRead} := opened
    dsimp only at given
    split at given
    · obtain ⟨last,finished,given⟩ := Option.bind_eq_some_iff.mp given
      have done : Same rtc last := counted.finishOutputByte finished
      cases given
      exact ⟨done,rfl⟩
    · obtain ⟨last,finished,given⟩ := Option.bind_eq_some_iff.mp given
      have done : Same rtc last := counted.driveOutput finished
      cases given
      exact ⟨done,rfl⟩
  · cases given
    exact ⟨⟨opened,rfl,rfl⟩,rfl⟩

end Open

theorem clock_high (pins : UInt8) : (decide (pins &&& sck ≠ 0) : Bool) = pin 0 pins := by
  have low := and_sck pins
  by_cases high : pins &&& sck = 0
  · simp [high,low.mp high]
  · simp [high,Bool.eq_true_of_not_eq_false (fun none' => high (low.mpr none'))]

theorem Open.observePins (opened : rtc.Open) (bounded : rtc.transferStep ≤ 2) (idle : rtc.transferStep = 2 ∨ rtc.abortTransfer = rtc)
    (seen : rtc.observePins = some next) : next.Tidy := by
  have settled (step : Nat) (lastSck : Bool) (waits : rtc.abortTransfer = rtc)
      (clocked : step = 2 → lastSck = pin 0 rtc.pinState) : Tidy {rtc with transferStep := step, lastSck := lastSck} :=
    ⟨opened,.inr (congrArg (fun rtc : RtcGpio => {rtc with transferStep := step, lastSck := lastSck}) waits),clocked⟩
  have going (same : Same rtc next) (step : rtc.transferStep = 2) (clocked : next.lastSck = pin 0 rtc.pinState) : next.Tidy :=
    ⟨same.1,.inl (same.2.1.trans step),fun _ => clocked.trans same.2.2.symm⟩
  by_cases step : rtc.transferStep = 2
  · simp only [RtcGpio.observePins,step,clock_high] at seen
    split at seen
    · cases seen
      refine ⟨Masked.abortTransfer opened.1,.inr rfl,fun two => ?_⟩
      dsimp only at two
      split at two <;> exact absurd two (by decide)
    · split at seen
      · rename_i rises
        obtain ⟨same,high⟩ := opened.inputEdge seen
        exact going same step (high.trans rises.2.2.symm)
      · split at seen
        · rename_i falls
          obtain ⟨same,low⟩ := opened.outputEdge seen
          exact going same step (low.trans falls.2.2.symm)
        · cases seen
          exact ⟨opened,.inl rfl,fun _ => rfl⟩
  · have waits := idle.resolve_left step
    obtain ⟨moved,lastSck,found,outcome⟩ := observePins_idle rtc (by omega)
    obtain rfl := Option.some.inj (found.symm.trans seen)
    refine settled moved lastSck waits fun two => ?_
    obtain ⟨low,_⟩ | ⟨_,rfl,clock,_⟩ := outcome
    · omega
    · exact clock.symm

/-- What holds of every clock since it was powered on. -/
structure Sound (rtc : RtcGpio) : Prop where
  steady : rtc.Steady
  tidy : rtc.Tidy

namespace Sound

theorem write16 {addr : UInt32} {value : UInt16} {done : Bool} (sound : rtc.Sound) (written : rtc.write16 addr value = some (done,next)) :
    next.Sound := by
  obtain ⟨_,last,found,steady⟩ := sound.steady.write16 addr value
  obtain ⟨_,rfl⟩ := Prod.mk.inj (Option.some.inj (found.symm.trans written))
  refine ⟨steady,?_⟩
  obtain ⟨masked,room,due⟩ := sound.tidy.opened
  have low : value.toUInt8 &&& gpioMask &&& gpioMask = value.toUInt8 &&& gpioMask := by
    rw [UInt8.and_assoc,UInt8.and_self]
  have idle (latch pins direction : UInt8) (readWrite : Bool) : rtc.transferStep = 2 ∨ RtcGpio.abortTransfer {rtc with
      dataLatch := latch, pinState := pins, direction := direction, readWrite := readWrite} =
        {rtc with dataLatch := latch, pinState := pins, direction := direction, readWrite := readWrite} :=
    sound.tidy.idle.imp_right fun waits => congrArg (fun rtc : RtcGpio => {rtc with
      dataLatch := latch, pinState := pins, direction := direction, readWrite := readWrite}) waits
  unfold RtcGpio.write16 at written
  dsimp only at written
  split at written
  · obtain ⟨seen,observed,written⟩ := Option.bind_eq_some_iff.mp written
    cases written
    have opened : Open (RtcGpio.drivePins {rtc with dataLatch := value.toUInt8 &&& gpioMask}) :=
      ⟨⟨low,driven_masked masked.pins low,masked.direction,masked.control,masked.below⟩,room,due⟩
    exact opened.observePins sound.steady.step (idle _ _ _ _) observed
  split at written
  · obtain ⟨seen,observed,written⟩ := Option.bind_eq_some_iff.mp written
    have opened : Open (RtcGpio.drivePins {rtc with direction := value.toUInt8 &&& gpioMask}) :=
      ⟨⟨masked.latch,driven_masked masked.pins masked.latch,low,masked.control,masked.below⟩,room,due⟩
    have tidy : seen.Tidy := opened.observePins sound.steady.step (idle _ _ _ _) observed
    split at written
    · rename_i reads
      obtain ⟨shown,driven,written⟩ := Option.bind_eq_some_iff.mp written
      cases written
      obtain ⟨bit,_,rfl⟩ := Option.map_eq_some_iff.mp driven
      obtain ⟨opened,same,clock⟩ := tidy.opened.driveSio bit
      refine ⟨opened,.inl (same.trans reads.1),fun _ => ?_⟩
      rw [clock,driveSio_eq]
      exact tidy.clocked reads.1
    · cases written
      exact tidy
  split at written
  · cases written
    exact ⟨⟨masked,room,due⟩,idle _ _ _ _,sound.tidy.clocked⟩
  · cases written
    exact sound.tidy

theorem stepCycles (cycles : Nat) (sound : rtc.Sound) : ∃ rest calendar,
    rtc.stepCycles cycles = some {rtc with subsecondCycles := rest, calendar := calendar} ∧
      Sound {rtc with subsecondCycles := rest, calendar := calendar} ∧
      (rtc.subsecondCycles + cycles < cpuClockHz → rest = rtc.subsecondCycles + cycles ∧ calendar = rtc.calendar) := by
  obtain ⟨rest,calendar,ran,below,valid⟩ := sound.steady.calendar.stepSeconds (min (rtc.subsecondCycles + cycles) 0xFFFFFFFF)
  obtain ⟨masked,room,due⟩ := sound.tidy.opened
  refine ⟨rest,calendar,?_,⟨⟨sound.steady.step,sound.steady.bits,valid,sound.steady.paced⟩,
    ⟨⟨masked.latch,masked.pins,masked.direction,masked.control,below⟩,room,due⟩,
    sound.tidy.idle.imp_right fun waits => congrArg (fun rtc : RtcGpio => {rtc with subsecondCycles := rest, calendar := calendar}) waits,
    sound.tidy.clocked⟩,fun short => ?_⟩
  · rw [RtcGpio.stepCycles,ran,Option.bind_eq_bind,Option.bind_some]
  · have small : cpuClockHz ≤ 0xFFFFFFFF := by decide
    rw [min_eq_left (by omega),Calendar.stepSeconds,if_neg (not_le.mpr short)] at ran
    cases ran
    exact ⟨rfl,rfl⟩

theorem perform {call : GpioCall} (sound : rtc.Sound) (performed : rtc.perform call = some next) : next.Sound := by
  cases call with
  | read8 addr =>
    cases performed
    exact sound
  | write16 addr value =>
    obtain ⟨⟨done,last⟩,written,rfl⟩ := Option.map_eq_some_iff.mp performed
    exact sound.write16 written
  | stepCycles cycles =>
    obtain ⟨rest,calendar,ran,fine,_⟩ := sound.stepCycles cycles
    obtain rfl := Option.some.inj (ran.symm.trans performed)
    exact fine

theorem initial : Sound RtcGpio.initial :=
  ⟨⟨Nat.zero_le _,Nat.zero_le _,Calendar.valid_initial,fun reading => nomatch reading⟩,tidy_initial⟩

theorem run {calls : List GpioCall} (sound : rtc.Sound) (ran : rtc.run calls = some next) : next.Sound := by
  induction calls generalizing rtc with
  | nil =>
    cases ran
    exact sound
  | cons call calls ih =>
    rw [RtcGpio.run,List.foldlM_cons] at ran
    obtain ⟨mid,performed,rest⟩ := Option.bind_eq_some_iff.mp ran
    exact ih (sound.perform performed) rest

end Sound

section State

theorem run_readCommand (command : Option Command) (rest : Bytes) :
    readCommand ((command.map Command.bits).getD 0xFF::rest) = .ok (command,rest) := by
  rcases command with _ | _ | _ | _ | _ | _ <;> rfl

theorem small_toNat {number bound : Nat} (fits : number ≤ bound) (word : bound < 256) : (UInt8.ofNat number).toNat = number := by
  rw [UInt8.toNat_ofNat']
  exact Nat.mod_eq_of_lt (by omega)

theorem run_readCalendar {calendar : Calendar} (valid : calendar.Valid) (rest : Bytes) :
    readCalendar (UInt8.ofNat calendar.year::UInt8.ofNat calendar.month::UInt8.ofNat calendar.day::
      UInt8.ofNat calendar.weekday::UInt8.ofNat calendar.hour::UInt8.ofNat calendar.minute::UInt8.ofNat calendar.second::rest) =
        .ok (calendar,rest) := by
  have month := Calendar.daysInMonth_le calendar.year calendar.month
  simp only [readCalendar,Reader.run_bind,GameBoy.StateReader.run_readU8,Library.ok_bind,Reader.run_pure,
    small_toNat valid.year (by decide),small_toNat valid.month.2 (by decide),small_toNat (valid.day.2.trans month) (by decide),
    small_toNat valid.weekday (by decide),small_toNat valid.hour (by decide),small_toNat valid.minute (by decide),
    small_toNat valid.second (by decide)]

theorem Sound.inRange (sound : rtc.Sound) : ¬rtc.outOfRange := by
  obtain ⟨masked,room,_⟩ := sound.tidy.opened
  obtain ⟨step,bits,⟨year,month,day,weekday,hour,minute,second⟩,_⟩ := sound.steady
  have below := masked.below
  unfold outOfRange
  omega

theorem Sound.run_readState (sound : rtc.Sound) (rest : Bytes) : readState (rtc.writeState ++ rest) = .ok (rtc,rest) := by
  have inRange := sound.inRange
  obtain ⟨masked,room,_⟩ := sound.tidy.opened
  obtain ⟨step,bits,valid,_⟩ := sound.steady
  have word : rtc.subsecondCycles < 2^32 := masked.below.trans (by decide)
  have fields : readFields (rtc.writeState ++ rest) = .ok (rtc,rest) := by
    simp only [readFields,writeState,List.cons_append,List.append_assoc,Reader.run_bind,GameBoy.StateReader.run_readU8,
      GameBoy.StateReader.run_readBool,Library.ok_bind,run_readCommand,GameBoy.StateReader.run_readExact,run_readCalendar valid,
      GameBoy.StateReader.run_readU32 _ word,Reader.run_pure,small_toNat step (by decide),small_toNat bits (by decide),
      small_toNat (show rtc.bytesRemaining ≤ 7 by omega) (by decide),small_toNat (show rtc.transferIndex ≤ 7 by omega) (by decide),
      masked.latch,masked.pins,masked.direction,masked.control]
    refine congrArg (fun bytes => Except.ok ({rtc with transferBytes := bytes},rest)) (funext fun index => ?_)
    exact List.Vector.get_ofFn rtc.transferBytes index
  rw [readState,Reader.run_bind,fields,Library.ok_bind,if_neg inRange,Reader.run_pure]

end State

end RtcGpio

end ZeffBoy.Gba.Rtc
