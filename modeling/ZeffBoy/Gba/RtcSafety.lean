import ZeffBoy.Gba.Rtc

/-! Which states of the clock, of all that its reader accepts, never stop the program. -/
namespace ZeffBoy.Gba.Rtc

section Pins

def pin (index : Nat) (pins : UInt8) : Bool := pins.toBitVec.getLsbD index

theorem and_cs (pins : UInt8) : pins &&& cs = 0 ↔ pin 2 pins = false := by
  rw [← UInt8.toBitVec_inj]
  exact (by decide : ∀ pins : BitVec 8, pins &&& 4#8 = 0#8 ↔ pins.getLsbD 2 = false) pins.toBitVec

theorem and_sck (pins : UInt8) : pins &&& sck = 0 ↔ pin 0 pins = false := by
  rw [← UInt8.toBitVec_inj]
  exact (by decide : ∀ pins : BitVec 8, pins &&& 1#8 = 0#8 ↔ pins.getLsbD 0 = false) pins.toBitVec

theorem and_both (pins : UInt8) : pins &&& (sck ||| cs) = sck ||| cs ↔ pin 0 pins = true ∧ pin 2 pins = true := by
  rw [← UInt8.toBitVec_inj]
  exact (by decide : ∀ pins : BitVec 8, pins &&& 5#8 = 5#8 ↔ pins.getLsbD 0 = true ∧ pins.getLsbD 2 = true) pins.toBitVec

theorem and_only (pins : UInt8) : pins &&& (sck ||| cs) = sck ↔ pin 0 pins = true ∧ pin 2 pins = false := by
  rw [← UInt8.toBitVec_inj]
  exact (by decide : ∀ pins : BitVec 8, pins &&& 5#8 = 1#8 ↔ pins.getLsbD 0 = true ∧ pins.getLsbD 2 = false) pins.toBitVec

theorem pin_driven {index : Nat} (inside : index < 8) (pins latch direction : UInt8) :
    pin index (pins &&& ~~~direction ||| latch &&& direction) = if pin index direction then pin index latch else pin index pins := by
  simp only [pin,UInt8.toBitVec_or,UInt8.toBitVec_and,UInt8.toBitVec_not,BitVec.getLsbD_or,BitVec.getLsbD_and,BitVec.getLsbD_not,
    inside,decide_true,Bool.true_and]
  by_cases driven : direction.toBitVec.getLsbD index = true <;> simp [driven]

theorem pin_shown (pins bit : UInt8) : pin 0 (pins &&& ~~~sio ||| (bit &&& 1) <<< 1) = pin 0 pins ∧
    pin 2 (pins &&& ~~~sio ||| (bit &&& 1) <<< 1) = pin 2 pins := by
  constructor <;> simp [pin,sio]

end Pins

section Decimal
variable {α β : Type}

def Decoded.Total (decoded : Decoded α) : Prop := ∃ result, decoded.run = some result

namespace Decoded

theorem total_pure (value : α) : Total (pure value) := ⟨some value,rfl⟩

theorem total_failure : Total (failure : Decoded α) := ⟨none,rfl⟩

theorem Total.ite {condition : Prop} [Decidable condition] {one two : Decoded α} (first : condition → one.Total)
    (second : ¬condition → two.Total) : Total (if condition then one else two) := by
  split
  · exact first ‹_›
  · exact second ‹_›

theorem bind_run {decoded : Decoded α} {next : α → Decoded β} {result : β} : (decoded >>= next).run = some (some result) ↔
    ∃ value, decoded.run = some (some value) ∧ (next value).run = some (some result) := by
  rw [OptionT.run_bind]
  rcases decoded.run with _ | _ | value <;> simp [Option.elimM]

theorem Total.bind {decoded : Decoded α} {next : α → Decoded β} (total : decoded.Total)
    (after : ∀ value, decoded.run = some (some value) → (next value).Total) : Total (decoded >>= next) := by
  obtain ⟨_ | value,found⟩ := total
  · exact ⟨none,by rw [OptionT.run_bind,found]; rfl⟩
  · obtain ⟨result,given⟩ := after value found
    exact ⟨result,by rw [OptionT.run_bind,found]; exact given⟩

theorem ite_run {condition : Prop} [Decidable condition] (value result : α) :
    (if condition then pure value else failure : Decoded α).run = some (some result) ↔ condition ∧ value = result := by
  split <;> simp [*]

end Decoded

open Decoded

theorem total_fromBcd (value : UInt8) : (fromBcd value).Total :=
  Option.isSome_iff_exists.mp ((by decide : ∀ value : BitVec 8, (fromBcd ⟨value⟩).run.isSome = true) value.toBitVec)

theorem fromBcd_le {value : UInt8} {number : Nat} (found : (fromBcd value).run = some (some number)) : number ≤ 99 := by
  have all : ∀ value : BitVec 8, (fromBcd ⟨value⟩).run.join.getD 0 ≤ 99 := by decide
  have least := all value.toBitVec
  rwa [show (fromBcd ⟨value.toBitVec⟩).run = some (some number) from found] at least

theorem total_decodeHour (value control : UInt8) : (decodeHour value control).Total := by
  refine (total_fromBcd _).bind fun hour _ => ?_
  refine Total.ite (fun _ => Total.ite (fun _ => total_pure _) fun _ => total_failure) fun _ => ?_
  refine Total.ite (fun _ => total_failure) fun known => ?_
  refine Total.ite (fun _ => total_pure _) fun _ => Total.ite (fun _ => total_pure _) fun _ => ?_
  refine Total.ite (fun _ => ?_) fun _ => total_pure _
  rw [Library.checkedByte_pos (by omega)]
  exact total_pure _

theorem total_decodeTime (bytes : Library.Bytes) (control : UInt8) : (decodeTime bytes control).Total := by
  unfold decodeTime
  split
  · refine (total_decodeHour _ _).bind fun hour _ => (total_fromBcd _).bind fun minute _ => (total_fromBcd _).bind fun second _ => ?_
    exact Total.ite (fun _ => total_pure _) fun _ => total_failure
  · exact total_failure

theorem decodeTime_range {bytes : Library.Bytes} {control : UInt8} {hour minute second : Nat}
    (found : (decodeTime bytes control).run = some (some (hour,minute,second))) : hour ≤ 23 ∧ minute ≤ 59 ∧ second ≤ 59 := by
  unfold decodeTime at found
  split at found
  · obtain ⟨_,_,found⟩ := bind_run.mp found
    obtain ⟨_,_,found⟩ := bind_run.mp found
    obtain ⟨_,_,found⟩ := bind_run.mp found
    obtain ⟨range,same⟩ := (ite_run _ _).mp found
    cases same
    exact range
  · nomatch found

end Decimal

namespace Calendar
open Decoded
variable {calendar : Calendar}

theorem valid_initial : Valid initial := by constructor <;> decide

theorem daysInMonth_le (year month : Nat) : daysInMonth year month ≤ 31 := by
  unfold daysInMonth
  split <;> first | decide | (split <;> decide)

theorem one_le_daysInMonth {month : Nat} (year : Nat) (known : 1 ≤ month ∧ month ≤ 12) : 1 ≤ daysInMonth year month := by
  obtain ⟨low,high⟩ := known
  by_cases short : month = 2
  · subst short
    show 1 ≤ if year % 4 = 0 then 29 else 28
    split <;> decide
  · interval_cases month <;> first | exact absurd rfl short | (show 1 ≤ 31; decide) | (show 1 ≤ 30; decide)

theorem Valid.stepSecond (valid : calendar.Valid) : ∃ next, calendar.stepSecond = some next ∧ next.Valid := by
  obtain ⟨year,month,day,weekday,hour,minute,second⟩ := valid
  have short := daysInMonth_le calendar.year calendar.month
  unfold Calendar.stepSecond
  simp only [Library.checkedByte_pos (show calendar.second + 1 < 256 by omega),Library.checkedByte_pos (show calendar.minute + 1 < 256 by omega),
    Library.checkedByte_pos (show calendar.hour + 1 < 256 by omega),Library.checkedByte_pos (show calendar.weekday + 1 < 256 by omega),
    Library.checkedByte_pos (show calendar.day + 1 < 256 by omega),Library.checkedByte_pos (show calendar.month + 1 < 256 by omega),
    Library.checkedByte_pos (show calendar.year + 1 < 256 by omega),Option.bind_eq_bind,Option.bind_some]
  split
  · exact ⟨_,rfl,year,month,day,weekday,hour,minute,by dsimp only; omega⟩
  split
  · exact ⟨_,rfl,year,month,day,weekday,hour,by dsimp only; omega,Nat.zero_le _⟩
  split
  · exact ⟨_,rfl,year,month,day,weekday,by dsimp only; omega,Nat.zero_le _,Nat.zero_le _⟩
  have turned : (calendar.weekday + 1) % 7 ≤ 6 := Nat.le_of_lt_succ (Nat.mod_lt _ (by decide))
  split
  · exact ⟨_,rfl,year,month,⟨by dsimp only; omega,by dsimp only; omega⟩,turned,Nat.zero_le _,Nat.zero_le _,Nat.zero_le _⟩
  split
  · have later : 1 ≤ calendar.month + 1 ∧ calendar.month + 1 ≤ 12 := by omega
    exact ⟨_,rfl,year,later,⟨le_rfl,one_le_daysInMonth _ later⟩,turned,Nat.zero_le _,Nat.zero_le _,Nat.zero_le _⟩
  · have around : (calendar.year + 1) % 100 ≤ 99 := Nat.le_of_lt_succ (Nat.mod_lt _ (by decide))
    have first : 1 ≤ 1 ∧ 1 ≤ 12 := by decide
    exact ⟨_,rfl,around,first,⟨le_rfl,one_le_daysInMonth _ first⟩,turned,Nat.zero_le _,Nat.zero_le _,Nat.zero_le _⟩

theorem cpuClockHz_pos : 0 < cpuClockHz := by
  unfold cpuClockHz
  omega

theorem Valid.stepSeconds (cycles : Nat) (valid : calendar.Valid) :
    ∃ rest next, calendar.stepSeconds cycles = some (rest,next) ∧ rest < cpuClockHz ∧ next.Valid := by
  induction cycles using Nat.strong_induction_on generalizing calendar with
  | h cycles ih =>
    unfold Calendar.stepSeconds
    split
    · rename_i full
      obtain ⟨next,stepped,fine⟩ := valid.stepSecond
      have less : cycles - cpuClockHz < cycles := Nat.sub_lt (lt_of_lt_of_le cpuClockHz_pos full) cpuClockHz_pos
      obtain ⟨rest,last,ran,below,good⟩ := ih _ less fine
      exact ⟨rest,last,by rw [stepped,Option.bind_eq_bind,Option.bind_some,ran],below,good⟩
    · rename_i short
      exact ⟨cycles,calendar,rfl,Nat.lt_of_not_le short,valid⟩

theorem total_decodeDateTime (bytes : Library.Bytes) (control : UInt8) : (decodeDateTime bytes control).Total := by
  unfold decodeDateTime
  split
  · refine (total_fromBcd _).bind fun year _ => (total_fromBcd _).bind fun month _ => (total_fromBcd _).bind fun day _ =>
      (total_fromBcd _).bind fun weekday _ => (total_decodeTime _ _).bind fun time _ => ?_
    exact Total.ite (fun _ => total_pure _) fun _ => total_failure
  · exact total_failure

theorem valid_decodeDateTime {bytes : Library.Bytes} {control : UInt8} {decoded : Calendar}
    (found : (decodeDateTime bytes control).run = some (some decoded)) : decoded.Valid := by
  unfold decodeDateTime at found
  split at found
  · obtain ⟨year,numbered,found⟩ := bind_run.mp found
    obtain ⟨month,_,found⟩ := bind_run.mp found
    obtain ⟨day,_,found⟩ := bind_run.mp found
    obtain ⟨weekday,_,found⟩ := bind_run.mp found
    obtain ⟨time,_,found⟩ := bind_run.mp found
    obtain ⟨⟨known,inside,named,hour,minute,second⟩,rfl⟩ := (ite_run _ _).mp found
    exact ⟨fromBcd_le numbered,known,inside,named,hour,minute,second⟩
  · nomatch found

theorem Valid.setDateTime (bytes : Library.Bytes) (control : UInt8) (valid : calendar.Valid) :
    ∃ next, calendar.setDateTime bytes control = some next ∧ next.Valid := by
  obtain ⟨_ | decoded,found⟩ := total_decodeDateTime bytes control
  · exact ⟨calendar,by rw [Calendar.setDateTime,found]; rfl,valid⟩
  · exact ⟨decoded,by rw [Calendar.setDateTime,found]; rfl,valid_decodeDateTime found⟩

theorem Valid.setTime (bytes : Library.Bytes) (control : UInt8) (valid : calendar.Valid) :
    ∃ next, calendar.setTime bytes control = some next ∧ next.Valid := by
  obtain ⟨_ | ⟨hour,minute,second⟩,found⟩ := total_decodeTime bytes control
  · exact ⟨calendar,by rw [Calendar.setTime,found]; rfl,valid⟩
  · obtain ⟨hours,minutes,seconds⟩ := decodeTime_range found
    exact ⟨{calendar with hour := hour, minute := minute, second := second},by rw [Calendar.setTime,found]; rfl,valid.year,valid.month,valid.day,valid.weekday,hours,minutes,seconds⟩

end Calendar

namespace RtcGpio
variable {rtc : RtcGpio}

def Paced (rtc : RtcGpio) : Prop := rtc.commandReading = true → rtc.transferIndex + max rtc.bytesRemaining 1 ≤ 7

/-- No call stops the program, now or later. -/
structure Steady (rtc : RtcGpio) : Prop where
  step : rtc.transferStep ≤ 2
  bits : rtc.bitsRead ≤ 7
  calendar : rtc.calendar.Valid
  paced : rtc.Paced

theorem driveSio_eq (bit : UInt8) (rtc : RtcGpio) : rtc.driveSio bit = {rtc with
    pinState := if rtc.direction &&& sio = 0 then rtc.pinState &&& ~~~sio ||| (bit &&& 1) <<< 1 else rtc.pinState} := by
  unfold driveSio
  split <;> rfl

theorem driveOutput_some (rtc : RtcGpio) (inside : rtc.transferIndex < 7) (below : rtc.bitsRead < 8) :
    ∃ bit, rtc.driveOutput = some (rtc.driveSio bit) := by
  unfold driveOutput outputBit
  rw [dif_pos inside,if_pos below]
  exact ⟨_,rfl⟩

theorem driveOutput_none (outside : 7 ≤ rtc.transferIndex) : rtc.driveOutput = none := by
  unfold driveOutput outputBit
  rw [dif_neg (not_lt.mpr outside)]
  rfl

theorem observePins_idle (rtc : RtcGpio) (step : rtc.transferStep ≤ 1) : ∃ step lastSck,
    rtc.observePins = some {rtc with transferStep := step, lastSck := lastSck} ∧
      (step ≤ 1 ∧ ¬(pin 0 rtc.pinState = true ∧ pin 2 rtc.pinState = true) ∨
        step = 2 ∧ lastSck = true ∧ pin 0 rtc.pinState = true ∧ pin 2 rtc.pinState = true) := by
  obtain zero | one : rtc.transferStep = 0 ∨ rtc.transferStep = 1 := by omega
  · simp only [observePins,zero,and_both,and_only]
    split
    · rename_i only
      exact ⟨1,rtc.lastSck,rfl,.inl ⟨le_rfl,fun both => by simp [both.2] at only⟩⟩
    · split
      · exact ⟨2,true,rfl,.inr ⟨rfl,rfl,‹_›⟩⟩
      · exact ⟨0,rtc.lastSck,by rw [← zero],.inl ⟨Nat.zero_le _,‹_›⟩⟩
  · simp only [observePins,one,and_both,ne_eq,and_only]
    split
    · exact ⟨2,true,rfl,.inr ⟨rfl,rfl,‹_›⟩⟩
    · split
      · exact ⟨0,rtc.lastSck,rfl,.inl ⟨Nat.zero_le _,‹_›⟩⟩
      · exact ⟨1,rtc.lastSck,by rw [← one],.inl ⟨le_rfl,‹_›⟩⟩

namespace Steady

theorem driveSio (bit : UInt8) (steady : rtc.Steady) : (rtc.driveSio bit).Steady := by
  rw [driveSio_eq]
  exact ⟨steady.step,steady.bits,steady.calendar,steady.paced⟩

theorem driveOutput (steady : rtc.Steady) (reading : rtc.commandReading = true) : ∃ next, rtc.driveOutput = some next ∧ next.Steady := by
  have room := steady.paced reading
  obtain ⟨bit,driven⟩ := driveOutput_some rtc (by omega) (Nat.lt_succ_of_le steady.bits)
  exact ⟨_,driven,steady.driveSio bit⟩

theorem abortTransfer (step : rtc.transferStep ≤ 2) (calendar : rtc.calendar.Valid) : rtc.abortTransfer.Steady :=
  ⟨step,Nat.zero_le _,calendar,fun reading => nomatch reading⟩

theorem executeCommand (command : Command) (steady : rtc.Steady) :
    ∃ next, (rtc.executeCommand command).map RtcGpio.abortTransfer = some next ∧ next.Steady := by
  cases command with
  | reset => exact ⟨_,rfl,abortTransfer steady.step steady.calendar⟩
  | forceIrq => exact ⟨_,rfl,abortTransfer steady.step steady.calendar⟩
  | control => exact ⟨_,rfl,abortTransfer steady.step steady.calendar⟩
  | dateTime =>
    obtain ⟨calendar,set,valid⟩ := steady.calendar.setDateTime (List.ofFn rtc.transferBytes) rtc.control
    refine ⟨RtcGpio.abortTransfer {rtc with calendar := calendar},?_,abortTransfer steady.step valid⟩
    simp only [RtcGpio.executeCommand,set,Option.map_some]
  | time =>
    obtain ⟨calendar,set,valid⟩ := steady.calendar.setTime ((List.ofFn rtc.transferBytes).take 3) rtc.control
    refine ⟨RtcGpio.abortTransfer {rtc with calendar := calendar},?_,abortTransfer steady.step valid⟩
    simp only [RtcGpio.executeCommand,set,Option.map_some]

theorem storeCommandByte (command : Command) (byte : UInt8) (writing : rtc.commandReading = false) (steady : rtc.Steady) :
    ∃ next, rtc.storeCommandByte command byte = some next ∧ next.Steady := by
  have idle {next : RtcGpio} (same : next.commandReading = rtc.commandReading) : next.Paced := fun reading => by
    rw [same,writing] at reading
    nomatch reading
  unfold RtcGpio.storeCommandByte
  dsimp only
  split
  · exact ⟨_,rfl,steady.step,steady.bits,steady.calendar,idle rfl⟩
  · exact executeCommand command ⟨steady.step,steady.bits,steady.calendar,idle rfl⟩

theorem startCommand (command : Command) (reading : Bool) (steady : rtc.Steady) : (rtc.startCommand command reading).Steady := by
  have short : max command.byteLen 1 ≤ 7 := by cases command <;> decide
  have finish {next : RtcGpio} (step : next.transferStep ≤ 2) (calendar : next.calendar.Valid) (bits : next.bitsRead ≤ 7)
      (paced : next.Paced) : Steady (if next.bytesRemaining = 0 then
        (if command = .reset then {next with control := 0} else next : RtcGpio).abortTransfer else next) := by
    split
    · split <;> exact abortTransfer step calendar
    · exact ⟨step,bits,calendar,paced⟩
  unfold RtcGpio.startCommand
  cases reading
  · exact finish steady.step steady.calendar steady.bits fun reading => nomatch reading
  · exact finish steady.step steady.calendar steady.bits fun _ => (zero_add _).trans_le short

theorem processInputByte (rtc : RtcGpio) (writing : rtc.commandReading = false) (step : rtc.transferStep ≤ 2) (calendar : rtc.calendar.Valid) :
    ∃ next, rtc.processInputByte = some next ∧ next.Steady := by
  have cleared : Steady {rtc with bits := 0, bitsRead := 0} := by
    refine ⟨step,Nat.zero_le _,calendar,fun reading => ?_⟩
    rw [show rtc.commandReading = true from reading] at writing
    nomatch writing
  unfold RtcGpio.processInputByte
  dsimp only
  split
  · exact storeCommandByte _ _ writing cleared
  · split
    · exact ⟨_,rfl,abortTransfer step calendar⟩
    · split
      · exact ⟨_,rfl,abortTransfer step calendar⟩
      · exact ⟨_,rfl,cleared.startCommand _ _⟩

theorem inputEdge (writing : rtc.commandReading = false) (steady : rtc.Steady) : ∃ next, rtc.inputEdge = some next ∧ next.Steady := by
  have below : rtc.bitsRead < 8 := Nat.lt_succ_of_le steady.bits
  unfold RtcGpio.inputEdge
  rw [if_pos below,Library.checkedByte_pos (by omega)]
  simp only [Option.bind_eq_bind,Option.bind_some]
  split
  · obtain ⟨next,taken,fine⟩ := processInputByte {rtc with
      bits := rtc.bits ||| (rtc.pinState &&& sio) >>> 1 <<< UInt8.ofNat rtc.bitsRead
      bitsRead := rtc.bitsRead + 1} writing steady.step steady.calendar
    rw [taken]
    exact ⟨_,rfl,fine.step,fine.bits,fine.calendar,fine.paced⟩
  · refine ⟨_,rfl,steady.step,?_,steady.calendar,steady.paced⟩
    dsimp only
    omega

theorem finishOutputByte (rtc : RtcGpio) (reading : rtc.commandReading = true) (step : rtc.transferStep ≤ 2) (calendar : rtc.calendar.Valid)
    (paced : rtc.Paced) : ∃ next, rtc.finishOutputByte = some next ∧ next.Steady := by
  have room := paced reading
  unfold RtcGpio.finishOutputByte
  dsimp only
  split
  · exact ⟨_,rfl,abortTransfer step calendar⟩
  · refine driveOutput ⟨step,Nat.zero_le _,calendar,fun _ => ?_⟩ reading
    dsimp only
    omega

theorem outputEdge (reading : rtc.commandReading = true) (steady : rtc.Steady) : ∃ next, rtc.outputEdge = some next ∧ next.Steady := by
  have bits := steady.bits
  unfold RtcGpio.outputEdge
  split
  · rw [Library.checkedByte_pos (show rtc.bitsRead + 1 < 256 by omega)]
    simp only [Option.bind_eq_bind,Option.bind_some]
    split
    · obtain ⟨next,given,fine⟩ := finishOutputByte {rtc with bitsRead := rtc.bitsRead + 1} reading steady.step
        steady.calendar steady.paced
      rw [given]
      exact ⟨_,rfl,fine.step,fine.bits,fine.calendar,fine.paced⟩
    · have counted : Steady {rtc with bitsRead := rtc.bitsRead + 1} :=
        ⟨steady.step,by dsimp only; omega,steady.calendar,steady.paced⟩
      obtain ⟨next,given,fine⟩ := counted.driveOutput reading
      rw [given]
      exact ⟨_,rfl,fine.step,fine.bits,fine.calendar,fine.paced⟩
  · exact ⟨_,rfl,steady.step,steady.bits,steady.calendar,steady.paced⟩

theorem observePins (steady : rtc.Steady) : ∃ next, rtc.observePins = some next ∧ next.Steady := by
  have moved (step : Nat) (bounded : step ≤ 2) (lastSck : Bool) : Steady {rtc with transferStep := step, lastSck := lastSck} :=
    ⟨bounded,steady.bits,steady.calendar,steady.paced⟩
  have waiting (step : Nat) (bounded : step ≤ 2) : Steady {rtc with transferStep := step} :=
    ⟨bounded,steady.bits,steady.calendar,steady.paced⟩
  obtain step | step | step : rtc.transferStep = 0 ∨ rtc.transferStep = 1 ∨ rtc.transferStep = 2 := by
    have bounded := steady.step
    omega
  all_goals simp only [RtcGpio.observePins,step]
  · split
    · exact ⟨_,rfl,waiting 1 (by decide)⟩
    · split
      · exact ⟨_,rfl,moved 2 le_rfl true⟩
      · exact ⟨_,rfl,steady⟩
  · split
    · exact ⟨_,rfl,moved 2 le_rfl true⟩
    · split
      · exact ⟨_,rfl,waiting 0 (by decide)⟩
      · exact ⟨_,rfl,steady⟩
  · split
    · refine ⟨_,rfl,?_,Nat.zero_le _,steady.calendar,fun reading => nomatch reading⟩
      dsimp only
      split <;> decide
    · split
      · rename_i rises
        exact steady.inputEdge rises.1
      · split
        · rename_i falls
          exact steady.outputEdge falls.1
        · exact ⟨_,rfl,le_rfl,steady.bits,steady.calendar,steady.paced⟩

theorem write16 (addr : UInt32) (value : UInt16) (steady : rtc.Steady) :
    ∃ done next, rtc.write16 addr value = some (done,next) ∧ next.Steady := by
  unfold RtcGpio.write16
  dsimp only
  split
  · have latched : Steady (drivePins {rtc with dataLatch := value.toUInt8 &&& gpioMask}) :=
      ⟨steady.step,steady.bits,steady.calendar,steady.paced⟩
    obtain ⟨next,seen,fine⟩ := latched.observePins
    exact ⟨true,next,by rw [seen]; rfl,fine⟩
  split
  · have directed : Steady (drivePins {rtc with direction := value.toUInt8 &&& gpioMask}) :=
      ⟨steady.step,steady.bits,steady.calendar,steady.paced⟩
    obtain ⟨next,seen,fine⟩ := directed.observePins
    rw [seen]
    simp only [Option.bind_eq_bind,Option.bind_some]
    split
    · rename_i reads
      obtain ⟨last,driven,good⟩ := fine.driveOutput reads.2
      exact ⟨true,last,by rw [driven]; rfl,good⟩
    · exact ⟨true,next,rfl,fine⟩
  split
  · exact ⟨true,_,rfl,steady.step,steady.bits,steady.calendar,steady.paced⟩
  · exact ⟨false,rtc,rfl,steady⟩

theorem stepCycles (cycles : Nat) (steady : rtc.Steady) : ∃ next, rtc.stepCycles cycles = some next ∧ next.Steady := by
  obtain ⟨rest,calendar,ran,_,valid⟩ := steady.calendar.stepSeconds (min (rtc.subsecondCycles + cycles) 0xFFFFFFFF)
  refine ⟨{rtc with subsecondCycles := rest, calendar := calendar},?_,steady.step,steady.bits,valid,steady.paced⟩
  rw [RtcGpio.stepCycles,ran,Option.bind_eq_bind,Option.bind_some]

theorem perform (call : GpioCall) (steady : rtc.Steady) : ∃ next, rtc.perform call = some next ∧ next.Steady := by
  cases call with
  | read8 addr => exact ⟨rtc,rfl,steady⟩
  | write16 addr value =>
    obtain ⟨done,next,written,fine⟩ := steady.write16 addr value
    exact ⟨next,by rw [RtcGpio.perform,written,Option.map_some],fine⟩
  | stepCycles cycles => exact steady.stepCycles cycles

theorem run (calls : List GpioCall) (steady : rtc.Steady) : ∃ last, rtc.run calls = some last ∧ last.Steady := by
  induction calls generalizing rtc with
  | nil => exact ⟨rtc,rfl,steady⟩
  | cons call calls ih =>
    obtain ⟨next,performed,fine⟩ := steady.perform call
    obtain ⟨last,ran,good⟩ := ih fine
    exact ⟨last,by rw [RtcGpio.run,List.foldlM_cons,performed,Option.bind_eq_bind,Option.bind_some]; exact ran,good⟩

end Steady

end RtcGpio

end ZeffBoy.Gba.Rtc
