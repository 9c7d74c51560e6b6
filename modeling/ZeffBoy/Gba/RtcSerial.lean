import ZeffBoy.Gba.RtcState

/-! The serial line of the clock, as a program works it: it selects the chip, shifts a request in, bit by bit with the rising clock,
and shifts the answer out. What was written is what is read, if no second has gone by. -/
namespace ZeffBoy.Gba.Rtc
open List

open Library (Bytes)

def Command.request (command : Command) (reading : Bool) : UInt8 :=
  (if reading then 0x80 else 0 : UInt8) ||| command.bits <<< 4 ||| 0x06

def Calendar.payload (command : Command) (control : UInt8) (date : Calendar) : Bytes :=
  match command with
  | .time => (List.ofFn (date.dateTimeBytes control)).drop 4
  | _ => List.ofFn (date.dateTimeBytes control)

def byteBits (byte : UInt8) : List Bool := (List.range 8).map fun index => pin index byte

def bitsOf (message : Bytes) : List Bool := message.flatMap byteBits

/-- What a program does with the line. -/
inductive LineAct
  | write (addr : UInt32) (value : UInt16)
  | sample

namespace LineAct

def data (value : UInt16) : LineAct := .write gpioData value

def clock (value : UInt16) : Bool := pin 0 value.toUInt8

def Selected (value : UInt16) : Prop := pin 2 value.toUInt8 = true

def select : List LineAct :=
  [.write gpioControl 1,.write gpioData 0,.write gpioDirection 7,.write gpioData 1,.write gpioData 5]

/-- Writes that shift bits in, the last of them with the last bit; the clock has been at a level before. -/
inductive Shifts : Bool → List LineAct → List Bool → Prop
  | last {value : UInt16} : Selected value → clock value = true → Shifts false [data value] [pin 1 value.toUInt8]
  | rise {value : UInt16} {acts : List LineAct} {bits : List Bool} : Selected value → clock value = true → Shifts true acts bits →
      Shifts false (data value::acts) (pin 1 value.toUInt8::bits)
  | still {level : Bool} {value : UInt16} {acts : List LineAct} {bits : List Bool} : Selected value → level = true ∨ clock value = false →
      Shifts (clock value) acts bits → Shifts level (data value::acts) bits

theorem Shifts.ne_nil {level : Bool} {acts : List LineAct} {bits : List Bool} (shifts : Shifts level acts bits) : bits ≠ [] := by
  induction shifts with
  | last => exact cons_ne_nil _ _
  | rise => exact cons_ne_nil _ _
  | still _ _ _ ih => exact ih

/-- Writes that let a number of bits out, each looked at after the clock has risen. -/
inductive Clocks : Bool → List LineAct → Nat → Prop
  | done {level : Bool} : Clocks level [] 0
  | rise {value : UInt16} {acts : List LineAct} {count : Nat} : Selected value → clock value = true → Clocks true acts count →
      Clocks false (data value::.sample::acts) (count + 1)
  | still {level : Bool} {value : UInt16} {acts : List LineAct} {count : Nat} : Selected value → level = true ∨ clock value = false →
      Clocks (clock value) acts count → Clocks level (data value::acts) count

def Sends (message : Bytes) (acts : List LineAct) : Prop :=
  ∃ shifts, acts = select ++ shifts ∧ Shifts true shifts (bitsOf message)

def Receives (count : Nat) (acts : List LineAct) : Prop :=
  ∃ clocks, acts = .write gpioDirection 5::clocks ∧ Clocks true clocks (8 * count)

end LineAct

open LineAct

/-- The cycles that go by, and what is then done. -/
abbrev Timed := List (List Nat × LineAct)

def Timed.cycles (timed : Timed) : Nat := (timed.map fun act => act.1.sum).sum

theorem Timed.cycles_cons (cycles : List Nat) (act : LineAct) (timed : Timed) :
    Timed.cycles ((cycles,act)::timed) = cycles.sum + timed.cycles := rfl

namespace RtcGpio
variable {rtc next : RtcGpio}

def wait (cycles : List Nat) (rtc : RtcGpio) : Option RtcGpio := cycles.foldlM (fun rtc cycles => rtc.stepCycles cycles) rtc

def act (rtc : RtcGpio) : LineAct → Option (List Bool × RtcGpio)
  | .write addr value => (rtc.write16 addr value).map fun done => ([],done.2)
  | .sample => (rtc.read8 gpioData).map fun port => ([pin 1 port],rtc)

/-- The bits that are looked at. -/
def play : Timed → RtcGpio → Option (List Bool × RtcGpio)
  | [],rtc => some ([],rtc)
  | (cycles,act)::timed,rtc => do
    let rtc ← rtc.wait cycles
    let (bits,rtc) ← rtc.act act
    let (more,rtc) ← play timed rtc
    some (bits ++ more,rtc)

end RtcGpio

section Decimal

theorem fromBcd_toBcd {number : Nat} (short : number ≤ 99) : (fromBcd (toBcd number)).run = some (some number) := by
  have all : ∀ number : Fin 100, (fromBcd (toBcd number)).run = some (some number.val) := by decide
  exact all ⟨number,Nat.lt_succ_of_le short⟩

theorem hour_mode (control : UInt8) : ∃ mode, (mode = 0 ∨ mode = controlHour24) ∧
    (∀ value, decodeHour value control = decodeHour value mode) ∧ ∀ hour, Calendar.hourByte hour control = Calendar.hourByte hour mode := by
  by_cases half : control &&& controlHour24 = 0
  · refine ⟨0,.inl rfl,fun value => ?_,fun hour => ?_⟩
    · simp [decodeHour,half]
    · simp [Calendar.hourByte,half]
  · have whole : controlHour24 ≠ 0 := by decide
    refine ⟨controlHour24,.inr rfl,fun value => ?_,fun hour => ?_⟩
    · simp [decodeHour,half,whole]
    · simp [Calendar.hourByte,half,whole]

theorem decodeHour_hourByte {hour : Nat} (known : hour ≤ 23) (control : UInt8) :
    (decodeHour (Calendar.hourByte hour control) control).run = some (some hour) := by
  have half : ∀ hour : Fin 24, (decodeHour (Calendar.hourByte hour 0) 0).run = some (some hour.val) := by decide
  have whole : ∀ hour : Fin 24, (decodeHour (Calendar.hourByte hour controlHour24) controlHour24).run = some (some hour.val) := by decide
  obtain ⟨mode,rfl | rfl,decoded,encoded⟩ := hour_mode control
  · rw [decoded,encoded]
    exact half ⟨hour,Nat.lt_succ_of_le known⟩
  · rw [decoded,encoded]
    exact whole ⟨hour,Nat.lt_succ_of_le known⟩

variable {date : Calendar}

open Decoded

theorem decodeTime_payload (valid : date.Valid) (control : UInt8) :
    (decodeTime (date.payload .time control) control).run = some (some (date.hour,date.minute,date.second)) := by
  obtain ⟨_,_,_,_,hour,minute,second⟩ := valid
  show (decodeTime [Calendar.hourByte date.hour control,toBcd date.minute,toBcd date.second] control).run = _
  refine bind_run.mpr ⟨date.hour,decodeHour_hourByte hour control,?_⟩
  refine bind_run.mpr ⟨date.minute,fromBcd_toBcd (by omega),?_⟩
  refine bind_run.mpr ⟨date.second,fromBcd_toBcd (by omega),?_⟩
  exact (ite_run _ _).mpr ⟨⟨hour,minute,second⟩,rfl⟩

theorem decodeDateTime_payload (valid : date.Valid) (control : UInt8) :
    (Calendar.decodeDateTime (date.payload .dateTime control) control).run = some (some date) := by
  have time := decodeTime_payload valid control
  have short := Calendar.daysInMonth_le date.year date.month
  obtain ⟨year,month,day,weekday,hour,minute,second⟩ := valid
  show (Calendar.decodeDateTime [toBcd date.year,toBcd date.month,toBcd date.day,toBcd date.weekday,
    Calendar.hourByte date.hour control,toBcd date.minute,toBcd date.second] control).run = _
  refine bind_run.mpr ⟨date.year,fromBcd_toBcd year,?_⟩
  refine bind_run.mpr ⟨date.month,fromBcd_toBcd (by omega),?_⟩
  refine bind_run.mpr ⟨date.day,fromBcd_toBcd (by omega),?_⟩
  refine bind_run.mpr ⟨date.weekday,fromBcd_toBcd (by omega),?_⟩
  refine bind_run.mpr ⟨(date.hour,date.minute,date.second),time,?_⟩
  exact (ite_run _ _).mpr ⟨⟨month,day,weekday,hour,minute,second⟩,rfl⟩

end Decimal

section Bits

def low (count : Nat) (byte : UInt8) : UInt8 := byte &&& UInt8.ofNat (2^count - 1)

theorem low_succ {count : Nat} (inside : count < 8) (byte pins : UInt8) (bit : pin 1 pins = pin count byte) :
    low count byte ||| (pins &&& sio) >>> 1 <<< UInt8.ofNat count = low (count + 1) byte := by
  have shown : (pins &&& sio) >>> 1 = (pin 1 pins).toUInt8 := by
    rw [← UInt8.toBitVec_inj]
    exact (by decide : ∀ pins : BitVec 8, (pins &&& 2#8) >>> 1 = (pins.getLsbD 1).toUInt8.toBitVec) pins.toBitVec
  rw [shown,bit,← UInt8.toBitVec_inj]
  have all : ∀ count : Fin 8, ∀ byte : BitVec 8, (low count ⟨byte⟩ ||| (byte.getLsbD count).toUInt8 <<< UInt8.ofNat count).toBitVec =
    (low (count + 1) ⟨byte⟩).toBitVec := by decide +kernel
  exact all ⟨count,inside⟩ byte.toBitVec

theorem low_eight (byte : UInt8) : low 8 byte = byte := by
  rw [← UInt8.toBitVec_inj]
  exact (by decide : ∀ byte : BitVec 8, byte &&& 255#8 = byte) byte.toBitVec

end Bits

theorem Command.request_spec (command : Command) (reading : Bool) : command.request reading &&& 0x0F = 0x06 ∧
    fromBits (command.request reading >>> 4 &&& 0x07) = some command ∧
      (decide (command.request reading &&& 0x80 ≠ 0) : Bool) = reading := by
  cases command <;> cases reading <;> decide

theorem length_bitsOf (message : Bytes) : (bitsOf message).length = 8 * message.length := by
  have each : ∀ byte, (byteBits byte).length = 8 := fun _ => rfl
  simp only [bitsOf,List.length_flatMap,each,map_const',sum_replicate,smul_eq_mul,mul_comm]

theorem drop_byteBits {count : Nat} (inside : count < 8) (byte : UInt8) :
    (byteBits byte).drop count = pin count byte::(byteBits byte).drop (count + 1) := by
  have short : count < (byteBits byte).length := inside
  rw [drop_eq_getElem_cons short]
  simp only [byteBits,getElem_map,getElem_range]

namespace LineAct

theorem pin_masked {index : Nat} (inside : index < 4) (value : UInt8) : pin index (value &&& gpioMask) = pin index value := by
  simp only [pin,UInt8.toBitVec_and,BitVec.getLsbD_and]
  interval_cases index <;> simp [gpioMask]

end LineAct

namespace RtcGpio
variable {rtc next : RtcGpio}

/-- What a look at the pins leaves alone while the clock does not rise. -/
structure Kept (rtc next : RtcGpio) : Prop where
  calendar : next.calendar = rtc.calendar
  control : next.control = rtc.control
  subsecond : next.subsecondCycles = rtc.subsecondCycles
  latch : next.dataLatch = rtc.dataLatch
  direction : next.direction = rtc.direction
  readWrite : next.readWrite = rtc.readWrite

theorem Kept.driveOutput (driven : rtc.driveOutput = some next) : Kept rtc next := by
  obtain ⟨bit,_,rfl⟩ := Option.map_eq_some_iff.mp driven
  rw [driveSio_eq]
  exact ⟨rfl,rfl,rfl,rfl,rfl,rfl⟩

theorem Kept.finishOutputByte (given : rtc.finishOutputByte = some next) : Kept rtc next := by
  unfold RtcGpio.finishOutputByte at given
  dsimp only at given
  split at given
  · cases given
    exact ⟨rfl,rfl,rfl,rfl,rfl,rfl⟩
  · obtain ⟨calendar,control,subsecond,latch,direction,readWrite⟩ := Kept.driveOutput given
    exact ⟨calendar,control,subsecond,latch,direction,readWrite⟩

theorem Kept.outputEdge (given : rtc.outputEdge = some next) : Kept rtc next := by
  unfold RtcGpio.outputEdge at given
  split at given
  · obtain ⟨bitsRead,_,given⟩ := Option.bind_eq_some_iff.mp given
    dsimp only at given
    split at given
    · obtain ⟨last,finished,given⟩ := Option.bind_eq_some_iff.mp given
      obtain ⟨calendar,control,subsecond,latch,direction,readWrite⟩ := Kept.finishOutputByte finished
      cases given
      exact ⟨calendar,control,subsecond,latch,direction,readWrite⟩
    · obtain ⟨last,driven,given⟩ := Option.bind_eq_some_iff.mp given
      obtain ⟨calendar,control,subsecond,latch,direction,readWrite⟩ := Kept.driveOutput driven
      cases given
      exact ⟨calendar,control,subsecond,latch,direction,readWrite⟩
  · cases given
    exact ⟨rfl,rfl,rfl,rfl,rfl,rfl⟩

theorem Kept.observePins (rtc : RtcGpio) (bounded : rtc.transferStep ≤ 2) (falls : rtc.lastSck = true ∨ pin 0 rtc.pinState = false ∨ rtc.transferStep ≤ 1)
    (seen : rtc.observePins = some next) : Kept rtc next := by
  by_cases step : rtc.transferStep = 2
  · simp only [RtcGpio.observePins,step,clock_high] at seen
    split at seen
    · cases seen
      exact ⟨rfl,rfl,rfl,rfl,rfl,rfl⟩
    split at seen
    · rename_i rises
      obtain high | low | idle := falls
      · simp [high] at rises
      · simp [low] at rises
      · omega
    split at seen
    · exact Kept.outputEdge seen
    · cases seen
      exact ⟨rfl,rfl,rfl,rfl,rfl,rfl⟩
  · obtain ⟨moved,lastSck,found,_⟩ := observePins_idle rtc (by omega)
    obtain rfl := Option.some.inj (found.symm.trans seen)
    exact ⟨rfl,rfl,rfl,rfl,rfl,rfl⟩

theorem observePins_released (rtc : RtcGpio) (bounded : rtc.transferStep ≤ 2) (low : pin 2 rtc.pinState = false) (seen : rtc.observePins = some next) :
    next.transferStep ≤ 1 := by
  by_cases step : rtc.transferStep = 2
  · simp only [RtcGpio.observePins,step,clock_high,and_cs,low,if_true] at seen
    cases seen
    dsimp only
    split <;> decide
  · obtain ⟨moved,lastSck,found,outcome⟩ := observePins_idle rtc (by omega)
    obtain rfl := Option.some.inj (found.symm.trans seen)
    obtain ⟨small,_⟩ | ⟨_,_,_,high⟩ := outcome
    · exact small
    · rw [low] at high
      exact absurd high Bool.false_ne_true

variable {mid : RtcGpio} {timed : Timed} {acts : List LineAct}

section Time

theorem Sound.wait (sound : rtc.Sound) (cycles : List Nat) : ∃ rest calendar,
    rtc.wait cycles = some {rtc with subsecondCycles := rest, calendar := calendar} ∧
      Sound {rtc with subsecondCycles := rest, calendar := calendar} ∧
      (rtc.subsecondCycles + cycles.sum < cpuClockHz → rest = rtc.subsecondCycles + cycles.sum ∧ calendar = rtc.calendar) := by
  induction cycles generalizing rtc with
  | nil => exact ⟨_,_,rfl,sound,fun _ => ⟨rfl,rfl⟩⟩
  | cons first cycles ih =>
    obtain ⟨rest,calendar,stepped,fine,short⟩ := sound.stepCycles first
    obtain ⟨last,final,waited,good,small⟩ := ih fine
    refine ⟨last,final,?_,good,fun below => ?_⟩
    · rw [RtcGpio.wait,foldlM_cons,stepped,Option.bind_eq_bind,Option.bind_some]
      exact waited
    · rw [sum_cons] at below ⊢
      obtain ⟨rfl,rfl⟩ := short (by omega)
      dsimp only at small
      obtain ⟨sum,same⟩ := small (by omega)
      exact ⟨sum.trans (add_assoc _ _ _),same⟩

def Ahead (rtc : RtcGpio) (timed : Timed) (next : RtcGpio) (rest : Timed) : Prop :=
  rtc.subsecondCycles + timed.cycles < cpuClockHz →
    next.calendar = rtc.calendar ∧ next.subsecondCycles + rest.cycles = rtc.subsecondCycles + timed.cycles

theorem Ahead.trans {timed rest last : Timed} (one : Ahead rtc timed mid rest) (two : Ahead mid rest next last) :
    Ahead rtc timed next last := by
  intro below
  obtain ⟨same,sum⟩ := one below
  obtain ⟨still,total⟩ := two (sum.trans_lt below)
  exact ⟨still.trans same,total.trans sum⟩

theorem Ahead.cons {cycles : List Nat} {act : LineAct} {timed : Timed} {rest : Nat} {calendar : Calendar}
    (short : rtc.subsecondCycles + cycles.sum < cpuClockHz → rest = rtc.subsecondCycles + cycles.sum ∧ calendar = rtc.calendar)
    (subsecond : next.subsecondCycles = rest) (still : next.calendar = calendar) : Ahead rtc ((cycles,act)::timed) next timed := by
  intro below
  rw [Timed.cycles_cons] at below ⊢
  obtain ⟨sum,same⟩ := short (by omega)
  exact ⟨still.trans same,by rw [subsecond,sum,add_assoc]⟩

theorem play_write {cycles : List Nat} {addr : UInt32} {value : UInt16} {done : Bool} (timed : Timed) (waited : rtc.wait cycles = some mid)
    (written : mid.write16 addr value = some (done,next)) : play ((cycles,.write addr value)::timed) rtc = play timed next := by
  rw [play,waited,Option.bind_eq_bind,Option.bind_some,act,written,Option.map_some]
  simp only [Option.bind_eq_bind,Option.bind_some,nil_append]
  cases play timed next <;> rfl

theorem play_sample {cycles : List Nat} {port : UInt8} (timed : Timed) (waited : rtc.wait cycles = some mid)
    (seen : mid.read8 gpioData = some port) :
    play ((cycles,.sample)::timed) rtc = (play timed mid).map fun last => (pin 1 port::last.1,last.2) := by
  rw [play,waited,Option.bind_eq_bind,Option.bind_some,act,seen,Option.map_some]
  simp only [Option.bind_eq_bind,Option.bind_some,cons_append,nil_append]
  cases play timed mid <;> rfl

end Time

section Lines

def latched (value : UInt16) (rtc : RtcGpio) : RtcGpio := drivePins {rtc with dataLatch := value.toUInt8 &&& gpioMask}

def directed (value : UInt16) (rtc : RtcGpio) : RtcGpio := drivePins {rtc with direction := value.toUInt8 &&& gpioMask}

theorem write16_data {value : UInt16} (seen : (rtc.latched value).observePins = some next) :
    rtc.write16 gpioData value = some (true,next) := by
  rw [write16,if_pos rfl]
  exact congrArg (fun rtc => rtc >>= fun rtc => some (true,rtc)) seen

theorem write16_direction {value : UInt16} (seen : (rtc.directed value).observePins = some next)
    (idle : ¬(next.transferStep = 2 ∧ next.commandReading = true)) : rtc.write16 gpioDirection value = some (true,next) := by
  have looked : (drivePins {rtc with direction := value.toUInt8 &&& gpioMask}).observePins = some next := seen
  rw [write16,if_neg (by decide),if_pos rfl,looked,Option.bind_eq_bind,Option.bind_some,if_neg idle]
  rfl

theorem pin_latched {index : Nat} (inside : index < 4) (value : UInt16) (rtc : RtcGpio) : pin index (rtc.latched value).pinState =
    if pin index rtc.direction then pin index value.toUInt8 else pin index rtc.pinState := by
  rw [latched,drivePins,pin_driven (by omega),pin_masked inside]

theorem pin_directed {index : Nat} (inside : index < 4) (value : UInt16) (rtc : RtcGpio) : pin index (rtc.directed value).pinState =
    if pin index value.toUInt8 then pin index rtc.dataLatch else pin index rtc.pinState := by
  rw [directed,drivePins,pin_driven (by omega),pin_masked inside]

end Lines

/-- The chip is selected; some bits of a byte are in. -/
structure Taking (count : Nat) (byte : UInt8) (level : Bool) (rtc : RtcGpio) : Prop where
  sound : rtc.Sound
  step : rtc.transferStep = 2
  clocked : rtc.lastSck = level
  driven : rtc.direction = 7
  readable : rtc.readWrite = true
  writing : rtc.commandReading = false
  quiet : rtc.readBitSampled = false
  bitsRead : rtc.bitsRead = count
  bits : rtc.bits = low count byte

theorem play_next {addr : UInt32} {value : UInt16} (sound : rtc.Sound) (does : timed.map Prod.snd = .write addr value::acts)
    (goal : RtcGpio → Prop)
    (writes : ∀ subsecond calendar, Sound {rtc with subsecondCycles := subsecond, calendar := calendar} → ∃ next,
      write16 addr value {rtc with subsecondCycles := subsecond, calendar := calendar} = some (true,next) ∧
        next.subsecondCycles = subsecond ∧ next.calendar = calendar ∧ goal next) :
    ∃ rest next, play timed rtc = play rest next ∧ rest.map Prod.snd = acts ∧ Ahead rtc timed next rest ∧ goal next := by
  obtain ⟨⟨cycles,act⟩,rest,rfl,rfl,rfl⟩ := map_eq_cons_iff.mp does
  obtain ⟨subsecond,calendar,waited,fine,short⟩ := sound.wait cycles
  obtain ⟨next,written,same,still,good⟩ := writes subsecond calendar fine
  exact ⟨rest,next,play_write rest waited written,rfl,.cons short same still,good⟩

/-- The line is let go, and nothing is under way. -/
structure Loose (latch : UInt8) (control : UInt8) (rtc : RtcGpio) : Prop where
  sound : rtc.Sound
  step : rtc.transferStep ≤ 1
  driven : rtc.direction = 7
  latch : rtc.dataLatch = latch
  readable : rtc.readWrite = true
  control : rtc.control = control

theorem write_low (sound : rtc.Sound) (readable : rtc.readWrite = true) : ∃ next, rtc.write16 gpioData 0 = some (true,next) ∧
    next.subsecondCycles = rtc.subsecondCycles ∧ next.calendar = rtc.calendar ∧ next.Sound ∧ next.dataLatch = 0 ∧
      next.readWrite = true ∧ next.control = rtc.control := by
  obtain ⟨_,last,written,_⟩ := sound.steady.write16 gpioData 0
  obtain ⟨next,seen,ended⟩ := Option.bind_eq_some_iff.mp written
  cases ended
  have falls : (rtc.latched 0).lastSck = true ∨ pin 0 (rtc.latched 0).pinState = false ∨ (rtc.latched 0).transferStep ≤ 1 := by
    by_cases step : rtc.transferStep = 2
    · rw [pin_latched (by decide)]
      have clocked := sound.tidy.clocked step
      cases high : pin 0 rtc.pinState with
      | true => exact .inl (clocked.trans high)
      | false =>
        right
        left
        split <;> rfl
    · have bounded := sound.steady.step
      exact .inr (.inr (show rtc.transferStep ≤ 1 by omega))
  have kept := Kept.observePins (rtc.latched 0) sound.steady.step falls seen
  exact ⟨last,written,kept.subsecond,kept.calendar,sound.write16 written,kept.latch,kept.readWrite.trans readable,kept.control⟩

theorem write_away (sound : rtc.Sound) (latch : rtc.dataLatch = 0) (readable : rtc.readWrite = true) :
    ∃ next, rtc.write16 gpioDirection 7 = some (true,next) ∧ next.subsecondCycles = rtc.subsecondCycles ∧
      next.calendar = rtc.calendar ∧ next.Loose 0 rtc.control := by
  have steady : Steady (rtc.directed 7) := ⟨sound.steady.step,sound.steady.bits,sound.steady.calendar,sound.steady.paced⟩
  obtain ⟨next,seen,_⟩ := steady.observePins
  have clock : pin 0 (rtc.directed 7).pinState = false := by
    rw [pin_directed (by decide),if_pos (by decide),latch]
    rfl
  have chip : pin 2 (rtc.directed 7).pinState = false := by
    rw [pin_directed (by decide),if_pos (by decide),latch]
    rfl
  have step := observePins_released (rtc.directed 7) sound.steady.step chip seen
  have kept := Kept.observePins (rtc.directed 7) sound.steady.step (.inr (.inl clock)) seen
  have written := write16_direction seen (by omega)
  exact ⟨next,written,kept.subsecond,kept.calendar,sound.write16 written,step,kept.direction,kept.latch.trans latch,
    kept.readWrite.trans readable,kept.control⟩

theorem Loose.write_up {latch control : UInt8} (loose : rtc.Loose latch control) : ∃ next, rtc.write16 gpioData 1 = some (true,next) ∧
    next.subsecondCycles = rtc.subsecondCycles ∧ next.calendar = rtc.calendar ∧ next.Loose 1 control := by
  have steady := loose.sound.steady
  have latched : Steady (rtc.latched 1) := ⟨steady.step,steady.bits,steady.calendar,steady.paced⟩
  obtain ⟨next,seen,_⟩ := latched.observePins
  have chip : pin 2 (rtc.latched 1).pinState = false := by
    rw [pin_latched (by decide),loose.driven,if_pos (by decide)]
    rfl
  have step := observePins_released (rtc.latched 1) steady.step chip seen
  have kept := Kept.observePins (rtc.latched 1) steady.step (.inr (.inr loose.step)) seen
  have written := write16_data seen
  exact ⟨next,written,kept.subsecond,kept.calendar,loose.sound.write16 written,step,kept.direction.trans loose.driven,kept.latch,
    kept.readWrite.trans loose.readable,kept.control.trans loose.control⟩

theorem Loose.write_select {latch control : UInt8} (loose : rtc.Loose latch control) :
    ∃ next, rtc.write16 gpioData 5 = some (true,next) ∧ next.subsecondCycles = rtc.subsecondCycles ∧ next.calendar = rtc.calendar ∧
      (∀ byte, next.Taking 0 byte true) ∧ next.command = none ∧ next.control = control := by
  have waits : rtc.abortTransfer = rtc := loose.sound.tidy.idle.resolve_left fun two => by
    have step := loose.step
    omega
  obtain ⟨step,lastSck,seen,outcome⟩ := observePins_idle (rtc.latched 5) loose.step
  have clock : pin 0 (rtc.latched 5).pinState = true := by
    rw [pin_latched (by decide),loose.driven,if_pos (by decide)]
    rfl
  have chip : pin 2 (rtc.latched 5).pinState = true := by
    rw [pin_latched (by decide),loose.driven,if_pos (by decide)]
    rfl
  obtain ⟨rfl,rfl,_⟩ := (outcome.resolve_left fun low => low.2 ⟨clock,chip⟩)
  have written := write16_data seen
  refine ⟨_,written,rfl,rfl,fun byte => ⟨loose.sound.write16 written,rfl,rfl,loose.driven,loose.readable,?_,?_,?_,?_⟩,?_,loose.control⟩
  · exact (congrArg commandReading waits).symm
  · exact (congrArg readBitSampled waits).symm
  · exact (congrArg bitsRead waits).symm
  · exact (congrArg RtcGpio.bits waits).symm.trans UInt8.and_zero.symm
  · exact (congrArg command waits).symm

theorem play_select (sound : rtc.Sound) (does : timed.map Prod.snd = select ++ acts) : ∃ rest next,
    play timed rtc = play rest next ∧ rest.map Prod.snd = acts ∧ Ahead rtc timed next rest ∧ (∀ byte, next.Taking 0 byte true) ∧
      next.command = none ∧ next.control = rtc.control := by
  obtain ⟨rest,one,played,does,ahead,fine,readable,control⟩ := play_next sound does
    (fun next => next.Sound ∧ next.readWrite = true ∧ next.control = rtc.control) fun subsecond calendar fine =>
      have written : write16 gpioControl 1 {rtc with subsecondCycles := subsecond, calendar := calendar} =
        some (true,{rtc with subsecondCycles := subsecond, calendar := calendar, readWrite := true}) := rfl
      ⟨_,written,rfl,rfl,fine.write16 written,rfl,rfl⟩
  obtain ⟨rest,two,next,does,later,fine,latch,readable,same⟩ := play_next fine does
    (fun next => next.Sound ∧ next.dataLatch = 0 ∧ next.readWrite = true ∧ next.control = one.control) fun _ _ fine =>
      write_low fine readable
  have played := played.trans next
  have ahead := ahead.trans later
  have control := same.trans control
  obtain ⟨rest,three,next,does,later,loose⟩ := play_next fine does (Loose 0 two.control) fun _ _ fine =>
    write_away fine latch readable
  have played := played.trans next
  have ahead := ahead.trans later
  obtain ⟨rest,four,next,does,later,loose⟩ := play_next loose.sound does (Loose 1 two.control) fun _ _ fine =>
    Loose.write_up ⟨fine,loose.step,loose.driven,loose.latch,loose.readable,loose.control⟩
  have played := played.trans next
  have ahead := ahead.trans later
  obtain ⟨rest,five,next,does,later,taking,command,same⟩ := play_next loose.sound does
    (fun next => (∀ byte, next.Taking 0 byte true) ∧ next.command = none ∧ next.control = two.control) fun _ _ fine =>
      Loose.write_select ⟨fine,loose.step,loose.driven,loose.latch,loose.readable,loose.control⟩
  exact ⟨rest,five,played.trans next,does,ahead.trans later,taking,command,same.trans control⟩

end RtcGpio

end ZeffBoy.Gba.Rtc
