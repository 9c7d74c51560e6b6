import ZeffBoy.Gba.RtcRequests

/-! The answer of the clock: bit by bit, as its line falls, and at last the same bytes that were written. -/
namespace ZeffBoy.Gba.Rtc
open Library (Bytes)
open LineAct List

namespace RtcGpio
variable {rtc mid : RtcGpio} {timed : Timed} {acts : List LineAct} {value : UInt16}

theorem pin_sio (pins bit : UInt8) : pin 1 (pins &&& ~~~sio ||| (bit &&& 1) <<< 1) = pin 0 bit := by
  have all : ∀ bit : BitVec 8, ((bit &&& 1#8) <<< 1).getLsbD 1 = bit.getLsbD 0 := by decide
  have cleared : (~~~sio).toBitVec.getLsbD 1 = false := by decide
  simp only [pin,UInt8.toBitVec_or,UInt8.toBitVec_and,BitVec.getLsbD_or,BitVec.getLsbD_and,cleared,Bool.and_false,Bool.false_or]
  exact all bit.toBitVec

theorem pin_output {count : Nat} (inside : count < 8) (byte : UInt8) : pin 0 (byte >>> UInt8.ofNat count &&& 1) = pin count byte := by
  have all : ∀ count : Fin 8, ∀ byte : BitVec 8, pin 0 ((⟨byte⟩ : UInt8) >>> UInt8.ofNat count &&& 1) = byte.getLsbD count := by
    decide +kernel
  exact all ⟨count,inside⟩ byte.toBitVec

theorem driveOutput_shows (rtc : RtcGpio) (undriven : rtc.direction = 5) (inside : rtc.transferIndex < 7) (below : rtc.bitsRead < 8) :
    ∃ pins, rtc.driveOutput = some {rtc with pinState := pins} ∧ pin 0 pins = pin 0 rtc.pinState ∧
      pin 1 pins = pin rtc.bitsRead (rtc.transferBytes ⟨rtc.transferIndex,inside⟩) := by
  have free : rtc.direction &&& sio = 0 := by
    rw [undriven]
    decide
  refine ⟨_,?_,(pin_shown _ _).1,(pin_sio _ _).trans (pin_output below _)⟩
  rw [driveOutput,outputBit,dif_pos inside,if_pos below,Option.map_some,driveSio_eq,if_pos free]

/-- The bytes of an answer that are still to be shown. -/
structure Holds (rest : Bytes) (rtc : RtcGpio) : Prop where
  step : rtc.transferStep = 2
  undriven : rtc.direction = 5
  readable : rtc.readWrite = true
  reads : rtc.commandReading = true
  remaining : rtc.bytesRemaining = rest.length
  holds : ∀ offset < rest.length, ∃ inside : rtc.transferIndex + offset < 7,
    rtc.transferBytes ⟨rtc.transferIndex + offset,inside⟩ = rest.getD offset 0

/-- A bit of the first byte is on the line; it may have been looked at. -/
structure Giving (count : Nat) (byte : UInt8) (more : Bytes) (sampled level : Bool) (rtc : RtcGpio) : Prop where
  sound : rtc.Sound
  holding : rtc.Holds (byte::more)
  clocked : rtc.lastSck = level
  sampled : rtc.readBitSampled = sampled
  bitsRead : rtc.bitsRead = count
  shown : pin 1 rtc.pinState = pin count byte

variable {byte : UInt8} {more : Bytes} {command : Command}

theorem Holds.first (holding : rtc.Holds (byte::more)) : ∃ inside : rtc.transferIndex < 7,
    rtc.transferBytes ⟨rtc.transferIndex,inside⟩ = byte := holding.holds 0 (Nat.zero_lt_succ _)

theorem Holds.later (holding : rtc.Holds (byte::more)) (some' : more ≠ []) : Holds more {rtc with
    bitsRead := 0
    transferIndex := min (rtc.transferIndex + 1) 255
    bytesRemaining := rtc.bytesRemaining - 1} := by
  obtain ⟨step,undriven,readable,reads,remaining,holds⟩ := holding
  have room : rtc.transferIndex + 1 < 7 := by
    obtain ⟨inside,_⟩ := holds 1 (Nat.succ_lt_succ (length_pos_iff.mpr some'))
    exact inside
  have small : min (rtc.transferIndex + 1) 255 = rtc.transferIndex + 1 := by omega
  refine ⟨step,undriven,readable,reads,?_,fun offset inside => ?_⟩
  · show rtc.bytesRemaining - 1 = more.length
    rw [remaining,length_cons,Nat.add_sub_cancel]
  · obtain ⟨fits,same⟩ := holds (offset + 1) (Nat.succ_lt_succ inside)
    have sum : rtc.transferIndex + (offset + 1) = min (rtc.transferIndex + 1) 255 + offset := by omega
    refine ⟨sum ▸ fits,(congrArg rtc.transferBytes (Fin.ext sum.symm)).trans same⟩

namespace Giving
variable {count : Nat} {sampled level : Bool}

theorem latched_pins (giving : rtc.Giving count byte more sampled level) (value : UInt16) :
    pin 0 (rtc.latched value).pinState = clock value ∧ pin 2 (rtc.latched value).pinState = pin 2 value.toUInt8 ∧
      pin 1 (rtc.latched value).pinState = pin count byte := by
  rw [pin_latched (by decide),pin_latched (by decide),pin_latched (by decide),giving.holding.undriven]
  exact ⟨rfl,rfl,giving.shown⟩

theorem observe (giving : rtc.Giving count byte more sampled level) (selected : Selected value) : (rtc.latched value).observePins =
    if level = true ∧ clock value = false then (rtc.latched value).outputEdge
    else some {rtc.latched value with readBitSampled := sampled || (!level && clock value), lastSck := clock value} := by
  obtain ⟨high,chip,_⟩ := giving.latched_pins value
  have step : (rtc.latched value).transferStep = 2 := giving.holding.step
  have reads : (rtc.latched value).commandReading = true := giving.holding.reads
  have looked : (rtc.latched value).readBitSampled = sampled := giving.sampled
  have clocked : (rtc.latched value).lastSck = level := giving.clocked
  simp only [observePins,step,clock_high,and_cs,chip,show pin 2 value.toUInt8 = true from selected,high,reads,looked,clocked,
    Bool.true_eq_false,if_false,true_and,false_and,Bool.true_and]

theorem keep (giving : rtc.Giving count byte more sampled level) (selected : Selected value)
    (steady : level = false ∨ clock value = true ∨ sampled = false) : ∃ next, rtc.write16 gpioData value = some (true,next) ∧
      next.Giving count byte more (sampled || (!level && clock value)) (clock value) := by
  have seen := giving.observe selected
  obtain ⟨_,_,shown⟩ := giving.latched_pins value
  have holding := giving.holding
  by_cases falls : level = true ∧ clock value = false
  · have idle : sampled = false := by
      obtain low | high | idle := steady
      · simp [low] at falls
      · simp [high] at falls
      · exact idle
    have looked : (rtc.latched value).readBitSampled = false := giving.sampled.trans idle
    rw [if_pos falls,outputEdge,looked,if_neg (by decide),Option.bind_eq_bind,Option.bind_some] at seen
    have written := write16_data seen
    refine ⟨_,written,giving.sound.write16 written,⟨holding.step,holding.undriven,holding.readable,holding.reads,holding.remaining,
      holding.holds⟩,falls.2.symm,?_,giving.bitsRead,shown⟩
    rw [idle,falls.1,falls.2]
    exact looked
  · rw [if_neg falls] at seen
    have written := write16_data seen
    exact ⟨_,written,giving.sound.write16 written,⟨holding.step,holding.undriven,holding.readable,holding.reads,holding.remaining,
      holding.holds⟩,rfl,rfl,giving.bitsRead,shown⟩

theorem advance (giving : rtc.Giving count byte more true true) (inside : count < 7) (selected : Selected value)
    (falls : clock value = false) :
    ∃ next, rtc.write16 gpioData value = some (true,next) ∧ next.Giving (count + 1) byte more false false := by
  have seen := giving.observe selected
  have holding := giving.holding
  have looked : (rtc.latched value).readBitSampled = true := giving.sampled
  have bitsRead : (rtc.latched value).bitsRead = count := giving.bitsRead
  obtain ⟨room,first⟩ := holding.first
  obtain ⟨pins,driven,_,shown⟩ := driveOutput_shows {rtc.latched value with bitsRead := count + 1} holding.undriven room
    (show count + 1 < 8 by omega)
  rw [if_pos ⟨rfl,falls⟩,outputEdge,if_pos looked,bitsRead,Library.checkedByte_pos (by omega),Option.bind_eq_bind,Option.bind_some] at seen
  dsimp only at seen
  rw [if_neg (by omega),driven] at seen
  simp only [Option.bind_eq_bind,Option.bind_some] at seen
  have written := write16_data seen
  exact ⟨_,written,giving.sound.write16 written,⟨holding.step,holding.undriven,holding.readable,holding.reads,holding.remaining,
    holding.holds⟩,rfl,rfl,rfl,shown.trans (congrArg _ first)⟩

theorem turn {after : UInt8} (giving : rtc.Giving 7 byte (after::more) true true) (selected : Selected value)
    (falls : clock value = false) :
    ∃ next, rtc.write16 gpioData value = some (true,next) ∧ next.Giving 0 after more false false := by
  have seen := giving.observe selected
  have looked : (rtc.latched value).readBitSampled = true := giving.sampled
  have bitsRead : (rtc.latched value).bitsRead = 7 := giving.bitsRead
  have holding : Holds (byte::after::more) {rtc.latched value with bitsRead := 7 + 1} :=
    ⟨giving.holding.step,giving.holding.undriven,giving.holding.readable,giving.holding.reads,giving.holding.remaining,
      giving.holding.holds⟩
  have later := holding.later (cons_ne_nil _ _)
  obtain ⟨room,first⟩ := later.first
  obtain ⟨pins,driven,_,shown⟩ := driveOutput_shows _ later.undriven room (Nat.zero_lt_succ _)
  have left : rtc.bytesRemaining - 1 ≠ 0 := by
    rw [giving.holding.remaining]
    exact Nat.succ_ne_zero _
  have finished : finishOutputByte {rtc.latched value with bitsRead := 7 + 1} = driveOutput {rtc.latched value with
      bitsRead := 0
      transferIndex := min ((rtc.latched value).transferIndex + 1) 255
      bytesRemaining := (rtc.latched value).bytesRemaining - 1} := if_neg left
  rw [if_pos ⟨rfl,falls⟩,outputEdge,if_pos looked,bitsRead,Library.checkedByte_pos (by decide),Option.bind_eq_bind,Option.bind_some] at seen
  dsimp only at seen
  rw [if_pos rfl,finished,driven] at seen
  simp only [Option.bind_eq_bind,Option.bind_some] at seen
  have written := write16_data seen
  exact ⟨_,written,giving.sound.write16 written,⟨later.step,later.undriven,later.readable,later.reads,later.remaining,later.holds⟩,
    rfl,rfl,rfl,shown.trans (congrArg _ first)⟩

theorem waited {subsecond : Nat} {calendar : Calendar} (giving : rtc.Giving count byte more sampled level)
    (sound : Sound {rtc with subsecondCycles := subsecond, calendar := calendar}) :
    Giving count byte more sampled level {rtc with subsecondCycles := subsecond, calendar := calendar} :=
  ⟨sound,⟨giving.holding.step,giving.holding.undriven,giving.holding.readable,giving.holding.reads,giving.holding.remaining,
    giving.holding.holds⟩,giving.clocked,giving.sampled,giving.bitsRead,giving.shown⟩

theorem read8 (giving : rtc.Giving count byte more sampled level) : ∃ port, rtc.read8 gpioData = some port ∧ pin 1 port = pin count byte := by
  refine ⟨rtc.pinState,?_,giving.shown⟩
  rw [RtcGpio.read8,giving.holding.readable,if_neg (by decide),if_pos (by decide)]
  rfl

end Giving

theorem play_quiet {level : Bool} (clocks : Clocks level acts 0) (sound : rtc.Sound) (does : timed.map Prod.snd = acts) :
    ∃ next, play timed rtc = some ([],next) := by
  generalize none' : 0 = count at clocks
  induction clocks generalizing rtc timed with
  | done =>
    obtain rfl := map_eq_nil_iff.mp does
    exact ⟨rtc,rfl⟩
  | rise => nomatch none'
  | @still level value acts count selected steady clocks ih =>
    obtain ⟨⟨cycles,act⟩,rest,rfl,rfl,rfl⟩ := map_eq_cons_iff.mp does
    obtain ⟨subsecond,calendar,waited,fine,_⟩ := sound.wait cycles
    obtain ⟨done,next,written,_⟩ := fine.steady.write16 gpioData value
    obtain ⟨last,played⟩ := ih (fine.write16 written) rfl none'
    exact ⟨last,(play_write rest waited written).trans played⟩

def unseen (count : Nat) (sampled : Bool) (byte : UInt8) (more : Bytes) : List Bool :=
  (byteBits byte).drop (count + sampled.toNat) ++ bitsOf more

theorem Giving.play {count left : Nat} {sampled level : Bool} (clocks : Clocks level acts left)
    (giving : rtc.Giving count byte more sampled level) (inside : count < 8) (high : sampled = true → level = true)
    (does : timed.map Prod.snd = acts) (whole : left = (unseen count sampled byte more).length) :
    ∃ next, play timed rtc = some (unseen count sampled byte more,next) := by
  induction clocks generalizing rtc timed count byte more sampled with
  | done =>
    obtain rfl := map_eq_nil_iff.mp does
    rw [eq_nil_of_length_eq_zero whole.symm]
    exact ⟨rtc,rfl⟩
  | @rise value acts left selected up clocks ih =>
    obtain ⟨⟨cycles,act⟩,others,rfl,rfl,looks⟩ := map_eq_cons_iff.mp does
    obtain ⟨⟨later,act⟩,rest,rfl,rfl,rfl⟩ := map_eq_cons_iff.mp looks
    obtain rfl : sampled = false := Bool.eq_false_iff.mpr fun looked => nomatch high looked
    obtain ⟨_,_,waited,fine,_⟩ := giving.sound.wait cycles
    obtain ⟨risen,written,given⟩ := (giving.waited fine).keep selected (.inl rfl)
    obtain ⟨_,_,paused,good,_⟩ := given.sound.wait later
    have given := given.waited good
    obtain ⟨port,read,bit⟩ := given.read8
    rw [up] at given
    have first : unseen count false byte more = pin count byte::unseen count true byte more := by
      rw [unseen,Bool.toNat_false,add_zero,drop_byteBits inside]
      rfl
    rw [first,length_cons] at whole
    obtain ⟨last,played⟩ := ih given inside (fun _ => rfl) rfl (Nat.succ.inj whole)
    have looks := (play_sample rest paused read).trans (congrArg (Option.map _) played)
    exact ⟨last,((play_write _ waited written).trans looks).trans (by rw [bit,first]; rfl)⟩
  | @still level value acts left selected steady clocks ih =>
    have does' := does
    obtain ⟨⟨cycles,act⟩,rest,rfl,rfl,rfl⟩ := map_eq_cons_iff.mp does
    obtain ⟨_,_,waited,fine,_⟩ := giving.sound.wait cycles
    have given := giving.waited fine
    by_cases shifts : sampled = true ∧ clock value = false
    · obtain ⟨rfl,falls⟩ := shifts
      obtain rfl := high rfl
      by_cases last : count = 7
      · subst last
        cases more with
        | nil =>
          obtain rfl : left = 0 := whole
          obtain ⟨next,played⟩ := play_quiet (Clocks.still selected steady clocks) giving.sound does'
          exact ⟨next,played⟩
        | cons after more =>
          obtain ⟨next,written,turned⟩ := given.turn selected falls
          rw [falls] at ih
          obtain ⟨last,played⟩ := ih turned (by decide) (fun looked => nomatch looked) rfl whole
          exact ⟨last,(play_write rest waited written).trans played⟩
      · obtain ⟨next,written,moved⟩ := given.advance (by omega) selected falls
        rw [falls] at ih
        obtain ⟨final,played⟩ := ih moved (by omega) (fun looked => nomatch looked) rfl whole
        exact ⟨final,(play_write rest waited written).trans played⟩
    · have same : (sampled || (!level && clock value)) = sampled := by
        rcases steady with rfl | low <;> simp [*]
      obtain ⟨next,written,kept⟩ := given.keep selected (by cases sampled <;> simp_all)
      rw [same] at kept
      obtain ⟨final,played⟩ := ih kept inside (fun looked => by simp_all) rfl whole
      exact ⟨final,(play_write rest waited written).trans played⟩

theorem Asked.write_direction (asked : rtc.Asked command true (byte::more))
    (size : (byte::more).length = command.byteLen) :
    ∃ next, rtc.write16 gpioDirection 5 = some (true,next) ∧ next.Giving 0 byte more false true := by
  have high : pin 0 (rtc.directed 5).pinState = true := by
    rw [pin_directed (by decide),if_pos (by decide),asked.high]
  have chip : pin 2 (rtc.directed 5).pinState = true := by
    rw [pin_directed (by decide),if_pos (by decide),asked.chip]
  have step : (rtc.directed 5).transferStep = 2 := asked.step
  have reads : (rtc.directed 5).commandReading = true := asked.reads
  have quiet : (rtc.directed 5).readBitSampled = false := asked.quiet
  have clocked : (rtc.directed 5).lastSck = true := asked.clocked
  have seen : (rtc.directed 5).observePins = some {rtc.directed 5 with readBitSampled := false, lastSck := true} := by
    simp only [observePins,step,clock_high,and_cs,chip,high,reads,quiet,clocked,Bool.true_eq_false,if_false,and_false,false_and,
      Bool.not_true,Bool.and_false]
    rfl
  have short : command.byteLen ≤ 7 := by cases command <;> decide
  have holding : Holds (byte::more) {rtc.directed 5 with readBitSampled := false, lastSck := true} := by
    refine ⟨step,rfl,asked.readable,reads,asked.remaining.trans size.symm,fun offset inside => ?_⟩
    have fits : rtc.transferIndex + offset < 7 := by
      rw [asked.index]
      omega
    have same : rtc.transferIndex + offset = offset := by rw [asked.index,zero_add]
    exact ⟨fits,(asked.shows rfl ⟨rtc.transferIndex + offset,fits⟩ (same.trans_lt (inside.trans_eq size))).trans (congrArg (List.getD _ · 0) same)⟩
  obtain ⟨room,first⟩ := holding.first
  have bitsRead : rtc.bitsRead = 0 := asked.bitsRead
  obtain ⟨pins,driven,_,shown⟩ := driveOutput_shows _ holding.undriven room (show rtc.bitsRead < 8 by omega)
  have written : rtc.write16 gpioDirection 5 = some (true,{rtc.directed 5 with readBitSampled := false, lastSck := true, pinState := pins}) := by
    have looked : (drivePins {rtc with direction := (5 : UInt16).toUInt8 &&& gpioMask}).observePins = _ := seen
    rw [write16,if_neg (by decide),if_pos rfl,looked,Option.bind_eq_bind,Option.bind_some,if_pos ⟨step,reads⟩,driven]
    rfl
  exact ⟨_,written,asked.sound.write16 written,⟨step,rfl,asked.readable,reads,holding.remaining,holding.holds⟩,rfl,rfl,bitsRead,
    shown.trans (congrArg₂ pin bitsRead first)⟩

theorem Asked.waited {answer : Bytes} {subsecond : Nat} {calendar : Calendar} (asked : rtc.Asked command true answer)
    (sound : Sound {rtc with subsecondCycles := subsecond, calendar := calendar}) :
    Asked command true answer {rtc with subsecondCycles := subsecond, calendar := calendar} :=
  ⟨sound,asked.step,asked.clocked,asked.driven,asked.readable,asked.quiet,asked.bitsRead,asked.bits,asked.asked,asked.reads,asked.index,
    asked.remaining,asked.high,asked.chip,asked.shows⟩

theorem Asked.play {answer : Bytes} (some' : answer ≠ []) (asked : rtc.Asked command true answer)
    (size : answer.length = command.byteLen) (receives : Receives command.byteLen (timed.map Prod.snd)) :
    ∃ next, play timed rtc = some (bitsOf answer,next) := by
  obtain ⟨clocks,does,clocked⟩ := receives
  obtain ⟨⟨cycles,act⟩,rest,rfl,rfl,rfl⟩ := map_eq_cons_iff.mp does
  obtain ⟨byte,more,rfl⟩ := exists_cons_of_ne_nil some'
  obtain ⟨_,_,waited,fine,_⟩ := asked.sound.wait cycles
  obtain ⟨next,written,giving⟩ := (asked.waited fine).write_direction size
  have whole : 8 * command.byteLen = (unseen 0 false byte more).length := by
    rw [← size]
    exact (length_bitsOf (byte::more)).symm
  obtain ⟨last,played⟩ := giving.play clocked (by decide) (fun _ => rfl) rfl whole
  exact ⟨last,(play_write rest waited written).trans played⟩

theorem play_written {date : Calendar} {written : Timed} (long : Long command) (valid : date.Valid) (sound : rtc.Sound)
    (sends : Sends (command.request false::date.payload command rtc.control) (written.map Prod.snd)) :
    ∃ set, play written rtc = some ([],set) ∧ ∀ asked answered : Timed, Sends [command.request true] (asked.map Prod.snd) →
      Receives command.byteLen (answered.map Prod.snd) → set.subsecondCycles + asked.cycles < cpuClockHz →
        ∃ asking last, play asked set = some ([],asking) ∧
          play answered asking = some (bitsOf (date.payload command rtc.control),last) := by
  obtain ⟨set,played,fine,_,shown⟩ := play_setting long valid sound sends
  refine ⟨set,played,fun asked answered sends receives below => ?_⟩
  obtain ⟨asking,heard,ready⟩ := play_asking long fine sends below
  rw [shown] at ready
  have size : (date.payload command rtc.control).length = command.byteLen := by
    rcases long with rfl | rfl <;> rfl
  have some' : date.payload command rtc.control ≠ [] := by
    rcases long with rfl | rfl <;> exact cons_ne_nil _ _
  obtain ⟨last,answer⟩ := ready.play some' size receives
  exact ⟨asking,last,heard,answer⟩

end RtcGpio

namespace LineAct

def shiftBits (bits : List Bool) : List LineAct :=
  bits.flatMap fun bit => [data (if bit then 6 else 4),data (if bit then 7 else 5)]

def clockBits (count : Nat) : List LineAct := (List.replicate count [data 4,data 5,.sample]).flatten

theorem shifts_shiftBits {bits : List Bool} (some' : bits ≠ []) : Shifts true (shiftBits bits) bits := by
  have falls (bit : Bool) : Selected (if bit then 6 else 4) ∧ clock (if bit then 6 else 4) = false := by
    cases bit <;> exact ⟨rfl,rfl⟩
  have rises (bit : Bool) : Selected (if bit then 7 else 5) ∧ clock (if bit then 7 else 5) = true ∧
      pin 1 (if bit then 7 else 5 : UInt16).toUInt8 = bit := by
    cases bit <;> exact ⟨rfl,rfl,rfl⟩
  induction bits with
  | nil => exact absurd rfl some'
  | cons bit bits ih =>
    obtain ⟨selected,low⟩ := falls bit
    obtain ⟨chip,high,carries⟩ := rises bit
    refine .still selected (.inl rfl) ?_
    rw [low]
    cases bits with
    | nil =>
      have only := Shifts.last chip high
      rwa [carries] at only
    | cons next more =>
      have later := Shifts.rise chip high (ih (cons_ne_nil _ _))
      rwa [carries] at later

theorem clocks_clockBits (count : Nat) : Clocks true (clockBits count) count := by
  induction count with
  | zero => exact .done
  | succ count ih =>
    refine .still rfl (.inl rfl) ?_
    exact .rise rfl rfl ih

theorem sends_shiftBits {message : Bytes} (some' : message ≠ []) : Sends message (select ++ shiftBits (bitsOf message)) := by
  obtain ⟨byte,more,rfl⟩ := exists_cons_of_ne_nil some'
  exact ⟨_,rfl,shifts_shiftBits (cons_ne_nil _ _)⟩

theorem receives_clockBits (count : Nat) : Receives count (.write gpioDirection 5::clockBits (8 * count)) :=
  ⟨_,rfl,clocks_clockBits _⟩

end LineAct

namespace RtcGpio

/-- Whatever has been done with the clock: its date is valid, cycles add up, its state is read back, and so is what is written to it. -/
theorem run_faithful (calls : List GpioCall) : ∃ rtc, initial.run calls = some rtc ∧ rtc.calendar.Valid ∧
    (∀ first second, rtc.subsecondCycles + first + second ≤ 0xFFFFFFFF →
      (rtc.stepCycles first >>= fun rtc => rtc.stepCycles second) = rtc.stepCycles (first + second)) ∧
    (∀ rest, readState (rtc.writeState ++ rest) = .ok (rtc,rest)) ∧
    ∀ command, command = .dateTime ∨ command = .time → ∀ date : Calendar, date.Valid → ∀ written : Timed,
      Sends (command.request false::date.payload command rtc.control) (written.map Prod.snd) →
        ∃ set, play written rtc = some ([],set) ∧ ∀ asked answered : Timed, Sends [command.request true] (asked.map Prod.snd) →
          Receives command.byteLen (answered.map Prod.snd) → set.subsecondCycles + asked.cycles < cpuClockHz →
            ∃ asking last, play asked set = some ([],asking) ∧
              play answered asking = some (bitsOf (date.payload command rtc.control),last) := by
  obtain ⟨rtc,ran,_⟩ := Sound.initial.steady.run calls
  have sound := Sound.initial.run ran
  exact ⟨rtc,ran,sound.steady.calendar,stepCycles_add,sound.run_readState,
    fun command long date valid written sends => play_written long valid sound sends⟩

/-- A leap day is set, and read a little later. -/
theorem run_faithful_leapDay : ∃ set asking last,
    play ((select ++ shiftBits (bitsOf (Command.dateTime.request false::
      Calendar.payload .dateTime initial.control ⟨24,2,29,4,23,59,58⟩))).map fun act => ([],act)) initial = some ([],set) ∧
    play ((select ++ shiftBits (bitsOf [Command.dateTime.request true])).map fun act => ([1],act)) set = some ([],asking) ∧
    play ((LineAct.write gpioDirection 5::clockBits 56).map fun act => ([cpuClockHz],act)) asking =
      some (bitsOf (Calendar.payload .dateTime initial.control ⟨24,2,29,4,23,59,58⟩),last) := by
  obtain ⟨rtc,ran,_,_,_,serial⟩ := run_faithful []
  obtain rfl := Option.some.inj ran
  have valid : Calendar.Valid ⟨24,2,29,4,23,59,58⟩ := by constructor <;> decide
  have does (cycles : List Nat) (acts : List LineAct) : List.map Prod.snd (acts.map fun act => (cycles,act)) = acts := by
    rw [map_map]
    exact map_id acts
  have sends {message : Bytes} (cycles : List Nat) (some' : message ≠ []) : Sends message
      (List.map Prod.snd ((select ++ shiftBits (bitsOf message)).map fun act => (cycles,act))) := by
    rw [does]
    exact sends_shiftBits some'
  obtain ⟨set,written,later⟩ := serial .dateTime (.inl rfl) _ valid _ (sends [] (cons_ne_nil _ _))
  have still : (play ((select ++ shiftBits (bitsOf (Command.dateTime.request false::
      Calendar.payload .dateTime initial.control ⟨24,2,29,4,23,59,58⟩))).map fun act => ([],act)) initial).map
        (fun last => last.2.subsecondCycles) = some 0 := by decide +kernel
  rw [written] at still
  have start : set.subsecondCycles = 0 := Option.some.inj still
  obtain ⟨asking,last,asked,answered⟩ := later _ ((LineAct.write gpioDirection 5::clockBits 56).map fun act => ([cpuClockHz],act))
    (sends [1] (cons_ne_nil _ _)) (by rw [does]; exact receives_clockBits 7) (by rw [start]; decide)
  exact ⟨set,asking,last,written,asked,answered⟩

end RtcGpio
end ZeffBoy.Gba.Rtc
