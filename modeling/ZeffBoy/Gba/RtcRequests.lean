import ZeffBoy.Gba.RtcSerial

/-! A request on the line of the clock: its bits are taken in with the rising clock, and a request that writes takes the bytes of a
date or a time. -/
namespace ZeffBoy.Gba.Rtc
open Library (Bytes)
open LineAct List

local instance neZero_request : NeZero 7 := ⟨by decide⟩

namespace RtcGpio
variable {rtc next mid : RtcGpio} {timed : Timed} {acts : List LineAct}

/-- What only changes with a whole byte. -/
structure Between (rtc next : RtcGpio) : Prop where
  command : next.command = rtc.command
  index : next.transferIndex = rtc.transferIndex
  remaining : next.bytesRemaining = rtc.bytesRemaining
  bytes : next.transferBytes = rtc.transferBytes
  control : next.control = rtc.control

theorem Between.waited (rtc : RtcGpio) (subsecond : Nat) (calendar : Calendar) :
    Between rtc {rtc with subsecondCycles := subsecond, calendar := calendar} := ⟨rfl,rfl,rfl,rfl,rfl⟩

theorem Between.trans (one : Between rtc mid) (two : Between mid next) : Between rtc next :=
  ⟨two.command.trans one.command,two.index.trans one.index,two.remaining.trans one.remaining,two.bytes.trans one.bytes,
    two.control.trans one.control⟩

namespace Taking
variable {count : Nat} {byte : UInt8} {level : Bool} {value : UInt16}

theorem pins (taking : rtc.Taking count byte level) {index : Nat} (inside : index < 3) :
    pin index (rtc.latched value).pinState = pin index value.toUInt8 := by
  rw [pin_latched (by omega),taking.driven]
  interval_cases index <;> rfl

theorem observe (taking : rtc.Taking count byte level) (selected : Selected value) : (rtc.latched value).observePins =
    if level = false ∧ clock value = true then (rtc.latched value).inputEdge
    else some {rtc.latched value with readBitSampled := false, lastSck := clock value} := by
  have step : (rtc.latched value).transferStep = 2 := taking.step
  have chip : pin 2 (rtc.latched value).pinState = true := taking.pins (by decide) |>.trans selected
  have high : pin 0 (rtc.latched value).pinState = clock value := taking.pins (by decide)
  have writing : (rtc.latched value).commandReading = false := taking.writing
  have quiet : (rtc.latched value).readBitSampled = false := taking.quiet
  have clocked : (rtc.latched value).lastSck = level := taking.clocked
  simp only [observePins,step,clock_high,and_cs,chip,high,writing,quiet,clocked,Bool.true_eq_false,Bool.false_eq_true,if_false,true_and,
    false_and,Bool.false_and,Bool.or_false]

theorem still (taking : rtc.Taking count byte level) (selected : Selected value) (steady : level = true ∨ clock value = false) :
    ∃ next, rtc.write16 gpioData value = some (true,next) ∧ next.subsecondCycles = rtc.subsecondCycles ∧
      next.calendar = rtc.calendar ∧ Between rtc next ∧ next.Taking count byte (clock value) := by
  have seen := taking.observe selected
  rw [if_neg (by rcases steady with high | low <;> simp [*])] at seen
  have written := write16_data seen
  exact ⟨_,written,rfl,rfl,⟨rfl,rfl,rfl,rfl,rfl⟩,taking.sound.write16 written,taking.step,rfl,taking.driven,taking.readable,taking.writing,
    rfl,taking.bitsRead,taking.bits⟩

def shifted (count : Nat) (byte : UInt8) (value : UInt16) (rtc : RtcGpio) : RtcGpio :=
  {rtc.latched value with bits := low (count + 1) byte, bitsRead := count + 1}

theorem edge (taking : rtc.Taking count byte level) (inside : count < 8) (carries : pin 1 value.toUInt8 = pin count byte) :
    (rtc.latched value).inputEdge =
      (if count + 1 = 8 then (shifted count byte value rtc).processInputByte else some (shifted count byte value rtc)) >>= fun rtc =>
        some {rtc with lastSck := true} := by
  have bits : (rtc.latched value).bits = low count byte := taking.bits
  have bitsRead : (rtc.latched value).bitsRead = count := taking.bitsRead
  have next := low_succ inside byte (rtc.latched value).pinState ((taking.pins (by decide)).trans carries)
  unfold inputEdge
  rw [if_pos (by omega),Library.checkedByte_pos (by omega),bitsRead,bits,next,Option.bind_eq_bind,Option.bind_some]
  by_cases last : count + 1 = 8
  · rw [if_pos last,if_pos last]
    rfl
  · rw [if_neg last,if_neg last]
    rfl

theorem rise (taking : rtc.Taking count byte false) (inside : count < 7) (selected : Selected value) (high : clock value = true)
    (carries : pin 1 value.toUInt8 = pin count byte) :
    ∃ next, rtc.write16 gpioData value = some (true,next) ∧ next.subsecondCycles = rtc.subsecondCycles ∧
      next.calendar = rtc.calendar ∧ Between rtc next ∧ next.Taking (count + 1) byte true := by
  have seen := taking.observe selected
  rw [if_pos ⟨rfl,high⟩,taking.edge (by omega) carries,if_neg (by omega),Option.bind_eq_bind,Option.bind_some] at seen
  have written := write16_data seen
  exact ⟨_,written,rfl,rfl,⟨rfl,rfl,rfl,rfl,rfl⟩,taking.sound.write16 written,taking.step,rfl,taking.driven,taking.readable,taking.writing,
    taking.quiet,rfl,rfl⟩

theorem whole (taking : rtc.Taking 7 byte false) (selected : Selected value) (high : clock value = true)
    (carries : pin 1 value.toUInt8 = pin 7 byte) (processed : (shifted 7 byte value rtc).processInputByte = some next) :
    rtc.write16 gpioData value = some (true,{next with lastSck := true}) := by
  have seen := taking.observe selected
  rw [if_pos ⟨rfl,high⟩,taking.edge (by decide) carries,if_pos rfl,processed,Option.bind_eq_bind,Option.bind_some] at seen
  exact write16_data seen

theorem waited {subsecond : Nat} {calendar : Calendar} (taking : rtc.Taking count byte level)
    (sound : Sound {rtc with subsecondCycles := subsecond, calendar := calendar}) :
    Taking count byte level {rtc with subsecondCycles := subsecond, calendar := calendar} :=
  ⟨sound,taking.step,taking.clocked,taking.driven,taking.readable,taking.writing,taking.quiet,taking.bitsRead,taking.bits⟩

/-- The last bit of a byte is about to be taken in. -/
structure Ends (rtc : RtcGpio) (timed : Timed) (byte : UInt8) (more : List Bool) (mid : RtcGpio) (value : UInt16) (rest : Timed) : Prop where
  taking : mid.Taking 7 byte false
  selected : Selected value
  high : clock value = true
  carries : pin 1 value.toUInt8 = pin 7 byte
  between : Between rtc mid
  ahead : Ahead rtc timed mid rest
  goes : ∀ next, mid.write16 gpioData value = some (true,next) → play timed rtc = play rest next
  after : rest = [] ∧ more = [] ∨ Shifts true (rest.map Prod.snd) more

theorem Ends.cons {act : LineAct} {cycles : List Nat} {next : RtcGpio} {more : List Bool} {rest : Timed}
    (played : play ((cycles,act)::timed) rtc = play timed next) (between : Between rtc next)
    (ahead : Ahead rtc ((cycles,act)::timed) next timed) (ends : Ends next timed byte more mid value rest) :
    Ends rtc ((cycles,act)::timed) byte more mid value rest :=
  ⟨ends.taking,ends.selected,ends.high,ends.carries,between.trans ends.between,ahead.trans ends.ahead,
    fun last written => played.trans (ends.goes last written),ends.after⟩

theorem play_byte {bits more : List Bool} (shifts : Shifts level acts bits) (taking : rtc.Taking count byte level) (inside : count < 8)
    (does : timed.map Prod.snd = acts) (same : bits = (byteBits byte).drop count ++ more) :
    ∃ mid value rest, Ends rtc timed byte more mid value rest := by
  induction shifts generalizing rtc timed count with
  | @last value selected high =>
    obtain ⟨⟨cycles,act⟩,rest,rfl,rfl,none'⟩ := map_eq_cons_iff.mp does
    obtain rfl := map_eq_nil_iff.mp none'
    rw [drop_byteBits inside,cons_append] at same
    obtain ⟨carries,ended⟩ := List.cons.inj same
    obtain ⟨drop,rfl⟩ := append_eq_nil_iff.mp ended.symm
    have last : count = 7 := by
      have long : 8 ≤ count + 1 := drop_eq_nil_iff.mp drop
      omega
    subst last
    obtain ⟨subsecond,calendar,waited,fine,short⟩ := taking.sound.wait cycles
    exact ⟨_,value,[],taking.waited fine,selected,high,carries,.waited _ _ _,.cons short rfl rfl,
      fun next written => play_write [] waited written,.inl ⟨rfl,rfl⟩⟩
  | @rise value acts bits selected high shifts ih =>
    obtain ⟨⟨cycles,act⟩,rest,rfl,rfl,rfl⟩ := map_eq_cons_iff.mp does
    rw [drop_byteBits inside,cons_append] at same
    obtain ⟨carries,later⟩ := List.cons.inj same
    obtain ⟨subsecond,calendar,waited,fine,short⟩ := taking.sound.wait cycles
    by_cases last : count = 7
    · subst last
      obtain rfl : bits = more := later
      exact ⟨_,value,rest,taking.waited fine,selected,high,carries,.waited _ _ _,.cons short rfl rfl,
        fun next written => play_write rest waited written,.inr shifts⟩
    · obtain ⟨next,written,sub,still,between,more'⟩ := (taking.waited fine).rise (by omega) selected high carries
      obtain ⟨mid,final,left,ends⟩ := ih more' (by omega) rfl later
      exact ⟨mid,final,left,ends.cons (play_write rest waited written) ((Between.waited _ _ _).trans between) (.cons short sub still)⟩
  | @still level value acts bits selected steady shifts ih =>
    obtain ⟨⟨cycles,act⟩,rest,rfl,rfl,rfl⟩ := map_eq_cons_iff.mp does
    obtain ⟨subsecond,calendar,waited,fine,short⟩ := taking.sound.wait cycles
    obtain ⟨next,written,sub,still,between,more'⟩ := (taking.waited fine).still selected steady
    obtain ⟨mid,final,left,ends⟩ := ih more' inside rfl same
    exact ⟨mid,final,left,ends.cons (play_write rest waited written) ((Between.waited _ _ _).trans between) (.cons short sub still)⟩

end Taking

def Long (command : Command) : Prop := command = .dateTime ∨ command = .time

variable {command : Command} {reading : Bool} {value : UInt16}

theorem prepareOutput_payload (long : Long command) (rtc : RtcGpio) (index : Fin 7) (inside : index.val < command.byteLen) :
    (rtc.prepareOutput command).transferBytes index = (rtc.calendar.payload command rtc.control).getD index 0 := by
  rcases long with rfl | rfl
  · fin_cases index <;> rfl
  · obtain ⟨index,small⟩ := index
    have short : index < 3 := inside
    interval_cases index <;> rfl

/-- A request is in, and the answer to it is ready. -/
structure Asked (command : Command) (reading : Bool) (answer : Bytes) (rtc : RtcGpio) : Prop where
  sound : rtc.Sound
  step : rtc.transferStep = 2
  clocked : rtc.lastSck = true
  driven : rtc.direction = 7
  readable : rtc.readWrite = true
  quiet : rtc.readBitSampled = false
  bitsRead : rtc.bitsRead = 0
  bits : rtc.bits = 0
  asked : rtc.command = some command
  reads : rtc.commandReading = reading
  index : rtc.transferIndex = 0
  remaining : rtc.bytesRemaining = command.byteLen
  high : pin 0 rtc.dataLatch = true
  chip : pin 2 rtc.dataLatch = true
  shows : reading = true → ∀ index : Fin 7, index.val < command.byteLen → rtc.transferBytes index = answer.getD index 0

theorem processInputByte_request (idle : rtc.command = none) (bits : rtc.bits = command.request reading) :
    rtc.processInputByte = some (startCommand command reading {rtc with bits := 0, bitsRead := 0}) := by
  obtain ⟨low,found,flag⟩ := command.request_spec reading
  unfold processInputByte
  simp only [idle,bits,low,found,flag,ne_eq,not_true_eq_false,if_false]

theorem Taking.request (long : Long command) (taking : rtc.Taking 7 (command.request reading) false) (idle : rtc.command = none)
    (selected : Selected value) (high : clock value = true) (carries : pin 1 value.toUInt8 = pin 7 (command.request reading)) :
    ∃ next, rtc.write16 gpioData value = some (true,next) ∧ next.subsecondCycles = rtc.subsecondCycles ∧
      next.calendar = rtc.calendar ∧ next.control = rtc.control ∧
        next.Asked command reading (next.calendar.payload command next.control) := by
  have written := taking.whole selected high carries (processInputByte_request idle (low_eight _))
  have sound := taking.sound.write16 written
  refine ⟨_,written,?_⟩
  have bytes := prepareOutput_payload long
  have clockHigh : pin 0 (value.toUInt8 &&& gpioMask) = true := (pin_masked (by decide) _).trans high
  have chip : pin 2 (value.toUInt8 &&& gpioMask) = true := (pin_masked (by decide) _).trans selected
  rcases long with rfl | rfl <;> cases reading
  · exact ⟨rfl,rfl,rfl,sound,taking.step,rfl,taking.driven,taking.readable,taking.quiet,rfl,rfl,rfl,rfl,rfl,rfl,clockHigh,chip,
      fun reads => nomatch reads⟩
  · exact ⟨rfl,rfl,rfl,sound,taking.step,rfl,taking.driven,taking.readable,taking.quiet,rfl,rfl,rfl,rfl,rfl,rfl,clockHigh,chip,
      fun _ => bytes _⟩
  · exact ⟨rfl,rfl,rfl,sound,taking.step,rfl,taking.driven,taking.readable,taking.quiet,rfl,rfl,rfl,rfl,rfl,rfl,clockHigh,chip,
      fun reads => nomatch reads⟩
  · exact ⟨rfl,rfl,rfl,sound,taking.step,rfl,taking.driven,taking.readable,taking.quiet,rfl,rfl,rfl,rfl,rfl,rfl,clockHigh,chip,
      fun _ => bytes _⟩

/-- Some bytes of a command are in, others are to come. -/
structure Filling (command : Command) (before more : Bytes) (rtc : RtcGpio) : Prop where
  asked : rtc.command = some command
  index : rtc.transferIndex = before.length
  remaining : rtc.bytesRemaining = more.length
  holds : ∀ index : Fin 7, index.val < before.length → rtc.transferBytes index = before.getD index 0

theorem Asked.taking {answer : Bytes} (asked : rtc.Asked command false answer) (byte : UInt8) : rtc.Taking 0 byte true :=
  ⟨asked.sound,asked.step,asked.clocked,asked.driven,asked.readable,asked.reads,asked.quiet,asked.bitsRead,
    asked.bits.trans UInt8.and_zero.symm⟩

theorem Asked.filling {more answer : Bytes} (asked : rtc.Asked command false answer) (size : more.length = command.byteLen) : rtc.Filling command [] more :=
  ⟨asked.asked,asked.index,asked.remaining.trans size.symm,fun _ none' => absurd none' (Nat.not_lt_zero _)⟩

theorem Filling.between {before more : Bytes} (filling : rtc.Filling command before more) (between : Between rtc next) :
    next.Filling command before more :=
  ⟨between.command.trans filling.asked,between.index.trans filling.index,between.remaining.trans filling.remaining,
    fun index inside => (congrFun between.bytes index).trans (filling.holds index inside)⟩

theorem putByte_holds {before : Bytes} {bytes : Fin 7 → UInt8} (byte : UInt8)
    (holds : ∀ index : Fin 7, index.val < before.length → bytes index = before.getD index 0) (index : Fin 7)
    (inside : index.val < (before ++ [byte]).length) : putByte before.length byte bytes index = (before ++ [byte]).getD index 0 := by
  rw [length_append,length_singleton] at inside
  have room : before.length < 7 ∨ index.val < before.length := by omega
  by_cases last : index.val = before.length
  · have short : before.length < 7 := last ▸ index.isLt
    obtain rfl : index = ⟨before.length,short⟩ := Fin.ext last
    rw [putByte,dif_pos short,Function.update_self]
    simp
  · have earlier : index.val < before.length := by omega
    rw [getD_append _ _ _ _ earlier,← holds index earlier,putByte]
    split
    · exact Function.update_of_ne (fun same => last (congrArg Fin.val same)) _ _
    · rfl

theorem getD_ofFn (bytes : Fin 7 → UInt8) (index : Fin 7) : (List.ofFn bytes).getD index 0 = bytes index := by
  rw [getD_eq_getElem _ _ (by rw [length_ofFn]; exact index.isLt),List.getElem_ofFn]

theorem payload_time (date : Calendar) (control : UInt8) : date.payload .time control =
    [Calendar.hourByte date.hour control,toBcd date.minute,toBcd date.second] := rfl

theorem executeCommand_payload {date : Calendar} (long : Long command) (valid : date.Valid)
    (holds : ∀ index : Fin 7, index.val < command.byteLen → rtc.transferBytes index = (date.payload command rtc.control).getD index 0) :
    ∃ calendar, rtc.executeCommand command = some {rtc with calendar := calendar} ∧
      calendar.payload command rtc.control = date.payload command rtc.control := by
  rcases long with rfl | rfl
  · have bytes : List.ofFn rtc.transferBytes = date.payload .dateTime rtc.control := by
      exact congrArg List.ofFn (funext fun index => (holds index index.isLt).trans (getD_ofFn _ index))
    have decoded := decodeDateTime_payload valid rtc.control
    refine ⟨date,?_,rfl⟩
    rw [executeCommand,bytes,Calendar.setDateTime,decoded]
    rfl
  · have bytes : (List.ofFn rtc.transferBytes).take 3 = date.payload .time rtc.control := by
      show [rtc.transferBytes 0,rtc.transferBytes 1,rtc.transferBytes 2] = _
      rw [holds 0 (by decide),holds 1 (by decide),holds 2 (by decide)]
      rfl
    have decoded := decodeTime_payload valid rtc.control
    refine ⟨{rtc.calendar with hour := date.hour, minute := date.minute, second := date.second},?_,
      (payload_time _ _).trans (payload_time date _).symm⟩
    rw [executeCommand,bytes,Calendar.setTime,decoded]
    rfl

namespace Filling
variable {before more : Bytes} {byte : UInt8}

/-- The clock with one more byte. -/
def stored (byte : UInt8) (value : UInt16) (rtc : RtcGpio) : RtcGpio :=
  {Taking.shifted 7 byte value rtc with
    bits := 0
    bitsRead := 0
    transferBytes := putByte rtc.transferIndex byte rtc.transferBytes
    transferIndex := min (rtc.transferIndex + 1) 255
    bytesRemaining := rtc.bytesRemaining - 1}

theorem processInputByte_command (rtc : RtcGpio) (asked : rtc.command = some command) :
    rtc.processInputByte = storeCommandByte command rtc.bits {rtc with bits := 0, bitsRead := 0} := by
  unfold processInputByte
  dsimp only
  split
  · rename_i other found
    obtain rfl := Option.some.inj (found.symm.trans asked)
    rfl
  · rename_i none'
    nomatch asked.symm.trans none'

theorem processInputByte_stored (byte : UInt8) (value : UInt16) (asked : rtc.command = some command) : (Taking.shifted 7 byte value rtc).processInputByte =
    if (stored byte value rtc).bytesRemaining ≠ 0 then some (stored byte value rtc)
    else ((stored byte value rtc).executeCommand command).map abortTransfer := by
  have bits : (Taking.shifted 7 byte value rtc).bits = byte := low_eight byte
  rw [processInputByte_command (Taking.shifted 7 byte value rtc) asked,bits]
  rfl

theorem store (filling : rtc.Filling command before (byte::more)) (room : before.length < 7) (some' : more ≠ [])
    (taking : rtc.Taking 7 byte false) (selected : Selected value) (high : clock value = true)
    (carries : pin 1 value.toUInt8 = pin 7 byte) :
    ∃ next, rtc.write16 gpioData value = some (true,next) ∧ next.control = rtc.control ∧ next.Filling command (before ++ [byte]) more ∧
      ∀ byte, next.Taking 0 byte true := by
  have remaining : (stored byte value rtc).bytesRemaining = more.length := by
    show rtc.bytesRemaining - 1 = more.length
    rw [filling.remaining,length_cons,Nat.add_sub_cancel]
  have left : (stored byte value rtc).bytesRemaining ≠ 0 := by
    rw [remaining]
    exact length_eq_zero_iff.not.mpr some'
  have processed := processInputByte_stored byte value filling.asked
  rw [if_pos left] at processed
  have written := taking.whole selected high carries processed
  refine ⟨_,written,rfl,⟨filling.asked,?_,remaining,?_⟩,fun _ => ⟨taking.sound.write16 written,taking.step,rfl,taking.driven,
    taking.readable,taking.writing,taking.quiet,rfl,UInt8.and_zero.symm⟩⟩
  · show min (rtc.transferIndex + 1) 255 = _
    rw [filling.index,length_append,length_singleton]
    omega
  · show ∀ index : Fin 7, _ → putByte rtc.transferIndex byte rtc.transferBytes index = _
    rw [filling.index]
    exact putByte_holds byte filling.holds

theorem last {date : Calendar} (long : Long command) (valid : date.Valid) (filling : rtc.Filling command before [byte])
    (whole : before ++ [byte] = date.payload command rtc.control) (size : before.length + 1 = command.byteLen)
    (taking : rtc.Taking 7 byte false) (selected : Selected value) (high : clock value = true)
    (carries : pin 1 value.toUInt8 = pin 7 byte) :
    ∃ next, rtc.write16 gpioData value = some (true,next) ∧ next.Sound ∧ next.control = rtc.control ∧
      next.calendar.payload command next.control = date.payload command rtc.control := by
  have none' : ¬(stored byte value rtc).bytesRemaining ≠ 0 := by
    show ¬rtc.bytesRemaining - 1 ≠ 0
    rw [filling.remaining]
    exact not_not_intro rfl
  have holds : ∀ index : Fin 7, index.val < command.byteLen →
      (stored byte value rtc).transferBytes index = (date.payload command (stored byte value rtc).control).getD index 0 := by
    intro index inside
    show putByte rtc.transferIndex byte rtc.transferBytes index = (date.payload command rtc.control).getD index 0
    rw [filling.index,← whole]
    exact putByte_holds byte filling.holds index (by rwa [length_append,length_singleton,size])
  obtain ⟨calendar,executed,same⟩ := executeCommand_payload long valid holds
  have processed := processInputByte_stored byte value filling.asked
  rw [if_neg none',executed,Option.map_some] at processed
  have written := taking.whole selected high carries processed
  exact ⟨_,written,taking.sound.write16 written,rfl,same⟩

theorem play {date : Calendar} (long : Long command) (valid : date.Valid) (filling : rtc.Filling command before (byte::more))
    (taking : rtc.Taking 0 byte true) (whole : before ++ byte::more = date.payload command rtc.control)
    (size : before.length + (more.length + 1) = command.byteLen)
    (shifts : Shifts true (timed.map Prod.snd) (bitsOf (byte::more))) :
    ∃ next, play timed rtc = some ([],next) ∧ next.Sound ∧ next.control = rtc.control ∧
      next.calendar.payload command next.control = date.payload command rtc.control := by
  have short : command.byteLen ≤ 7 := by cases command <;> decide
  induction more generalizing rtc timed before byte with
  | nil =>
    obtain ⟨mid,value,rest,ends⟩ := taking.play_byte shifts (by decide) rfl flatMap_cons
    have control := ends.between.control
    have ended : rest = [] := by
      obtain ⟨none',_⟩ | more := ends.after
      · exact none'
      · exact absurd rfl more.ne_nil
    subst ended
    obtain ⟨next,written,sound,kept,same⟩ := (filling.between ends.between).last long valid (control.symm ▸ whole) size ends.taking
      ends.selected ends.high ends.carries
    exact ⟨next,ends.goes next written,sound,kept.trans control,same.trans (by rw [control])⟩
  | cons after more ih =>
    obtain ⟨mid,value,rest,ends⟩ := taking.play_byte shifts (by decide) rfl flatMap_cons
    have control := ends.between.control
    have goesOn : Shifts true (rest.map Prod.snd) (bitsOf (after::more)) := by
      obtain ⟨_,none'⟩ | more := ends.after
      · nomatch none'
      · exact more
    rw [length_cons] at size
    obtain ⟨next,written,kept,fills,takes⟩ := (filling.between ends.between).store (by omega) (cons_ne_nil _ _) ends.taking
      ends.selected ends.high ends.carries
    have same : next.control = rtc.control := kept.trans control
    have room : (before ++ [byte]).length + (more.length + 1) = command.byteLen := by
      rw [length_append,length_singleton]
      omega
    obtain ⟨last,played,sound,final,shown⟩ := ih fills (takes after) (by rw [append_assoc,same]; exact whole) room goesOn
    exact ⟨last,(ends.goes next written).trans played,sound,final.trans same,shown.trans (by rw [same])⟩

end Filling

theorem play_request {more : Bytes} (long : Long command) (sound : rtc.Sound)
    (sends : Sends (command.request reading::more) (timed.map Prod.snd)) : ∃ rest next, play timed rtc = play rest next ∧
      Ahead rtc timed next rest ∧ next.control = rtc.control ∧ next.Asked command reading (next.calendar.payload command next.control) ∧
        (rest = [] ∧ bitsOf more = [] ∨ Shifts true (rest.map Prod.snd) (bitsOf more)) := by
  obtain ⟨acts,does,shifts⟩ := sends
  obtain ⟨rest,one,selected,does,ahead,taking,idle,control⟩ := play_select sound does
  obtain ⟨mid,value,left,ends⟩ := (taking (command.request reading)).play_byte shifts (by decide) does flatMap_cons
  have waits : mid.command = none := ends.between.command.trans idle
  obtain ⟨next,written,subsecond,calendar,same,asked⟩ := ends.taking.request long waits ends.selected ends.high ends.carries
  have later : Ahead mid left next left := fun _ => ⟨calendar,congrArg (· + Timed.cycles left) subsecond⟩
  exact ⟨left,next,selected.trans (ends.goes next written),(ahead.trans ends.ahead).trans later,
    same.trans (ends.between.control.trans control),asked,ends.after⟩

theorem play_setting {date : Calendar} (long : Long command) (valid : date.Valid) (sound : rtc.Sound)
    (sends : Sends (command.request false::date.payload command rtc.control) (timed.map Prod.snd)) :
    ∃ next, play timed rtc = some ([],next) ∧ next.Sound ∧ next.control = rtc.control ∧
      next.calendar.payload command next.control = date.payload command rtc.control := by
  obtain ⟨rest,one,played,_,control,asked,after⟩ := play_request long sound sends
  obtain ⟨byte,more,whole,size⟩ : ∃ byte more, date.payload command rtc.control = byte::more ∧ more.length + 1 = command.byteLen := by
    rcases long with rfl | rfl <;> exact ⟨_,_,rfl,rfl⟩
  rw [whole] at after
  have shifts : Shifts true (rest.map Prod.snd) (bitsOf (byte::more)) := by
    obtain ⟨_,none'⟩ | shifts := after
    · nomatch none'
    · exact shifts
  have filling : Filling command [] (byte::more) one := asked.filling size
  have answer : [] ++ byte::more = date.payload command one.control := by
    rw [control]
    exact whole.symm
  obtain ⟨next,going,fine,same,shown⟩ := filling.play long valid (asked.taking byte) answer ((zero_add _).trans size) shifts
  exact ⟨next,played.trans going,fine,same.trans control,shown.trans (by rw [control])⟩

theorem play_asking (long : Long command) (sound : rtc.Sound) (sends : Sends [command.request true] (timed.map Prod.snd))
    (below : rtc.subsecondCycles + timed.cycles < cpuClockHz) :
    ∃ next, play timed rtc = some ([],next) ∧ next.Asked command true (rtc.calendar.payload command rtc.control) := by
  obtain ⟨rest,next,played,ahead,control,asked,after⟩ := play_request long sound sends
  obtain ⟨rfl,_⟩ | shifts := after
  · obtain ⟨calendar,_⟩ := ahead below
    rw [calendar,control] at asked
    exact ⟨next,played,asked⟩
  · exact absurd rfl shifts.ne_nil

end RtcGpio

end ZeffBoy.Gba.Rtc
