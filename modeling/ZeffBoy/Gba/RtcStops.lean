import ZeffBoy.Gba.RtcSafety

/-! A state that the reader accepts may claim more bytes than there are. Such a state stops the program, unless its next write ends
the transfer: the exact condition. -/
namespace ZeffBoy.Gba.Rtc.RtcGpio
variable {rtc : RtcGpio}

section Harmless

def CanHold (pins : UInt8) (rtc : RtcGpio) : Prop :=
  (rtc.direction ||| rtc.pinState) &&& pins = pins ∨ (rtc.dataLatch ||| rtc.pinState) &&& pins = pins

/-- When the clock falls, the transfer is over. -/
structure LastBit (rtc : RtcGpio) : Prop where
  step : rtc.transferStep = 2
  index : 7 ≤ rtc.transferIndex
  remaining : rtc.bytesRemaining ≤ 1
  bits : rtc.bitsRead = 7
  sampled : rtc.readBitSampled = true
  lastSck : rtc.lastSck = true

/-- The bytes to be given out are all there, or the next write ends the transfer. -/
def Harmless (rtc : RtcGpio) : Prop :=
  rtc.Paced ∨ (rtc.transferStep = 2 ∧ ¬rtc.CanHold cs) ∨ (rtc.LastBit ∧ ¬rtc.CanHold (sck ||| cs))

/-- What the reader checks, as far as it matters here. -/
structure Bounded (rtc : RtcGpio) : Prop where
  step : rtc.transferStep ≤ 2
  bits : rtc.bitsRead ≤ 7
  calendar : rtc.calendar.Valid

theorem Bounded.steady (bounded : rtc.Bounded) (paced : rtc.Paced) : rtc.Steady := ⟨bounded.step,bounded.bits,bounded.calendar,paced⟩

theorem Steady.bounded (steady : rtc.Steady) : rtc.Bounded := ⟨steady.step,steady.bits,steady.calendar⟩

theorem pin_or (index : Nat) (left right : UInt8) : pin index (left ||| right) = (pin index left || pin index right) := by
  simp only [pin,UInt8.toBitVec_or,BitVec.getLsbD_or]

theorem and_cs_self (pins : UInt8) : pins &&& cs = cs ↔ pin 2 pins = true := by
  rw [← UInt8.toBitVec_inj]
  exact (by decide : ∀ pins : BitVec 8, pins &&& 4#8 = 4#8 ↔ pins.getLsbD 2 = true) pins.toBitVec

theorem canHold_cs : rtc.CanHold cs ↔
    (pin 2 rtc.direction = true ∨ pin 2 rtc.pinState = true) ∨ (pin 2 rtc.dataLatch = true ∨ pin 2 rtc.pinState = true) := by
  rw [CanHold,and_cs_self,and_cs_self,pin_or,pin_or,Bool.or_eq_true,Bool.or_eq_true]

theorem canHold_both : rtc.CanHold (sck ||| cs) ↔
    ((pin 0 rtc.direction = true ∨ pin 0 rtc.pinState = true) ∧ (pin 2 rtc.direction = true ∨ pin 2 rtc.pinState = true)) ∨
      ((pin 0 rtc.dataLatch = true ∨ pin 0 rtc.pinState = true) ∧ (pin 2 rtc.dataLatch = true ∨ pin 2 rtc.pinState = true)) := by
  rw [CanHold,and_both,and_both,pin_or,pin_or,pin_or,pin_or]
  simp only [Bool.or_eq_true]

section Writes

theorem pin_drivePins {index : Nat} (inside : index < 8) : pin index rtc.drivePins.pinState =
    if pin index rtc.direction then pin index rtc.dataLatch else pin index rtc.pinState := pin_driven inside _ _ _

theorem perform_data (value : UInt16) : rtc.perform (.write16 gpioData value) =
    {rtc with dataLatch := value.toUInt8 &&& gpioMask}.drivePins.observePins := by
  simp only [perform,write16,if_true]
  cases RtcGpio.observePins _ <;> rfl

def answer (rtc : RtcGpio) : Option RtcGpio := if rtc.transferStep = 2 ∧ rtc.commandReading then rtc.driveOutput else some rtc

theorem perform_direction (value : UInt16) : rtc.perform (.write16 gpioDirection value) =
    {rtc with direction := value.toUInt8 &&& gpioMask}.drivePins.observePins.bind answer := by
  simp only [perform,write16,if_neg (by decide : ¬gpioDirection = gpioData),if_true]
  cases RtcGpio.observePins _ with
  | none => rfl
  | some next =>
    simp only [Option.bind_eq_bind,Option.bind_some,answer]
    split
    · cases next.driveOutput <;> rfl
    · rfl

theorem observePins_ends (bounded : rtc.Bounded) (step : rtc.transferStep = 2)
    (ends : pin 2 rtc.pinState = false ∨ (rtc.LastBit ∧ rtc.commandReading = true ∧ pin 0 rtc.pinState = false)) :
    ∃ next, rtc.observePins = some next ∧ next.Steady ∧ next.commandReading = false := by
  simp only [observePins,step]
  by_cases selected : rtc.pinState &&& cs = 0
  · rw [if_pos selected]
    refine ⟨_,rfl,⟨?_,Nat.zero_le _,bounded.calendar,fun reading => absurd reading Bool.false_ne_true⟩,rfl⟩
    dsimp only
    split <;> decide
  · obtain ⟨last,reading,low⟩ := ends.resolve_left (fun low => selected ((and_cs _).mpr low))
    have falls : rtc.pinState &&& sck = 0 := (and_sck _).mpr low
    have finished : rtc.outputEdge = some {rtc.abortTransfer with
        bytesRemaining := 0, transferIndex := 0, readBitSampled := false, lastSck := false} := by
      have done : rtc.bytesRemaining - 1 = 0 := by
        have remaining := last.remaining
        omega
      simp only [outputEdge,last.sampled,last.bits,if_true,Library.checkedByte_pos (show 7 + 1 < 256 by decide),finishOutputByte,done]
      rfl
    rw [if_neg selected,if_neg (by simp [reading]),if_pos ⟨reading,last.lastSck,by simp [falls]⟩,finished]
    exact ⟨_,rfl,⟨step.le,Nat.zero_le _,bounded.calendar,fun reading => absurd reading Bool.false_ne_true⟩,rfl⟩

end Writes

theorem reading_of_not_paced (late : ¬rtc.Paced) : rtc.commandReading = true := by
  by_contra writing
  exact late fun reading => absurd reading writing

theorem held_drivePins (written : RtcGpio) (pins : written.pinState = rtc.pinState)
    (one : written.direction = rtc.direction ∨ written.dataLatch = rtc.dataLatch) :
    (pin 2 written.drivePins.pinState = true → rtc.CanHold cs) ∧
      (pin 0 written.drivePins.pinState = true → pin 2 written.drivePins.pinState = true → rtc.CanHold (sck ||| cs)) := by
  rw [canHold_cs,canHold_both,pin_drivePins (by decide),pin_drivePins (by decide),pins]
  rcases one with same | same <;> rw [same] <;> grind

theorem ends_of_cannotHold {pinned : RtcGpio} (reading : rtc.commandReading = true)
    (harmless : (rtc.transferStep = 2 ∧ ¬rtc.CanHold cs) ∨ (rtc.LastBit ∧ ¬rtc.CanHold (sck ||| cs)))
    (same : pinned = {rtc with dataLatch := pinned.dataLatch, direction := pinned.direction, pinState := pinned.pinState})
    (held : (pin 2 pinned.pinState = true → rtc.CanHold cs) ∧
      (pin 0 pinned.pinState = true → pin 2 pinned.pinState = true → rtc.CanHold (sck ||| cs))) :
    pinned.transferStep = 2 ∧ (pin 2 pinned.pinState = false ∨
      (pinned.LastBit ∧ pinned.commandReading = true ∧ pin 0 pinned.pinState = false)) := by
  rw [same]
  rcases harmless with ⟨step,never⟩ | ⟨last,never⟩
  · exact ⟨step,.inl (Bool.eq_false_iff.mpr fun high => never (held.1 high))⟩
  · refine ⟨last.step,?_⟩
    by_cases high : pin 2 pinned.pinState = true
    · exact .inr ⟨⟨last.step,last.index,last.remaining,last.bits,last.sampled,last.lastSck⟩,reading,
        Bool.eq_false_iff.mpr fun clock => never (held.2 clock high)⟩
    · exact .inl (Bool.eq_false_iff.mpr high)

theorem Bounded.perform (bounded : rtc.Bounded) (harmless : rtc.Harmless) (call : GpioCall) :
    ∃ next, rtc.perform call = some next ∧ next.Bounded ∧ next.Harmless := by
  by_cases paced : rtc.Paced
  · obtain ⟨next,performed,steady⟩ := (bounded.steady paced).perform call
    exact ⟨next,performed,steady.bounded,.inl steady.paced⟩
  have reading := reading_of_not_paced paced
  replace harmless := harmless.resolve_left paced
  -- Neither the calendar nor the switch of the port matters.
  have same {next : RtcGpio} (seconds : Nat) (calendar : Calendar) (valid : calendar.Valid) (readWrite : Bool)
      (given : next = {rtc with subsecondCycles := seconds, calendar := calendar, readWrite := readWrite}) :
      next.Bounded ∧ next.Harmless := by
    subst given
    refine ⟨⟨bounded.step,bounded.bits,valid⟩,.inr ?_⟩
    rcases harmless with stalled | ⟨last,never⟩
    · exact .inl stalled
    · exact .inr ⟨⟨last.step,last.index,last.remaining,last.bits,last.sampled,last.lastSck⟩,never⟩
  have ended (pinned : RtcGpio) (kept : pinned.Bounded) (ends : pinned.transferStep = 2 ∧ (pin 2 pinned.pinState = false ∨
      (pinned.LastBit ∧ pinned.commandReading = true ∧ pin 0 pinned.pinState = false))) :
      ∃ next, pinned.observePins = some next ∧ next.Steady ∧ next.commandReading = false :=
    observePins_ends kept ends.1 ends.2
  cases call with
  | read8 addr => exact ⟨rtc,rfl,bounded,.inr harmless⟩
  | stepCycles cycles =>
    obtain ⟨rest,calendar,ran,_,valid⟩ := bounded.calendar.stepSeconds (min (rtc.subsecondCycles + cycles) 0xFFFFFFFF)
    refine ⟨{rtc with subsecondCycles := rest, calendar := calendar},?_,same rest calendar valid rtc.readWrite rfl⟩
    rw [RtcGpio.perform,RtcGpio.stepCycles,ran,Option.bind_eq_bind,Option.bind_some]
  | write16 addr value =>
    by_cases data : addr = gpioData
    · subst data
      let pinned : RtcGpio := {rtc with dataLatch := value.toUInt8 &&& gpioMask}.drivePins
      obtain ⟨next,seen,steady,_⟩ := ended pinned ⟨bounded.step,bounded.bits,bounded.calendar⟩
        (ends_of_cannotHold reading harmless rfl (held_drivePins _ rfl (.inl rfl)))
      exact ⟨next,by rw [perform_data,seen],steady.bounded,.inl steady.paced⟩
    by_cases direction : addr = gpioDirection
    · subst direction
      let pinned : RtcGpio := {rtc with direction := value.toUInt8 &&& gpioMask}.drivePins
      obtain ⟨next,seen,steady,writing⟩ := ended pinned ⟨bounded.step,bounded.bits,bounded.calendar⟩
        (ends_of_cannotHold reading harmless rfl (held_drivePins _ rfl (.inr rfl)))
      refine ⟨next,?_,steady.bounded,.inl steady.paced⟩
      rw [perform_direction,seen,Option.bind_some,answer,if_neg (by simp [writing])]
    · simp only [RtcGpio.perform,write16,if_neg data,if_neg direction]
      split
      · exact ⟨_,rfl,same _ _ bounded.calendar _ rfl⟩
      · exact ⟨_,rfl,bounded,.inr harmless⟩

theorem Bounded.run (bounded : rtc.Bounded) (harmless : rtc.Harmless) (calls : List GpioCall) : (rtc.run calls).isSome = true := by
  induction calls generalizing rtc with
  | nil => rfl
  | cons call calls ih =>
    obtain ⟨next,performed,kept,good⟩ := bounded.perform harmless call
    rw [RtcGpio.run,List.foldlM_cons,performed,Option.bind_eq_bind,Option.bind_some]
    exact ih kept good

end Harmless

section Stops

def Stops (rtc : RtcGpio) : Prop := ∃ calls, rtc.run calls = none

theorem Stops.now (call : GpioCall) (stopped : rtc.perform call = none) : rtc.Stops := by
  refine ⟨[call],?_⟩
  rw [run,List.foldlM_cons,stopped]
  rfl

theorem Stops.after (call : GpioCall) {next : RtcGpio} (performed : rtc.perform call = some next) (later : next.Stops) : rtc.Stops := by
  obtain ⟨calls,stopped⟩ := later
  refine ⟨call::calls,?_⟩
  rw [run,List.foldlM_cons,performed]
  exact stopped

theorem Stops.either (call : GpioCall) {good : RtcGpio → Prop}
    (outcome : rtc.perform call = none ∨ ∃ next, rtc.perform call = some next ∧ good next)
    (later : ∀ next, good next → next.Stops) : rtc.Stops := by
  obtain stopped | ⟨next,performed,holds⟩ := outcome
  · exact .now call stopped
  · exact .after call performed (later next holds)

/-- More bytes are to be given out than there are. -/
structure Late (rtc : RtcGpio) : Prop where
  step : rtc.transferStep = 2
  reading : rtc.commandReading = true
  late : 7 < rtc.transferIndex + max rtc.bytesRemaining 1
  bits : rtc.bitsRead ≤ 7
  selected : pin 2 rtc.pinState = true

theorem Late.driveSio (bit : UInt8) (late : rtc.Late) : (rtc.driveSio bit).Late ∧
    pin 0 (rtc.driveSio bit).pinState = pin 0 rtc.pinState := by
  have shown := pin_shown rtc.pinState bit
  rw [driveSio_eq]
  split
  · exact ⟨⟨late.step,late.reading,late.late,late.bits,shown.2.trans late.selected⟩,shown.1⟩
  · exact ⟨⟨late.step,late.reading,late.late,late.bits,late.selected⟩,rfl⟩

def position (rtc : RtcGpio) : Nat := rtc.transferIndex * 8 + rtc.bitsRead

def Falls (rtc : RtcGpio) : Prop := rtc.lastSck = true ∧ pin 0 rtc.pinState = false

/-- What is left of a late transfer after a look at the pins. -/
structure Observed (rtc next : RtcGpio) : Prop where
  late : next.Late
  direction : next.direction = rtc.direction
  dataLatch : next.dataLatch = rtc.dataLatch
  clock : pin 0 next.pinState = pin 0 rtc.pinState
  lastSck : next.lastSck = pin 0 rtc.pinState
  raised : rtc.lastSck = false → pin 0 rtc.pinState = true → next.readBitSampled = true
  held : ¬rtc.Falls → next.readBitSampled = false → rtc.readBitSampled = false
  position : next.position = rtc.position ∨ rtc.Falls ∧ next.position = rtc.position + 1
  counted : rtc.Falls → rtc.readBitSampled = true → next.position = rtc.position + 1
  inside : rtc.transferIndex ≤ 6 → next.transferIndex ≤ 6

theorem Late.driveOutput (late : rtc.Late) : rtc.driveOutput = none ∨
    rtc.transferIndex ≤ 6 ∧ ∃ bit, rtc.driveOutput = some (rtc.driveSio bit) := by
  by_cases inside : rtc.transferIndex ≤ 6
  · exact .inr ⟨inside,driveOutput_some rtc (Nat.lt_succ_of_le inside) (Nat.lt_succ_of_le late.bits)⟩
  · exact .inl (driveOutput_none (by omega))

theorem Late.given {shown : RtcGpio} (late : shown.Late) (inside : shown.transferIndex ≤ 6) (falls : rtc.Falls) (bit : UInt8)
    (same : shown.direction = rtc.direction ∧ shown.dataLatch = rtc.dataLatch ∧ shown.pinState = rtc.pinState)
    (next : shown.position = rtc.position + 1) : Observed rtc {shown.driveSio bit with readBitSampled := false, lastSck := false} := by
  obtain ⟨driven,clock⟩ := late.driveSio bit
  have fields := driveSio_eq bit shown
  have position : (shown.driveSio bit).position = rtc.position + 1 := by
    rw [fields]
    exact next
  refine ⟨⟨driven.step,driven.reading,driven.late,driven.bits,driven.selected⟩,?_,?_,clock.trans (congrArg _ same.2.2),falls.2.symm,?_,
    fun up => absurd falls up,.inr ⟨falls,position⟩,fun _ _ => position,fun _ => ?_⟩
  · rw [fields]
    exact same.1
  · rw [fields]
    exact same.2.1
  · intro low
    rw [falls.1] at low
    nomatch low
  · rw [fields]
    exact inside

theorem Late.outputEdge (late : rtc.Late) (falls : rtc.Falls)
    (goes : ¬(rtc.readBitSampled = true ∧ rtc.bitsRead = 7 ∧ rtc.bytesRemaining ≤ 1)) :
    rtc.outputEdge = none ∨ ∃ next, rtc.outputEdge = some next ∧ Observed rtc next := by
  have bits := late.bits
  have far := late.late
  unfold RtcGpio.outputEdge
  split
  · rename_i sampled
    rw [Library.checkedByte_pos (show rtc.bitsRead + 1 < 256 by omega)]
    simp only [Option.bind_eq_bind,Option.bind_some]
    split
    · rename_i last
      have more : ¬rtc.bytesRemaining - 1 = 0 := fun done => goes ⟨sampled,by omega,by omega⟩
      simp only [finishOutputByte,more,if_false]
      have later : Late {rtc with
          bitsRead := 0, transferIndex := min (rtc.transferIndex + 1) 255, bytesRemaining := rtc.bytesRemaining - 1} :=
        ⟨late.step,late.reading,by dsimp only; omega,Nat.zero_le _,late.selected⟩
      obtain none' | ⟨inside,bit,driven⟩ := later.driveOutput
      · exact .inl (by rw [none']; rfl)
      · refine .inr ⟨_,by rw [driven]; rfl,later.given inside falls bit ⟨rfl,rfl,rfl⟩ ?_⟩
        have near : min (rtc.transferIndex + 1) 255 ≤ 6 := inside
        dsimp only [position]
        omega
    · rename_i notLast
      have later : Late {rtc with bitsRead := rtc.bitsRead + 1} :=
        ⟨late.step,late.reading,late.late,by dsimp only; omega,late.selected⟩
      obtain none' | ⟨inside,bit,driven⟩ := later.driveOutput
      · exact .inl (by rw [none']; rfl)
      · exact .inr ⟨_,by rw [driven]; rfl,later.given inside falls bit ⟨rfl,rfl,rfl⟩ rfl⟩
  · rename_i unsampled
    refine .inr ⟨_,rfl,⟨late.step,late.reading,late.late,late.bits,late.selected⟩,rfl,rfl,rfl,falls.2.symm,?_,?_,.inl rfl,?_,id⟩
    · intro low
      rw [falls.1] at low
      nomatch low
    · exact fun up => absurd falls up
    · exact fun _ sampled => absurd sampled unsampled

theorem Late.observePins (late : rtc.Late)
    (goes : rtc.Falls → ¬(rtc.readBitSampled = true ∧ rtc.bitsRead = 7 ∧ rtc.bytesRemaining ≤ 1)) :
    rtc.observePins = none ∨ ∃ next, rtc.observePins = some next ∧ Observed rtc next := by
  have selected : ¬rtc.pinState &&& cs = 0 := by
    rw [and_cs,late.selected]
    exact Bool.noConfusion
  have clock : (decide (rtc.pinState &&& sck ≠ 0) : Bool) = pin 0 rtc.pinState := by
    have low := and_sck rtc.pinState
    by_cases high : rtc.pinState &&& sck = 0
    · simp [high,low.mp high]
    · simp [high,Bool.eq_true_of_not_eq_false (fun none' => high (low.mpr none'))]
  have step := late.step
  simp only [RtcGpio.observePins,step]
  rw [if_neg selected,if_neg (by simp [late.reading]),clock]
  by_cases falls : rtc.Falls
  · rw [if_pos ⟨late.reading,falls.1,falls.2⟩]
    exact late.outputEdge falls (goes falls)
  · rw [if_neg (fun edge => falls ⟨edge.2.1,edge.2.2⟩)]
    refine .inr ⟨_,rfl,⟨rfl,late.reading,late.late,late.bits,late.selected⟩,rfl,rfl,rfl,rfl,?_,?_,.inl rfl,
      fun edge => absurd edge falls,id⟩
    · intro low high
      simp [late.reading,low,high]
    · intro _ unsampled
      exact (Bool.or_eq_false_iff.mp unsampled).1

/-- The program drives the clock and the selection, and the clock is high. -/
structure Ready (rtc : RtcGpio) : Prop where
  late : rtc.Late
  inside : rtc.transferIndex ≤ 6
  lastSck : rtc.lastSck = true
  clock : pin 0 rtc.direction = true
  select : pin 2 rtc.direction = true

theorem Late.write_data (late : rtc.Late) (value : UInt16) (held : pin 2 rtc.direction = true → pin 2 (value.toUInt8 &&& gpioMask) = true)
    (goes : rtc.lastSck = true → (if pin 0 rtc.direction then pin 0 (value.toUInt8 &&& gpioMask) else pin 0 rtc.pinState) = false →
      ¬(rtc.readBitSampled = true ∧ rtc.bitsRead = 7 ∧ rtc.bytesRemaining ≤ 1)) :
    rtc.perform (.write16 gpioData value) = none ∨ ∃ next, rtc.perform (.write16 gpioData value) = some next ∧
      Observed {rtc with dataLatch := value.toUInt8 &&& gpioMask}.drivePins next := by
  have selected : pin 2 (RtcGpio.drivePins {rtc with dataLatch := value.toUInt8 &&& gpioMask}).pinState = true := by
    rw [pin_drivePins (by decide)]
    split
    · exact held ‹_›
    · exact late.selected
  have driven : Late (RtcGpio.drivePins {rtc with dataLatch := value.toUInt8 &&& gpioMask}) :=
    ⟨late.step,late.reading,late.late,late.bits,selected⟩
  rw [perform_data]
  refine driven.observePins fun falls => goes falls.1 ?_
  rw [← falls.2,pin_drivePins (by decide)]

theorem Ready.pulse (ready : rtc.Ready) : rtc.Stops ∨ ∃ next : RtcGpio, next.Ready ∧ next.readBitSampled = true ∧
    (rtc.readBitSampled = true → next.position = rtc.position + 1) ∧ (next.Stops → rtc.Stops) := by
  have more : ¬(rtc.readBitSampled = true ∧ rtc.bitsRead = 7 ∧ rtc.bytesRemaining ≤ 1) := by
    rintro ⟨_,_,few⟩
    have late := ready.late.late
    have inside := ready.inside
    omega
  obtain stopped | ⟨low,fallen,seen⟩ := ready.late.write_data 4 (fun _ => by decide) (fun _ _ => more)
  · exact .inl (.now _ stopped)
  have falls : RtcGpio.Falls (RtcGpio.drivePins {rtc with dataLatch := (4 : UInt16).toUInt8 &&& gpioMask}) := by
    refine ⟨ready.lastSck,?_⟩
    rw [pin_drivePins (by decide),if_pos ready.clock]
    exact (by decide : pin 0 ((4 : UInt16).toUInt8 &&& gpioMask) = false)
  have clock : pin 0 low.direction = true := by
    rw [seen.direction]
    exact ready.clock
  have select : pin 2 low.direction = true := by
    rw [seen.direction]
    exact ready.select
  have down : low.lastSck = false := seen.lastSck.trans falls.2
  obtain stopped | ⟨high,risen,shown⟩ := seen.late.write_data 5 (fun _ => by decide) (fun up => by rw [down] at up; nomatch up)
  · exact .inl (.after _ fallen (.now _ stopped))
  have rises : pin 0 (RtcGpio.drivePins {low with dataLatch := (5 : UInt16).toUInt8 &&& gpioMask}).pinState = true := by
    rw [pin_drivePins (by decide),if_pos clock]
    exact (by decide : pin 0 ((5 : UInt16).toUInt8 &&& gpioMask) = true)
  have inside := shown.inside (seen.inside ready.inside)
  refine .inr ⟨high,⟨shown.late,inside,shown.lastSck.trans rises,?_,?_⟩,shown.raised down rises,?_,
    fun later => .after _ fallen (.after _ risen later)⟩
  · rw [shown.direction]
    exact clock
  · rw [shown.direction]
    exact select
  · intro sampled
    have still := shown.position.resolve_right fun moved => by
      have up : low.lastSck = true := moved.1.1
      rw [down] at up
      nomatch up
    exact still.trans (seen.counted falls sampled)

theorem Ready.stops_sampled (ready : rtc.Ready) (sampled : rtc.readBitSampled = true) : rtc.Stops := by
  obtain ⟨left,rest⟩ : ∃ left, 56 - rtc.position = left := ⟨_,rfl⟩
  induction left using Nat.strong_induction_on generalizing rtc with
  | h left ih =>
    obtain stopped | ⟨next,later,again,further,back⟩ := ready.pulse
    · exact stopped
    have inside := ready.inside
    have bits := ready.late.bits
    have moved := further sampled
    have near : rtc.position < 56 := by
      unfold position
      omega
    exact back (ih (56 - next.position) (by omega) later again rfl)

theorem Ready.stops (ready : rtc.Ready) : rtc.Stops := by
  obtain stopped | ⟨next,later,sampled,_,back⟩ := ready.pulse
  · exact stopped
  · exact back (later.stops_sampled sampled)

theorem Late.stops (late : rtc.Late) (held : rtc.lastSck = false ∨ pin 0 rtc.pinState = true) : rtc.Stops := by
  refine .either _ (late.write_data 5 (fun _ => by decide) fun up low => ?_) fun next seen => ?_
  · rw [up] at held
    have high := held.resolve_left (fun low => nomatch low)
    rw [high] at low
    split at low <;> nomatch low
  have latched (index : Nat) (one : pin index 5 = true) (inside : index < 8) :
      pin index (RtcGpio.drivePins {next with direction := (5 : UInt16).toUInt8 &&& gpioMask}).pinState = true := by
    rw [pin_drivePins inside]
    dsimp only
    rw [seen.dataLatch]
    show (if pin index 5 = true then pin index 5 else _) = true
    rw [if_pos one,one]
  have pinned : Late (RtcGpio.drivePins {next with direction := (5 : UInt16).toUInt8 &&& gpioMask}) :=
    ⟨seen.late.step,seen.late.reading,seen.late.late,seen.late.bits,latched 2 rfl (by decide)⟩
  have clock := latched 0 rfl (by decide)
  obtain stopped | ⟨shown,given,watched⟩ := pinned.observePins fun falls => by
    rw [falls.2] at clock
    nomatch clock
  · refine .now (.write16 gpioDirection 5) ?_
    rw [perform_direction,stopped]
    rfl
  have answered : next.perform (.write16 gpioDirection 5) = shown.driveOutput := by
    rw [perform_direction,given,Option.bind_some,answer,if_pos ⟨watched.late.step,watched.late.reading⟩]
  obtain stopped | ⟨inside,bit,driven⟩ := watched.late.driveOutput
  · exact .now _ (answered.trans stopped)
  · refine .after _ (answered.trans driven) (Ready.stops ?_)
    have fields := driveSio_eq bit shown
    refine ⟨(watched.late.driveSio bit).1,?_,?_,?_,?_⟩
    · rw [fields]
      exact inside
    · rw [fields]
      exact watched.lastSck.trans clock
    · rw [fields]
      dsimp only
      rw [watched.direction]
      exact (by decide : pin 0 ((5 : UInt16).toUInt8 &&& gpioMask) = true)
    · rw [fields]
      dsimp only
      rw [watched.direction]
      exact (by decide : pin 2 ((5 : UInt16).toUInt8 &&& gpioMask) = true)

theorem Observed.stops {next : RtcGpio} (seen : Observed rtc next) : next.Stops := by
  refine seen.late.stops ?_
  rw [seen.lastSck,seen.clock]
  cases pin 0 rtc.pinState
  · exact .inl rfl
  · exact .inr rfl

theorem stops_of_data (value : UInt16) (late : Late (RtcGpio.drivePins {rtc with dataLatch := value.toUInt8 &&& gpioMask}))
    (goes : Falls (RtcGpio.drivePins {rtc with dataLatch := value.toUInt8 &&& gpioMask}) →
      ¬(rtc.readBitSampled = true ∧ rtc.bitsRead = 7 ∧ rtc.bytesRemaining ≤ 1)) : rtc.Stops := by
  have outcome := late.observePins goes
  rw [← perform_data] at outcome
  exact .either _ outcome fun next seen => seen.stops

theorem stops_of_direction (value : UInt16) (late : Late (RtcGpio.drivePins {rtc with direction := value.toUInt8 &&& gpioMask}))
    (goes : Falls (RtcGpio.drivePins {rtc with direction := value.toUInt8 &&& gpioMask}) →
      ¬(rtc.readBitSampled = true ∧ rtc.bitsRead = 7 ∧ rtc.bytesRemaining ≤ 1)) : rtc.Stops := by
  obtain stopped | ⟨next,given,seen⟩ := late.observePins goes
  · refine .now (.write16 gpioDirection value) ?_
    rw [perform_direction,stopped]
    rfl
  have answered : rtc.perform (.write16 gpioDirection value) = next.driveOutput := by
    rw [perform_direction,given,Option.bind_some,answer,if_pos ⟨seen.late.step,seen.late.reading⟩]
  obtain stopped | ⟨_,bit,driven⟩ := seen.late.driveOutput
  · exact .now _ (answered.trans stopped)
  · obtain ⟨later,clock⟩ := seen.late.driveSio bit
    refine .after _ (answered.trans driven) (later.stops ?_)
    rw [clock,seen.clock,driveSio_eq]
    dsimp only
    rw [seen.lastSck]
    cases pin 0 _
    · exact .inl rfl
    · exact .inr rfl

theorem pin_low (index : Nat) (inside : index < 4) (value : UInt8) : pin index (value &&& gpioMask) = pin index value := by
  simp only [pin,UInt8.toBitVec_and,BitVec.getLsbD_and]
  have one : gpioMask.toBitVec.getLsbD index = true := by
    interval_cases index <;> rfl
  rw [one,Bool.and_true]

theorem pins_five : pin 0 ((5 : UInt16).toUInt8 &&& gpioMask) = true ∧ pin 2 ((5 : UInt16).toUInt8 &&& gpioMask) = true := by decide

theorem held_data {index : Nat} (known : index = 0 ∨ index = 2) :
    pin index (RtcGpio.drivePins {rtc with dataLatch := (5 : UInt16).toUInt8 &&& gpioMask}).pinState =
      (pin index rtc.direction || pin index rtc.pinState) := by
  have one : pin index ((5 : UInt16).toUInt8 &&& gpioMask) = true := by
    rcases known with rfl | rfl
    · exact pins_five.1
    · exact pins_five.2
  rw [pin_drivePins (by omega)]
  dsimp only
  rw [one]
  cases pin index rtc.direction <;> rfl

theorem held_direction {index : Nat} (known : index = 0 ∨ index = 2) :
    pin index (RtcGpio.drivePins {rtc with direction := rtc.dataLatch.toUInt16.toUInt8 &&& gpioMask}).pinState =
      (pin index rtc.dataLatch || pin index rtc.pinState) := by
  rw [pin_drivePins (by omega)]
  dsimp only
  rw [UInt8.toUInt8_toUInt16,pin_low index (by omega)]
  cases pin index rtc.dataLatch <;> rfl

theorem stops_of_late (step : rtc.transferStep = 2) (reading : rtc.commandReading = true)
    (late : 7 < rtc.transferIndex + max rtc.bytesRemaining 1) (bits : rtc.bitsRead ≤ 7) (held : rtc.CanHold cs)
    (goes : rtc.LastBit → rtc.CanHold (sck ||| cs)) : rtc.Stops := by
  have last {pinned : RtcGpio} (clock : pinned.Falls) (same : pinned.lastSck = rtc.lastSck)
      (ends : rtc.readBitSampled = true ∧ rtc.bitsRead = 7 ∧ rtc.bytesRemaining ≤ 1) : rtc.LastBit :=
    ⟨step,by omega,ends.2.2,ends.2.1,ends.1,same ▸ clock.1⟩
  rw [canHold_cs] at held
  rw [canHold_both] at goes
  have byData (driven : pin 2 rtc.direction = true ∨ pin 2 rtc.pinState = true)
      (goes : Falls (RtcGpio.drivePins {rtc with dataLatch := (5 : UInt16).toUInt8 &&& gpioMask}) → ¬rtc.LastBit) : rtc.Stops := by
    refine stops_of_data 5 ⟨step,reading,late,bits,?_⟩ fun falls ends => goes falls (last falls rfl ends)
    rw [held_data (.inr rfl),Bool.or_eq_true]
    exact driven
  have byDirection (latched : pin 2 rtc.dataLatch = true ∨ pin 2 rtc.pinState = true)
      (goes : Falls (RtcGpio.drivePins {rtc with direction := rtc.dataLatch.toUInt16.toUInt8 &&& gpioMask}) → ¬rtc.LastBit) :
      rtc.Stops := by
    refine stops_of_direction rtc.dataLatch.toUInt16 ⟨step,reading,late,bits,?_⟩ fun falls ends => goes falls (last falls rfl ends)
    rw [held_direction (.inr rfl),Bool.or_eq_true]
    exact latched
  by_cases final : rtc.LastBit
  · rcases goes final with ⟨clock,driven⟩ | ⟨clock,latched⟩
    · refine byData driven fun falls => ?_
      have low := falls.2
      rw [held_data (.inl rfl),Bool.or_eq_false_iff] at low
      simp [low.1,low.2] at clock
    · refine byDirection latched fun falls => ?_
      have low := falls.2
      rw [held_direction (.inl rfl),Bool.or_eq_false_iff] at low
      simp [low.1,low.2] at clock
  · rcases held with driven | latched
    · exact byData driven fun _ => final
    · exact byDirection latched fun _ => final

theorem stops_of_idle (step : rtc.transferStep ≤ 1) (reading : rtc.commandReading = true)
    (late : 7 < rtc.transferIndex + max rtc.bytesRemaining 1) (bits : rtc.bitsRead ≤ 7) : rtc.Stops := by
  let latched : RtcGpio := {rtc with dataLatch := (5 : UInt16).toUInt8 &&& gpioMask}.drivePins
  obtain ⟨moved,lastSck,seen,outcome⟩ := observePins_idle latched step
  have written : rtc.perform (.write16 gpioData 5) = some {latched with transferStep := moved, lastSck := lastSck} := by
    rw [perform_data]
    exact seen
  refine .after _ written ?_
  obtain ⟨waits,_⟩ | ⟨rfl,_,clock,selected⟩ := outcome
  · let driven : RtcGpio := RtcGpio.drivePins
      {latched with transferStep := moved, lastSck := lastSck, direction := (5 : UInt16).toUInt8 &&& gpioMask}
    have high (index : Nat) (known : index = 0 ∨ index = 2) : pin index driven.pinState = true := by
      have one : pin index ((5 : UInt16).toUInt8 &&& gpioMask) = true := by
        rcases known with rfl | rfl
        · exact pins_five.1
        · exact pins_five.2
      rw [pin_drivePins (by omega)]
      show (if pin index ((5 : UInt16).toUInt8 &&& gpioMask) = true then pin index ((5 : UInt16).toUInt8 &&& gpioMask) else _) = true
      rw [if_pos one,one]
    obtain ⟨last,risen,watched,started⟩ := observePins_idle driven waits
    obtain ⟨rfl,rfl,_⟩ := started.resolve_left fun idle => idle.2 ⟨high 0 (.inl rfl),high 2 (.inr rfl)⟩
    have overdue : Late {driven with transferStep := 2, lastSck := true} := ⟨rfl,reading,late,bits,high 2 (.inr rfl)⟩
    have answered : RtcGpio.perform {latched with transferStep := moved, lastSck := lastSck} (.write16 gpioDirection 5) =
        RtcGpio.driveOutput {driven with transferStep := 2, lastSck := true} := by
      rw [perform_direction]
      show Option.bind driven.observePins answer = _
      rw [watched,Option.bind_some,answer,if_pos ⟨rfl,reading⟩]
    obtain stopped | ⟨_,bit,shown⟩ := overdue.driveOutput
    · exact .now _ (answered.trans stopped)
    · obtain ⟨later,clock⟩ := overdue.driveSio bit
      exact .after _ (answered.trans shown) (later.stops (.inr (clock.trans (high 0 (.inl rfl)))))
  · exact Late.stops ⟨rfl,reading,late,bits,selected⟩ (.inr clock)

theorem Bounded.stops (bounded : rtc.Bounded) (harmful : ¬rtc.Harmless) : rtc.Stops := by
  simp only [Harmless,not_or,not_and_or,not_not] at harmful
  obtain ⟨unpaced,held,goes⟩ := harmful
  have reading := reading_of_not_paced unpaced
  have late : 7 < rtc.transferIndex + max rtc.bytesRemaining 1 := Nat.lt_of_not_le fun room => unpaced fun _ => room
  by_cases step : rtc.transferStep = 2
  · exact stops_of_late step reading late bounded.bits (held.resolve_left (fun idle => idle step))
      fun last => goes.resolve_left (fun none' => none' last)
  · have bounds := bounded.step
    exact stops_of_idle (by omega) reading late bounded.bits

end Stops

theorem bounded_readState {input rest : Library.Bytes} (accepted : readState input = .ok (rtc,rest)) : rtc.Bounded := by
  unfold readState at accepted
  obtain ⟨⟨found,left⟩,_,checked⟩ := Library.bind_ok.mp accepted
  dsimp only at checked
  split at checked
  · nomatch checked
  · rename_i inRange
    obtain ⟨rfl,_⟩ := Prod.mk.inj (Except.ok.inj checked)
    simp only [outOfRange,not_or,not_not,not_lt] at inRange
    obtain ⟨step,bits,_,_,year,month,day,weekday,hour,minute,second,_⟩ := inRange
    exact ⟨step,bits,year,month,day,weekday,hour,minute,second⟩

/-- A state that was read never stops the program, whatever is called, exactly when it is harmless. -/
theorem readState_safe_iff {input rest : Library.Bytes} (accepted : readState input = .ok (rtc,rest)) :
    (∀ calls, (rtc.run calls).isSome = true) ↔ rtc.Harmless := by
  have bounded := bounded_readState accepted
  constructor
  · intro safe
    by_contra harmful
    obtain ⟨calls,stopped⟩ := bounded.stops harmful
    have runs := safe calls
    rw [stopped] at runs
    nomatch runs
  · exact fun harmless calls => bounded.run harmless calls

section Example

def readingDate (index remaining : UInt8) : Library.Bytes :=
  [0,0,0,1,0,0,0,0,0,2,1,remaining] ++ [0,1,1,6,0,0,0] ++ [index,0x40] ++ [0,1,1,6,0,0,0] ++ [0,0,0,0]

theorem readingDate_safe : ∃ rtc rest, readState (readingDate 3 4) = .ok (rtc,rest) ∧ ∀ calls, (rtc.run calls).isSome = true :=
  ⟨_,_,rfl,(@readState_safe_iff _ (readingDate 3 4) _ rfl).mpr (.inl fun _ => show 3 + max 4 1 ≤ 7 by decide)⟩

/-- There is no byte after the seventh. -/
theorem readingDate_stops : ∃ rtc rest, readState (readingDate 7 7) = .ok (rtc,rest) ∧
    rtc.run [.write16 gpioData 5,.write16 gpioDirection 5] = none := ⟨_,_,rfl,rfl⟩

end Example

end ZeffBoy.Gba.Rtc.RtcGpio
