import ZeffBoy.WonderSwan.Machine
import ZeffBoy.Library.Turns
import ZeffBoy.WonderSwan.FrameService

/-! Frames whose service is put off, and halts that are skipped.
A frame that is stepped so ends as the one that services every cycle, as long as no write to the interrupt status clears an
interrupt whose serial line is up: such an interrupt comes back at the next service, which one of the two frames puts off.
What the host does between instructions services what is due first. -/
namespace ZeffBoy.WonderSwan
open Library
open Hardware (serviceCycles freshFrameServiceHorizon Refreshed)

inductive HostCall
  | setInput (buttonsPressed dpadPressed : UInt8)
  | receiveLinkByte (value : UInt8)
  | takeLinkTxEvent
  | drainAudioSamples
  | setSampleRate (rate : Nat)
  | setSampleGenerationEnabled (enabled : Bool)
  | setChannelMutes (mutes : Fin 4 → Bool)

variable {Frame Sample : Type}

namespace Hardware

def setInput (buttonsPressed dpadPressed : UInt8) (hardware : Hardware Frame Sample) : Hardware Frame Sample :=
  let (raise,keypad) := hardware.keypad.setHostInput buttonsPressed dpadPressed
  let hardware := {hardware with keypad := keypad}
  if raise then hardware.raiseInterrupt irqKeypad else hardware

def receiveLinkByte (value : UInt8) (hardware : Hardware Frame Sample) : Hardware Frame Sample :=
  {hardware with uart := hardware.uart.receiveByte value (hardware.io serialControlPort)}.refreshLevelInterrupts

def host (call : HostCall) (hardware : Hardware Frame Sample) : Hardware Frame Sample :=
  match call with
  | .setInput buttonsPressed dpadPressed => hardware.setInput buttonsPressed dpadPressed
  | .receiveLinkByte value => hardware.receiveLinkByte value
  | .takeLinkTxEvent => {hardware with uart := {hardware.uart with completedTxEvents := hardware.uart.completedTxEvents.tail}}
  | .drainAudioSamples => {hardware with apu := hardware.apu.drainAudioSamples}
  | .setSampleRate rate => {hardware with apu := hardware.apu.setSampleRate rate}
  | .setSampleGenerationEnabled enabled => {hardware with apu := hardware.apu.setSampleGenerationEnabled enabled}
  | .setChannelMutes mutes => {hardware with apu := hardware.apu.setChannelMutes mutes}

end Hardware

def Emulator.host (board : Board Frame Sample) (call : HostCall) (emulator : Emulator Frame Sample) : Emulator Frame Sample :=
  {emulator with bus := (emulator.bus.materializeFrameService board).map (Hardware.host call)}

namespace Bus
variable {board : Board Frame Sample}

def rest (hardware : Hardware Frame Sample) : Bus Frame Sample := ⟨⟨hardware,0,0⟩,false⟩

/-- The hardware that every cycle has serviced is ahead of the bus that has put some off. -/
structure Ahead (board : Board Frame Sample) (hardware : Hardware Frame Sample) (bus : Bus Frame Sample) : Prop where
  deferred : bus.frameServiceDeferred = true
  behind : Behind (serviceCycles board) freshFrameServiceHorizon Refreshed hardware bus.service

theorem stepCycles_rest (cycles : Nat) (hardware : Hardware Frame Sample) :
    (rest hardware).stepCycles board cycles = rest ((hardware.charge cycles).serviceCycles board cycles) := rfl

namespace Ahead
variable {hardware : Hardware Frame Sample} {bus : Bus Frame Sample}

theorem begin (refreshed : Refreshed hardware) : Ahead board hardware (rest hardware).beginFrameService :=
  ⟨rfl,.refl refreshed⟩

theorem refreshed (ahead : Ahead board hardware bus) : Refreshed hardware :=
  (ahead.behind.materialize Hardware.serviceCycles_deferrable).2

theorem materialize (ahead : Ahead board hardware bus) : bus.materializeFrameService board = (rest hardware).beginFrameService := by
  rw [materializeFrameService,(ahead.behind.materialize Hardware.serviceCycles_deferrable).1,ahead.deferred]
  rfl

theorem endFrame (ahead : Ahead board hardware bus) : bus.endFrameService board = rest hardware := by
  rw [endFrameService,ahead.materialize]
  rfl

theorem map {action : Hardware Frame Sample → Hardware Frame Sample}
    (free : Free (serviceCycles board) freshFrameServiceHorizon Refreshed action) (ahead : Ahead board hardware bus) :
    Ahead board (action hardware) (bus.map action) := ⟨ahead.deferred,ahead.behind.map free⟩

theorem read {α : Type} {value : Hardware Frame Sample → α}
    (settled : Settled (serviceCycles board) freshFrameServiceHorizon Refreshed value) (ahead : Ahead board hardware bus) :
    value bus.hardware = value hardware := (ahead.behind.value settled).symm

theorem stepCycles (cycles : Nat) (ahead : Ahead board hardware bus) :
    Ahead board ((hardware.charge cycles).serviceCycles board cycles) (bus.stepCycles board cycles) := by
  have charges := Hardware.charge_free board cycles
  unfold Bus.stepCycles
  by_cases some' : cycles = 0
  · have settled : (if bus.service.pending ≠ 0 then bus.materializeFrameService board else bus) = (rest hardware).beginFrameService := by
      split
      · exact ahead.materialize
      · rename_i nothing
        have whole := ahead.behind.settled Hardware.serviceCycles_deferrable (not_not.mp nothing)
        have deferred := ahead.deferred
        obtain ⟨service,flag⟩ := bus
        dsimp only at whole deferred
        rw [whole,deferred]
        rfl
    rw [if_neg (by simp [some']),settled]
    exact ⟨rfl,.refl (Hardware.refreshed_serviceCycles _ _)⟩
  · rw [if_pos ⟨ahead.deferred,some'⟩]
    exact ⟨ahead.deferred,ahead.behind.step Hardware.serviceCycles_deferrable charges (pos_of_ne_zero some')⟩

theorem ioRead8 (port : UInt16) (ahead : Ahead board hardware bus) :
    (bus.ioRead8 board port).1 = (hardware.ioRead8 port).1 ∧ Ahead board (hardware.ioRead8 port).2 (bus.ioRead8 board port).2 := by
  rw [Bus.ioRead8,ahead.materialize]
  exact ⟨rfl,rfl,.refl (ahead.refreshed.ioRead8 port)⟩

theorem ioWrite8 {port : UInt16} {value : UInt8} (tidy : hardware.Tidy port value) (ahead : Ahead board hardware bus) :
    ∃ after, (rest hardware).ioWrite8 board port value = rest after ∧ Ahead board after (bus.ioWrite8 board port value) := by
  have written : Ahead board (hardware.ioWrite8 port value).1
      ((rest hardware).beginFrameService.map fun hardware => (hardware.ioWrite8 port value).1) :=
    ⟨rfl,.refl (ahead.refreshed.ioWrite8 tidy)⟩
  have same : (rest hardware).materializeFrameService board = rest hardware := rfl
  rw [Bus.ioWrite8,Bus.ioWrite8,ahead.materialize,same]
  have cycles : (rest hardware).beginFrameService.hardware = (rest hardware).hardware := rfl
  rw [cycles]
  cases ((rest hardware).hardware.ioWrite8 port value).2 with
  | none => exact ⟨_,rfl,written⟩
  | some cycles => exact ⟨_,stepCycles_rest cycles _,written.stepCycles cycles⟩

end Ahead

end Bus

namespace Guest
variable {α : Type} (board : Board Frame Sample)

/-- No write of the program clears an interrupt whose serial line is up. -/
def Tidy : Guest α → Bus Frame Sample → Prop
  | done _,_ => True
  | read8 addr next,bus => (next (bus.hardware.peek8 addr)).Tidy bus
  | write8 addr value next,bus => next.Tidy (bus.map (Hardware.write8 addr value))
  | ioRead8 port next,bus => (next (bus.ioRead8 board port).1).Tidy (bus.ioRead8 board port).2
  | ioWrite8 port value next,bus => bus.hardware.Tidy port value ∧ next.Tidy (bus.ioWrite8 board port value)
  | stepCycles cycles next,bus => next.Tidy (bus.stepCycles board cycles)
  | flushDeferredLinearBank next,bus => next.Tidy (bus.map Hardware.flushDeferredLinearBank)

variable {board} {hardware : Hardware Frame Sample} {bus : Bus Frame Sample}

theorem run_bind {β : Type} (program : Guest α) (after : α → Guest β) (bus : Bus Frame Sample) :
    (program >>= after).run board bus = (after (program.run board bus).1).run board (program.run board bus).2 := by
  show (program.bind after).run board bus = _
  induction program generalizing bus with
  | done result => rfl
  | read8 addr next ih => exact ih _ bus
  | write8 addr value next ih => exact ih _
  | ioRead8 port next ih => exact ih _ _
  | ioWrite8 port value next ih => exact ih _
  | stepCycles cycles next ih => exact ih _
  | flushDeferredLinearBank next ih => exact ih _

theorem run_ahead {program : Guest α} (tidy : program.Tidy board (Bus.rest hardware)) (ahead : bus.Ahead board hardware) :
    ∃ after, program.run board (Bus.rest hardware) = ((program.run board bus).1,Bus.rest after) ∧
      (program.run board bus).2.Ahead board after := by
  induction program generalizing hardware bus with
  | done result => exact ⟨hardware,rfl,ahead⟩
  | read8 addr next ih =>
    have value := ahead.read (Hardware.peek8_settled addr)
    rw [run,run,value]
    exact ih _ tidy ahead
  | write8 addr value next ih => exact ih tidy (ahead.map (Hardware.write8_free board addr value))
  | ioRead8 port next ih =>
    obtain ⟨value,after⟩ := ahead.ioRead8 port
    rw [run,run,value]
    exact ih _ tidy after
  | ioWrite8 port value next ih =>
    obtain ⟨after,written,later⟩ := ahead.ioWrite8 (show hardware.Tidy port value from tidy.1)
    have still := tidy.2
    rw [written] at still
    rw [run,run,written]
    exact ih still later
  | stepCycles cycles next ih => exact ih tidy (ahead.stepCycles cycles)
  | flushDeferredLinearBank next ih => exact ih tidy (ahead.map (Hardware.flushDeferredLinearBank_free board))

end Guest

namespace Emulator
variable (board : Board Frame Sample) (execute : Cpu → Guest Cpu)

def nextProgram (emulator : Emulator Frame Sample) : Guest (Bool × Cpu) :=
  if emulator.cpu.state = .suspended then .done (false,emulator.cpu)
  else emulator.cpu.step execute emulator.bus.hardware.hasPendingInterruptSignal emulator.bus.hardware.pendingInterruptVector

def Tidy (emulator : Emulator Frame Sample) : Prop := (emulator.nextProgram execute).Tidy board emulator.bus

/-- A turn of the loop of a frame. -/
def turn (fastForward : Bool) (guard : UInt64) (emulator : Emulator Frame Sample) : Turn (Emulator Frame Sample) :=
  if emulator.frameReady = false ∧ emulator.cpu.cycles < guard then
    match emulator.stepInstruction board execute with
    | (true,emulator) => .next emulator
    | (false,emulator) =>
      match emulator.stepFrameAfterEmptyInstruction board fastForward guard with
      | (true,emulator) => .stop emulator
      | (false,emulator) => .next emulator
  else .stop emulator

theorem frameLoop_eq_loop (fastForward : Bool) (guard : UInt64) (fuel : Nat) (emulator : Emulator Frame Sample) :
    frameLoop board execute fastForward guard fuel emulator = loop (turn board execute fastForward guard) fuel emulator := by
  induction fuel generalizing emulator with
  | zero => rfl
  | succ fuel ih =>
    rw [frameLoop,loop,turn]
    split
    · rcases emulator.stepInstruction board execute with ⟨_ | _,after⟩
      · dsimp only
        rcases after.stepFrameAfterEmptyInstruction board fastForward guard with ⟨_ | _,last⟩
        · exact ih last
        · rfl
      · exact ih after
    · rfl

/-- An emulator at rest, seen from one that has put some cycles off. -/
structure Ahead (board : Board Frame Sample) (eager deferred : Emulator Frame Sample) : Prop where
  cpu : deferred.cpu = eager.cpu
  frames : deferred.frameCount = eager.frameCount
  bus : eager.bus = Bus.rest eager.bus.hardware
  ahead : deferred.bus.Ahead board eager.bus.hardware

variable {board execute} {eager deferred : Emulator Frame Sample}

theorem Ahead.nextProgram (ahead : Ahead board eager deferred) : deferred.nextProgram execute = eager.nextProgram execute := by
  have status := ahead.ahead.read (Hardware.io_settled irqStatusPort)
  have vector := ahead.ahead.read (Hardware.io_settled irqVectorBasePort)
  unfold Emulator.nextProgram Hardware.hasPendingInterruptSignal Hardware.pendingInterruptVector
  rw [ahead.cpu,status,vector]

theorem stepInstruction_eq (emulator : Emulator Frame Sample) : emulator.stepInstruction board execute =
    let result := (emulator.nextProgram execute).run board emulator.bus
    (result.1.1,⟨result.1.2,if result.1.1 then result.2.map Hardware.retireInstruction else result.2,emulator.frameCount⟩) := by
  unfold stepInstruction nextProgram
  split
  · rfl
  · rfl

theorem Ahead.stepInstruction (tidy : eager.Tidy board execute) (ahead : Ahead board eager deferred) :
    (deferred.stepInstruction board execute).1 = (eager.stepInstruction board execute).1 ∧
      Ahead board (eager.stepInstruction board execute).2 (deferred.stepInstruction board execute).2 := by
  rw [Tidy,ahead.bus] at tidy
  obtain ⟨after,ran,later⟩ := Guest.run_ahead tidy ahead.ahead
  rw [stepInstruction_eq,stepInstruction_eq,ahead.nextProgram,ahead.bus,ran,ahead.frames]
  dsimp only
  refine ⟨rfl,rfl,rfl,?_,?_⟩
  · dsimp only
    split <;> rfl
  · dsimp only
    split
    · exact later.map (Hardware.retireInstruction_free board)
    · exact later

section Halt

theorem enterInterrupt_running (cpu : Cpu) (vector : UInt8) (cycles : Nat) (bus : Bus Frame Sample) :
    ((cpu.enterInterrupt vector cycles).run board bus).1.state = .running := rfl

theorem wake_calm (cpu : Cpu) (signal : Bool) : (cpu.wake signal).consumeShadows.lastStepWasInterrupt = false := by
  unfold Cpu.wake
  dsimp only
  split <;> rfl

theorem lastStepWasInterrupt_of_halted {cpu after : Cpu} {signal : Bool} {vector : Option UInt8} {bus : Bus Frame Sample}
    (awake : cpu.state ≠ .suspended) (ran : ((cpu.step execute signal vector).run board bus).1 = (false,after))
    (halted : after.state = .halted) : after.lastStepWasInterrupt = false := by
  unfold Cpu.step at ran
  rw [if_neg awake] at ran
  dsimp only at ran
  split at ran
  · rename_i served _
    rw [Guest.run_bind] at ran
    have entered := @enterInterrupt_running _ _ board (cpu.wake signal).consumeShadows served 32 bus
    have state : _ = after.state := congrArg (·.2.state) ran
    exact absurd (entered.symm.trans (state.trans halted)) (by decide)
  · split at ran
    · have calm : _ = after.lastStepWasInterrupt := congrArg (·.2.lastStepWasInterrupt) ran
      exact calm.symm.trans (wake_calm cpu signal)
    · rw [Guest.run_bind] at ran
      have calm : _ = after.lastStepWasInterrupt := congrArg (·.2.lastStepWasInterrupt) ran
      exact calm.symm.trans (wake_calm cpu signal)
    · rw [Guest.run_bind] at ran
      exact absurd (congrArg Prod.fst ran) (show ¬true = false by decide)

/-- A halted CPU that nothing wakes. -/
structure Asleep (emulator : Emulator Frame Sample) : Prop where
  halted : emulator.cpu.state = .halted
  brk : emulator.cpu.flags &&& flagBrk = 0
  interruptShadow : emulator.cpu.interruptShadow = 0
  brkShadow : emulator.cpu.brkShadow = 0
  calm : emulator.cpu.lastStepWasInterrupt = false
  signal : emulator.bus.hardware.io irqStatusPort = 0

variable {emulator : Emulator Frame Sample}

theorem consumeShadows_asleep (asleep : Asleep emulator) :
    (emulator.cpu.wake false).consumeShadows = emulator.cpu := by
  obtain ⟨⟨regs,segments,ip,flags,cycles,state,lastOpcode,lastTrap,interruptShadow,brkShadow,last,mul⟩,bus,frames⟩ := emulator
  have calm : last = false := asleep.calm
  have interrupt : interruptShadow = 0 := asleep.interruptShadow
  have brk : brkShadow = 0 := asleep.brkShadow
  subst calm interrupt brk
  have spent : (0 : UInt8) - min 0 1 = 0 := by decide
  unfold Cpu.wake Cpu.consumeShadows
  rw [if_neg (by simp)]
  dsimp only
  rw [spent]

theorem nextProgram_asleep (asleep : Asleep emulator) :
    emulator.nextProgram execute = (do
      let cpu ← emulator.cpu.addCycles 1
      return (false,cpu)) := by
  have halted := asleep.halted
  have awake : ¬emulator.cpu.state = .suspended := by
    rw [halted]
    decide
  have status := asleep.signal
  have signal : emulator.bus.hardware.hasPendingInterruptSignal = false := by simp [Hardware.hasPendingInterruptSignal,status]
  have vector : emulator.bus.hardware.pendingInterruptVector = none := if_pos status
  have same := consumeShadows_asleep asleep
  have nothing : (emulator.cpu.wake false).pendingInterruptOrBrk none = none := by
    have flags : (emulator.cpu.wake false).flags = emulator.cpu.flags := by
      unfold Cpu.wake
      rw [if_neg (by simp)]
    unfold Cpu.pendingInterruptOrBrk
    rw [flags,if_neg (by simp [asleep.brk]),ite_self]
  unfold Emulator.nextProgram Cpu.step
  rw [if_neg awake,if_neg awake,signal,vector]
  dsimp only
  rw [nothing]
  dsimp only
  rw [same,halted]

variable (board)

def slept (cycles : Nat) (emulator : Emulator Frame Sample) : Emulator Frame Sample :=
  ⟨{emulator.cpu with cycles := emulator.cpu.cycles + UInt64.ofNat cycles},
    Bus.rest ((emulator.bus.hardware.charge cycles).serviceCycles board cycles),emulator.frameCount⟩

variable {board}

theorem turn_asleep {guard : UInt64} (asleep : Asleep emulator)
    (bus : emulator.bus = Bus.rest emulator.bus.hardware) (ready : emulator.frameReady = false)
    (before : emulator.cpu.cycles < guard) : turn board execute false guard emulator = .next (slept board 1 emulator) := by
  have stepped : emulator.stepInstruction board execute = (false,slept board 1 emulator) := by
    rw [stepInstruction_eq,nextProgram_asleep asleep,Guest.run_bind,bus]
    rfl
  have awake : ¬(slept board 1 emulator).cpu.state = .suspended := by
    have halted : (slept board 1 emulator).cpu.state = .halted := asleep.halted
    rw [halted]
    decide
  rw [turn,if_pos ⟨ready,before⟩,stepped]
  dsimp only
  unfold stepFrameAfterEmptyInstruction
  dsimp only
  rw [if_neg awake,if_neg (by simp)]
  rfl

theorem lt_guard {cycles guard : UInt64} {count : Nat} (within : cycles.toNat + count < guard.toNat) :
    cycles + UInt64.ofNat count < guard := by
  have bound := guard.toNat_lt
  rw [UInt64.lt_iff_toNat_lt,UInt64.toNat_add,UInt64.toNat_ofNat']
  omega

theorem charge_charge (first second : Nat) (hardware : Hardware Frame Sample) :
    (hardware.charge first).charge second = hardware.charge (first + second) := by
  simp only [Hardware.charge,UInt64.ofNat_add,UInt64.add_assoc]

theorem hardware_slept {cycles : Nat} (refreshed : Refreshed emulator.bus.hardware)
    (quiet : Hardware.Quiet cycles emulator.bus.hardware) :
    (slept board cycles emulator).bus.hardware = (emulator.bus.hardware.charge cycles).idle board cycles :=
  Hardware.serviceCycles_idle (show Refreshed (emulator.bus.hardware.charge cycles) from refreshed)
    ⟨quiet.line,quiet.byte,quiet.transfer⟩

theorem slept_slept {cycles : Nat} (refreshed : Refreshed emulator.bus.hardware)
    (quiet : Hardware.Quiet cycles emulator.bus.hardware) :
    slept board 1 (slept board cycles emulator) = slept board (cycles + 1) emulator := by
  have first := @hardware_slept _ _ board _ _ refreshed quiet
  have charged : ((slept board cycles emulator).bus.hardware.charge 1).serviceCycles board 1 =
      (emulator.bus.hardware.charge (cycles + 1)).serviceCycles board (cycles + 1) := by
    rw [first,← charge_charge]
    exact @Hardware.serviceCycles_split _ _ board ((emulator.bus.hardware.charge cycles).charge 1) cycles
      ⟨quiet.line,quiet.byte,quiet.transfer⟩ 1
  have clock : emulator.cpu.cycles + UInt64.ofNat cycles + UInt64.ofNat 1 = emulator.cpu.cycles + UInt64.ofNat (cycles + 1) := by
    rw [UInt64.ofNat_add,UInt64.add_assoc]
  rw [slept,charged]
  unfold slept
  dsimp only
  rw [clock]

theorem goesIn_slept {guard : UInt64} (asleep : Asleep emulator)
    (bus : emulator.bus = Bus.rest emulator.bus.hardware) (ready : emulator.frameReady = false)
    (refreshed : Refreshed emulator.bus.hardware) {cycles : Nat}
    (short : cycles + 1 ≤ emulator.bus.hardware.haltedCpuNextEventCycles)
    (within : emulator.cpu.cycles.toNat + (cycles + 1) ≤ guard.toNat) :
    goesIn (turn board execute false guard) (cycles + 1) emulator (slept board (cycles + 1) emulator) := by
  induction cycles with
  | zero =>
    refine ⟨_,turn_asleep asleep bus ready ?_,rfl⟩
    rw [UInt64.lt_iff_toNat_lt]
    omega
  | succ cycles ih =>
    have quiet := Hardware.quiet_of_lt (show 0 < cycles + 1 by omega)
      (show cycles + 1 < emulator.bus.hardware.haltedCpuNextEventCycles by omega)
    have still := @hardware_slept _ _ board _ _ refreshed quiet
    refine goesIn_succ (ih (by omega) (by omega)) ?_
    rw [← slept_slept refreshed quiet]
    refine turn_asleep ⟨asleep.halted,asleep.brk,asleep.interruptShadow,asleep.brkShadow,asleep.calm,?_⟩ rfl ?_ ?_
    · rw [still]
      exact asleep.signal
    · rw [frameReady,still,Hardware.frameReady_idle]
      exact ready
    · exact lt_guard (by omega)

theorem asleep_of_canFastForward {emulator before : Emulator Frame Sample}
    (stepped : before.stepInstruction board execute = (false,emulator)) (may : emulator.cpu.canFastForwardHalt = true)
    (signal : emulator.bus.hardware.hasPendingInterruptSignal = false) : Asleep emulator := by
  unfold Cpu.canFastForwardHalt at may
  simp only [Bool.and_eq_true,decide_eq_true_eq] at may
  obtain ⟨⟨⟨halted,brk⟩,interrupt⟩,shadow⟩ := may
  have status : emulator.bus.hardware.io irqStatusPort = 0 := by simpa [Hardware.hasPendingInterruptSignal] using signal
  refine ⟨halted,brk,interrupt,shadow,?_,status⟩
  rw [stepInstruction_eq,Prod.ext_iff] at stepped
  obtain ⟨fetched,rfl⟩ := stepped
  unfold Emulator.nextProgram at fetched halted ⊢
  by_cases suspended : before.cpu.state = .suspended
  · rw [if_pos suspended] at halted
    exact absurd (suspended.symm.trans halted) (by decide)
  · rw [if_neg suspended] at fetched halted ⊢
    exact lastStepWasInterrupt_of_halted suspended (Prod.ext fetched rfl) halted

end Halt

section Loop
variable (board execute)

def TidyFrom (guard : UInt64) (emulator : Emulator Frame Sample) : Prop :=
  ∀ later, Goes (turn board execute false guard) emulator later → later.Tidy board execute

variable {board execute} {guard : UInt64}

theorem Ahead.frameReady (ahead : Ahead board eager deferred) : deferred.frameReady = eager.frameReady :=
  ahead.ahead.read Hardware.frameReady_settled

theorem Ahead.refreshed (ahead : Ahead board eager deferred) : Refreshed eager.bus.hardware := ahead.ahead.refreshed

theorem Ahead.fastForwardHalt (ahead : Ahead board eager deferred) (service : deferred.bus = (Bus.rest eager.bus.hardware).beginFrameService)
    (asleep : Asleep eager) (ready : eager.frameReady = false) (before : eager.cpu.cycles < guard) :
    ∃ count after, goesIn (turn board execute false guard) count eager after ∧
      Ahead board after (deferred.fastForwardHalt board guard) := by
  have hardware : deferred.bus.hardware = eager.bus.hardware := by rw [service]; rfl
  rw [UInt64.lt_iff_toNat_lt] at before
  have left : (guard - eager.cpu.cycles).toNat = guard.toNat - eager.cpu.cycles.toNat :=
    UInt64.toNat_sub_of_le _ _ (UInt64.le_iff_toNat_le.mpr (le_of_lt before))
  unfold Emulator.fastForwardHalt
  rw [hardware,ahead.cpu,left]
  dsimp only
  split
  · rename_i some'
    obtain ⟨cycles,count⟩ := Nat.exists_eq_succ_of_ne_zero some'
    rw [count]
    refine ⟨cycles + 1,_,goesIn_slept asleep ahead.bus ready ahead.refreshed (by omega) (by omega),?_⟩
    exact ⟨rfl,ahead.frames,rfl,ahead.ahead.stepCycles (cycles + 1)⟩
  · exact ⟨0,eager,rfl,ahead⟩

theorem stepFrameAfterEmptyInstruction_rest (bus : eager.bus = Bus.rest eager.bus.hardware) :
    eager.stepFrameAfterEmptyInstruction board false guard = (decide (eager.cpu.state = .suspended),eager) := by
  have same : {eager with bus := eager.bus.materializeFrameService board} = eager := by
    obtain ⟨cpu,service,frames⟩ := eager
    dsimp only at bus
    rw [bus]
    rfl
  unfold stepFrameAfterEmptyInstruction
  rw [same]
  dsimp only
  split
  · rename_i suspended
    rw [decide_eq_true suspended]
  · rename_i awake
    rw [if_neg (by simp),decide_eq_false awake]

theorem Ahead.afterEmptyInstruction (ahead : Ahead board eager deferred) (guard : UInt64) {before : Emulator Frame Sample}
    (stepped : before.stepInstruction board execute = (false,eager)) :
    ∃ count after, goesIn (turn board execute false guard) count eager after ∧
      (eager.cpu.state = .suspended → count = 0) ∧
      (deferred.stepFrameAfterEmptyInstruction board true guard).1 = decide (eager.cpu.state = .suspended) ∧
      Ahead board after (deferred.stepFrameAfterEmptyInstruction board true guard).2 := by
  have again : Ahead board eager ⟨eager.cpu,(Bus.rest eager.bus.hardware).beginFrameService,deferred.frameCount⟩ :=
    ⟨rfl,ahead.frames,ahead.bus,.begin ahead.refreshed⟩
  have ready : {deferred with bus := (Bus.rest eager.bus.hardware).beginFrameService}.frameReady = eager.frameReady := rfl
  unfold stepFrameAfterEmptyInstruction
  rw [ahead.ahead.materialize]
  dsimp only
  rw [ready,ahead.cpu]
  split
  · rename_i suspended
    exact ⟨0,eager,rfl,fun _ => rfl,(decide_eq_true suspended).symm,again⟩
  · rename_i awake
    split
    · rename_i skip
      have asleep := asleep_of_canFastForward stepped skip.2.2.2.2.1 skip.2.2.2.2.2
      obtain ⟨count,after,goes,later⟩ := again.fastForwardHalt rfl asleep skip.2.2.1 skip.2.2.2.1
      exact ⟨count,after,goes,fun suspended => absurd suspended awake,(decide_eq_false awake).symm,later⟩
    · exact ⟨0,eager,rfl,fun _ => rfl,(decide_eq_false awake).symm,again⟩

theorem turn_keepsStep : KeepsStep (turn board execute false guard) (turn board execute true guard)
    (fun eager deferred => Ahead board eager deferred ∧ TidyFrom board execute guard eager) (Ahead board) := by
  rintro eager deferred ⟨ahead,tidy⟩
  have later (count : Nat) (after : Emulator Frame Sample) (goes : goesIn (turn board execute false guard) count eager after) :
      TidyFrom board execute guard after := fun last on => tidy last ((goes_of_goesIn goes).trans on)
  by_cases more : eager.frameReady = false ∧ eager.cpu.cycles < guard
  · have more' : deferred.frameReady = false ∧ deferred.cpu.cycles < guard := by
      rw [ahead.frameReady,ahead.cpu]
      exact more
    obtain ⟨same,stepped⟩ := ahead.stepInstruction (tidy eager .refl)
    have slow : turn board execute false guard eager = _ := if_pos more
    have fast : turn board execute true guard deferred = _ := if_pos more'
    generalize eagerStep : eager.stepInstruction board execute = eager' at *
    generalize deferred.stepInstruction board execute = deferred' at *
    obtain ⟨fetched,eager'⟩ := eager'
    obtain ⟨fetched',deferred'⟩ := deferred'
    dsimp only at same stepped
    subst same
    cases fetched' with
    | true => exact .inr ⟨0,eager',deferred',⟨eager',slow,rfl⟩,fast,stepped,later 1 eager' ⟨eager',slow,rfl⟩⟩
    | false =>
      obtain ⟨count,after,goes,none',stops,last⟩ := stepped.afterEmptyInstruction guard eagerStep
      dsimp only at slow fast
      rw [stepFrameAfterEmptyInstruction_rest stepped.bus] at slow
      generalize deferred'.stepFrameAfterEmptyInstruction board true guard = result at *
      obtain ⟨stop,deferred''⟩ := result
      dsimp only at stops last
      subst stops
      by_cases suspended : eager'.cpu.state = .suspended
      · rw [decide_eq_true suspended] at slow fast
        obtain rfl := none' suspended
        obtain rfl : eager' = after := goes
        exact .inl ⟨_,_,slow,fast,last⟩
      · rw [decide_eq_false suspended] at slow fast
        exact .inr ⟨count,after,deferred'',⟨eager',slow,goes⟩,fast,last,later (count + 1) after ⟨eager',slow,goes⟩⟩
  · have more' : ¬(deferred.frameReady = false ∧ deferred.cpu.cycles < guard) := by
      rw [ahead.frameReady,ahead.cpu]
      exact more
    exact .inl ⟨eager,deferred,if_neg more,if_neg more',ahead⟩

end Loop

section Frame
variable (board execute)

def TidyFrame (emulator : Emulator Frame Sample) : Prop :=
  TidyFrom board execute emulator.clearFrameReady.guardOf emulator.clearFrameReady

variable {board execute}

theorem finishFrame_congr (ahead : Ahead board eager deferred) :
    finishFrame board {deferred with bus := deferred.bus.endFrameService board} =
      finishFrame board {eager with bus := eager.bus.endFrameService board} := by
  have same : eager.bus.endFrameService board = Bus.rest eager.bus.hardware := by
    rw [ahead.bus]
    rfl
  rw [ahead.ahead.endFrame,same,ahead.cpu,ahead.frames]

theorem clearFrameReady_ahead {emulator : Emulator Frame Sample} (bus : emulator.bus = Bus.rest emulator.bus.hardware)
    (refreshed : Refreshed emulator.bus.hardware) : Ahead board emulator.clearFrameReady
      {emulator.clearFrameReady with bus := emulator.clearFrameReady.bus.beginFrameService} := by
  have still : emulator.clearFrameReady.bus = Bus.rest emulator.clearFrameReady.bus.hardware := by
    unfold clearFrameReady
    rw [bus]
    rfl
  refine ⟨rfl,rfl,still,?_⟩
  rw [still]
  exact .begin refreshed

theorem stepFrameInner_exact {emulator : Emulator Frame Sample} (bus : emulator.bus = Bus.rest emulator.bus.hardware)
    (refreshed : Refreshed emulator.bus.hardware) (tidy : TidyFrame board execute emulator) (final : Emulator Frame Sample) :
    (∃ fuel, stepFrameInner board execute true true fuel emulator = some final) ↔
      ∃ fuel, stepFrameInner board execute false false fuel emulator = some final := by
  by_cases suspended : emulator.cpu.state = .suspended
  · unfold stepFrameInner
    simp only [if_pos suspended]
  · have start := And.intro (@clearFrameReady_ahead Frame Sample board emulator bus refreshed) tidy
    have guard : guardOf {emulator.clearFrameReady with bus := emulator.clearFrameReady.bus.beginFrameService} =
        emulator.clearFrameReady.guardOf := rfl
    unfold stepFrameInner
    simp only [if_neg suspended,if_true,Bool.false_eq_true,if_false,frameLoop_eq_loop,Option.map_eq_some_iff,guard]
    constructor
    · rintro ⟨fuel,last,ends,rfl⟩
      obtain ⟨fuel',last',ends',same⟩ := turn_keepsStep.slow_ends start ends
      exact ⟨fuel',last',ends',(finishFrame_congr same).symm⟩
    · rintro ⟨fuel,last,ends,rfl⟩
      obtain ⟨fuel',last',ends',same⟩ := turn_keepsStep.fast_ends start ends
      exact ⟨fuel',last',ends',finishFrame_congr same⟩

end Frame

end Emulator

end ZeffBoy.WonderSwan
