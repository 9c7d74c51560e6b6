import ZeffBoy.GameBoy.Opcodes

/-! The debugger of the emulators, and one instruction of the Game Boy under it.
A debugger that watches anything sees every instruction: it may suspend the CPU after it, and it stays active while the
CPU is not suspended. -/
namespace ZeffBoy.GameBoy
open Link.GameBoy Sm83

inductive DebugEvent
  | interrupt
  | dma
deriving DecidableEq

inductive WatchType
  | read
  | write
  | readWrite

structure BreakpointHitCondition where
  address : UInt32
  targetHits : Nat
  hits : Nat

structure Watchpoint where
  address : UInt16
  endAddress : UInt16
  watchType : WatchType
  lastValue : Option UInt8

structure WatchHit where
  address : UInt16
  oldValue : UInt8
  newValue : UInt8
  watchType : WatchType

structure DebugController where
  breakpoints : UInt16 → Bool
  oneShotBreakpoints : UInt16 → Bool
  hitConditions : List BreakpointHitCondition
  eventBreakpoints : DebugEvent → Bool
  breakpointCount : Nat
  watchpoints : List Watchpoint
  breakOnNext : Bool
  hitBreakpoint : Option UInt16
  hitWatchpoint : Option WatchHit
  hitEvent : Option DebugEvent
  breakpointsActive : Bool
  watchpointsActive : Bool

namespace BreakpointHitCondition

/-- The first condition on an address counts the hit; whether it still waits. -/
def count (pc : UInt16) : List BreakpointHitCondition → List BreakpointHitCondition × Bool
  | [] => ([],false)
  | condition :: conditions =>
    if condition.address = pc.toUInt32 then
      let hits := min (condition.hits + 1) (2^64 - 1)
      ({condition with hits := hits} :: conditions,hits < condition.targetHits)
    else
      let (conditions,waits) := count pc conditions
      (condition :: conditions,waits)

end BreakpointHitCondition

namespace Watchpoint

def contains (self : Watchpoint) (addr : UInt16) : Bool := self.address ≤ addr ∧ addr ≤ self.endAddress

/-- The first watchpoint that is hit remembers the value; what it remembered before. -/
def hit (wants : Watchpoint → Bool) (value : UInt8) : List Watchpoint → Option (Option UInt8 × List Watchpoint)
  | [] => none
  | watch :: watches =>
    if wants watch then some (watch.lastValue,{watch with lastValue := some value} :: watches)
    else (hit wants value watches).map fun found => (found.1,watch :: found.2)

end Watchpoint

namespace DebugController

def hasWatchpoints (self : DebugController) : Bool := self.watchpointsActive

def anyActive (self : DebugController) : Bool :=
  self.breakpointsActive || self.breakOnNext || self.watchpointsActive ||
    [DebugEvent.interrupt,.dma].any self.eventBreakpoints

def checkEvent (self : DebugController) (event : DebugEvent) : Bool × DebugController :=
  if self.eventBreakpoints event then (true,{self with hitEvent := some event,breakOnNext := false}) else (false,self)

def removeBreakpoint (self : DebugController) (addr : UInt16) : DebugController :=
  let count := if self.breakpoints addr then self.breakpointCount - 1 else self.breakpointCount
  {self with
    oneShotBreakpoints := Function.update self.oneShotBreakpoints addr false
    hitConditions := self.hitConditions.filter fun condition => condition.address ≠ addr.toUInt32
    breakpoints := Function.update self.breakpoints addr false
    breakpointCount := count
    breakpointsActive := 0 < count}

def shouldBreak (self : DebugController) (pc : UInt16) : Bool × DebugController :=
  if !self.breakpointsActive && !self.breakOnNext then (false,self)
  else if self.breakpoints pc then
    let (hitConditions,waits) := BreakpointHitCondition.count pc self.hitConditions
    let counted := {self with hitConditions := hitConditions}
    if waits then (false,{counted with hitBreakpoint := none})
    else
      let left := if counted.oneShotBreakpoints pc then counted.removeBreakpoint pc else counted
      (true,{left with hitBreakpoint := some pc,breakOnNext := false})
  else if self.breakOnNext then (true,{self with breakOnNext := false})
  else (false,self)

def checkWatchRead (self : DebugController) (addr : UInt16) (value : UInt8) : DebugController :=
  let wants (watch : Watchpoint) : Bool :=
    watch.contains addr && match watch.watchType with
      | .read | .readWrite => true
      | .write => false
  match Watchpoint.hit wants value self.watchpoints with
  | none => self
  | some (lastValue,watchpoints) =>
    {self with watchpoints := watchpoints,hitWatchpoint := some ⟨addr,lastValue.getD value,value,.read⟩}

def checkWatchWrite (self : DebugController) (addr : UInt16) (oldVal newVal : UInt8) : DebugController :=
  let wants (watch : Watchpoint) : Bool :=
    watch.contains addr && (match watch.watchType with
      | .write | .readWrite => true
      | .read => false) && oldVal ≠ newVal
  match Watchpoint.hit wants newVal self.watchpoints with
  | none => self
  | some (_,watchpoints) => {self with watchpoints := watchpoints,hitWatchpoint := some ⟨addr,oldVal,newVal,.write⟩}

end DebugController

inductive CpuAccessTraceEvent
  | read (addr value : UInt32)
  | write (addr oldValue newValue : UInt32)

structure RegisterDelta where
  register : UInt8
  value : UInt32

structure TraceWrite where
  address : UInt32
  oldValue : UInt32
  newValue : UInt32

def maxTraceRegisterDeltas : Nat := 16

def maxTraceWrites : Nat := 16

/-- A record of the trace. The mode and the bank are the same in every record of the Game Boy. -/
structure InstructionTraceRecord where
  sequence : UInt64
  frame : UInt64
  cycle : UInt64
  physicalRomOffset : Option Nat
  pc : UInt32
  instruction : List UInt8
  event : Option DebugEvent
  registerDeltas : List RegisterDelta
  registerDeltaOverflow : Nat
  writes : List TraceWrite
  writeOverflow : Nat

namespace InstructionTraceRecord

def pushRegisterDelta (self : InstructionTraceRecord) (delta : RegisterDelta) : InstructionTraceRecord :=
  if self.registerDeltas.length = maxTraceRegisterDeltas then
    {self with registerDeltaOverflow := min (self.registerDeltaOverflow + 1) (2^16 - 1)}
  else {self with registerDeltas := self.registerDeltas ++ [delta]}

def pushWrite (self : InstructionTraceRecord) (write : TraceWrite) : InstructionTraceRecord :=
  if self.writes.length = maxTraceWrites then {self with writeOverflow := min (self.writeOverflow + 1) (2^16 - 1)}
  else {self with writes := self.writes ++ [write]}

end InstructionTraceRecord

structure InstructionTraceStore where
  entries : List InstructionTraceRecord
  capacity : Nat
  start : Nat
  nextSequence : UInt64
  enabled : Bool

def InstructionTraceStore.push (self : InstructionTraceStore) (record : InstructionTraceRecord) : InstructionTraceStore :=
  if self.enabled then
    let record := {record with sequence := self.nextSequence}
    let self := {self with nextSequence := self.nextSequence + 1}
    if self.entries.length < self.capacity then {self with entries := self.entries ++ [record]}
    else {self with entries := self.entries.set self.start record,start := (self.start + 1) % self.capacity}
  else self

abbrev OpcodeLogEntry := UInt16 × UInt8 × Bool × Option Nat

def opcodeLogCapacity : Nat := 32

structure OpcodeLog where
  entries : List OpcodeLogEntry
  cursor : Nat
  count : Nat
  enabled : Bool

def OpcodeLog.push (self : OpcodeLog) (entry : OpcodeLogEntry) : OpcodeLog :=
  if self.enabled then
    {self with
      entries := self.entries.set self.cursor entry
      cursor := (self.cursor + 1) % opcodeLogCapacity
      count := if self.count < opcodeLogCapacity then self.count + 1 else self.count}
  else self

inductive CallStackKind
  | call
  | restart
  | interrupt

structure CallStackEntry where
  target : UInt16
  returnAddress : UInt16
  targetRomOffset : Option Nat
  returnRomOffset : Option Nat
  kind : CallStackKind

/-- What the emulator asks of its bus besides what the CPU does. -/
class EmulatorBus (B : Type) extends GbCpuBus B where
  ppuLcdc (bus : B) : UInt8
  ppuLy (bus : B) : UInt8
  hardwareMode (bus : B) : HardwareMode
  readByte (bus : B) (addr : UInt16) : UInt8
  romOffset (bus : B) (addr : UInt16) : Option Nat
  beginAudioTraceInstruction (bus : B) (pc : UInt16) (cycle : UInt64) : B
  endAudioTraceInstruction (bus : B) (cycle : UInt64) : B
  setTraceCpuAccesses (bus : B) (enabled : Bool) : B
  setTraceCpuWrites (bus : B) (enabled : Bool) : B
  beginCpuAccessTraceAt (bus : B) (at' : UInt64) : B
  drainCpuAccessTrace (bus : B) : List CpuAccessTraceEvent × B

structure Emulator (B : Type) where
  cpu : Sm83.Cpu
  bus : B
  hardwareMode : HardwareMode
  cycleCount : UInt64
  frameCount : UInt64
  opcodeLog : OpcodeLog
  instructionTrace : InstructionTraceStore
  callStack : List CallStackEntry
  lastOpcode : UInt8
  lastOpcodePc : UInt16
  debug : DebugController
  romBreakpoints : List Nat
  hitRomBreakpoint : Option Nat

def gbRegisters (cpu : Sm83.Cpu) : List UInt32 :=
  [cpu.regs.a.toUInt32,cpu.regs.f.toUInt32,cpu.regs.b.toUInt32,cpu.regs.c.toUInt32,cpu.regs.d.toUInt32,
    cpu.regs.e.toUInt32,cpu.regs.h.toUInt32,cpu.regs.l.toUInt32,cpu.sp.toUInt32,cpu.pc.toUInt32]

def pushRegisterDeltas (record : InstructionTraceRecord) (before after : List UInt32) : InstructionTraceRecord :=
  ((before.zip after).zipIdx).foldl (fun record change =>
    if change.1.1 = change.1.2 then record else record.pushRegisterDelta ⟨UInt8.ofNat change.2,change.1.2⟩) record

def gbInstructionLen (opcode : UInt8) : Nat :=
  if opcode = 0xCB then 2
  else if opcode ∈ ([0x01,0x08,0x11,0x21,0x31,0xC2,0xC3,0xC4,0xCA,0xCC,0xCD,0xD2,0xD4,0xDA,0xDC,0xEA,0xFA] : List UInt8) then 3
  else if opcode ∈ ([0x06,0x0E,0x10,0x16,0x18,0x1E,0x20,0x26,0x28,0x2E,0x30,0x36,0x38,0x3E,0xC6,0xCE,0xD6,0xDE,0xE0,
    0xE6,0xE8,0xEE,0xF0,0xF6,0xF8,0xFE] : List UInt8) then 2
  else 1

namespace Emulator
variable {B : Type}

def suspended (self : Emulator B) : Bool := self.cpu.running = .suspended

def suspend (self : Emulator B) : Emulator B := {self with cpu := {self.cpu with running := .suspended}}

variable [EmulatorBus B]

def stepCpu (self : Emulator B) : Emulator B :=
  let bus := EmulatorBus.beginAudioTraceInstruction self.bus self.cpu.pc self.cycleCount
  let (cpu,bus) := (stepWithBus (self.cpu,bus)).2
  let cycleCount := self.cycleCount + cpu.lastStepMasterTicks
  {self with
    cpu := cpu
    bus := EmulatorBus.endAudioTraceInstruction bus cycleCount
    cycleCount := cycleCount
    hardwareMode := EmulatorBus.hardwareMode bus}

/-- The frame that an instruction pushes on the call stack. -/
def pushedFrame (self : Emulator B) (pcBefore spBefore : UInt16) (opcode : UInt8) (callTarget : UInt16)
    (interruptPending : Bool) : Option (UInt16 × UInt16 × CallStackKind) :=
  let pushed : Bool := self.cpu.sp = spBefore - 2
  if interruptPending && pushed then some (self.cpu.pc,pcBefore,.interrupt)
  else if pushed ∧ opcode ∈ ([0xC4,0xCC,0xCD,0xD4,0xDC] : List UInt8) then
    if self.cpu.pc = callTarget then some (callTarget,pcBefore + 3,.call) else none
  else if pushed ∧ opcode ∈ ([0xC7,0xCF,0xD7,0xDF,0xE7,0xEF,0xF7,0xFF] : List UInt8) then some (self.cpu.pc,pcBefore + 1,.restart)
  else none

def updateCallStack (self : Emulator B) (pcBefore spBefore : UInt16) (opcode : UInt8) (callTarget : UInt16)
    (interruptPending : Bool) : Emulator B :=
  match self.pushedFrame pcBefore spBefore opcode callTarget interruptPending with
  | some (target,returnAddress,kind) =>
    let callStack := if self.callStack.length = 256 then self.callStack.tail else self.callStack
    let entry : CallStackEntry :=
      ⟨target,returnAddress,EmulatorBus.romOffset self.bus target,EmulatorBus.romOffset self.bus returnAddress,kind⟩
    {self with callStack := callStack ++ [entry]}
  | none =>
    if self.cpu.sp = spBefore + 2 ∧ opcode ∈ ([0xC0,0xC8,0xC9,0xD0,0xD8,0xD9] : List UInt8) then
      -- The stack is cut below its last frame that returns here.
      match self.callStack.reverse.findIdx? fun frame => frame.returnAddress = self.cpu.pc with
      | some back => {self with callStack := self.callStack.take (self.callStack.length - 1 - back)}
      | none => {self with callStack := []}
    else self

/-- A breakpoint on an interrupt, which suspends the CPU when one has been served. -/
def checkInterruptEvent (self : Emulator B) (spBefore : UInt16) (interruptPending : Bool) : Emulator B :=
  if interruptPending && self.cpu.sp = spBefore - 2 then
    let (hit,debug) := self.debug.checkEvent .interrupt
    if hit then {self with debug := debug}.suspend else {self with debug := debug}
  else self

/-- The accesses of the instruction go to the watchpoints and to the record. -/
def drainAccesses (watchActive : Bool) (events : List CpuAccessTraceEvent) (debug : DebugController)
    (record : Option InstructionTraceRecord) : DebugController × Option InstructionTraceRecord :=
  events.foldl (fun state event =>
    match event with
    | .read addr value => (if watchActive then state.1.checkWatchRead addr.toUInt16 value.toUInt8 else state.1,state.2)
    | .write addr oldValue newValue =>
      (if watchActive then state.1.checkWatchWrite addr.toUInt16 oldValue.toUInt8 newValue.toUInt8 else state.1,
        state.2.map fun record => record.pushWrite ⟨addr,oldValue,newValue⟩)) (debug,record)

def drainTrace (self : Emulator B) (watchActive traceActive : Bool) (record : Option InstructionTraceRecord) :
    Emulator B × Option InstructionTraceRecord :=
  if traceActive then
    let (events,bus) := EmulatorBus.drainCpuAccessTrace self.bus
    let (debug,record) := drainAccesses watchActive events self.debug record
    let drained := {self with bus := EmulatorBus.setTraceCpuAccesses bus watchActive,debug := debug}
    (if debug.hitWatchpoint.isSome then drained.suspend else drained,record)
  else (self,record)

def checkBreakpoints (self : Emulator B) (pcBefore : UInt16) : Emulator B :=
  match (EmulatorBus.romOffset self.bus pcBefore).filter fun offset => offset ∈ self.romBreakpoints with
  | some offset =>
    {self with hitRomBreakpoint := some offset,debug := {self.debug with hitBreakpoint := some pcBefore}}.suspend
  | none =>
    let (hit,debug) := self.debug.shouldBreak pcBefore
    if hit then {self with debug := debug}.suspend else {self with debug := debug}

/-- What is traced and logged about the instruction once it is over. -/
def finishInstruction (self : Emulator B) (pcBefore : UInt16) (opcode : UInt8) (romOffset : Option Nat)
    (registersBefore : List UInt32) (record : Option InstructionTraceRecord) : Emulator B :=
  let cbPrefix : Bool := opcode = 0xCB
  let op := if cbPrefix then EmulatorBus.readByte self.bus (pcBefore + 1) else opcode
  let trace := record.elim self.instructionTrace fun record =>
    self.instructionTrace.push (pushRegisterDeltas record registersBefore (gbRegisters self.cpu))
  {self with
    opcodeLog := self.opcodeLog.push (pcBefore,op,cbPrefix,romOffset)
    lastOpcode := op
    lastOpcodePc := pcBefore
    instructionTrace := trace}

/-- An instruction under the debugger. A suspended CPU executes none. -/
def stepInstruction (self : Emulator B) : Emulator B :=
  if self.suspended then self
  else
    let watchActive := self.debug.hasWatchpoints
    let traceEnabled := self.instructionTrace.enabled
    let traceActive := watchActive || traceEnabled
    let bus := EmulatorBus.setTraceCpuWrites (EmulatorBus.setTraceCpuAccesses self.bus watchActive) traceEnabled
    let bus := if traceActive then EmulatorBus.beginCpuAccessTraceAt bus self.cycleCount else bus
    let started := {self with bus := bus}
    let pcBefore := self.cpu.pc
    let spBefore := self.cpu.sp
    let opcode := EmulatorBus.readByte bus pcBefore
    let romOffset := EmulatorBus.romOffset bus pcBefore
    let operand1 := EmulatorBus.readByte bus (pcBefore + 1)
    let operand2 := EmulatorBus.readByte bus (pcBefore + 2)
    let callTarget := operand1.toUInt16 ||| operand2.toUInt16 <<< 8
    let interruptPending : Bool := self.cpu.ime = .enabled ∧
      (if self.cpu.running = .halted then GbCpuBus.pendingInterruptsForHalt bus ≠ 0
       else GbCpuBus.pendingInterruptsForCpu bus ≠ 0)
    let stepped := started.stepCpu
    let called := stepped.updateCallStack pcBefore spBefore opcode callTarget interruptPending
    let checked := called.checkInterruptEvent spBefore interruptPending
    let record : Option InstructionTraceRecord := if traceEnabled then some {
        sequence := 0,frame := self.frameCount,cycle := self.cpu.cycles,physicalRomOffset := romOffset,pc := pcBefore.toUInt32
        instruction := if interruptPending then [] else [opcode,operand1,operand2].take (gbInstructionLen opcode)
        event := if interruptPending then some .interrupt else none
        registerDeltas := [],registerDeltaOverflow := 0,writes := [],writeOverflow := 0}
      else none
    let (drained,record) := checked.drainTrace watchActive traceActive record
    (drained.checkBreakpoints pcBefore).finishInstruction pcBefore opcode romOffset (gbRegisters self.cpu) record

def instrumented (self : Emulator B) : Bool :=
  self.debug.anyActive || !self.romBreakpoints.isEmpty || self.opcodeLog.enabled || self.instructionTrace.enabled

end Emulator

namespace DebugController

theorem checkEvent_eq {self : DebugController} {event : DebugEvent} (goes : (self.checkEvent event).1 = false) :
    (self.checkEvent event).2 = self := by
  unfold checkEvent at goes ⊢
  split at goes
  · exact absurd goes (by simp)
  · rw [if_neg ‹_›]

theorem checkWatchRead_anyActive (self : DebugController) (addr : UInt16) (value : UInt8) :
    (self.checkWatchRead addr value).anyActive = self.anyActive := by
  unfold checkWatchRead
  dsimp only
  split <;> rfl

theorem checkWatchWrite_anyActive (self : DebugController) (addr : UInt16) (oldVal newVal : UInt8) :
    (self.checkWatchWrite addr oldVal newVal).anyActive = self.anyActive := by
  unfold checkWatchWrite
  dsimp only
  split <;> rfl

theorem shouldBreak_anyActive {self : DebugController} {pc : UInt16} (goes : (self.shouldBreak pc).1 = false) :
    (self.shouldBreak pc).2.anyActive = self.anyActive := by
  unfold shouldBreak at goes ⊢
  split at goes
  · rw [if_pos ‹_›]
  · rw [if_neg ‹_›]
    split at goes
    · rw [if_pos ‹_›]
      dsimp only at goes ⊢
      split at goes
      · rw [if_pos ‹_›]
        rfl
      · exact absurd goes (by simp)
    · rw [if_neg ‹_›]
      split at goes
      · exact absurd goes (by simp)
      · rw [if_neg ‹_›]

end DebugController

theorem push_enabled (store : InstructionTraceStore) (record : InstructionTraceRecord) :
    (store.push record).enabled = store.enabled := by
  unfold InstructionTraceStore.push
  split
  · dsimp only
    split <;> rfl
  · rfl

theorem log_enabled (log : OpcodeLog) (entry : OpcodeLogEntry) : (log.push entry).enabled = log.enabled := by
  unfold OpcodeLog.push
  split <;> rfl

namespace Emulator
variable {B : Type}

@[simp] theorem suspend_suspended (self : Emulator B) : self.suspend.suspended = true := by
  simp [suspend,suspended]

theorem suspended_eq_false_iff (self : Emulator B) : self.suspended = false ↔ self.cpu.running ≠ .suspended := by
  simp [suspended]

/-- The frame stays, a suspended CPU stays suspended, and the debugger stays active unless it suspends the CPU. -/
structure Attends (before after : Emulator B) : Prop where
  frame : after.frameCount = before.frameCount
  asleep : before.suspended = true → after.suspended = true
  active : before.instrumented = true → after.suspended = true ∨ after.instrumented = true

theorem Attends.trans {one two three : Emulator B} (first : Attends one two) (second : Attends two three) :
    Attends one three where
  frame := second.frame.trans first.frame
  asleep := second.asleep ∘ first.asleep
  active instrumented := (first.active instrumented).elim (.inl ∘ second.asleep) second.active

theorem Attends.of_suspended {before after : Emulator B} (frame : after.frameCount = before.frameCount)
    (suspended : after.suspended = true) : Attends before after :=
  ⟨frame,fun _ => suspended,fun _ => .inl suspended⟩

theorem Attends.of_eq {before after : Emulator B} (frame : after.frameCount = before.frameCount)
    (running : after.suspended = before.suspended) (instrumented : after.instrumented = before.instrumented) :
    Attends before after :=
  ⟨frame,running.trans,fun active => .inr (instrumented.trans active)⟩

theorem checkInterruptEvent_attends (self : Emulator B) (spBefore : UInt16) (interruptPending : Bool) :
    Attends self (self.checkInterruptEvent spBefore interruptPending) := by
  unfold checkInterruptEvent
  split
  · dsimp only
    split
    · exact .of_suspended rfl (suspend_suspended _)
    · rename_i goes
      rw [DebugController.checkEvent_eq (Bool.eq_false_of_not_eq_true goes)]
      exact .of_eq rfl rfl rfl
  · exact .of_eq rfl rfl rfl

theorem drainAccesses_anyActive (watchActive : Bool) (events : List CpuAccessTraceEvent) (debug : DebugController)
    (record : Option InstructionTraceRecord) :
    (drainAccesses watchActive events debug record).1.anyActive = debug.anyActive := by
  induction events generalizing debug record with
  | nil => rfl
  | cons event events ih =>
    refine (ih _ _).trans ?_
    cases event with
    | read addr value =>
      cases watchActive with
      | false => rfl
      | true => exact DebugController.checkWatchRead_anyActive _ _ _
    | write addr oldValue newValue =>
      cases watchActive with
      | false => rfl
      | true => exact DebugController.checkWatchWrite_anyActive _ _ _ _

variable [EmulatorBus B]

theorem stepCpu_frameCount (self : Emulator B) : self.stepCpu.frameCount = self.frameCount := rfl

theorem stepCpu_instrumented (self : Emulator B) : self.stepCpu.instrumented = self.instrumented := rfl

variable {self : Emulator B}

theorem stepCpu_awake (awake : self.suspended = false) : self.stepCpu.suspended = false := by
  rw [suspended_eq_false_iff] at awake ⊢
  have keeps : Library.Keeps Awake (stepWithBus : CpuM B Unit) := inferInstance
  exact keeps.keeps (self.cpu,EmulatorBus.beginAudioTraceInstruction self.bus self.cpu.pc self.cycleCount) awake

theorem updateCallStack_attends {pcBefore spBefore : UInt16} {opcode : UInt8} {callTarget : UInt16}
    {interruptPending : Bool} : Attends self (self.updateCallStack pcBefore spBefore opcode callTarget interruptPending) := by
  unfold updateCallStack
  split
  · exact .of_eq rfl rfl rfl
  · split
    · split <;> exact .of_eq rfl rfl rfl
    · exact .of_eq rfl rfl rfl

theorem drainTrace_attends {self : Emulator B} {watchActive traceActive : Bool} {record : Option InstructionTraceRecord} :
    Attends self (self.drainTrace watchActive traceActive record).1 := by
  unfold drainTrace
  split
  · dsimp only
    split
    · exact .of_suspended rfl (suspend_suspended _)
    · refine .of_eq rfl rfl ?_
      simp only [instrumented,drainAccesses_anyActive]
  · exact .of_eq rfl rfl rfl

theorem checkBreakpoints_attends (self : Emulator B) (pcBefore : UInt16) : Attends self (self.checkBreakpoints pcBefore) := by
  unfold checkBreakpoints
  split
  · exact .of_suspended rfl (suspend_suspended _)
  · dsimp only
    split
    · exact .of_suspended rfl (suspend_suspended _)
    · rename_i goes
      refine .of_eq rfl rfl ?_
      simp only [instrumented,DebugController.shouldBreak_anyActive (Bool.eq_false_of_not_eq_true goes)]

theorem finishInstruction_attends {pcBefore : UInt16} {opcode : UInt8} {romOffset : Option Nat}
    {registersBefore : List UInt32} {record : Option InstructionTraceRecord} :
    Attends self (self.finishInstruction pcBefore opcode romOffset registersBefore record) := by
  refine .of_eq rfl rfl ?_
  cases record with
  | none => simp only [instrumented,finishInstruction,Option.elim,log_enabled]
  | some record => simp only [instrumented,finishInstruction,Option.elim,log_enabled,push_enabled]

theorem stepInstruction_frameCount (self : Emulator B) : self.stepInstruction.frameCount = self.frameCount := by
  unfold stepInstruction
  split
  · rfl
  · dsimp only
    rw [finishInstruction_attends.frame,(checkBreakpoints_attends _ _).frame,drainTrace_attends.frame,
      (checkInterruptEvent_attends _ _ _).frame,updateCallStack_attends.frame]
    rfl

theorem stepInstruction_instrumented (active : self.instrumented = true) :
    self.stepInstruction.suspended = true ∨ self.stepInstruction.instrumented = true := by
  unfold stepInstruction
  split
  · exact .inr active
  · exact (updateCallStack_attends.trans <| (checkInterruptEvent_attends _ _ _).trans <|
      drainTrace_attends.trans <| (checkBreakpoints_attends _ _).trans <|
        finishInstruction_attends).active active

end Emulator

end ZeffBoy.GameBoy
