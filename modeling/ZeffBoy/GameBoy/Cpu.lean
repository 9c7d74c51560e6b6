import ZeffBoy.Library.Transition
import ZeffBoy.GameBoy.ReplayProjection

/-! The registers of the CPU of the Game Boy and its accesses to the bus.
The CPU is generic over the bus. An access tells how long it took, and the time adds up over one step. -/
namespace ZeffBoy.GameBoy
open Library

instance neZero_interrupts : NeZero 32 := ⟨by decide⟩

deriving instance DecidableEq for ImeState
deriving instance DecidableEq for CpuState

inductive Reg8
  | a
  | b
  | c
  | d
  | e
  | h
  | l

namespace Registers

def read (regs : Registers) : Reg8 → UInt8
  | .a => regs.a
  | .b => regs.b
  | .c => regs.c
  | .d => regs.d
  | .e => regs.e
  | .h => regs.h
  | .l => regs.l

def write (regs : Registers) (reg : Reg8) (value : UInt8) : Registers :=
  match reg with
  | .a => {regs with a := value}
  | .b => {regs with b := value}
  | .c => {regs with c := value}
  | .d => {regs with d := value}
  | .e => {regs with e := value}
  | .h => {regs with h := value}
  | .l => {regs with l := value}

def pair (high low : UInt8) : UInt16 := high.toUInt16 <<< 8 ||| low.toUInt16

def getAf (regs : Registers) : UInt16 := pair regs.a regs.f

def setAf (regs : Registers) (value : UInt16) : Registers :=
  {regs with a := (value >>> 8).toUInt8,f := value.toUInt8 &&& 0xF0}

def getBc (regs : Registers) : UInt16 := pair regs.b regs.c

def setBc (regs : Registers) (value : UInt16) : Registers := {regs with b := (value >>> 8).toUInt8,c := value.toUInt8}

def getDe (regs : Registers) : UInt16 := pair regs.d regs.e

def setDe (regs : Registers) (value : UInt16) : Registers := {regs with d := (value >>> 8).toUInt8,e := value.toUInt8}

def getHl (regs : Registers) : UInt16 := pair regs.h regs.l

def setHl (regs : Registers) (value : UInt16) : Registers := {regs with h := (value >>> 8).toUInt8,l := value.toUInt8}

def getFlag (regs : Registers) (mask : UInt8) : Bool := regs.f &&& mask ≠ 0

def setFlag (regs : Registers) (mask : UInt8) (val : Bool) : Registers :=
  {regs with f := if val then regs.f ||| mask else regs.f &&& ~~~mask}

def getZ (regs : Registers) : Bool := regs.getFlag 0x80

def setZ (regs : Registers) (val : Bool) : Registers := regs.setFlag 0x80 val

def getN (regs : Registers) : Bool := regs.getFlag 0x40

def setN (regs : Registers) (val : Bool) : Registers := regs.setFlag 0x40 val

def getH (regs : Registers) : Bool := regs.getFlag 0x20

def setH (regs : Registers) (val : Bool) : Registers := regs.setFlag 0x20 val

def getC (regs : Registers) : Bool := regs.getFlag 0x10

def setC (regs : Registers) (val : Bool) : Registers := regs.setFlag 0x10 val

def setFlags (regs : Registers) (z n h c : Bool) : Registers := (((regs.setZ z).setN n).setH h).setC c

def inc (regs : Registers) (value : UInt8) : UInt8 × Registers :=
  let result := value + 1
  (result,regs.setFlags (result = 0) false (0x0F < (value &&& 0x0F) + 1) regs.getC)

def dec (regs : Registers) (value : UInt8) : UInt8 × Registers :=
  let result := value - 1
  (result,regs.setFlags (result = 0) true (value &&& 0x0F = 0) regs.getC)

def adc (regs : Registers) (value : UInt8) : Registers :=
  let a := regs.a.toUInt16
  let val := value.toUInt16
  let result := a + val + (if regs.getC then 1 else 0)
  {regs with a := result.toUInt8}.setFlags (result.toUInt8 = 0) false ((a ^^^ val ^^^ result) &&& 0x10 ≠ 0) (0xFF < result)

def sbc (regs : Registers) (value : UInt8) : Registers :=
  let a := regs.a
  let carry : UInt8 := if regs.getC then 1 else 0
  let result := a - value - carry
  {regs.setFlags (result = 0) true (a &&& 0x0F < (value &&& 0x0F) + carry)
    (a.toUInt16 < value.toUInt16 + carry.toUInt16) with a := result}

def add (regs : Registers) (value : UInt8) : Registers :=
  let a := regs.a
  let result := a + value
  {regs with a := result}.setFlags (result = 0) false (0x0F < (a &&& 0x0F) + (value &&& 0x0F))
    (0xFF < a.toUInt16 + value.toUInt16)

def sub (regs : Registers) (value : UInt8) : Registers :=
  let a := regs.a
  let result := a - value
  {regs with a := result}.setFlags (result = 0) true (a &&& 0x0F < value &&& 0x0F) (a < value)

def compare (regs : Registers) (value : UInt8) : Registers := {regs.sub value with a := regs.a}

def logicalOr (regs : Registers) (value : UInt8) : Registers :=
  {regs with a := regs.a ||| value}.setFlags (regs.a ||| value = 0) false false false

def logicalAnd (regs : Registers) (value : UInt8) : Registers :=
  {regs with a := regs.a &&& value}.setFlags (regs.a &&& value = 0) false true false

def logicalXor (regs : Registers) (value : UInt8) : Registers :=
  {regs with a := regs.a ^^^ value}.setFlags (regs.a ^^^ value = 0) false false false

def rotateLeft (value : UInt8) : UInt8 := value <<< 1 ||| value >>> 7

def rotateRight (value : UInt8) : UInt8 := value >>> 1 ||| value <<< 7

def rlc (regs : Registers) (value : UInt8) : UInt8 × Registers :=
  let result := rotateLeft value
  (result,regs.setFlags (result = 0) false false (result &&& 1 ≠ 0))

def rrc (regs : Registers) (value : UInt8) : UInt8 × Registers :=
  let result := rotateRight value
  (result,regs.setFlags (result = 0) false false (value &&& 0x01 ≠ 0))

def rl (regs : Registers) (value : UInt8) : UInt8 × Registers :=
  let result := value <<< 1 ||| (if regs.getC then 1 else 0)
  (result,regs.setFlags (result = 0) false false (value &&& 0x80 ≠ 0))

def rr (regs : Registers) (value : UInt8) : UInt8 × Registers :=
  let result := value >>> 1 ||| (if regs.getC then 0x80 else 0)
  (result,regs.setFlags (result = 0) false false (value &&& 1 ≠ 0))

def sla (regs : Registers) (value : UInt8) : UInt8 × Registers :=
  let result := value <<< 1
  (result,regs.setFlags (result = 0) false false (value &&& 0x80 ≠ 0))

def srl (regs : Registers) (value : UInt8) : UInt8 × Registers :=
  let result := value >>> 1
  (result,regs.setFlags (result = 0) false false (value &&& 1 ≠ 0))

def sra (regs : Registers) (value : UInt8) : UInt8 × Registers :=
  let result := value >>> 1 ||| value &&& 0x80
  (result,regs.setFlags (result = 0) false false (value &&& 1 ≠ 0))

def swap (regs : Registers) (value : UInt8) : UInt8 × Registers :=
  let result := value <<< 4 ||| value >>> 4
  (result,regs.setFlags (result = 0) false false false)

def bit (regs : Registers) (bit value : UInt8) : Registers :=
  regs.setFlags (value &&& 1 <<< bit = 0) false true regs.getC

def setBit (bit value : UInt8) : UInt8 := value ||| 1 <<< bit

def resetBit (bit value : UInt8) : UInt8 := value &&& ~~~(1 <<< bit)

end Registers

structure GbCpuTiming where
  cpuTCycles : UInt64
  masterTicks : UInt64

structure GbCpuRead where
  value : UInt8
  timing : GbCpuTiming

/-- What the CPU asks of its bus. The pending interrupts are masked to the five lines there are. -/
class GbCpuBus (B : Type) where
  cpuReadByteTimed (bus : B) (addr : UInt16) (accessStartMasterTicks : UInt64) : GbCpuRead × B
  cpuWriteByteTimed (bus : B) (addr : UInt16) (value : UInt8) (accessStartMasterTicks : UInt64) : GbCpuTiming × B
  advanceCpuTCycles (bus : B) (cpuTCycles : UInt64) : GbCpuTiming × B
  advanceStoppedTCycles (bus : B) (cpuTCycles : UInt64) : GbCpuTiming × B
  enterStopMode (bus : B) : B
  pendingInterruptsForCpu (bus : B) : Fin 32
  pendingInterruptsForHalt (bus : B) : Fin 32
  clearInterruptBit (bus : B) (bit : Nat) : B
  beginAudioTraceInterrupt (bus : B) : B
  audioTraceExecutionFault (bus : B) : B
  maybeTriggerOamWriteCorruption (bus : B) (addr : UInt16) : B
  tryCgbSpeedSwitch (bus : B) : Option GbCpuTiming × B

namespace Sm83

/-- The CPU that runs. The save states leave the master ticks out. -/
structure Cpu extends GameBoy.Cpu where
  lastStepMasterTicks : UInt64
  timedMasterTicksAccounted : UInt64

namespace Cpu

def accountTiming (self : Cpu) (timing : GbCpuTiming) : Cpu :=
  {self with
    timedCyclesAccounted := self.timedCyclesAccounted + timing.cpuTCycles
    timedMasterTicksAccounted := self.timedMasterTicksAccounted + timing.masterTicks}

def advancePcAfterFetch (self : Cpu) : Cpu :=
  if self.haltBugActive then {self with haltBugActive := false} else {self with pc := self.pc + 1}

def commitStepCycles (self : Cpu) : Cpu :=
  {self with
    lastStepCycles := self.timedCyclesAccounted
    lastStepMasterTicks := self.timedMasterTicksAccounted
    cycles := self.cycles + self.timedCyclesAccounted}

end Cpu

abbrev CpuM (B : Type) := StateM (Cpu × B)

section
variable {B : Type}

def getCpu : CpuM B Cpu := fun state => (state.1,state)

def getRegs : CpuM B Registers := fun state => (state.1.regs,state)

def onCpu (change : Cpu → Cpu) : CpuM B Unit := fun state => ((),change state.1,state.2)

def onRegs (change : Registers → Registers) : CpuM B Unit := onCpu fun cpu => {cpu with regs := change cpu.regs}

def withRegs (change : Registers → UInt8 × Registers) : CpuM B UInt8 :=
  fun state => ((change state.1.regs).1,{state.1 with regs := (change state.1.regs).2},state.2)

def jump (addr : UInt16) : CpuM B Unit := onCpu fun cpu => {cpu with pc := addr}

variable [GbCpuBus B]

def onBus (change : B → B) : CpuM B Unit := fun state => ((),state.1,change state.2)

def askBus {α : Type} (question : B → α) : CpuM B α := fun state => (question state.2,state)

def busReadTimed (addr : UInt16) : CpuM B UInt8 := fun state =>
  let (read,bus) := GbCpuBus.cpuReadByteTimed state.2 addr state.1.timedMasterTicksAccounted
  (read.value,state.1.accountTiming read.timing,bus)

def busWriteTimed (addr : UInt16) (value : UInt8) : CpuM B Unit := fun state =>
  let (timing,bus) := GbCpuBus.cpuWriteByteTimed state.2 addr value state.1.timedMasterTicksAccounted
  ((),state.1.accountTiming timing,bus)

def tickInternalTimed (tCycles : UInt64) : CpuM B Unit := fun state =>
  let (timing,bus) := GbCpuBus.advanceCpuTCycles state.2 tCycles
  ((),state.1.accountTiming timing,bus)

def tickStoppedTimed (tCycles : UInt64) : CpuM B Unit := fun state =>
  let (timing,bus) := GbCpuBus.advanceStoppedTCycles state.2 tCycles
  ((),state.1.accountTiming timing,bus)

def tryCgbSpeedSwitch : CpuM B (Option GbCpuTiming) := fun state =>
  let (timing,bus) := GbCpuBus.tryCgbSpeedSwitch state.2
  (timing,state.1,bus)

def maybeTriggerOamWriteCorruption (addr : UInt16) : CpuM B Unit :=
  onBus (GbCpuBus.maybeTriggerOamWriteCorruption · addr)

def fetch8Timed : CpuM B UInt8 := do
  let cpu ← getCpu
  let val ← busReadTimed cpu.pc
  onCpu Cpu.advancePcAfterFetch
  return val

def fetch16Timed : CpuM B UInt16 := do
  let low ← fetch8Timed
  let high ← fetch8Timed
  return Registers.pair high low

def lowerSp : CpuM B UInt16 := fun state =>
  (state.1.sp - 1,{state.1 with sp := state.1.sp - 1},state.2)

def push16Timed (value : UInt16) : CpuM B Unit := do
  let sp ← lowerSp
  busWriteTimed sp (value >>> 8).toUInt8
  let sp ← lowerSp
  busWriteTimed sp value.toUInt8

def pop16Timed : CpuM B UInt16 := do
  let cpu ← getCpu
  let low ← busReadTimed cpu.sp
  onCpu fun cpu => {cpu with sp := cpu.sp + 1}
  let cpu ← getCpu
  let high ← busReadTimed cpu.sp
  onCpu fun cpu => {cpu with sp := cpu.sp + 1}
  return Registers.pair high low

def push16TimedOam (value : UInt16) : CpuM B Unit := do
  let cpu ← getCpu
  maybeTriggerOamWriteCorruption cpu.sp
  push16Timed value

def pop16TimedOam : CpuM B UInt16 := pop16Timed

def incRpTimed (value : UInt16) : CpuM B UInt16 := do
  tickInternalTimed 4
  maybeTriggerOamWriteCorruption value
  return value + 1

def decRpTimed (value : UInt16) : CpuM B UInt16 := do
  tickInternalTimed 4
  maybeTriggerOamWriteCorruption value
  return value - 1

def lowestLine (pending : Fin 32) : Option Nat := (List.range 5).find? fun bit => pending.val.testBit bit

def intVectors : List UInt16 := [0x0040,0x0048,0x0050,0x0058,0x0060]

/-- The return address is pushed. The push of its high byte may change which interrupt is dispatched. -/
def pushDispatching (returnAddr : UInt16) : CpuM B (Option Nat) := do
  let sp ← lowerSp
  busWriteTimed sp (returnAddr >>> 8).toUInt8
  let triggeredAfterHighPush ← askBus GbCpuBus.pendingInterruptsForCpu
  onBus fun bus => (lowestLine triggeredAfterHighPush).elim bus (GbCpuBus.clearInterruptBit bus)
  let sp ← lowerSp
  busWriteTimed sp returnAddr.toUInt8
  return lowestLine triggeredAfterHighPush

def serveInterrupt (returnAddr : UInt16) : CpuM B Unit := do
  onBus GbCpuBus.beginAudioTraceInterrupt
  onCpu fun cpu => {cpu with ime := .disabled}
  tickInternalTimed 8
  let dispatchBit ← pushDispatching returnAddr
  tickInternalTimed 4
  onCpu fun cpu => {cpu with pc := dispatchBit.elim 0x0000 (intVectors.getD · 0)}

def handleInterrupts : CpuM B Bool := do
  let triggered ← askBus GbCpuBus.pendingInterruptsForCpu
  let cpu ← getCpu
  if triggered = 0 ∨ cpu.ime ≠ .enabled then return false
  else
    serveInterrupt cpu.pc
    return true

end

def Awake {B : Type} (state : Cpu × B) : Prop := state.1.running ≠ .suspended

/-- No change of the CPU suspends it. -/
class Wakeful (change : Cpu → Cpu) : Prop where
  wakes : ∀ cpu, cpu.running ≠ .suspended → (change cpu).running ≠ .suspended

theorem Wakeful.of_running {change : Cpu → Cpu} (same : ∀ cpu, (change cpu).running = cpu.running) : Wakeful change :=
  ⟨fun cpu awake => (same cpu).trans_ne awake⟩

section
variable {B : Type}

instance : Keeps Awake (getCpu : CpuM B Cpu) := ⟨fun _ awake => awake⟩

instance : Keeps Awake (getRegs : CpuM B Registers) := ⟨fun _ awake => awake⟩

instance (change : Cpu → Cpu) [Wakeful change] : Keeps Awake (onCpu change : CpuM B Unit) :=
  ⟨fun state awake => Wakeful.wakes state.1 awake⟩

instance (change : Registers → Registers) : Keeps Awake (onRegs change : CpuM B Unit) := ⟨fun _ awake => awake⟩

instance (change : Registers → UInt8 × Registers) : Keeps Awake (withRegs change : CpuM B UInt8) := ⟨fun _ awake => awake⟩

instance (addr : UInt16) : Keeps Awake (jump addr : CpuM B Unit) := ⟨fun _ awake => awake⟩

instance (change : B → B) : Keeps Awake (onBus change) := ⟨fun _ awake => awake⟩

instance {α : Type} (question : B → α) : Keeps Awake (askBus question) := ⟨fun _ awake => awake⟩

instance : Keeps Awake (lowerSp : CpuM B UInt16) := ⟨fun _ awake => awake⟩

instance : Wakeful Cpu.advancePcAfterFetch := by
  refine .of_running fun cpu => ?_
  unfold Cpu.advancePcAfterFetch
  split <;> rfl

instance : Wakeful Cpu.commitStepCycles := .of_running fun _ => rfl

instance (change : Cpu → UInt16) : Wakeful fun cpu => {cpu with pc := change cpu} := .of_running fun _ => rfl

instance (change : Cpu → UInt16) : Wakeful fun cpu => {cpu with sp := change cpu} := .of_running fun _ => rfl

instance (ime : ImeState) : Wakeful fun cpu => {cpu with ime := ime} := .of_running fun _ => rfl

variable [GbCpuBus B]

instance (addr : UInt16) : Keeps Awake (busReadTimed addr : CpuM B UInt8) := ⟨fun _ awake => awake⟩

instance (addr : UInt16) (value : UInt8) : Keeps Awake (busWriteTimed addr value : CpuM B Unit) := ⟨fun _ awake => awake⟩

instance (tCycles : UInt64) : Keeps Awake (tickInternalTimed tCycles : CpuM B Unit) := ⟨fun _ awake => awake⟩

instance (tCycles : UInt64) : Keeps Awake (tickStoppedTimed tCycles : CpuM B Unit) := ⟨fun _ awake => awake⟩

instance : Keeps Awake (tryCgbSpeedSwitch : CpuM B (Option GbCpuTiming)) := ⟨fun _ awake => awake⟩

instance (addr : UInt16) : Keeps Awake (maybeTriggerOamWriteCorruption addr : CpuM B Unit) := ⟨fun _ awake => awake⟩

instance : Keeps Awake (fetch8Timed : CpuM B UInt8) := by unfold fetch8Timed; infer_instance

instance : Keeps Awake (fetch16Timed : CpuM B UInt16) := by unfold fetch16Timed; infer_instance

instance (value : UInt16) : Keeps Awake (push16Timed value : CpuM B Unit) := by unfold push16Timed; infer_instance

instance : Keeps Awake (pop16Timed : CpuM B UInt16) := by unfold pop16Timed; infer_instance

instance (value : UInt16) : Keeps Awake (push16TimedOam value : CpuM B Unit) := by unfold push16TimedOam; infer_instance

instance : Keeps Awake (pop16TimedOam : CpuM B UInt16) := by unfold pop16TimedOam; infer_instance

instance (value : UInt16) : Keeps Awake (incRpTimed value : CpuM B UInt16) := by unfold incRpTimed; infer_instance

instance (value : UInt16) : Keeps Awake (decRpTimed value : CpuM B UInt16) := by unfold decRpTimed; infer_instance

instance (returnAddr : UInt16) : Keeps Awake (pushDispatching returnAddr : CpuM B (Option Nat)) := by
  unfold pushDispatching
  infer_instance

instance (returnAddr : UInt16) : Keeps Awake (serveInterrupt returnAddr : CpuM B Unit) := by
  unfold serveInterrupt
  infer_instance

instance : Keeps Awake (handleInterrupts : CpuM B Bool) := by unfold handleInterrupts; infer_instance

end

end Sm83

end ZeffBoy.GameBoy
