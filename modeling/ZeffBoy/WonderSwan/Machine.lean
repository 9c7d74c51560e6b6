import ZeffBoy.WonderSwan.Io

/-! A whole WonderSwan, and the frames it runs.
What an instruction does is left open: it is any program over the operations of the bus. -/
namespace ZeffBoy.WonderSwan

def flagFixed : UInt16 := 0xF002
def flagBrk : UInt16 := 0x0100
def flagIf : UInt16 := 0x0200

inductive CpuState
  | running
  | halted
  | suspended
deriving DecidableEq

inductive CpuTrap
  | unsupportedOpcode (cs ip : UInt16) (opcode : UInt8)
  | unsupportedInstructionForm (cs ip : UInt16) (opcode modrm : UInt8)
  | divideError (cs ip : UInt16) (opcode modrm : UInt8)

-- AX, CX, DX, BX, SP, BP, SI, DI; ES, CS, SS, DS.
structure Cpu where
  regs : Fin 8 → UInt16
  segments : Fin 4 → UInt16
  ip : UInt16
  flags : UInt16
  cycles : UInt64
  state : CpuState
  lastOpcode : UInt8
  lastTrap : Option CpuTrap
  interruptShadow : UInt8
  brkShadow : UInt8
  lastStepWasInterrupt : Bool
  lastMulOverflow : Bool

/-- A program over the operations of the bus. -/
inductive Guest (α : Type)
  | done (result : α)
  | read8 (addr : UInt32) (next : UInt8 → Guest α)
  | write8 (addr : UInt32) (value : UInt8) (next : Guest α)
  | ioRead8 (port : UInt16) (next : UInt8 → Guest α)
  | ioWrite8 (port : UInt16) (value : UInt8) (next : Guest α)
  | stepCycles (cycles : Nat) (next : Guest α)
  | flushDeferredLinearBank (next : Guest α)

namespace Guest
variable {α β : Type}

def bind : Guest α → (α → Guest β) → Guest β
  | done result,after => after result
  | read8 addr next,after => read8 addr fun value => (next value).bind after
  | write8 addr value next,after => write8 addr value (next.bind after)
  | ioRead8 port next,after => ioRead8 port fun value => (next value).bind after
  | ioWrite8 port value next,after => ioWrite8 port value (next.bind after)
  | stepCycles cycles next,after => stepCycles cycles (next.bind after)
  | flushDeferredLinearBank next,after => flushDeferredLinearBank (next.bind after)

instance : Monad Guest where
  pure := done
  bind := bind

def run {Frame Sample : Type} (board : Board Frame Sample) : Guest α → Bus Frame Sample → α × Bus Frame Sample
  | done result,bus => (result,bus)
  | read8 addr next,bus => (next (bus.hardware.peek8 addr)).run board bus
  | write8 addr value next,bus => next.run board (bus.map (Hardware.write8 addr value))
  | ioRead8 port next,bus => (next (bus.ioRead8 board port).1).run board (bus.ioRead8 board port).2
  | ioWrite8 port value next,bus => next.run board (bus.ioWrite8 board port value)
  | stepCycles cycles next,bus => next.run board (bus.stepCycles board cycles)
  | flushDeferredLinearBank next,bus => next.run board (bus.map Hardware.flushDeferredLinearBank)

def read16 (addr : UInt32) : Guest UInt16 :=
  read8 addr fun low => read8 (addr + 1) fun high => done (wordOf low high)

def write16 (addr : UInt32) (value : UInt16) : Guest Unit :=
  write8 addr (lowByte value) (write8 (addr + 1) (highByte value) (done ()))

end Guest

namespace Cpu

def physicalAddress (cpu : Cpu) (segment : Fin 4) (offset : UInt16) : UInt32 :=
  ((cpu.segments segment).toUInt32 <<< 4 + offset.toUInt32) &&& addressMask

def addCycles (cpu : Cpu) (cycles : Nat) : Guest Cpu :=
  .stepCycles cycles (.done {cpu with cycles := cpu.cycles + UInt64.ofNat cycles})

def push16 (cpu : Cpu) (value : UInt16) : Guest Cpu := do
  let sp := cpu.regs 4 - 2
  let cpu := {cpu with regs := Function.update cpu.regs 4 sp}
  Guest.write16 (cpu.physicalAddress 2 sp) value
  return cpu

def enterInterrupt (cpu : Cpu) (vector : UInt8) (cycles : Nat) : Guest Cpu := do
  let cpu := {cpu with state := .running}
  let cpu ← cpu.push16 (cpu.flags ||| flagFixed)
  let cpu ← cpu.push16 (cpu.segments 1)
  let cpu ← cpu.push16 cpu.ip
  let cpu := {cpu with
    flags := (cpu.flags &&& ~~~(flagBrk ||| flagIf)) ||| flagFixed
    interruptShadow := 0
    brkShadow := 0}
  let addr := vector.toUInt32 * 4
  let ip ← Guest.read16 addr
  let cs ← Guest.read16 (addr + 2)
  let cpu ← {cpu with ip := ip, segments := Function.update cpu.segments 1 cs}.addCycles cycles
  .flushDeferredLinearBank (.done cpu)

def canFastForwardHalt (cpu : Cpu) : Bool :=
  cpu.state = .halted && cpu.flags &&& flagBrk = 0 && cpu.interruptShadow = 0 && cpu.brkShadow = 0

-- A shadow lasts for one look at the interrupts.
def consumeShadows (cpu : Cpu) : Cpu :=
  {cpu with interruptShadow := cpu.interruptShadow - min cpu.interruptShadow 1, brkShadow := cpu.brkShadow - min cpu.brkShadow 1}

def pendingInterruptOrBrk (cpu : Cpu) (vector : Option UInt8) : Option UInt8 :=
  if cpu.brkShadow = 0 ∧ cpu.flags &&& flagBrk ≠ 0 then some 1
  else if cpu.interruptShadow = 0 ∧ cpu.flags &&& flagIf ≠ 0 then vector
  else none

def wake (cpu : Cpu) (signal : Bool) : Cpu :=
  let cpu := {cpu with lastStepWasInterrupt := false}
  if cpu.state = .halted ∧ signal then {cpu with state := .running} else cpu

/-- A step of the CPU, and whether it fetched an instruction. -/
def step (execute : Cpu → Guest Cpu) (cpu : Cpu) (signal : Bool) (vector : Option UInt8) : Guest (Bool × Cpu) :=
  if cpu.state = .suspended then .done (false,cpu)
  else
    let cpu := cpu.wake signal
    match cpu.pendingInterruptOrBrk vector with
    | some vector => do
      let cpu ← cpu.consumeShadows.enterInterrupt vector 32
      return (false,{cpu with lastStepWasInterrupt := true})
    | none =>
      let cpu := cpu.consumeShadows
      match cpu.state with
      | .suspended => .done (false,cpu)
      | .halted => do
        let cpu ← cpu.addCycles 1
        return (false,cpu)
      | .running => do
        let cpu ← execute cpu
        return (true,cpu)

end Cpu

structure Emulator (Frame Sample : Type) where
  cpu : Cpu
  bus : Bus Frame Sample
  frameCount : UInt64

namespace Emulator
variable {Frame Sample : Type} (board : Board Frame Sample) (execute : Cpu → Guest Cpu)

def stepInstruction (emulator : Emulator Frame Sample) : Bool × Emulator Frame Sample :=
  if emulator.cpu.state = .suspended then (false,emulator)
  else
    let hardware := emulator.bus.hardware
    let ((fetched,cpu),bus) :=
      (emulator.cpu.step execute hardware.hasPendingInterruptSignal hardware.pendingInterruptVector).run board emulator.bus
    (fetched,{emulator with cpu := cpu, bus := if fetched then bus.map Hardware.retireInstruction else bus})

def frameReady (emulator : Emulator Frame Sample) : Bool := emulator.bus.hardware.ppu.frameReady

def clearFrameReady (emulator : Emulator Frame Sample) : Emulator Frame Sample :=
  {emulator with
    bus := emulator.bus.map fun hardware => {hardware with ppu := {hardware.ppu with frameReady := false}}}

/-- Time is skipped up to the next event of the bus. -/
def fastForwardHalt (emulator : Emulator Frame Sample) (guard : UInt64) : Emulator Frame Sample :=
  let advance := min emulator.bus.hardware.haltedCpuNextEventCycles (guard - emulator.cpu.cycles).toNat
  if advance ≠ 0 then
    let (cpu,bus) := (emulator.cpu.addCycles advance).run board emulator.bus
    {emulator with cpu := cpu, bus := bus}
  else emulator

def stepFrameAfterEmptyInstruction (fastForward : Bool) (guard : UInt64) (emulator : Emulator Frame Sample) :
    Bool × Emulator Frame Sample :=
  let emulator := {emulator with bus := emulator.bus.materializeFrameService board}
  if emulator.cpu.state = .suspended then (true,emulator)
  else if fastForward ∧ emulator.cpu.state = .halted ∧ emulator.frameReady = false ∧ emulator.cpu.cycles < guard ∧
      emulator.cpu.canFastForwardHalt ∧ emulator.bus.hardware.hasPendingInterruptSignal = false then
    (false,emulator.fastForwardHalt board guard)
  else (false,emulator)

def frameLoop (fastForward : Bool) (guard : UInt64) : Nat → Emulator Frame Sample → Option (Emulator Frame Sample)
  | 0,_ => none
  | fuel + 1,emulator =>
    if emulator.frameReady = false ∧ emulator.cpu.cycles < guard then
      match emulator.stepInstruction board execute with
      | (true,emulator) => frameLoop fastForward guard fuel emulator
      | (false,emulator) =>
        match emulator.stepFrameAfterEmptyInstruction board fastForward guard with
        | (true,emulator) => some emulator
        | (false,emulator) => frameLoop fastForward guard fuel emulator
    else some emulator

def finishFrame (emulator : Emulator Frame Sample) : Emulator Frame Sample :=
  let bus := if emulator.frameReady then emulator.bus
    else (emulator.bus.materializeFrameService board).map (Hardware.renderFrame board)
  {emulator with bus := bus, frameCount := emulator.frameCount + 1}

def guardOf (emulator : Emulator Frame Sample) : UInt64 := emulator.cpu.cycles + UInt64.ofNat (cyclesPerFrame * 2)

/-- `step_frame_inner`, within a number of turns of its loop. Debugger and traces are off. -/
def stepFrameInner (fastForward deferred : Bool) (fuel : Nat) (emulator : Emulator Frame Sample) :
    Option (Emulator Frame Sample) :=
  if emulator.cpu.state = .suspended then some emulator
  else
    let cleared := emulator.clearFrameReady
    let start := if deferred then {cleared with bus := cleared.bus.beginFrameService} else cleared
    (frameLoop board execute fastForward start.guardOf fuel start).map fun emulator =>
      finishFrame board {emulator with bus := emulator.bus.endFrameService board}

end Emulator

section Power
variable {Frame Sample : Type} (board : Board Frame Sample)

def internalEepromLabel (color : Bool) : List UInt8 :=
  [0x57,0x4F,0x4E,0x44,0x45,0x52,0x53,0x57,0x41,0x4E] ++ if color then [0x43,0x4F,0x4C,0x4F,0x52] else []

def internalEepromFor (color : Bool) : List UInt8 :=
  internalEepromLabel color ++ List.replicate ((if color then 0x800 else 0x80) - (internalEepromLabel color).length) 0xFF

def ramFor (color : Bool) : Ram :=
  if color then List.replicate 0xFE00 0 ++ List.replicate 0x200 0xFF else List.replicate 0x4000 0

def startPorts (color : Bool) : List (UInt16 × UInt8) :=
  [(systemControlPort,if color then 0x87 else 0x85),(lineComparePort,0x00),(lcdControlPort,0x01),(lcdVtotalPort,0x9E),
    (irqVectorBasePort,0x00),(irqEnablePort,0x00),(irqStatusPort,0x00),(irqAckPort,if color then 0xFF else 0x00),(0x60,0x0A)] ++
    (if color then [(0x9E,0x03)] else []) ++
    [(internalEepromDataLoPort,0x00),(internalEepromDataHiPort,0x00),(internalEepromCommandPort,0x80)]

def portsFor (color : Bool) : Ports := (startPorts color).foldl (fun io entry => Function.update io entry.1 entry.2) fun _ => 0

/-- The bus after a reset. -/
def Hardware.powered (cartridge : Cartridge) (sampleRate : Nat) : Hardware Frame Sample :=
  let color : Bool := cartridge.footer.minimumSystem ≠ .wonderSwan
  {
    cartridge := cartridge.resetBanks
    ppu := .powered board.screen
    apu := (Apu.powered.setSampleRate sampleRate).reset
    keypad := Keypad.new.write 0x40
    ram := ramFor color
    io := portsFor color
    internalEeprom := internalEepromFor color
    rtc := .new
    uart := .empty
    soundDma := ⟨0,0,0⟩
    internalEepromWriteEnabled := true
    internalEepromProtected := false
    internalEepromDoneDelayReads := 0
    cartridgeEepromWriteEnabled := false
    pendingLinearBank := none
    cycles := 0}

def Cpu.powered (color : Bool) : Cpu where
  regs := ![if color then 0xFF87 else 0xFF85,0,0,if color then 0x43 else 0x40,0x2000,0,if color then 0x0457 else 0x023D,
    if color then 0x040B else 0x040D]
  segments := ![0,0xFFFF,0,if color then 0xFE00 else 0xFF00]
  ip := 0
  flags := if color then 0xF086 else 0xF082
  cycles := 0
  state := .running
  lastOpcode := 0
  lastTrap := none
  interruptShadow := 0
  brkShadow := 0
  lastStepWasInterrupt := false
  lastMulOverflow := false

def Emulator.powered (cartridge : Cartridge) (sampleRate : Nat) : Emulator Frame Sample :=
  ⟨.powered (cartridge.footer.minimumSystem ≠ .wonderSwan),⟨⟨.powered board cartridge sampleRate,0,0⟩,false⟩,0⟩

end Power

end ZeffBoy.WonderSwan
