import ZeffBoy.WonderSwan.Strings

/-! Interrupts between the iterations of a string instruction. The memory is cells behind a fixed map of addresses,
and the ports lead to any device. -/
namespace ZeffBoy.WonderSwan

/-- Where the addresses lead. Several may lead to one cell, and what is written to some is lost. -/
structure MemoryMap (Cell : Type) where
  cell : UInt32 → Cell
  writable : UInt32 → Bool

structure Device (σ : Type) where
  read : σ → UInt16 → UInt8 × σ
  write : σ → UInt16 → UInt8 → σ

structure Store (Cell σ : Type) where
  memory : Cell → UInt8
  device : σ

variable {Cell σ : Type} [DecidableEq Cell]

namespace Store

def read (map : MemoryMap Cell) (store : Store Cell σ) (addr : UInt32) : UInt8 := store.memory (map.cell (addr &&& addressMask))

def write (map : MemoryMap Cell) (store : Store Cell σ) (addr : UInt32) (value : UInt8) : Store Cell σ :=
  if map.writable (addr &&& addressMask) then
    {store with memory := Function.update store.memory (map.cell (addr &&& addressMask)) value}
  else store

/-- Stores that agree on the device and on every cell that is not set aside. -/
structure Agree (aside : Set Cell) (store other : Store Cell σ) : Prop where
  device : store.device = other.device
  memory : ∀ cell, cell ∉ aside → store.memory cell = other.memory cell

end Store

variable (map : MemoryMap Cell) (ports : Device σ)

namespace Guest
variable {α : Type}

-- Time and the banks of the cartridge are not seen from here.
def within : Guest α → Store Cell σ → α × Store Cell σ
  | done result,store => (result,store)
  | read8 addr next,store => (next (store.read map addr)).within store
  | write8 addr value next,store => next.within (store.write map addr value)
  | ioRead8 port next,store =>
    (next (ports.read store.device port).1).within {store with device := (ports.read store.device port).2}
  | ioWrite8 port value next,store => next.within {store with device := ports.write store.device port value}
  | stepCycles _ next,store => next.within store
  | flushDeferredLinearBank next,store => next.within store

/-- The program reads no cell that is set aside. -/
def Avoids (aside : Set Cell) : Guest α → Store Cell σ → Prop
  | done _,_ => True
  | read8 addr next,store => map.cell (addr &&& addressMask) ∉ aside ∧ (next (store.read map addr)).Avoids aside store
  | write8 addr value next,store => next.Avoids aside (store.write map addr value)
  | ioRead8 port next,store =>
    (next (ports.read store.device port).1).Avoids aside {store with device := (ports.read store.device port).2}
  | ioWrite8 port value next,store => next.Avoids aside {store with device := ports.write store.device port value}
  | stepCycles _ next,store => next.Avoids aside store
  | flushDeferredLinearBank next,store => next.Avoids aside store

instance decidableAvoids {aside : Set Cell} [∀ cell, Decidable (cell ∈ aside)] :
    (program : Guest α) → (store : Store Cell σ) → Decidable (program.Avoids map ports aside store)
  | done _,_ => isTrue trivial
  | read8 addr next,store =>
    @instDecidableAnd _ _ inferInstance (decidableAvoids (next (store.read map addr)) store)
  | write8 addr value next,store => decidableAvoids next (store.write map addr value)
  | ioRead8 port next,store =>
    decidableAvoids (next (ports.read store.device port).1) {store with device := (ports.read store.device port).2}
  | ioWrite8 port value next,store => decidableAvoids next {store with device := ports.write store.device port value}
  | stepCycles _ next,store => decidableAvoids next store
  | flushDeferredLinearBank next,store => decidableAvoids next store

end Guest

/-- What a program sees of the CPU. -/
structure Cpu.Same (cpu other : Cpu) : Prop where
  regs : cpu.regs = other.regs
  segments : cpu.segments = other.segments
  ip : cpu.ip = other.ip
  flags : cpu.flags = other.flags
  state : cpu.state = other.state

structure Machine (Cell σ : Type) where
  cpu : Cpu
  store : Store Cell σ

namespace Machine

/-- The same registers, flags, program counter and memory, but for what is set aside. -/
def Matches (aside : Set Cell) (machine other : Machine Cell σ) : Prop :=
  machine.cpu.Same other.cpu ∧ machine.store.Agree aside other.store

-- The six bytes that an interrupt pushes.
def frame (machine : Machine Cell σ) : List UInt32 :=
  let address (offset : UInt16) := machine.cpu.physicalAddress 2 (machine.cpu.regs 4 - offset)
  [address 2,address 2 + 1,address 4,address 4 + 1,address 6,address 6 + 1].map (· &&& addressMask)

/-- The stack has writable bytes below it, of cells of their own that are set aside. -/
structure Stack (aside : Set Cell) (machine : Machine Cell σ) : Prop where
  writable : ∀ addr ∈ machine.frame, map.writable addr = true
  aside : ∀ addr ∈ machine.frame, map.cell addr ∈ aside
  apart : ∀ addr ∈ machine.frame, ∀ other ∈ machine.frame, map.cell addr = map.cell other → addr = other

variable (other : Option Decoded → Cpu → Guest Cpu)

def step (signal : Bool) (vector : Option UInt8) (machine : Machine Cell σ) : Bool × Machine Cell σ :=
  let ((fetched,cpu),store) := (machine.cpu.step (Cpu.instruction other) signal vector).within map ports machine.store
  (fetched,⟨cpu,store⟩)

def execute (machine : Machine Cell σ) : Machine Cell σ :=
  let (cpu,store) := (Cpu.instruction other machine.cpu).within map ports machine.store
  ⟨cpu,store⟩

/-- The work of a handler from its entry to an IRET that is its last instruction: the registers, the bytes that were
pushed and all that is not set aside are as they were. -/
structure Handled (aside : Set Cell) (before entered last : Machine Cell σ) : Prop where
  regs : last.cpu.regs = entered.cpu.regs
  segments : ∀ segment, segment ≠ 1 → last.cpu.segments segment = entered.cpu.segments segment
  state : last.cpu.state = .running
  frame : ∀ addr ∈ before.frame, last.store.read map addr = entered.store.read map addr
  store : last.store.Agree aside entered.store
  iret : last.store.read map (last.cpu.physicalAddress 1 last.cpu.ip) = 0xCF

/-- An interrupt that is taken, handled and returned from. -/
inductive Taken (aside : Set Cell) (before : Machine Cell σ) : Machine Cell σ → Prop
  | taken (entered last after : Machine Cell σ) (signal again : Bool) (vector next : Option UInt8) (number : UInt8)
      (running : before.cpu.state = .running) (stack : before.Stack map aside)
      (pending : before.cpu.pendingInterruptOrBrk vector = some number)
      (entry : before.step map ports other signal vector = (false,entered))
      (handled : Handled map aside before entered last) (quiet : last.cpu.pendingInterruptOrBrk next = none)
      (exit : last.step map ports other again next = (true,after)) : Taken aside before after

/-- A number of interrupts, one after the other. -/
inductive Interrupts (aside : Set Cell) : Nat → Machine Cell σ → Machine Cell σ → Prop
  | none (machine : Machine Cell σ) : Interrupts aside 0 machine machine
  | take {count : Nat} {before between after : Machine Cell σ} (taken : Taken map ports other aside before between)
      (rest : Interrupts aside count between after) : Interrupts aside (count + 1) before after

/-- The next step is an iteration of the instruction. It reads nothing that is set aside. -/
structure Iterates (decoded : Decoded) (aside : Set Cell) (machine : Machine Cell σ) : Prop where
  running : machine.cpu.state = .running
  decoded : ((Cpu.fetchOpcode 65536 none none machine.cpu).within map ports machine.store).1.map Prod.fst = some decoded
  avoids : (Cpu.instruction other machine.cpu).Avoids map ports aside machine.store

/-- The instruction from its first iteration to its last. -/
inductive Uninterrupted (decoded : Decoded) (aside : Set Cell) : Machine Cell σ → Machine Cell σ → Prop
  | last {machine : Machine Cell σ} (iterates : machine.Iterates map ports other decoded aside)
      (done : (machine.execute map ports other).cpu.shouldResumeRepeatedString decoded = false) :
    Uninterrupted decoded aside machine (machine.execute map ports other)
  | again {machine final : Machine Cell σ} (iterates : machine.Iterates map ports other decoded aside)
      (more : (machine.execute map ports other).cpu.shouldResumeRepeatedString decoded = true)
      (rest : Uninterrupted decoded aside (machine.execute map ports other) final) : Uninterrupted decoded aside machine final

/-- The steps of the CPU through the instruction, with a number of interrupts between its iterations. -/
inductive Interrupted (decoded : Decoded) (aside : Set Cell) : Nat → Machine Cell σ → Machine Cell σ → Prop
  | last {before after : Machine Cell σ} (signal : Bool) (vector : Option UInt8)
      (iterates : before.Iterates map ports other decoded aside) (quiet : before.cpu.pendingInterruptOrBrk vector = none)
      (stepped : before.step map ports other signal vector = (true,after))
      (done : after.cpu.shouldResumeRepeatedString decoded = false) : Interrupted decoded aside 0 before after
  | again {count more : Nat} {before after between final : Machine Cell σ} (signal : Bool) (vector : Option UInt8)
      (iterates : before.Iterates map ports other decoded aside) (quiet : before.cpu.pendingInterruptOrBrk vector = none)
      (stepped : before.step map ports other signal vector = (true,after))
      (resumes : after.cpu.shouldResumeRepeatedString decoded = true)
      (interrupts : Interrupts map ports other aside count after between)
      (rest : Interrupted decoded aside more between final) : Interrupted decoded aside (count + more) before final

end Machine
end ZeffBoy.WonderSwan
