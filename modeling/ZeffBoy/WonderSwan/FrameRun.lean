import ZeffBoy.WonderSwan.FrameExact

/-! Runs of a WonderSwan, frame by frame. -/
namespace ZeffBoy.WonderSwan
open Library
open Hardware (Refreshed)

variable {Frame Sample : Type} {board : Board Frame Sample} {execute : Cpu → Guest Cpu}

namespace Hardware

theorem Refreshed.host (call : HostCall) {hardware : Hardware Frame Sample} (refreshed : Refreshed hardware) :
    Refreshed (hardware.host call) := by
  cases call with
  | setInput buttonsPressed dpadPressed =>
    have pressed (keypad : Keypad) : Refreshed {hardware with keypad := keypad} := refreshed
    exact choose ((pressed _).raiseInterrupt _) (pressed _)
  | receiveLinkByte value => exact refreshed_refresh _
  | takeLinkTxEvent => exact refreshed
  | drainAudioSamples => exact refreshed
  | setSampleRate rate => exact refreshed
  | setSampleGenerationEnabled enabled => exact refreshed
  | setChannelMutes mutes => exact refreshed

theorem refreshed_powered (cartridge : Cartridge) (sampleRate : Nat) : Refreshed (.powered board cartridge sampleRate) := by
  have control : (Hardware.powered board cartridge sampleRate).io serialControlPort = 0 := by
    unfold powered
    dsimp only
    cases decide (cartridge.footer.minimumSystem ≠ .wonderSwan) <;> decide
  have none' : (Hardware.powered board cartridge sampleRate).levelInterrupts = 0 := by
    rw [levelInterrupts_eq,control,levelsOf,UInt8.zero_and,if_neg (by simp),if_neg (by simp),UInt8.or_self]
  rw [Refreshed,none',UInt8.or_zero]

end Hardware

namespace Guest
variable {α β : Type}

/-- A program that never writes the interrupt status. -/
def Spares : Guest α → Prop
  | done _ => True
  | read8 _ next => ∀ value, (next value).Spares
  | write8 _ _ next => next.Spares
  | ioRead8 _ next => ∀ value, (next value).Spares
  | ioWrite8 port _ next => port ≠ irqStatusPort ∧ next.Spares
  | stepCycles _ next => next.Spares
  | flushDeferredLinearBank next => next.Spares

theorem Spares.bind {program : Guest α} {after : α → Guest β} (first : program.Spares) (rest : ∀ result, (after result).Spares) :
    (program >>= after).Spares := by
  show (program.bind after).Spares
  induction program with
  | done result => exact rest result
  | read8 addr next ih => exact fun value => ih value (first value)
  | write8 addr value next ih => exact ih first
  | ioRead8 port next ih => exact fun value => ih value (first value)
  | ioWrite8 port value next ih => exact ⟨first.1,ih first.2⟩
  | stepCycles cycles next ih => exact ih first
  | flushDeferredLinearBank next ih => exact ih first

theorem Spares.tidy {program : Guest α} (spares : program.Spares) (bus : Bus Frame Sample) : program.Tidy board bus := by
  induction program generalizing bus with
  | done result => exact trivial
  | read8 addr next ih => exact ih _ (spares _) bus
  | write8 addr value next ih => exact ih spares _
  | ioRead8 port next ih => exact ih _ (spares _) _
  | ioWrite8 port value next ih => exact ⟨fun status => absurd status spares.1,ih spares.2 _⟩
  | stepCycles cycles next ih => exact ih spares _
  | flushDeferredLinearBank next ih => exact ih spares _

end Guest

theorem Cpu.spares_enterInterrupt (cpu : Cpu) (vector : UInt8) (cycles : Nat) : (cpu.enterInterrupt vector cycles).Spares :=
  fun _ _ _ _ => trivial

theorem Cpu.spares_step (spares : ∀ cpu, (execute cpu).Spares) (cpu : Cpu) (signal : Bool) (vector : Option UInt8) :
    (cpu.step execute signal vector).Spares := by
  unfold Cpu.step
  split
  · exact trivial
  · dsimp only
    split
    · exact (spares_enterInterrupt _ _ _).bind fun _ => trivial
    · split
      · exact trivial
      · exact (show Guest.Spares (addCycles _ 1) from trivial).bind fun _ => trivial
      · exact (spares _).bind fun _ => trivial

namespace Emulator

/-- Nothing is due, and the interrupts of the serial line are up to date. -/
structure AtRest (emulator : Emulator Frame Sample) : Prop where
  bus : emulator.bus = Bus.rest emulator.bus.hardware
  refreshed : Refreshed emulator.bus.hardware

variable (board execute)

/-- Machines that the host has run without clearing an interrupt whose serial line is up. -/
inductive Reachable : Emulator Frame Sample → Prop
  | powered {rom : Rom} {cartridge : Cartridge} (loaded : Cartridge.load rom = .ok cartridge) (sampleRate : Nat) :
    Reachable (.powered board cartridge sampleRate)
  | host {emulator : Emulator Frame Sample} (reached : Reachable emulator) (call : HostCall) : Reachable (emulator.host board call)
  | step {emulator : Emulator Frame Sample} (reached : Reachable emulator) (tidy : emulator.Tidy board execute) :
    Reachable (emulator.stepInstruction board execute).2
  | frame {emulator final : Emulator Frame Sample} {fuel : Nat} (reached : Reachable emulator)
    (tidy : emulator.TidyFrame board execute) (ends : emulator.stepFrameInner board execute true true fuel = some final) :
    Reachable final

variable {board execute}

namespace AtRest
variable {emulator : Emulator Frame Sample}

theorem host (rest : AtRest emulator) (call : HostCall) : AtRest (emulator.host board call) := by
  have same : (emulator.host board call).bus = Bus.rest (emulator.bus.hardware.host call) := by
    unfold Emulator.host
    rw [rest.bus]
    rfl
  refine ⟨?_,?_⟩ <;> rw [same]
  · rfl
  · exact rest.refreshed.host call

theorem begin (rest : AtRest emulator) : Ahead board emulator {emulator with bus := emulator.bus.beginFrameService} :=
  ⟨rfl,rfl,rest.bus,by
    rw [rest.bus]
    exact .begin rest.refreshed⟩

theorem step (rest : AtRest emulator) (tidy : emulator.Tidy board execute) : AtRest (emulator.stepInstruction board execute).2 := by
  obtain ⟨_,after⟩ := (show Ahead board emulator _ from rest.begin).stepInstruction tidy
  exact ⟨after.bus,after.refreshed⟩

theorem finishFrame {emulator : Emulator Frame Sample} (rest : AtRest emulator) :
    AtRest (finishFrame board {emulator with bus := emulator.bus.endFrameService board}) := by
  have ended : emulator.bus.endFrameService board = Bus.rest emulator.bus.hardware := by
    rw [rest.bus]
    rfl
  have drawn : Refreshed (emulator.bus.hardware.renderFrame board) := rest.refreshed
  rw [ended]
  unfold Emulator.finishFrame
  dsimp only
  split
  · exact ⟨rfl,rest.refreshed⟩
  · exact ⟨rfl,drawn⟩

theorem frame (rest : AtRest emulator) (tidy : emulator.TidyFrame board execute) {fuel : Nat} {final : Emulator Frame Sample}
    (ends : emulator.stepFrameInner board execute false false fuel = some final) : AtRest final := by
  by_cases suspended : emulator.cpu.state = .suspended
  · rw [stepFrameInner,if_pos suspended,Option.some_inj] at ends
    exact ends ▸ rest
  · have start := And.intro (@clearFrameReady_ahead _ _ board _ rest.bus rest.refreshed) tidy
    unfold stepFrameInner at ends
    simp only [if_neg suspended,Bool.false_eq_true,if_false,frameLoop_eq_loop,Option.map_eq_some_iff] at ends
    obtain ⟨last,done,rfl⟩ := ends
    obtain ⟨_,_,_,same⟩ := turn_keepsStep.fast_ends start done
    exact AtRest.finishFrame ⟨same.bus,same.refreshed⟩

end AtRest

theorem Reachable.atRest {emulator : Emulator Frame Sample} (reached : Reachable board execute emulator) : AtRest emulator := by
  induction reached with
  | powered loaded sampleRate => exact ⟨rfl,Hardware.refreshed_powered _ _⟩
  | host _ call ih => exact ih.host call
  | step _ tidy ih => exact ih.step tidy
  | frame _ tidy ends ih =>
    obtain ⟨_,slow⟩ := (stepFrameInner_exact ih.bus ih.refreshed tidy _).mp ⟨_,ends⟩
    exact ih.frame tidy slow

/-- Every frame of a run ends as it does when every cycle is serviced at once and every cycle of a halt is stepped, as long as no
write clears an interrupt whose serial line is up. -/
theorem reachable_stepFrame {emulator : Emulator Frame Sample} (reached : Reachable board execute emulator)
    (tidy : emulator.TidyFrame board execute) (final : Emulator Frame Sample) :
    (∃ fuel, emulator.stepFrameInner board execute true true fuel = some final) ↔
      ∃ fuel, emulator.stepFrameInner board execute false false fuel = some final :=
  stepFrameInner_exact reached.atRest.bus reached.atRest.refreshed tidy final

theorem tidy_of_spares (spares : ∀ cpu, (execute cpu).Spares) (emulator : Emulator Frame Sample) :
    emulator.Tidy board execute := by
  refine Guest.Spares.tidy ?_ emulator.bus
  unfold Emulator.nextProgram
  split
  · exact trivial
  · exact Cpu.spares_step spares _ _ _

section Example

def blind : Board Unit Unit := ⟨⟨fun _ _ _ _ _ => (),()⟩,fun _ _ => ()⟩

def cartridgeOf (byte : Nat → UInt8) : Cartridge :=
  Cartridge.resetBanks ⟨⟨romBankSize,byte⟩,⟨.wonderSwan,.none,false⟩,[],0,0,0,0⟩

theorem cartridgeOf_loaded (byte : Nat → UInt8) (system : byte 0xFFF7 = 0) (saves : byte 0xFFFB = 0) (clock : byte 0xFFFD = 0) :
    Cartridge.load ⟨romBankSize,byte⟩ = .ok (cartridgeOf byte) := by
  have footer : Footer.parse ⟨romBankSize,byte⟩ = .ok ⟨.wonderSwan,.none,false⟩ := by
    rw [Footer.parse,if_neg (by decide : ¬romBankSize < footerSize)]
    show Except.ok (Footer.mk (.fromByte (byte 0xFFF7)) (.fromByte (byte 0xFFFB)) (byte 0xFFFD ≠ 0)) = _
    rw [system,saves,clock]
    rfl
  rw [Cartridge.load,footer]
  rfl

def fetch8 (cpu : Cpu) (next : UInt8 → Cpu → Guest Cpu) : Guest Cpu :=
  .read8 (cpu.physicalAddress 1 cpu.ip) fun value => next value {cpu with ip := cpu.ip + 1}

def fetch16 (cpu : Cpu) (next : UInt16 → Cpu → Guest Cpu) : Guest Cpu :=
  fetch8 cpu fun low cpu => fetch8 cpu fun high cpu => next (wordOf low high) cpu

-- Of the opcodes only HLT: no other is fetched from the program below before the processor halts for good.
def onlyHalts (cpu : Cpu) : Guest Cpu :=
  fetch8 cpu fun opcode cpu =>
    let cpu := {cpu with lastOpcode := opcode}
    if opcode = 0xF4 then {cpu with state := .halted}.addCycles 2
    else .done {cpu with state := .suspended, lastTrap := some (.unsupportedOpcode (cpu.segments 1) (cpu.ip - 1) opcode)}

theorem spares_onlyHalts (cpu : Cpu) : (onlyHalts cpu).Spares := by
  intro opcode
  dsimp only
  split <;> trivial

def haltingRom (offset : Nat) : UInt8 := if offset < 0xFFF1 then 0xF4 else 0

theorem reachable_stepFrame_onlyHalts :
    (∃ fuel, (powered blind (cartridgeOf haltingRom) 48000).stepFrameInner blind onlyHalts true true fuel =
        some (powered blind (cartridgeOf haltingRom) 48000)) ↔
      ∃ fuel, (powered blind (cartridgeOf haltingRom) 48000).stepFrameInner blind onlyHalts false false fuel =
        some (powered blind (cartridgeOf haltingRom) 48000) :=
  reachable_stepFrame (.powered (cartridgeOf_loaded _ rfl rfl rfl) 48000)
    (fun later _ => tidy_of_spares spares_onlyHalts later) _

-- The instructions of the program below: MOV AL, OUT, a far JMP, HLT and the form of FF that traps. The others of the
-- instruction set are a parameter: the program does not reach them.
def fewOpcodes (others : UInt8 → Cpu → Guest Cpu) (cpu : Cpu) : Guest Cpu :=
  fetch8 cpu fun opcode cpu =>
    let cpu := {cpu with lastOpcode := opcode}
    if opcode = 0xB0 then
      fetch8 cpu fun value cpu =>
        {cpu with regs := Function.update cpu.regs 0 ((cpu.regs 0 &&& 0xFF00) ||| value.toUInt16)}.addCycles 1
    else if opcode = 0xE6 then
      fetch8 cpu fun port cpu => .ioWrite8 port.toUInt16 (cpu.regs 0).toUInt8 (cpu.addCycles 7)
    else if opcode = 0xEA then
      fetch16 cpu fun ip cpu => fetch16 cpu fun cs cpu =>
        {cpu with ip := ip, segments := Function.update cpu.segments 1 cs}.addCycles 8
    else if opcode = 0xF4 then {cpu with state := .halted}.addCycles 2
    else if opcode = 0xFF then
      fetch8 cpu fun modrm cpu =>
        if modrm >>> 3 &&& 7 ≠ 7 then others modrm cpu
        else if modrm >>> 6 = 3 then cpu.addCycles 3
        else
          .done {cpu with
            state := .suspended
            lastTrap := some (.unsupportedInstructionForm (cpu.segments 1) (cpu.ip - 2) 0xFF modrm)}
    else others opcode cpu

-- The serial line is enabled with its interrupt, whose status is cleared before a halt.
def untidyProgram : List UInt8 := [0xB0,0x80,0xE6,0xB3,0xB0,0x01,0xE6,0xB2,0xB0,0x00,0xE6,0xB4,0xF4,0xFF,0x3F]

def untidyRom (offset : Nat) : UInt8 :=
  if offset < 0xFFF0 then untidyProgram.getD offset 0 else [0xEA,0x00,0x00,0x00,0xF0].getD (offset - 0xFFF0) 0

/-- The interrupt comes back before the halt in one of the frames, and a cycle into it in the other. -/
theorem stepFrame_inexact : Cartridge.load ⟨romBankSize,untidyRom⟩ = .ok (cartridgeOf untidyRom) ∧
    ∀ others, ((powered blind (cartridgeOf untidyRom) 48000).stepFrameInner blind (fewOpcodes others) true true 20).map
        (·.cpu.cycles) = some 35 ∧
      ((powered blind (cartridgeOf untidyRom) 48000).stepFrameInner blind (fewOpcodes others) false false 20).map
        (·.cpu.cycles) = some 34 :=
  ⟨cartridgeOf_loaded _ rfl rfl rfl,fun _ => ⟨rfl,rfl⟩⟩

end Example

end Emulator

end ZeffBoy.WonderSwan
