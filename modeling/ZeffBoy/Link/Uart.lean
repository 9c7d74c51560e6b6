import Mathlib

/-! The UART of the WonderSwan and the guest that drives it.
The link only sees a bus clock and a queue of completed bytes. A run of the guest moves the
clock forward and appends to the queue, whatever the guest does in between. -/
namespace ZeffBoy.Link.WonderSwan
open List

def cpuClockHz : Nat := 3072000
def cyclesPerFrame : Nat := 256 * 159
def serialStatusRxReady : UInt8 := 0x01
def serialStatusOverrun : UInt8 := 0x02
def serialStatusTxEmpty : UInt8 := 0x04
def serialControlResetOverrun : UInt8 := 0x20
def serialControlFastBaud : UInt8 := 0x40
def serialControlEnable : UInt8 := 0x80

structure TxEvent where
  completedCycle : Nat
  byte : UInt8
  baudBps : UInt32
  generation : UInt64
deriving DecidableEq

def FairBaud (baudBps : UInt32) : Prop := 0 < baudBps.toNat ∧ baudBps.toNat ≤ cpuClockHz

instance (baudBps : UInt32) : Decidable (FairBaud baudBps) := inferInstanceAs (Decidable (_ ∧ _))

def baudBps (control : UInt8) : UInt32 := if control &&& serialControlFastBaud ≠ 0 then 38400 else 9600

theorem fairBaud_baudBps (control : UInt8) : FairBaud (baudBps control) := by
  unfold baudBps
  split <;> decide

def uartByteCycles (control : UInt8) : Nat := cpuClockHz / (baudBps control).toNat * 10

structure Uart where
  rxData : UInt8
  rxReady : Bool
  overrun : Bool
  txData : UInt8
  txPending : Bool
  txCyclesRemaining : Nat
  completedTxEvents : List TxEvent
  txGeneration : UInt64
deriving DecidableEq

namespace Uart

def empty : Uart := ⟨0,false,false,0,false,0,[],0⟩

def readData (uart : Uart) : UInt8 × Uart := (uart.rxData,{uart with rxReady := false})

def writeData (uart : Uart) (value control : UInt8) : Bool × Uart :=
  if control &&& serialControlEnable = 0 ∨ uart.txPending then (false,uart)
  else (true,{uart with
    txData := value
    txPending := true
    txCyclesRemaining := uartByteCycles control
    txGeneration := uart.txGeneration + 1})

def writeControl (uart : Uart) (value : UInt8) : UInt8 × Uart :=
  (value &&& (serialControlEnable ||| serialControlFastBaud),
    if value &&& serialControlResetOverrun ≠ 0 then {uart with overrun := false} else uart)

def status (uart : Uart) (control : UInt8) : UInt8 :=
  control &&& (serialControlEnable ||| serialControlFastBaud)
    ||| (if uart.rxReady then serialStatusRxReady else 0)
    ||| (if uart.overrun then serialStatusOverrun else 0)
    ||| (if uart.txPending then 0 else serialStatusTxEmpty)

def stepCycles (uart : Uart) (cycles : Nat) (control : UInt8) (completedCycleEnd : Nat) : Uart :=
  if control &&& serialControlEnable = 0 ∨ !uart.txPending then uart
  else if cycles < uart.txCyclesRemaining then {uart with txCyclesRemaining := uart.txCyclesRemaining - cycles}
  else {uart with
    txPending := false
    txCyclesRemaining := 0
    completedTxEvents := uart.completedTxEvents ++
      [⟨completedCycleEnd - (cycles - uart.txCyclesRemaining),uart.txData,baudBps control,uart.txGeneration⟩]}

def receiveByte (uart : Uart) (value control : UInt8) : Uart :=
  if control &&& serialControlEnable = 0 then uart
  else if uart.rxReady then {uart with overrun := true}
  else {uart with rxData := value, rxReady := true}

@[simp] theorem receiveByte_completedTxEvents (uart : Uart) (value control : UInt8) :
    (uart.receiveByte value control).completedTxEvents = uart.completedTxEvents := by
  unfold receiveByte
  split
  · rfl
  · split <;> rfl

theorem stepCycles_completedTxEvents (uart : Uart) (cycles : Nat) (control : UInt8) (completedCycleEnd : Nat) :
    ∃ completed, (uart.stepCycles cycles control completedCycleEnd).completedTxEvents = uart.completedTxEvents ++ completed ∧
      ∀ event ∈ completed, event.completedCycle ≤ completedCycleEnd ∧ FairBaud event.baudBps := by
  unfold stepCycles
  split
  · exact ⟨[],(append_nil _).symm,by simp⟩
  · split
    · exact ⟨[],(append_nil _).symm,by simp⟩
    · refine ⟨_,rfl,?_⟩
      intro event member
      rw [mem_singleton] at member
      subst member
      exact ⟨Nat.sub_le _ _,fairBaud_baudBps control⟩

end Uart

/-- The parts of the machine the link reads. No completed byte is stamped ahead of the bus clock. -/
structure Emulator where
  busCycles : Nat
  cpuCycles : UInt64
  frameCount : UInt64
  control : UInt8
  uart : Uart
  stamped : ∀ event ∈ uart.completedTxEvents, event.completedCycle ≤ busCycles

namespace Emulator

def powered : Emulator := ⟨0,0,0,0,.empty,by simp [Uart.empty]⟩

/-- The bus clock is far enough from its end for the cycle counts that the link computes from it: the longest
is a byte at one bit a second. -/
def Fits (emulator : Emulator) : Prop := emulator.busCycles + cpuClockHz * 10 < 2^64

instance (emulator : Emulator) : Decidable emulator.Fits := inferInstanceAs (Decidable (_ < _))

def receiveLinkByte (emulator : Emulator) (value : UInt8) : Emulator where
  __ := emulator
  uart := emulator.uart.receiveByte value emulator.control
  stamped := by simpa using emulator.stamped

def takeLinkTxEvents (emulator : Emulator) : Emulator where
  __ := emulator
  uart := {emulator.uart with completedTxEvents := []}
  stamped := by simp

@[simp] theorem receiveLinkByte_busCycles (emulator : Emulator) (value : UInt8) :
    (emulator.receiveLinkByte value).busCycles = emulator.busCycles := rfl

@[simp] theorem receiveLinkByte_completedTxEvents (emulator : Emulator) (value : UInt8) :
    (emulator.receiveLinkByte value).uart.completedTxEvents = emulator.uart.completedTxEvents := by
  simp [receiveLinkByte]

@[simp] theorem takeLinkTxEvents_busCycles (emulator : Emulator) : emulator.takeLinkTxEvents.busCycles = emulator.busCycles := rfl

@[simp] theorem takeLinkTxEvents_completedTxEvents (emulator : Emulator) :
    emulator.takeLinkTxEvents.uart.completedTxEvents = [] := rfl

/-- What any run of the guest does to the clock and to the queue of completed bytes.
The registers, the receiver and the other clocks end up anywhere. -/
structure Ran (bound : Nat) (before after : Emulator) : Prop where
  forward : before.busCycles ≤ after.busCycles
  bounded : after.busCycles ≤ before.busCycles + bound
  queued : ∃ completed, after.uart.completedTxEvents = before.uart.completedTxEvents ++ completed ∧
    ∀ event ∈ completed, FairBaud event.baudBps

theorem Ran.trans {first second : Nat} {before between after : Emulator} (one : Ran first before between)
    (two : Ran second between after) : Ran (first + second) before after := by
  obtain ⟨early,queuedEarly,fairEarly⟩ := one.queued
  obtain ⟨late,queuedLate,fairLate⟩ := two.queued
  have forward := one.forward.trans two.forward
  have near := one.bounded
  have far := two.bounded
  refine ⟨forward,by omega,early ++ late,?_,?_⟩
  · rw [queuedLate,queuedEarly,append_assoc]
  · intro event member
    rcases mem_append.mp member with member | member
    · exact fairEarly event member
    · exact fairLate event member

theorem Ran.mono {bound larger : Nat} {before after : Emulator} (ran : Ran bound before after) (fits : bound ≤ larger) :
    Ran larger before after :=
  ⟨ran.forward,ran.bounded.trans (Nat.add_le_add_left fits _),ran.queued⟩

/-- What a guest does to the serial ports between two clock steps. -/
inductive GuestOp
  | readData
  | writeData (value : UInt8)
  | writeControl (value : UInt8)
  | stepCycles (cycles : Nat)

def GuestOp.cycles : GuestOp → Nat
  | stepCycles cycles => cycles
  | _ => 0

def guest (emulator : Emulator) : GuestOp → Emulator
  | .readData => {emulator with uart := emulator.uart.readData.2, stamped := emulator.stamped}
  | .writeData value => {emulator with
      uart := (emulator.uart.writeData value emulator.control).2
      stamped := by
        unfold Uart.writeData
        split <;> exact emulator.stamped}
  | .writeControl value => {emulator with
      control := (emulator.uart.writeControl value).1
      uart := (emulator.uart.writeControl value).2
      stamped := by
        unfold Uart.writeControl
        dsimp only
        split <;> exact emulator.stamped}
  | .stepCycles cycles => {emulator with
      busCycles := emulator.busCycles + cycles
      uart := emulator.uart.stepCycles cycles emulator.control (emulator.busCycles + cycles)
      stamped := by
        obtain ⟨completed,queued,bounds⟩ :=
          emulator.uart.stepCycles_completedTxEvents cycles emulator.control (emulator.busCycles + cycles)
        intro event member
        rw [queued] at member
        rcases mem_append.mp member with member | member
        · exact (emulator.stamped event member).trans (Nat.le_add_right _ _)
        · exact (bounds event member).1}

end Emulator
end ZeffBoy.Link.WonderSwan
