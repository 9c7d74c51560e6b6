import Mathlib

/-! The carry that the multiplier of the ARM7TDMI leaves.
One factor is recoded two bits at a time and the products are added by saved carries, a byte of the factor in each turn.
The sums are collected by the source as well, but they decide nothing. -/
namespace ZeffBoy.Gba

inductive MultiplyCarryKind
  | short | longSigned | longUnsigned
deriving DecidableEq

@[ext]
structure CsaOutput where
  output : BitVec 64
  carry : BitVec 64
deriving DecidableEq

structure BoothRecodingOutput where
  recodedOutput : BitVec 64
  carry : Bool
deriving DecidableEq

namespace Multiplier

def bitMask (bits : Nat) : BitVec 64 := BitVec.allOnes 64 >>> (64 - bits)

def bit (value : BitVec 64) (index : Nat) : Bool := value &&& 1#64 <<< index != 0

def signExtendWidth (value : BitVec 64) (fromBits toBits : Nat) : BitVec 64 :=
  let value := value &&& bitMask fromBits
  if bit value (fromBits - 1) then value ||| (bitMask toBits &&& ~~~bitMask fromBits) else value

def asrWidth (value : BitVec 64) (shift bits : Nat) : BitVec 64 :=
  (signExtendWidth value bits 64).sshiftRight shift &&& bitMask bits

def performCsa (a b c : BitVec 64) : CsaOutput := ⟨a ^^^ b ^^^ c,(a &&& b) ||| (b &&& c) ||| (c &&& a)⟩

def boothRecode (input : BitVec 64) (chunk : BitVec 64) : BoothRecodingOutput :=
  let (recodedOutput,carry) :=
    match chunk.toNat with
    | 0 | 7 => (0,false)
    | 1 | 2 => (input,false)
    | 3 => (input * 2,false)
    | 4 => (~~~(input * 2),true)
    | _ => (~~~input,true)
  ⟨recodedOutput &&& bitMask 34,carry⟩

def ofBool (bit : Bool) : BitVec 64 := if bit then 1 else 0

structure BoothCycle where
  csaOutput : CsaOutput
  finalCsaOutput : CsaOutput
  accShiftRegister : BitVec 64
deriving DecidableEq

/-- One turn of the loop of a Booth cycle. -/
def boothStep (multiplicand multiplier : BitVec 64) (cycle : BoothCycle) (i : Nat) : BoothCycle :=
  let output := cycle.csaOutput.output &&& bitMask 33
  let carry := cycle.csaOutput.carry &&& bitMask 33
  let recoded := boothRecode multiplicand ((multiplier >>> (2 * i)) &&& 7)
  let result := performCsa output (recoded.recodedOutput &&& bitMask 33) carry
  let resultCarry := (result.carry <<< 1) ||| ofBool recoded.carry
  let magic := ofBool (bit cycle.accShiftRegister 0) + ofBool (!bit carry 32) + ofBool (!bit recoded.recodedOutput 33)
  { csaOutput :=
      ⟨(result.output >>> 2) ||| (magic <<< 31),(resultCarry >>> 2) ||| (ofBool (!bit cycle.accShiftRegister 1) <<< 32)⟩,
    finalCsaOutput :=
      ⟨cycle.finalCsaOutput.output ||| ((result.output &&& 3) <<< (2 * i)),
        cycle.finalCsaOutput.carry ||| ((resultCarry &&& 3) <<< (2 * i))⟩,
    accShiftRegister := cycle.accShiftRegister >>> 2 }

def performBoothCycle (previous : CsaOutput) (multiplicand multiplier accShiftRegister : BitVec 64) :
    CsaOutput × BitVec 64 :=
  let cycle := [0,1,2,3].foldl (boothStep multiplicand multiplier) ⟨previous,⟨0,0⟩,accShiftRegister⟩
  (⟨cycle.finalCsaOutput.output ||| (cycle.csaOutput.output <<< 8),
    cycle.finalCsaOutput.carry ||| (cycle.csaOutput.carry <<< 8)⟩,cycle.accShiftRegister)

def multiplyShouldTerminate (multiplier : BitVec 64) (signed : Bool) : Bool :=
  if signed then multiplier == bitMask 33 || multiplier == 0 else multiplier == 0

def ror128 (value : BitVec 128) (shift : Nat) : BitVec 128 := value.rotateRight shift

/-- The variables of the loop over the multiplier's bytes. -/
structure CarryRun where
  csaOutput : CsaOutput
  accShiftRegister : BitVec 64
  partialCarry : BitVec 128
  multiplier : BitVec 64
  iterations : Nat
deriving DecidableEq

def CarryRun.turn (multiplicand : BitVec 64) (run : CarryRun) : CarryRun :=
  let (csaOutput,accShiftRegister) :=
    performBoothCycle run.csaOutput multiplicand run.multiplier run.accShiftRegister
  { csaOutput := ⟨csaOutput.output >>> 8,csaOutput.carry >>> 8⟩,
    accShiftRegister,
    partialCarry := ror128 (run.partialCarry ||| (csaOutput.carry &&& 0xFF).setWidth 128) 8,
    multiplier := asrWidth run.multiplier 8 33,
    iterations := run.iterations + 1 }

/-- The loop, with a bound on its turns that it never meets before it ends. -/
def CarryRun.loop (multiplicand : BitVec 64) (signed : Bool) : Nat → CarryRun → CarryRun
  | 0,run => run
  | bound + 1,run =>
    let run := run.turn multiplicand
    if multiplyShouldTerminate run.multiplier signed then run else run.loop multiplicand signed bound

end Multiplier
open Multiplier

def arm7tdmiMultiplyCarry (kind : MultiplyCarryKind) (rm rs : UInt32) (accumulator : UInt64) : Bool :=
  let signed := kind = .short ∨ kind = .longSigned
  let long := kind = .longSigned ∨ kind = .longUnsigned
  let multiplier :=
    if signed then signExtendWidth (rs.toBitVec.setWidth 64) 32 34 else rs.toBitVec.setWidth 64 &&& bitMask 33
  let multiplicand :=
    if signed then signExtendWidth (rm.toBitVec.setWidth 64) 32 34 else rm.toBitVec.setWidth 64 &&& bitMask 33
  let accumulator := accumulator.toBitVec
  let carry := if multiplier &&& 1 != 0 then ~~~multiplicand else 0
  let run := CarryRun.loop multiplicand signed 4
    { csaOutput := ⟨accumulator >>> 1,carry >>> 1⟩,
      accShiftRegister := accumulator >>> 34,
      partialCarry := ror128 ((carry &&& 1).setWidth 128) 1,
      multiplier, iterations := 0 }
  let partialCarry := run.partialCarry ||| run.csaOutput.carry.setWidth 128
  let correctionRor :=
    match run.iterations with
    | 1 => 23
    | 2 => 15
    | 3 => 7
    | _ => 31
  let partialCarryHi := (ror128 partialCarry correctionRor >>> 64).setWidth 64
  if long then partialCarryHi >>> 63 != 0
  else if run.iterations = 4 then partialCarryHi &&& 1#64 <<< 31 != 0
  else partialCarryHi >>> 63 != 0

namespace Multiplier

theorem bitMask_getLsbD {bits : Nat} (narrow : bits ≤ 64) (index : Nat) :
    (bitMask bits).getLsbD index = decide (index < bits) := by
  rw [bitMask,BitVec.getLsbD_ushiftRight,BitVec.getLsbD_allOnes]
  exact decide_eq_decide.mpr (by omega)

theorem ofNat_bit (value : BitVec 64) {index : Nat} (inside : index < 64) : bit value index = value.getLsbD index := by
  have single : value &&& 1#64 <<< index = if value.getLsbD index then BitVec.twoPow 64 index else 0 := by
    rw [← BitVec.twoPow_eq]
    exact BitVec.and_twoPow value index
  rw [bit,single]
  cases value.getLsbD index with
  | false => rfl
  | true =>
    refine bne_iff_ne.mpr fun none => ?_
    have raised := congrArg (BitVec.getLsbD · index) none
    simp [inside] at raised

end Multiplier

end ZeffBoy.Gba
