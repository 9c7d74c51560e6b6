import ZeffBoy.Gba.Multiplier

/-! The multiply instructions of the ARM state.
A long multiply reads its operands before it stores anything. A short one stores its product and then reads its factors
again for the carry. -/
namespace ZeffBoy.Gba
open Function (update update_of_ne update_self)

def cpsrNegative : UInt32 := 0x80000000

def cpsrZero : UInt32 := 0x40000000

def cpsrCarry : UInt32 := 0x20000000

structure Cpu where
  regs : Fin 16 → UInt32
  cpsr : UInt32

def registerField (raw shift : UInt32) : Fin 16 := Fin.ofNat 16 (raw >>> shift &&& 0xF).toNat

def accumulates (raw : UInt32) : Prop := raw &&& 0x00200000 ≠ 0

def setsFlags (raw : UInt32) : Prop := raw &&& 0x00100000 ≠ 0

def signedLong (raw : UInt32) : Prop := raw &&& 0x00400000 ≠ 0

instance (raw : UInt32) : Decidable (accumulates raw) := inferInstanceAs (Decidable (_ ≠ _))
instance (raw : UInt32) : Decidable (setsFlags raw) := inferInstanceAs (Decidable (_ ≠ _))
instance (raw : UInt32) : Decidable (signedLong raw) := inferInstanceAs (Decidable (_ ≠ _))

namespace Cpu

def setNz (self : Cpu) (value : UInt32) : Cpu :=
  let cpsr := self.cpsr &&& ~~~(cpsrNegative ||| cpsrZero)
  let cpsr := if value &&& 0x80000000 ≠ 0 then cpsr ||| cpsrNegative else cpsr
  {self with cpsr := if value = 0 then cpsr ||| cpsrZero else cpsr}

def setNzc (self : Cpu) (value : UInt32) (carry : Bool) : Cpu :=
  let self := self.setNz value
  let cpsr := self.cpsr &&& ~~~cpsrCarry
  {self with cpsr := if carry then cpsr ||| cpsrCarry else cpsr}

def executeArmMultiply (self : Cpu) (raw : UInt32) : Cpu :=
  let rd := registerField raw 16
  let rn := registerField raw 12
  let rs := registerField raw 8
  let rm := registerField raw 0
  let result := self.regs rm * self.regs rs
  let accumulator := if accumulates raw then self.regs rn else 0
  let result := if accumulates raw then result + accumulator else result
  let self := {self with regs := update self.regs rd result}
  if setsFlags raw then
    self.setNzc result (arm7tdmiMultiplyCarry .short (self.regs rm) (self.regs rs) accumulator.toUInt64)
  else self

def executeArmMultiplyLong (self : Cpu) (raw : UInt32) : Cpu :=
  let rdHi := registerField raw 16
  let rdLo := registerField raw 12
  let rs := registerField raw 8
  let rm := registerField raw 0
  let rmValue := self.regs rm
  let rsValue := self.regs rs
  let result :=
    if signedLong raw then (rmValue.toInt32.toInt64 * rsValue.toInt32.toInt64).toUInt64 else rmValue.toUInt64 * rsValue.toUInt64
  let accumulator := if accumulates raw then (self.regs rdHi).toUInt64 <<< 32 ||| (self.regs rdLo).toUInt64 else 0
  let result := if accumulates raw then result + accumulator else result
  let self := {self with
    regs := update (update self.regs rdLo result.toUInt32) rdHi (result >>> 32).toUInt32}
  if setsFlags raw then
    let carry := arm7tdmiMultiplyCarry (if signedLong raw then .longSigned else .longUnsigned) rmValue rsValue accumulator
    let cpsr := if result &&& 0x8000000000000000 ≠ 0 then self.cpsr ||| cpsrNegative else self.cpsr &&& ~~~cpsrNegative
    let cpsr := if result = 0 then cpsr ||| cpsrZero else cpsr &&& ~~~cpsrZero
    let cpsr := cpsr &&& ~~~cpsrCarry
    {self with cpsr := if carry then cpsr ||| cpsrCarry else cpsr}
  else self

end Cpu

section
variable {cpsr mask other : UInt32} {on : Prop} [Decidable on]

theorem raised_self (cpsr mask : UInt32) : (cpsr ||| mask) &&& mask = mask := by
  rw [← UInt32.toBitVec_inj,UInt32.toBitVec_and,UInt32.toBitVec_or]
  refine BitVec.eq_of_getLsbD_eq fun place _ => ?_
  rw [BitVec.getLsbD_and,BitVec.getLsbD_or]
  cases mask.toBitVec.getLsbD place with
  | false => rw [Bool.and_false]
  | true => rw [Bool.or_true,Bool.and_self]

theorem lowered_self (cpsr mask : UInt32) : (cpsr &&& ~~~mask) &&& mask = 0 := by
  rw [UInt32.and_assoc,UInt32.not_and_self,UInt32.and_zero]

theorem lowered_apart (apart : ~~~mask &&& other = other) : (cpsr &&& ~~~mask) &&& other = cpsr &&& other := by
  rw [UInt32.and_assoc,apart]

theorem raised_apart (apart : mask &&& other = 0) : (cpsr ||| mask) &&& other = cpsr &&& other := by
  rw [← UInt32.toBitVec_inj,UInt32.toBitVec_and,UInt32.toBitVec_or,BitVec.and_or_distrib_right,← UInt32.toBitVec_and,
    ← UInt32.toBitVec_and,apart,UInt32.toBitVec_zero,BitVec.or_zero]

theorem raisedIf_apart (apart : mask &&& other = 0) :
    (if on then cpsr ||| mask else cpsr) &&& other = cpsr &&& other := by
  split
  · exact raised_apart apart
  · rfl

theorem raisedIf_bit (clear : cpsr &&& mask = 0) (real : mask ≠ 0) :
    ((if on then cpsr ||| mask else cpsr) &&& mask != 0) = decide on := by
  split
  · rename_i raised
    rw [raised_self,decide_eq_true raised]
    exact bne_iff_ne.mpr real
  · rename_i lowered
    rw [clear,decide_eq_false lowered]
    rfl

theorem assigned_apart (free : mask &&& other = 0) (apart : ~~~mask &&& other = other) :
    (if on then cpsr ||| mask else cpsr &&& ~~~mask) &&& other = cpsr &&& other := by
  split
  · exact raised_apart free
  · exact lowered_apart apart

theorem assigned_bit (real : mask ≠ 0) : ((if on then cpsr ||| mask else cpsr &&& ~~~mask) &&& mask != 0) = decide on := by
  split
  · rename_i raised
    rw [raised_self,decide_eq_true raised]
    exact bne_iff_ne.mpr real
  · rename_i lowered
    rw [lowered_self,decide_eq_false lowered]
    rfl

end

namespace Cpu

def flags (self : Cpu) : Bool × Bool × Bool :=
  (self.cpsr &&& cpsrNegative != 0,self.cpsr &&& cpsrZero != 0,self.cpsr &&& cpsrCarry != 0)

theorem setNzc_flags (self : Cpu) (value : UInt32) (carry : Bool) :
    (self.setNzc value carry).flags = (decide (value &&& 0x80000000 ≠ 0),decide (value = 0),carry) := by
  have cleared (mask : UInt32) (inside : ~~~(cpsrNegative ||| cpsrZero) &&& mask = 0) :
      (self.cpsr &&& ~~~(cpsrNegative ||| cpsrZero)) &&& mask = 0 := by
    rw [UInt32.and_assoc,inside,UInt32.and_zero]
  unfold setNzc setNz flags
  dsimp only
  refine Prod.ext ?_ (Prod.ext ?_ ?_)
  · dsimp only
    rw [raisedIf_apart rfl,lowered_apart rfl,raisedIf_apart rfl,raisedIf_bit (cleared _ rfl) (by decide)]
  · dsimp only
    rw [raisedIf_apart rfl,lowered_apart rfl,raisedIf_bit ((raisedIf_apart rfl).trans (cleared _ rfl)) (by decide)]
  · dsimp only
    rw [raisedIf_bit (lowered_self _ _) (by decide),Bool.decide_eq_true]

end Cpu

/-- The multiply instructions, as the decoder tells them apart. -/
inductive ArmMultiplyClass
  | multiply | multiplyLong
deriving DecidableEq

def ArmMultiplyClass.execute : ArmMultiplyClass → UInt32 → Cpu → Cpu
  | .multiply,raw,cpu => cpu.executeArmMultiply raw
  | .multiplyLong,raw,cpu => cpu.executeArmMultiplyLong raw

/-- What a multiply computes from the values in its operand registers: the product, and its flags. -/
structure Product (Word : Type) where
  result : Word
  flags : Bool × Bool × Bool

def shortProduct (raw rm rs accumulator : UInt32) : Product UInt32 :=
  let accumulator := if accumulates raw then accumulator else 0
  let result := rm * rs + accumulator
  ⟨result,decide (result &&& 0x80000000 ≠ 0),decide (result = 0),arm7tdmiMultiplyCarry .short rm rs accumulator.toUInt64⟩

def longProduct (raw rm rs : UInt32) (accumulator : UInt64) : Product UInt64 :=
  let accumulator := if accumulates raw then accumulator else 0
  let factors := if signedLong raw then (rm.toInt32.toInt64 * rs.toInt32.toInt64).toUInt64 else rm.toUInt64 * rs.toUInt64
  let result := factors + accumulator
  ⟨result,decide (result &&& 0x8000000000000000 ≠ 0),decide (result = 0),
    arm7tdmiMultiplyCarry (if signedLong raw then .longSigned else .longUnsigned) rm rs accumulator⟩

def Cpu.shortResult (self : Cpu) (raw : UInt32) : Product UInt32 :=
  shortProduct raw (self.regs (registerField raw 0)) (self.regs (registerField raw 8)) (self.regs (registerField raw 12))

def Cpu.longResult (self : Cpu) (raw : UInt32) : Product UInt64 :=
  longProduct raw (self.regs (registerField raw 0)) (self.regs (registerField raw 8))
    ((self.regs (registerField raw 16)).toUInt64 <<< 32 ||| (self.regs (registerField raw 12)).toUInt64)

/-- The result and the flags are those of the values that the operand registers held before. -/
def ArmMultiplyClass.Faithful : ArmMultiplyClass → UInt32 → Cpu → Prop
  | .multiply,raw,cpu =>
    let product := cpu.shortResult raw
    (cpu.executeArmMultiply raw).regs (registerField raw 16) = product.result ∧
      (setsFlags raw → (cpu.executeArmMultiply raw).flags = product.flags)
  | .multiplyLong,raw,cpu =>
    let product := cpu.longResult raw
    (cpu.executeArmMultiplyLong raw).regs (registerField raw 16) = (product.result >>> 32).toUInt32 ∧
      (registerField raw 12 ≠ registerField raw 16 →
        (cpu.executeArmMultiplyLong raw).regs (registerField raw 12) = product.result.toUInt32) ∧
      (setsFlags raw → (cpu.executeArmMultiplyLong raw).flags = product.flags)

/-- The same instruction with a destination that it uses for nothing else. A long one that accumulates has its
accumulator there. -/
structure ArmMultiplyClass.Renamed (kind : ArmMultiplyClass) (raw other : UInt32) : Prop where
  controls : other &&& 0x00700000 = raw &&& 0x00700000
  rm : registerField other 0 = registerField raw 0
  rs : registerField other 8 = registerField raw 8
  rn : kind = .multiply → registerField other 12 = registerField raw 12
  fresh : registerField other 16 ≠ registerField raw 0 ∧ registerField other 16 ≠ registerField raw 8
  plain : kind = .multiplyLong → ¬accumulates raw

def ArmMultiplyClass.RenamesFreely (kind : ArmMultiplyClass) (raw : UInt32) (cpu : Cpu) : Prop :=
  ∀ other, kind.Renamed raw other → setsFlags raw → (kind.execute other cpu).flags = (kind.execute raw cpu).flags

namespace Cpu
variable (self : Cpu) (raw : UInt32)

/-- The carry that a short multiply leaves: its factors are read again after the result is stored. -/
def lateCarry : Bool :=
  let regs := update self.regs (registerField raw 16) (self.shortResult raw).result
  arm7tdmiMultiplyCarry .short (regs (registerField raw 0)) (regs (registerField raw 8))
    (if accumulates raw then self.regs (registerField raw 12) else 0).toUInt64

theorem executeArmMultiply_eq :
    self.executeArmMultiply raw =
      let stored := {self with regs := update self.regs (registerField raw 16) (self.shortResult raw).result}
      if setsFlags raw then stored.setNzc (self.shortResult raw).result (self.lateCarry raw) else stored := by
  have result : (self.shortResult raw).result =
      if accumulates raw then self.regs (registerField raw 0) * self.regs (registerField raw 8) +
        (if accumulates raw then self.regs (registerField raw 12) else 0)
      else self.regs (registerField raw 0) * self.regs (registerField raw 8) := by
    unfold shortResult shortProduct
    by_cases accumulate : accumulates raw
    · simp only [if_pos accumulate]
    · simp only [if_neg accumulate,UInt32.add_zero]
  unfold executeArmMultiply lateCarry
  rw [result]

theorem executeArmMultiply_regs :
    (self.executeArmMultiply raw).regs = update self.regs (registerField raw 16) (self.shortResult raw).result := by
  rw [executeArmMultiply_eq]
  dsimp only
  split <;> rfl

theorem executeArmMultiply_flags (sets : setsFlags raw) :
    (self.executeArmMultiply raw).flags =
      ((self.shortResult raw).flags.1,(self.shortResult raw).flags.2.1,self.lateCarry raw) := by
  rw [executeArmMultiply_eq]
  dsimp only
  rw [if_pos sets,setNzc_flags]
  rfl

theorem accumulated (product accumulator : UInt64) :
    (if accumulates raw then product + (if accumulates raw then accumulator else 0) else product) =
      product + (if accumulates raw then accumulator else 0) := by
  by_cases accumulate : accumulates raw
  · simp only [if_pos accumulate]
  · simp only [if_neg accumulate,UInt64.add_zero]

theorem executeArmMultiplyLong_regs :
    (self.executeArmMultiplyLong raw).regs = update
      (update self.regs (registerField raw 12) (self.longResult raw).result.toUInt32) (registerField raw 16)
      ((self.longResult raw).result >>> 32).toUInt32 := by
  unfold executeArmMultiplyLong
  dsimp only
  rw [accumulated]
  split <;> rfl

theorem executeArmMultiplyLong_flags (sets : setsFlags raw) :
    (self.executeArmMultiplyLong raw).flags = (self.longResult raw).flags := by
  unfold executeArmMultiplyLong
  dsimp only
  rw [accumulated,if_pos sets]
  unfold flags
  refine Prod.ext ?_ (Prod.ext ?_ ?_)
  · dsimp only
    rw [raisedIf_apart rfl,lowered_apart rfl,assigned_apart rfl rfl,assigned_bit (by decide)]
    rfl
  · dsimp only
    rw [raisedIf_apart rfl,lowered_apart rfl,assigned_bit (by decide)]
    rfl
  · dsimp only
    rw [raisedIf_bit (lowered_self _ _) (by decide),Bool.decide_eq_true]
    rfl

theorem lateCarry_early (apart : registerField raw 16 ≠ registerField raw 0 ∧ registerField raw 16 ≠ registerField raw 8) :
    self.lateCarry raw = (self.shortResult raw).flags.2.2 := by
  unfold lateCarry
  dsimp only
  rw [update_of_ne apart.1.symm,update_of_ne apart.2.symm]
  rfl

theorem multiply_faithful : ArmMultiplyClass.Faithful .multiply raw self ↔
    (setsFlags raw → self.lateCarry raw = (self.shortResult raw).flags.2.2) := by
  have stored : (self.executeArmMultiply raw).regs (registerField raw 16) = (self.shortResult raw).result := by
    rw [executeArmMultiply_regs,update_self]
  constructor
  · intro faithful sets
    have same := faithful.2 sets
    rw [self.executeArmMultiply_flags raw sets] at same
    exact congrArg (fun flags => flags.2.2) same
  · intro carries
    refine ⟨stored,fun sets => ?_⟩
    rw [self.executeArmMultiply_flags raw sets,carries sets]

theorem multiplyLong_faithful : ArmMultiplyClass.Faithful .multiplyLong raw self := by
  refine ⟨?_,fun apart => ?_,self.executeArmMultiplyLong_flags raw⟩
  · rw [executeArmMultiplyLong_regs,update_self]
  · rw [executeArmMultiplyLong_regs,update_of_ne apart,update_self]

end Cpu

namespace ArmMultiplyClass
variable {raw other : UInt32} {kind : ArmMultiplyClass}

theorem masked_bit {left right mask bit : UInt32} (inside : mask &&& bit = bit) (same : left &&& mask = right &&& mask) :
    left &&& bit = right &&& bit := by
  rw [← inside,← UInt32.and_assoc,same,UInt32.and_assoc]

theorem Renamed.sets (renamed : kind.Renamed raw other) : setsFlags other ↔ setsFlags raw := by
  rw [setsFlags,setsFlags,masked_bit rfl renamed.controls]

theorem Renamed.accumulates (renamed : kind.Renamed raw other) : accumulates other ↔ accumulates raw := by
  rw [Gba.accumulates,Gba.accumulates,masked_bit rfl renamed.controls]

theorem Renamed.signedLong (renamed : kind.Renamed raw other) : signedLong other ↔ signedLong raw := by
  rw [Gba.signedLong,Gba.signedLong,masked_bit rfl renamed.controls]

theorem Renamed.shortResult (renamed : Renamed .multiply raw other) (cpu : Cpu) :
    cpu.shortResult other = cpu.shortResult raw := by
  unfold Cpu.shortResult shortProduct
  rw [renamed.rm,renamed.rs,renamed.rn rfl]
  simp only [renamed.accumulates]

theorem Renamed.longResult (renamed : Renamed .multiplyLong raw other) (cpu : Cpu) :
    cpu.longResult other = cpu.longResult raw := by
  have plain := renamed.plain rfl
  unfold Cpu.longResult longProduct
  rw [renamed.rm,renamed.rs]
  simp only [renamed.accumulates,renamed.signedLong,if_neg plain]

theorem Faithful.renames (cpu : Cpu) (faithful : kind.Faithful raw cpu) : kind.RenamesFreely raw cpu := by
  intro other renamed sets
  have otherSets := renamed.sets.mpr sets
  cases kind with
  | multiply =>
    have fresh : Faithful .multiply other cpu := (cpu.multiply_faithful other).mpr fun _ =>
      cpu.lateCarry_early other (by rw [renamed.rm,renamed.rs]; exact renamed.fresh)
    rw [execute,execute,fresh.2 otherSets,faithful.2 sets,renamed.shortResult]
  | multiplyLong =>
    rw [execute,execute,cpu.executeArmMultiplyLong_flags other otherSets,cpu.executeArmMultiplyLong_flags raw sets,
      renamed.longResult]

end ArmMultiplyClass

def leftFactor : UInt32 := 0x89f86c2d

def rightFactor : UInt32 := 0x55

/-- Two factors whose product, stored over either of them, changes the carry. -/
def overwritten (raw : UInt32) : Cpu :=
  ⟨fun register =>
    if register = registerField raw 0 then leftFactor
    else if register = registerField raw 8 then rightFactor
    else 0,0⟩

theorem changed_left : ∀ accumulator ∈ [0,leftFactor,rightFactor],
    arm7tdmiMultiplyCarry .short (leftFactor * rightFactor + accumulator) rightFactor accumulator.toUInt64 ≠
      arm7tdmiMultiplyCarry .short leftFactor rightFactor accumulator.toUInt64 := by
  simp only [List.forall_mem_cons,leftFactor,rightFactor]
  exact ⟨by decide +kernel,by decide +kernel,by decide +kernel,nofun⟩

theorem changed_right : ∀ accumulator ∈ [0,leftFactor,rightFactor],
    arm7tdmiMultiplyCarry .short leftFactor (leftFactor * rightFactor + accumulator) accumulator.toUInt64 ≠
      arm7tdmiMultiplyCarry .short leftFactor rightFactor accumulator.toUInt64 := by
  simp only [List.forall_mem_cons,leftFactor,rightFactor]
  exact ⟨by decide +kernel,by decide +kernel,by decide +kernel,nofun⟩

theorem changed_square : ∀ accumulator ∈ [0,leftFactor],
    arm7tdmiMultiplyCarry .short (leftFactor * leftFactor + accumulator) (leftFactor * leftFactor + accumulator)
        accumulator.toUInt64 ≠
      arm7tdmiMultiplyCarry .short leftFactor leftFactor accumulator.toUInt64 := by
  simp only [List.forall_mem_cons,leftFactor]
  exact ⟨by decide +kernel,by decide +kernel,nofun⟩

theorem overwritten_carry {raw : UInt32}
    (aliased : registerField raw 16 = registerField raw 0 ∨ registerField raw 16 = registerField raw 8) :
    (overwritten raw).lateCarry raw ≠ ((overwritten raw).shortResult raw).flags.2.2 := by
  have left : (overwritten raw).regs (registerField raw 0) = leftFactor := if_pos rfl
  unfold Cpu.lateCarry Cpu.shortResult shortProduct
  dsimp only
  rw [left]
  generalize adds : (if accumulates raw then (overwritten raw).regs (registerField raw 12) else 0) = accumulator
  by_cases square : registerField raw 8 = registerField raw 0
  · have one : accumulator ∈ [0,leftFactor] := by
      rw [← adds,overwritten,square]
      grind
    rw [square,or_self] at aliased
    rw [square,aliased,update_self,left]
    exact changed_square accumulator one
  · have right : (overwritten raw).regs (registerField raw 8) = rightFactor := (if_neg square).trans (if_pos rfl)
    have one : accumulator ∈ [0,leftFactor,rightFactor] := by
      rw [← adds,overwritten]
      grind
    rw [right]
    rcases aliased with first | second
    · rw [first,update_self,update_of_ne square,right]
      exact changed_left accumulator one
    · rw [second,update_self,update_of_ne (Ne.symm square),left]
      exact changed_right accumulator one

/-- For which instructions every multiplication is right: all but the short ones with flags that store their product
over one of its factors. -/
theorem multiply_flags_iff (kind : ArmMultiplyClass) (raw : UInt32) :
    ((∀ cpu, kind.Faithful raw cpu ∧ kind.RenamesFreely raw cpu) ↔
      (kind = .multiply → setsFlags raw →
        registerField raw 16 ≠ registerField raw 0 ∧ registerField raw 16 ≠ registerField raw 8)) ∧
    ∀ cpu, kind.Faithful raw cpu ∧ kind.RenamesFreely raw cpu ↔
      (kind = .multiply → setsFlags raw → cpu.lateCarry raw = (cpu.shortResult raw).flags.2.2) := by
  have each (cpu : Cpu) : kind.Faithful raw cpu ∧ kind.RenamesFreely raw cpu ↔
      (kind = .multiply → setsFlags raw → cpu.lateCarry raw = (cpu.shortResult raw).flags.2.2) := by
    rw [and_iff_left_of_imp fun faithful => faithful.renames]
    cases kind with
    | multiply => exact (cpu.multiply_faithful raw).trans ⟨fun carries _ => carries,fun carries => carries rfl⟩
    | multiplyLong => exact iff_of_true (cpu.multiplyLong_faithful raw) fun short => nomatch short
  refine ⟨⟨fun right short sets => ?_,fun apart cpu => (each cpu).mpr fun short sets =>
    cpu.lateCarry_early raw (apart short sets)⟩,each⟩
  by_contra aliased
  rw [← not_or,not_not] at aliased
  exact overwritten_carry aliased ((each _).mp (right _) short sets)

/-- `muls r1, r1, r2`, with a carry that its own product decides. -/
theorem muls_wrong_carry : ¬ArmMultiplyClass.Faithful .multiply 0xE0110291 (overwritten 0xE0110291) := by
  rw [Cpu.multiply_faithful]
  exact fun right => overwritten_carry (.inl (by decide)) (right (by decide))

end ZeffBoy.Gba
