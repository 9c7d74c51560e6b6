import ZeffBoy.WonderSwan.Lockstep

/-! The iterations of the string instructions: they see only the registers, the program counter and the flags,
and leave the flags that they do not compute. -/
namespace ZeffBoy.WonderSwan

def flagArithmetic : UInt16 := flagCf ||| flagPf ||| flagAf ||| flagZf ||| flagSf ||| flagOf

theorem logic_arithmetic (zero sign parity : Bool) :
    (if zero then flagZf else 0) ||| (if sign then flagSf else 0) ||| (if parity then flagPf else 0) =
      ((if zero then flagZf else 0) ||| (if sign then flagSf else 0) ||| (if parity then flagPf else 0)) &&& flagArithmetic := by
  revert zero sign parity
  decide

theorem raise_arithmetic (carry auxiliary overflow : Bool) :
    (if carry then flagCf else 0) ||| (if auxiliary then flagAf else 0) ||| (if overflow then flagOf else 0) =
      ((if carry then flagCf else 0) ||| (if auxiliary then flagAf else 0) ||| (if overflow then flagOf else 0)) &&&
        flagArithmetic := by
  revert carry auxiliary overflow
  decide

theorem compared_direction (flags logic raised : UInt16) :
    ((flags &&& ~~~(flagArithmetic ||| flagReservedLow)) ||| (logic &&& flagArithmetic) ||| flagFixed |||
      (raised &&& flagArithmetic)) &&& flagDf = flags &&& flagDf := by
  apply UInt16.eq_of_toBitVec_eq
  ext i bound
  interval_cases i <;>
    simp [flagArithmetic,flagReservedLow,flagFixed,flagDf,flagCf,flagPf,flagAf,flagZf,flagSf,flagOf]

theorem compared_normal (flags logic raised : UInt16) :
    Cpu.normalizePoppedFlags ((flags &&& ~~~(flagArithmetic ||| flagReservedLow)) ||| (logic &&& flagArithmetic) |||
      flagFixed ||| (raised &&& flagArithmetic)) =
    ((flags &&& ~~~(flagArithmetic ||| flagReservedLow)) ||| (logic &&& flagArithmetic) ||| flagFixed |||
      (raised &&& flagArithmetic)) &&& ~~~flagDf := by
  apply UInt16.eq_of_toBitVec_eq
  ext i bound
  interval_cases i <;>
    simp [Cpu.normalizePoppedFlags,flagPopfWritable,flagArithmetic,flagReservedLow,flagFixed,flagDf,flagCf,flagPf,flagAf,
      flagZf,flagSf,flagOf,flagBrk,flagIf]

theorem normalize_direction (flags : UInt16) : Cpu.normalizePoppedFlags flags &&& flagDf = 0 := by
  apply UInt16.eq_of_toBitVec_eq
  ext i bound
  interval_cases i <;>
    simp [Cpu.normalizePoppedFlags,flagPopfWritable,flagFixed,flagDf,flagCf,flagPf,flagAf,flagZf,flagSf,flagOf,flagBrk,flagIf]

theorem normalize_twice (flags : UInt16) :
    Cpu.normalizePoppedFlags (Cpu.normalizePoppedFlags flags) = Cpu.normalizePoppedFlags flags := by
  apply UInt16.eq_of_toBitVec_eq
  ext i bound
  interval_cases i <;>
    simp [Cpu.normalizePoppedFlags,flagPopfWritable,flagFixed,flagCf,flagPf,flagAf,flagZf,flagSf,flagOf,flagBrk,flagIf]

theorem normalize_fixed (flags : UInt16) : Cpu.normalizePoppedFlags (flags ||| flagFixed) = Cpu.normalizePoppedFlags flags := by
  apply UInt16.eq_of_toBitVec_eq
  ext i bound
  interval_cases i <;>
    simp [Cpu.normalizePoppedFlags,flagPopfWritable,flagFixed,flagCf,flagPf,flagAf,flagZf,flagSf,flagOf,flagBrk,flagIf]

theorem clear_direction (flags : UInt16) (clear : flags &&& flagDf = 0) : flags &&& ~~~flagDf = flags := by
  have both : flags = (flags &&& flagDf) ||| (flags &&& ~~~flagDf) := by
    apply UInt16.eq_of_toBitVec_eq
    ext i bound
    interval_cases i <;> simp [flagDf]
  rw [clear,UInt16.zero_or] at both
  exact both.symm

/-- The flags that a string instruction does not compute: all of them, or the direction beside a comparison. -/
def Decoded.kept (decoded : Decoded) (flags : UInt16) : UInt16 :=
  if Cpu.isCompare decoded.opcode then flags &&& flagDf else flags

/-- Flags that a return from an interrupt restores if it restores the ones that the instruction keeps. -/
def Decoded.Settled (decoded : Decoded) (flags : UInt16) : Prop :=
  decoded.kept (Cpu.normalizePoppedFlags flags) = decoded.kept flags → Cpu.normalizePoppedFlags flags = flags

namespace Cpu

theorem Same.refl (cpu : Cpu) : cpu.Same cpu := ⟨rfl,rfl,rfl,rfl,rfl⟩

theorem Same.symm {cpu other : Cpu} (same : cpu.Same other) : other.Same cpu :=
  ⟨same.regs.symm,same.segments.symm,same.ip.symm,same.flags.symm,same.state.symm⟩

theorem Same.trans {cpu other third : Cpu} (same : cpu.Same other) (rest : other.Same third) : cpu.Same third :=
  ⟨same.regs.trans rest.regs,same.segments.trans rest.segments,same.ip.trans rest.ip,same.flags.trans rest.flags,
    same.state.trans rest.state⟩

theorem Same.hidden {cpu other : Cpu} (same : cpu.Same other) :
    ∃ cycles lastOpcode lastTrap interruptShadow brkShadow lastStepWasInterrupt lastMulOverflow, other = {cpu with
      cycles := cycles, lastOpcode := lastOpcode, lastTrap := lastTrap, interruptShadow := interruptShadow,
      brkShadow := brkShadow, lastStepWasInterrupt := lastStepWasInterrupt, lastMulOverflow := lastMulOverflow} := by
  obtain ⟨regs,segments,ip,flags,state⟩ := same
  refine ⟨other.cycles,other.lastOpcode,other.lastTrap,other.interruptShadow,other.brkShadow,other.lastStepWasInterrupt,
    other.lastMulOverflow,?_⟩
  rw [regs,segments,ip,flags,state]

def Moves (cpu : Cpu) (after other : Cpu) : Prop := after.Same other ∧ after.flags = cpu.flags ∧ after.state = cpu.state

def Compares (cpu : Cpu) (after other : Cpu) : Prop :=
  after.Same other ∧ (after.flags &&& flagDf = cpu.flags &&& flagDf ∧
    normalizePoppedFlags after.flags = after.flags &&& ~~~flagDf) ∧ after.state = cpu.state

theorem setLogicFlags_flags {cpu : Cpu} {zero sign carry auxiliary overflow : Bool} {low : UInt8} :
    ((cpu.setLogicFlags zero sign low).raiseFlags carry auxiliary overflow).flags &&& flagDf = cpu.flags &&& flagDf ∧
      normalizePoppedFlags ((cpu.setLogicFlags zero sign low).raiseFlags carry auxiliary overflow).flags =
        ((cpu.setLogicFlags zero sign low).raiseFlags carry auxiliary overflow).flags &&& ~~~flagDf := by
  have shape : ((cpu.setLogicFlags zero sign low).raiseFlags carry auxiliary overflow).flags =
      (cpu.flags &&& ~~~(flagArithmetic ||| flagReservedLow)) |||
        (((if zero then flagZf else 0) ||| (if sign then flagSf else 0) ||| (if evenParity low then flagPf else 0)) &&&
          flagArithmetic) ||| flagFixed |||
        (((if carry then flagCf else 0) ||| (if auxiliary then flagAf else 0) ||| (if overflow then flagOf else 0)) &&&
          flagArithmetic) := by
    rw [← logic_arithmetic,← raise_arithmetic]
    simp only [raiseFlags,setLogicFlags,flagArithmetic,UInt16.or_assoc]
  rw [shape]
  exact ⟨compared_direction _ _ _,compared_normal _ _ _⟩

variable {cpu other : Cpu}

theorem movs8_rel (same : cpu.Same other) (override : Option (Fin 4)) :
    Guest.Rel cpu.Moves (movs8 override cpu) (movs8 override other) := by
  obtain ⟨_,_,_,_,_,_,_,rfl⟩ := same.hidden
  exact .read8 _ fun _ => .write8 _ _ (.done ⟨⟨rfl,rfl,rfl,rfl,rfl⟩,rfl,rfl⟩)

theorem movs16_rel (same : cpu.Same other) (override : Option (Fin 4)) :
    Guest.Rel cpu.Moves (movs16 override cpu) (movs16 override other) := by
  obtain ⟨_,_,_,_,_,_,_,rfl⟩ := same.hidden
  apply (Guest.read16_rel _).bind
  rintro value _ rfl
  apply (Guest.write16_rel _ _).bind
  rintro _ _ _
  exact .done ⟨⟨rfl,rfl,rfl,rfl,rfl⟩,rfl,rfl⟩

theorem ins8_rel (same : cpu.Same other) : Guest.Rel cpu.Moves (ins8 cpu) (ins8 other) := by
  obtain ⟨_,_,_,_,_,_,_,rfl⟩ := same.hidden
  exact .ioRead8 _ fun _ => .write8 _ _ (.done ⟨⟨rfl,rfl,rfl,rfl,rfl⟩,rfl,rfl⟩)

theorem ins16_rel (same : cpu.Same other) : Guest.Rel cpu.Moves (ins16 cpu) (ins16 other) := by
  obtain ⟨_,_,_,_,_,_,_,rfl⟩ := same.hidden
  apply (Guest.ioRead16_rel _).bind
  rintro value _ rfl
  apply (Guest.write16_rel _ _).bind
  rintro _ _ _
  exact .done ⟨⟨rfl,rfl,rfl,rfl,rfl⟩,rfl,rfl⟩

theorem outs8_rel (same : cpu.Same other) (override : Option (Fin 4)) :
    Guest.Rel cpu.Moves (outs8 override cpu) (outs8 override other) := by
  obtain ⟨_,_,_,_,_,_,_,rfl⟩ := same.hidden
  exact .read8 _ fun _ => .ioWrite8 _ _ (.done ⟨⟨rfl,rfl,rfl,rfl,rfl⟩,rfl,rfl⟩)

theorem outs16_rel (same : cpu.Same other) (override : Option (Fin 4)) :
    Guest.Rel cpu.Moves (outs16 override cpu) (outs16 override other) := by
  obtain ⟨_,_,_,_,_,_,_,rfl⟩ := same.hidden
  apply (Guest.read16_rel _).bind
  rintro value _ rfl
  apply (Guest.ioWrite16_rel _ _).bind
  rintro _ _ _
  exact .done ⟨⟨rfl,rfl,rfl,rfl,rfl⟩,rfl,rfl⟩

theorem stos8_rel (same : cpu.Same other) : Guest.Rel cpu.Moves (stos8 cpu) (stos8 other) := by
  obtain ⟨_,_,_,_,_,_,_,rfl⟩ := same.hidden
  exact .write8 _ _ (.done ⟨⟨rfl,rfl,rfl,rfl,rfl⟩,rfl,rfl⟩)

theorem stos16_rel (same : cpu.Same other) : Guest.Rel cpu.Moves (stos16 cpu) (stos16 other) := by
  obtain ⟨_,_,_,_,_,_,_,rfl⟩ := same.hidden
  apply (Guest.write16_rel _ _).bind
  rintro _ _ _
  exact .done ⟨⟨rfl,rfl,rfl,rfl,rfl⟩,rfl,rfl⟩

theorem lods8_rel (same : cpu.Same other) (override : Option (Fin 4)) :
    Guest.Rel cpu.Moves (lods8 override cpu) (lods8 override other) := by
  obtain ⟨_,_,_,_,_,_,_,rfl⟩ := same.hidden
  exact .read8 _ fun _ => .done ⟨⟨rfl,rfl,rfl,rfl,rfl⟩,rfl,rfl⟩

theorem lods16_rel (same : cpu.Same other) (override : Option (Fin 4)) :
    Guest.Rel cpu.Moves (lods16 override cpu) (lods16 override other) := by
  obtain ⟨_,_,_,_,_,_,_,rfl⟩ := same.hidden
  apply (Guest.read16_rel _).bind
  rintro value _ rfl
  exact .done ⟨⟨rfl,rfl,rfl,rfl,rfl⟩,rfl,rfl⟩

theorem cmps8_rel (same : cpu.Same other) (override : Option (Fin 4)) :
    Guest.Rel cpu.Compares (cmps8 override cpu) (cmps8 override other) := by
  obtain ⟨_,_,_,_,_,_,_,rfl⟩ := same.hidden
  exact .read8 _ fun _ => .read8 _ fun _ => .done ⟨⟨rfl,rfl,rfl,rfl,rfl⟩,setLogicFlags_flags,rfl⟩

theorem cmps16_rel (same : cpu.Same other) (override : Option (Fin 4)) :
    Guest.Rel cpu.Compares (cmps16 override cpu) (cmps16 override other) := by
  obtain ⟨_,_,_,_,_,_,_,rfl⟩ := same.hidden
  apply (Guest.read16_rel _).bind
  rintro lhs _ rfl
  apply (Guest.read16_rel _).bind
  rintro rhs _ rfl
  exact .done ⟨⟨rfl,rfl,rfl,rfl,rfl⟩,setLogicFlags_flags,rfl⟩

theorem scas8_rel (same : cpu.Same other) : Guest.Rel cpu.Compares (scas8 cpu) (scas8 other) := by
  obtain ⟨_,_,_,_,_,_,_,rfl⟩ := same.hidden
  exact .read8 _ fun _ => .done ⟨⟨rfl,rfl,rfl,rfl,rfl⟩,setLogicFlags_flags,rfl⟩

theorem scas16_rel (same : cpu.Same other) : Guest.Rel cpu.Compares (scas16 cpu) (scas16 other) := by
  obtain ⟨_,_,_,_,_,_,_,rfl⟩ := same.hidden
  apply (Guest.read16_rel _).bind
  rintro rhs _ rfl
  exact .done ⟨⟨rfl,rfl,rfl,rfl,rfl⟩,setLogicFlags_flags,rfl⟩

/-- The result of an iteration: the state that is seen, the flags that are kept, and flags that a return restores. -/
structure Iterated (decoded : Decoded) (cpu after other : Cpu) : Prop where
  same : after.Same other
  kept : decoded.kept after.flags = decoded.kept cpu.flags
  settled : decoded.Settled after.flags
  state : after.state = cpu.state

variable {decoded : Decoded}

theorem Moves.iterated (plain : isCompare decoded.opcode = false) {after : Cpu} (moves : cpu.Moves after other) :
    Iterated decoded cpu after other := by
  obtain ⟨same,flags,state⟩ := moves
  refine ⟨same,congrArg _ flags,?_,state⟩
  intro restored
  simpa [Decoded.kept,plain] using restored

theorem Compares.iterated (compare : isCompare decoded.opcode = true) {after : Cpu}
    (compares : cpu.Compares after other) : Iterated decoded cpu after other := by
  obtain ⟨same,⟨direction,normal⟩,state⟩ := compares
  refine ⟨same,?_,?_,state⟩
  · simp only [Decoded.kept,compare,if_true]
    exact direction
  · intro restored
    simp only [Decoded.kept,compare,if_true,normalize_direction] at restored
    rw [normal,clear_direction _ restored.symm]

theorem stringBody_rel {body : Cpu → Guest Cpu} (found : stringBody decoded = some body)
    (same : cpu.Same other) : Guest.Rel (Iterated decoded cpu) (body cpu) (body other) := by
  obtain ⟨opcode,override,repeats⟩ := decoded
  unfold stringBody at found
  split at found
  case h_15 => cases found
  all_goals
    rename_i code
    dsimp only at code
    subst code
    obtain rfl := Option.some.inj found
  · exact (ins8_rel same).mono fun _ _ => Moves.iterated rfl
  · exact (ins16_rel same).mono fun _ _ => Moves.iterated rfl
  · exact (outs8_rel same _).mono fun _ _ => Moves.iterated rfl
  · exact (outs16_rel same _).mono fun _ _ => Moves.iterated rfl
  · exact (movs8_rel same _).mono fun _ _ => Moves.iterated rfl
  · exact (movs16_rel same _).mono fun _ _ => Moves.iterated rfl
  · exact (cmps8_rel same _).mono fun _ _ => Compares.iterated rfl
  · exact (cmps16_rel same _).mono fun _ _ => Compares.iterated rfl
  · exact (stos8_rel same).mono fun _ _ => Moves.iterated rfl
  · exact (stos16_rel same).mono fun _ _ => Moves.iterated rfl
  · exact (lods8_rel same _).mono fun _ _ => Moves.iterated rfl
  · exact (lods16_rel same _).mono fun _ _ => Moves.iterated rfl
  · exact (scas8_rel same).mono fun _ _ => Compares.iterated rfl
  · exact (scas16_rel same).mono fun _ _ => Compares.iterated rfl

/-- The result of a whole step of a string instruction. Only one that resumes has surely computed its flags. -/
structure Stepped (decoded : Decoded) (cpu after other : Cpu) : Prop where
  same : after.Same other
  kept : decoded.kept after.flags = decoded.kept cpu.flags
  settled : after.shouldResumeRepeatedString decoded = true → decoded.Settled after.flags
  state : after.state = cpu.state

theorem addCycles_rel (same : cpu.Same other) (cycles : Nat) :
    Guest.Rel (fun after beside => after.Same beside ∧ cpu.Same after) (cpu.addCycles cycles) (other.addCycles cycles) :=
  .stepCycles _ (.done ⟨⟨same.regs,same.segments,same.ip,same.flags,same.state⟩,⟨rfl,rfl,rfl,rfl,rfl⟩⟩)

theorem decrement_same (same : cpu.Same other) (repeats : Option RepeatPrefix) :
    (cpu.decrementRepeatCounter repeats).Same (other.decrementRepeatCounter repeats) := by
  unfold decrementRepeatCounter
  split
  · refine ⟨?_,same.segments,same.ip,same.flags,same.state⟩
    simp only [setReg16,same.regs]
  · exact same

theorem decrement_flags (cpu : Cpu) (repeats : Option RepeatPrefix) :
    (cpu.decrementRepeatCounter repeats).flags = cpu.flags ∧ (cpu.decrementRepeatCounter repeats).state = cpu.state := by
  unfold decrementRepeatCounter
  split <;> exact ⟨rfl,rfl⟩

theorem execute_rel (elsewhere : Option Decoded → Cpu → Guest Cpu)
    (string : (stringBody decoded).isSome = true) (same : cpu.Same other) :
    Guest.Rel (Stepped decoded cpu) (execute elsewhere decoded cpu) (execute elsewhere decoded other) := by
  obtain ⟨body,found⟩ := Option.isSome_iff_exists.mp string
  unfold execute
  rw [found]
  dsimp only [repeatCompare]
  rw [ite_self,ite_self]
  unfold repeatSimple
  have counts : other.repeatIterations decoded.repeats = cpu.repeatIterations decoded.repeats := by
    rw [repeatIterations,repeatIterations,same.regs]
  rw [counts]
  split
  · -- A count of zero: the instruction is over.
    rename_i ended
    apply (addCycles_rel same 2).mono
    rintro after beside ⟨alike,kept⟩
    refine ⟨alike,congrArg _ kept.flags.symm,?_,kept.state.symm⟩
    intro resumes
    have spent : ¬ (decoded.repeats = none ∨ cpu.regs 1 ≠ 0) := by
      intro runs
      rw [repeatIterations,if_pos runs] at ended
      cases ended
    rw [not_or,not_not] at spent
    unfold shouldResumeRepeatedString at resumes
    split at resumes
    · cases resumes
    · rw [← kept.regs,if_pos (.inr spent.2)] at resumes
      cases resumes
  · apply (stringBody_rel found same).bind
    intro after beside iterated
    apply (addCycles_rel iterated.same 4).bind
    rintro later following ⟨alike,kept⟩
    obtain ⟨flags,state⟩ := decrement_flags later decoded.repeats
    refine .done ⟨decrement_same alike _,?_,?_,?_⟩
    · rw [flags,← kept.flags]
      exact iterated.kept
    · rw [flags,← kept.flags]
      exact fun _ => iterated.settled
    · rw [state,← kept.state]
      exact iterated.state

/-- Two fetches that found the same opcode, or only prefixes. -/
inductive Fetched (cpu : Cpu) : Option (Decoded × Cpu) → Option (Decoded × Cpu) → Prop
  | none : Fetched cpu none none
  | some {decoded : Decoded} {after other : Cpu} (same : after.Same other) (flags : after.flags = cpu.flags)
      (state : after.state = cpu.state) (regs : after.regs = cpu.regs) (segments : after.segments = cpu.segments) :
    Fetched cpu (some (decoded,after)) (some (decoded,other))

theorem fetchOpcode_rel (fuel : Nat) (override : Option (Fin 4)) (repeats : Option RepeatPrefix) (same : cpu.Same other) :
    Guest.Rel (Fetched cpu) (fetchOpcode fuel override repeats cpu) (fetchOpcode fuel override repeats other) := by
  induction fuel generalizing cpu other override repeats with
  | zero => exact .done .none
  | succ fuel ih =>
    have later {fetched : Cpu} {result beside : Option (Decoded × Cpu)} (flags : fetched.flags = cpu.flags)
        (state : fetched.state = cpu.state) (regs : fetched.regs = cpu.regs) (segments : fetched.segments = cpu.segments)
        (found : Fetched fetched result beside) : Fetched cpu result beside := by
      cases found with
      | none => exact .none
      | some same' flags' state' regs' segments' =>
        exact .some same' (flags'.trans flags) (state'.trans state) (regs'.trans regs) (segments'.trans segments)
    have rest (override : Option (Fin 4)) (repeats : Option RepeatPrefix) (following : Cpu)
        (next : Cpu.Same {cpu with ip := cpu.ip + 1} following) : Guest.Rel (Fetched cpu)
          (fetchOpcode fuel override repeats {cpu with ip := cpu.ip + 1}) (fetchOpcode fuel override repeats following) :=
      (ih override repeats next).mono fun _ _ => later rfl rfl rfl rfl
    obtain ⟨_,_,_,_,_,_,_,rfl⟩ := same.hidden
    unfold fetchOpcode
    refine .read8 _ ?_
    intro byte
    dsimp only [Guest.bind]
    split
    · exact rest _ _ _ ⟨rfl,rfl,rfl,rfl,rfl⟩
    · split
      · exact rest _ _ _ ⟨rfl,rfl,rfl,rfl,rfl⟩
      · split
        · exact rest _ _ _ ⟨rfl,rfl,rfl,rfl,rfl⟩
        · split
          · exact rest _ _ _ ⟨rfl,rfl,rfl,rfl,rfl⟩
          · exact .done (.some ⟨rfl,rfl,rfl,rfl,rfl⟩ rfl rfl rfl rfl)

end Cpu
end ZeffBoy.WonderSwan
