import ZeffBoy.WonderSwan.InterruptReturn

/-! A string instruction under interrupts, beside the same instruction without. The two run in lockstep as long as
a return gives back the flags that the instruction keeps. -/
namespace ZeffBoy.WonderSwan

def Decoded.Restored (decoded : Decoded) (flags : UInt16) : Prop :=
  decoded.kept (Cpu.normalizePoppedFlags flags) = decoded.kept flags

theorem kept_normalize (decoded : Decoded) {flags other : UInt16} (same : decoded.kept flags = decoded.kept other) :
    decoded.kept (Cpu.normalizePoppedFlags flags) = decoded.kept (Cpu.normalizePoppedFlags other) := by
  unfold Decoded.kept at same ⊢
  split
  · rw [normalize_direction,normalize_direction]
  · rename_i plain
    rw [if_neg plain,if_neg plain] at same
    rw [same]

theorem Decoded.Restored.congr {decoded : Decoded} {flags other : UInt16} (same : decoded.kept flags = decoded.kept other)
    (restored : decoded.Restored other) : decoded.Restored flags := by
  unfold Decoded.Restored
  rw [kept_normalize decoded same,same]
  exact restored

theorem restored_iff (decoded : Decoded) {flags : UInt16} (reserved : flags &&& flagReservedLow = 0)
    (fixed : flags ||| flagFixed = flags) : decoded.Restored flags ↔ flags &&& flagDf = 0 := by
  have normal : Cpu.normalizePoppedFlags flags = flags &&& ~~~flagDf := by
    have shape : Cpu.normalizePoppedFlags flags ||| (flags &&& flagReservedLow) = (flags ||| flagFixed) &&& ~~~flagDf := by
      apply UInt16.eq_of_toBitVec_eq
      ext i bound
      interval_cases i <;>
        simp [Cpu.normalizePoppedFlags,flagPopfWritable,flagReservedLow,flagFixed,flagDf,flagCf,flagPf,flagAf,flagZf,flagSf,
          flagOf,flagBrk,flagIf]
    rw [reserved,UInt16.or_zero,fixed] at shape
    exact shape
  constructor
  · intro restored
    have direction := congrArg (· &&& flagDf) restored
    have twice : flags &&& flagDf &&& flagDf = flags &&& flagDf := by rw [UInt16.and_assoc,UInt16.and_self]
    unfold Decoded.kept at direction
    split at direction
    · rw [normalize_direction,twice] at direction
      exact direction.symm
    · rw [normalize_direction] at direction
      exact direction.symm
  · intro clear
    unfold Decoded.Restored
    rw [normal,clear_direction _ clear]

theorem resume_same {decoded : Decoded} {cpu other : Cpu} (same : cpu.Same other) :
    cpu.shouldResumeRepeatedString decoded = other.shouldResumeRepeatedString decoded := by
  obtain ⟨_,_,_,_,_,_,_,rfl⟩ := same.hidden
  rfl

namespace Machine
variable {Cell σ : Type} {map : MemoryMap Cell} {ports : Device σ} {other : Option Decoded → Cpu → Guest Cpu}
  {decoded : Decoded} {aside : Set Cell} {machine beside third : Machine Cell σ}

theorem Matches.refl (machine : Machine Cell σ) : machine.Matches aside machine := ⟨.refl _,.refl _⟩

theorem Matches.symm (alike : machine.Matches aside beside) : beside.Matches aside machine := ⟨alike.1.symm,alike.2.symm⟩

theorem Matches.trans (alike : machine.Matches aside beside) (rest : beside.Matches aside third) :
    machine.Matches aside third := ⟨alike.1.trans rest.1,alike.2.trans rest.2⟩

theorem looked_matches (machine : Machine Cell σ) : Machine.Matches aside ⟨looked machine.cpu,machine.store⟩ machine :=
  ⟨looked_same _,.refl _⟩

variable [DecidableEq Cell]

theorem rewound_same {cpu other : Cpu} (same : cpu.Same other) (ip : UInt16) :
    (rewound decoded ip cpu).Same (rewound decoded ip other) := by
  unfold rewound
  rw [resume_same same]
  split
  · exact ⟨same.regs,same.segments,rfl,same.flags,same.state⟩
  · exact same

theorem rewound_resumes (decoded : Decoded) (ip : UInt16) (cpu : Cpu) :
    (rewound decoded ip cpu).flags = cpu.flags ∧ (rewound decoded ip cpu).state = cpu.state ∧
      (rewound decoded ip cpu).shouldResumeRepeatedString decoded = cpu.shouldResumeRepeatedString decoded := by
  unfold rewound
  split <;> exact ⟨rfl,rfl,rfl⟩

theorem Iterates.lockstep (string : (Cpu.stringBody decoded).isSome = true)
    (iterates : machine.Iterates map ports other decoded aside) (alike : machine.Matches aside beside) :
    beside.Iterates map ports other decoded aside ∧
      (machine.execute map ports other).Matches aside (beside.execute map ports other) ∧
      decoded.kept (machine.execute map ports other).cpu.flags = decoded.kept machine.cpu.flags ∧
      ((machine.execute map ports other).cpu.shouldResumeRepeatedString decoded = true →
        decoded.Settled (machine.execute map ports other).cpu.flags) := by
  obtain ⟨running,found,avoids⟩ := iterates
  obtain ⟨same,agree⟩ := alike
  have parts := avoids
  unfold Cpu.instruction at parts
  rw [Guest.avoids_bind] at parts
  have fetches := (Cpu.fetchOpcode_rel 65536 none none same).lockstep agree parts.1
  obtain ⟨fetched,after,taken⟩ : ∃ fetched after,
      (Cpu.fetchOpcode 65536 none none machine.cpu).within map ports machine.store = (some (decoded,fetched),after) := by
    obtain ⟨⟨_,fetched⟩,result,rfl⟩ := Option.map_eq_some_iff.mp found
    exact ⟨fetched,_,Prod.ext result rfl⟩
  rw [taken] at fetches parts
  generalize takenToo : (Cpu.fetchOpcode 65536 none none beside.cpu).within map ports beside.store = result at fetches
  obtain ⟨result,later⟩ := result
  obtain ⟨related,agreed,fetchAvoids⟩ := fetches
  cases related with
  | @some _ _ following alike flags state regs segments =>
    have body := ((Guest.avoids_bind _ _ _).mp parts.2).1
    have marked : Cpu.Same {fetched with lastOpcode := decoded.opcode} {following with lastOpcode := decoded.opcode} :=
      ⟨alike.regs,alike.segments,alike.ip,alike.flags,alike.state⟩
    obtain ⟨stepped,ends,bodyAvoids⟩ := (Cpu.execute_rel other string marked).lockstep agreed body
    have left : machine.execute map ports other = ⟨rewound decoded machine.cpu.ip
        ((Cpu.execute other decoded {fetched with lastOpcode := decoded.opcode}).within map ports after).1,
        ((Cpu.execute other decoded {fetched with lastOpcode := decoded.opcode}).within map ports after).2⟩ := by
      unfold execute
      rw [instruction_within taken]
    have right : beside.execute map ports other = ⟨rewound decoded beside.cpu.ip
        ((Cpu.execute other decoded {following with lastOpcode := decoded.opcode}).within map ports later).1,
        ((Cpu.execute other decoded {following with lastOpcode := decoded.opcode}).within map ports later).2⟩ := by
      unfold execute
      rw [instruction_within takenToo]
    obtain ⟨keepsFlags,_,keepsResume⟩ := rewound_resumes decoded machine.cpu.ip
      ((Cpu.execute other decoded {fetched with lastOpcode := decoded.opcode}).within map ports after).1
    refine ⟨⟨same.state.symm.trans running,?_,?_⟩,?_,?_,?_⟩
    · rw [takenToo]
      rfl
    · unfold Cpu.instruction
      rw [Guest.avoids_bind,takenToo]
      exact ⟨fetchAvoids,(Guest.avoids_bind _ _ _).mpr ⟨bodyAvoids,trivial⟩⟩
    · rw [left,right]
      refine ⟨?_,ends⟩
      dsimp only
      rw [same.ip]
      exact rewound_same stepped.same _
    · rw [left]
      dsimp only
      rw [keepsFlags,stepped.kept]
      exact congrArg decoded.kept flags
    · rw [left]
      dsimp only
      rw [keepsFlags,keepsResume]
      exact stepped.settled

theorem Iterates.stepped (string : (Cpu.stringBody decoded).isSome = true)
    (iterates : machine.Iterates map ports other decoded aside) {signal : Bool} {vector : Option UInt8}
    (quiet : machine.cpu.pendingInterruptOrBrk vector = none) {after : Machine Cell σ}
    (stepped : machine.step map ports other signal vector = (true,after)) (alike : machine.Matches aside beside) :
    beside.Iterates map ports other decoded aside ∧ after.Matches aside (beside.execute map ports other) ∧
      decoded.kept after.cpu.flags = decoded.kept machine.cpu.flags ∧
      (after.cpu.shouldResumeRepeatedString decoded = true → decoded.Settled after.cpu.flags) := by
  rw [step_quiet iterates.running quiet] at stepped
  obtain rfl := (Prod.mk.inj stepped).2
  have started := (iterates.lockstep string (looked_matches machine).symm).1
  exact started.lockstep string ((looked_matches machine).trans alike)

variable {count : Nat} {final : Machine Cell σ}

theorem Interrupts.restores (interrupts : Interrupts map ports other aside count machine beside) :
    (count = 0 → beside = machine) ∧ (count ≠ 0 →
      beside.Matches aside ⟨{machine.cpu with flags := Cpu.normalizePoppedFlags machine.cpu.flags},machine.store⟩) := by
  induction interrupts with
  | none => exact ⟨fun _ => rfl,fun some => absurd rfl some⟩
  | @take count before between after taken rest ih =>
    refine ⟨(fun none => by cases none),fun _ => ?_⟩
    obtain ⟨same,agree⟩ := taken.restores
    cases count with
    | zero =>
      rw [ih.1 rfl]
      exact ⟨same,agree⟩
    | succ count =>
      obtain ⟨again,still⟩ := ih.2 (Nat.succ_ne_zero count)
      refine ⟨again.trans ⟨same.regs,same.segments,same.ip,?_,same.state⟩,still.trans agree⟩
      dsimp only
      rw [same.flags,normalize_twice]

theorem Interrupts.transparent (interrupts : Interrupts map ports other aside count machine beside)
    (settled : decoded.Settled machine.cpu.flags) (restored : count = 0 ∨ decoded.Restored machine.cpu.flags) :
    beside.Matches aside machine := by
  rcases Nat.eq_zero_or_pos count with none | some
  · rw [interrupts.restores.1 none]
    exact .refl _
  · have back := interrupts.restores.2 (ne_of_gt some)
    rw [settled (restored.resolve_left (ne_of_gt some))] at back
    exact back

theorem Interrupted.simulates (string : (Cpu.stringBody decoded).isSome = true)
    (interrupted : Interrupted map ports other decoded aside count machine final) (alike : machine.Matches aside beside)
    (restored : count = 0 ∨ decoded.Restored machine.cpu.flags) :
    ∃ plain, Uninterrupted map ports other decoded aside beside plain ∧ final.Matches aside plain := by
  induction interrupted generalizing beside with
  | last signal vector iterates quiet stepped done =>
    obtain ⟨steps,reached,_,_⟩ := iterates.stepped string quiet stepped alike
    exact ⟨_,.last steps (by rw [← resume_same reached.1]; exact done),reached⟩
  | @again count more before after between final signal vector iterates quiet stepped resumes interrupts rest ih =>
    obtain ⟨steps,reached,kept,settled⟩ := iterates.stepped string quiet stepped alike
    have stays : count + more = 0 ∨ decoded.Restored after.cpu.flags := restored.imp_right (Decoded.Restored.congr kept)
    have through := interrupts.transparent (settled resumes) (stays.imp_left Nat.eq_zero_of_add_eq_zero_right)
    have onward : more = 0 ∨ decoded.Restored between.cpu.flags := by
      rw [through.1.flags]
      exact stays.imp_left Nat.eq_zero_of_add_eq_zero_left
    obtain ⟨plain,runs,same⟩ := ih (through.trans reached) onward
    exact ⟨plain,.again steps (by rw [← resume_same reached.1]; exact resumes) runs,same⟩

theorem Uninterrupted.kept (string : (Cpu.stringBody decoded).isSome = true)
    (runs : Uninterrupted map ports other decoded aside machine final) :
    decoded.kept final.cpu.flags = decoded.kept machine.cpu.flags := by
  induction runs with
  | last iterates _ => exact (iterates.lockstep string (.refl _)).2.2.1
  | again iterates _ _ ih => exact ih.trans (iterates.lockstep string (.refl _)).2.2.1

theorem Interrupted.kept (string : (Cpu.stringBody decoded).isSome = true)
    (interrupted : Interrupted map ports other decoded aside count machine final) :
    (count = 0 → decoded.kept final.cpu.flags = decoded.kept machine.cpu.flags) ∧
      (count ≠ 0 → decoded.kept final.cpu.flags = decoded.kept (Cpu.normalizePoppedFlags machine.cpu.flags)) := by
  induction interrupted with
  | last signal vector iterates quiet stepped done =>
    exact ⟨fun _ => (iterates.stepped string quiet stepped (.refl _)).2.2.1,fun some => absurd rfl some⟩
  | @again count more before after between final signal vector iterates quiet stepped resumes interrupts rest ih =>
    have kept := (iterates.stepped string quiet stepped (.refl _)).2.2.1
    have normal := kept_normalize decoded kept
    obtain ⟨none,some⟩ := interrupts.restores
    rcases Nat.eq_zero_or_pos count with first | first
    · subst first
      obtain rfl := none rfl
      rw [zero_add]
      exact ⟨fun last => (ih.1 last).trans kept,fun last => (ih.2 last).trans normal⟩
    · have back := (some (ne_of_gt first)).1.flags
      dsimp only at back
      refine ⟨fun absent => absurd (Nat.eq_zero_of_add_eq_zero_right absent) (ne_of_gt first),fun _ => ?_⟩
      rcases Nat.eq_zero_or_pos more with last | last
      · rw [ih.1 last,back,normal]
      · rw [ih.2 (ne_of_gt last),back,normalize_twice,normal]

/-- A string instruction with interrupts between its iterations ends as the one without does exactly when none is taken
or the flags that it keeps come back from one. Every return restores the registers and the program counter. -/
theorem interrupts_transparent (string : (Cpu.stringBody decoded).isSome = true) {count : Nat} {start final : Machine Cell σ}
    (interrupted : Interrupted map ports other decoded aside count start final) :
    ((∃ plain, Uninterrupted map ports other decoded aside start plain ∧ final.Matches aside plain) ↔
      count = 0 ∨ decoded.Restored start.cpu.flags) ∧
    ∀ before after : Machine Cell σ, Taken map ports other aside before after →
      after.cpu.segments = before.cpu.segments ∧ after.cpu.ip = before.cpu.ip ∧ after.cpu.regs = before.cpu.regs ∧
        after.cpu.flags = Cpu.normalizePoppedFlags before.cpu.flags ∧ after.store.Agree aside before.store := by
  refine ⟨⟨?_,?_⟩,?_⟩
  · rintro ⟨plain,runs,same⟩
    rcases Nat.eq_zero_or_pos count with none | some
    · exact .inl none
    · have left := (interrupted.kept string).2 (ne_of_gt some)
      have right := runs.kept string
      rw [same.1.flags] at left
      exact .inr (left.symm.trans right)
  · exact interrupted.simulates string (.refl start)
  · intro before after taken
    obtain ⟨same,agree⟩ := taken.restores
    exact ⟨same.segments,same.ip,same.regs,same.flags,agree⟩

/-- Two bytes are moved by a REP MOVSB at 0000:0100, with a handler at 0000:0300 that only returns. -/
def moving (flags : UInt16) : Machine UInt32 Unit where
  cpu := {
    regs := ![0,2,0,0,0x1000,0,0x0201,0x0401], segments := ![0,0,0,0], ip := 0x0100, flags := flags, cycles := 0
    state := .running, lastOpcode := 0, lastTrap := none, interruptShadow := 0, brkShadow := 0
    lastStepWasInterrupt := false, lastMulOverflow := false}
  store := {
    memory := fun cell => match cell with
      | 0x0021 => 0x03
      | 0x0100 => 0xF3
      | 0x0101 => 0xA4
      | 0x0300 => 0xCF
      | 0x0200 => 0x11
      | 0x0201 => 0x22
      | 0x0202 => 0x33
      | _ => 0
    device := ()}

def plainMap : MemoryMap UInt32 := ⟨id,fun _ => true⟩
def silent : Device Unit := ⟨fun _ _ => (0,()),fun _ _ _ => ()⟩
def idle : Option Decoded → Cpu → Guest Cpu := fun _ cpu => .done cpu
def repMovsb : Decoded := ⟨0xA4,none,some .repe⟩
def belowStack : Set UInt32 := {cell | 0x0FFA ≤ cell ∧ cell < 0x1000}

instance (cell : UInt32) : Decidable (cell ∈ belowStack) := inferInstanceAs (Decidable (_ ∧ _))

def next (machine : Machine UInt32 Unit) (vector : Option UInt8) : Machine UInt32 Unit :=
  (machine.step plainMap silent idle false vector).2

theorem step_next {machine : Machine UInt32 Unit} {vector : Option UInt8} {fetched : Bool}
    (same : (machine.step plainMap silent idle false vector).1 = fetched) :
    machine.step plainMap silent idle false vector = (fetched,machine.next vector) := Prod.ext same rfl

-- The end of the run with an interrupt after the first byte.
def movedInterrupted (flags : UInt16) : Machine UInt32 Unit :=
  (((next (moving flags) none).next (some 8)).next none).next none

theorem moving_interrupted (flags : UInt16) (either : flags = 0xF202 ∨ flags = 0xF602) :
    Interrupted plainMap silent idle repMovsb belowStack 1 (moving flags) (movedInterrupted flags) := by
  have handled : Handled plainMap belowStack ((moving flags).next none) (((moving flags).next none).next (some 8))
      (((moving flags).next none).next (some 8)) := by
    refine ⟨rfl,fun _ _ => rfl,?_,fun _ _ => rfl,.refl _,?_⟩
    · rcases either with rfl | rfl <;> decide +kernel
    · rcases either with rfl | rfl <;> decide +kernel
  have stack : Stack plainMap belowStack ((moving flags).next none) := by
    refine ⟨fun _ _ => rfl,?_,fun _ _ _ _ same => same⟩
    have inside : ((moving flags).next none).frame.all (· ∈ belowStack) = true := by
      rcases either with rfl | rfl <;> decide +kernel
    exact fun addr framed => of_decide_eq_true (List.all_eq_true.mp inside addr framed)
  have first : (moving flags).Iterates plainMap silent idle repMovsb belowStack := by
    rcases either with rfl | rfl <;> exact ⟨rfl,by decide +kernel,by decide +kernel⟩
  have second : ((((moving flags).next none).next (some 8)).next none).Iterates plainMap silent idle repMovsb belowStack := by
    rcases either with rfl | rfl <;> exact ⟨by decide +kernel,by decide +kernel,by decide +kernel⟩
  have fetches : ((moving flags).step plainMap silent idle false none).1 = true ∧
      ((((moving flags).next none).next (some 8)).step plainMap silent idle false none).1 = true ∧
      (((((moving flags).next none).next (some 8)).next none).step plainMap silent idle false none).1 = true ∧
      (((moving flags).next none).step plainMap silent idle false (some 8)).1 = false := by
    rcases either with rfl | rfl <;> decide +kernel
  have looks : (moving flags).cpu.pendingInterruptOrBrk none = none ∧
      ((moving flags).next none).cpu.pendingInterruptOrBrk (some 8) = some 8 ∧
      (((moving flags).next none).next (some 8)).cpu.pendingInterruptOrBrk none = none ∧
      ((((moving flags).next none).next (some 8)).next none).cpu.pendingInterruptOrBrk none = none := by
    rcases either with rfl | rfl <;> decide +kernel
  have resumes : ((moving flags).next none).cpu.shouldResumeRepeatedString repMovsb = true ∧
      (movedInterrupted flags).cpu.shouldResumeRepeatedString repMovsb = false ∧
      ((moving flags).next none).cpu.state = .running := by
    rcases either with rfl | rfl <;> decide +kernel
  have taken : Taken plainMap silent idle belowStack ((moving flags).next none)
      ((((moving flags).next none).next (some 8)).next none) :=
    .taken _ _ _ false false (some 8) none 8 resumes.2.2 stack looks.2.1 (step_next fetches.2.2.2) handled looks.2.2.1
      (step_next fetches.2.1)
  exact .again false none first looks.1 (step_next fetches.1) resumes.1 (.take taken (.none _))
    (.last false none second looks.2.2.2 (step_next fetches.2.2.1) resumes.2.1)

/-- The direction is up. -/
theorem interrupts_transparent_up : ∃ plain, Uninterrupted plainMap silent idle repMovsb belowStack (moving 0xF202) plain ∧
    (movedInterrupted 0xF202).Matches belowStack plain := by
  have restored : repMovsb.Restored 0xF202 := (restored_iff repMovsb (by decide) (by decide)).mpr (by decide)
  have string : (Cpu.stringBody repMovsb).isSome = true := rfl
  exact (interrupts_transparent string (moving_interrupted 0xF202 (.inl rfl))).1.mpr (.inr restored)

/-- The direction is down, and it is up after the return: the instruction ends elsewhere. -/
theorem direction_lost : Interrupted plainMap silent idle repMovsb belowStack 1 (moving 0xF602) (movedInterrupted 0xF602) ∧
    ¬ ∃ plain, Uninterrupted plainMap silent idle repMovsb belowStack (moving 0xF602) plain ∧
      (movedInterrupted 0xF602).Matches belowStack plain := by
  have run := moving_interrupted 0xF602 (.inr rfl)
  refine ⟨run,?_⟩
  rintro ⟨plain,runs,same⟩
  have left := (run.kept rfl).2 Nat.one_ne_zero
  rw [same.1.flags,runs.kept rfl] at left
  revert left
  decide

end Machine
end ZeffBoy.WonderSwan
