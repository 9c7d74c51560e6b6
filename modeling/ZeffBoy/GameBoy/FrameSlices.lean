import ZeffBoy.Library.Slices
import ZeffBoy.GameBoy.Debugger

/-! The frames of the Game Boy, whole and in slices.
A frame ends at the start of the vertical blank or after a number of cycles. A whole frame chooses its loop once; a slice
chooses for each instruction, remembers in its cursor where the frame began, and stops where it is asked to. -/
namespace ZeffBoy.GameBoy
open Library Link.GameBoy

def lcdDotsPerScanline : UInt64 := 456

def lcdScanlinesPerFrame : UInt64 := 154

def normalSpeedTCyclesPerFrame : UInt64 := lcdDotsPerScanline * lcdScanlinesPerFrame

def doubleSpeedTCyclesPerFrame : UInt64 := normalSpeedTCyclesPerFrame * 2

def cyclesPerFrame (mode : HardwareMode) : UInt64 :=
  if mode = .cgbDouble then doubleSpeedTCyclesPerFrame else normalSpeedTCyclesPerFrame

def saturatingMul (left right : UInt64) : UInt64 := UInt64.ofNat (min (left.toNat * right.toNat) (2^64 - 1))

inductive FrameSliceMode
  | lcdOff (targetCycles : UInt64)
  | lcdOn (startCycles maxCycles : UInt64) (previousLy : UInt8)

structure FrameSliceCursor where
  mode : FrameSliceMode
  originFrame : UInt64
  complete : Bool

inductive FrameSliceOutcome
  | boundary
  | frameComplete
  | suspended
deriving DecidableEq

structure FrameSliceProgress where
  outcome : FrameSliceOutcome
  boundaryReached : Bool

inductive CpuStep
  | cpu
  | instruction

/-- An emulator and the CPU steps that it has executed, each with the emulator that it led to. -/
structure Run (B : Type) where
  emulator : Emulator B
  steps : List (CpuStep × Emulator B)

/-- Why a call does not return: it panics, or it has not done so yet. -/
inductive Stuck
  | panicked
  | unfinished

/-- A stop predicate answers with the emulators it has been called with, the last one first. -/
abbrev StopPredicate (B : Type) := List (Emulator B) → Bool

section
variable {B : Type} [EmulatorBus B]

namespace Emulator

def lcdOn (self : Emulator B) : Bool := EmulatorBus.ppuLcdc self.bus &&& 0x80 ≠ 0

def reachedVblankStart (self : Emulator B) (previousLy : UInt8) : Bool × UInt8 :=
  let ly := EmulatorBus.ppuLy self.bus
  (previousLy < 144 ∧ 144 ≤ ly,ly)

def maxCycles (self : Emulator B) : UInt64 := saturatingMul (cyclesPerFrame self.hardwareMode) 2

def targetCycles (self : Emulator B) : UInt64 := self.cpu.cycles + cyclesPerFrame self.hardwareMode

end Emulator

namespace Run

def start (emulator : Emulator B) : Run B := ⟨emulator,[]⟩

def stepCpu (self : Run B) : Run B := ⟨self.emulator.stepCpu,self.steps ++ [(.cpu,self.emulator.stepCpu)]⟩

def stepInstruction (self : Run B) : Run B :=
  ⟨self.emulator.stepInstruction,self.steps ++ [(.instruction,self.emulator.stepInstruction)]⟩

def stepRuntimeInstruction (self : Run B) : Run B :=
  if self.emulator.instrumented then self.stepInstruction else self.stepCpu

def countFrame (self : Run B) : Run B := {self with emulator := {self.emulator with frameCount := self.emulator.frameCount + 1}}

def finishFrame (self : Run B) : Run B := if self.emulator.suspended then self else self.countFrame

end Run

namespace Emulator

/-- The loop of a frame with the LCD off. Only the debugger's loop looks at suspension. -/
def cycleBudgetTurn (target : UInt64) (instrumented : Bool) : Run B → Turn (Run B) :=
  if instrumented then
    whileTurn (fun run => run.emulator.cpu.cycles < target && !run.emulator.suspended) fun run => (run.stepInstruction,false)
  else whileTurn (fun run => run.emulator.cpu.cycles < target) fun run => (run.stepCpu,false)

/-- The loop of a frame with the LCD on, whose state has the last line. -/
def vblankTurn (start max : UInt64) (instrumented : Bool) : UInt8 × Run B → Turn (UInt8 × Run B) :=
  if instrumented then
    whileTurn (fun state => !state.2.emulator.suspended) fun state =>
      let run := state.2.stepInstruction
      let (reached,previousLy) := run.emulator.reachedVblankStart state.1
      ((previousLy,run),reached || max ≤ run.emulator.cpu.cycles - start)
  else
    whileTurn (fun state => state.2.emulator.cpu.cycles - start < max) fun state =>
      let run := state.2.stepCpu
      let (reached,previousLy) := run.emulator.reachedVblankStart state.1
      ((previousLy,run),reached)

def stepFrame (fuel : Nat) (self : Emulator B) : Option (Run B) :=
  if self.suspended then some (.start self)
  else if self.lcdOn then
    (loop (vblankTurn self.cpu.cycles self.maxCycles self.instrumented) fuel (EmulatorBus.ppuLy self.bus,.start self)).map
      fun state => state.2.finishFrame
  else (loop (cycleBudgetTurn self.targetCycles self.instrumented) fuel (.start self)).map Run.finishFrame

def beginFrameSlice (self : Emulator B) : FrameSliceCursor where
  mode :=
    if self.lcdOn then .lcdOn self.cpu.cycles self.maxCycles (EmulatorBus.ppuLy self.bus) else .lcdOff self.targetCycles
  originFrame := self.frameCount
  complete := false

end Emulator

def FrameSliceMode.frameComplete (emulator : Emulator B) : FrameSliceMode → Bool × FrameSliceMode
  | .lcdOff targetCycles => (targetCycles ≤ emulator.cpu.cycles,.lcdOff targetCycles)
  | .lcdOn startCycles maxCycles previousLy =>
    let (reached,previousLy) := emulator.reachedVblankStart previousLy
    (reached || maxCycles ≤ emulator.cpu.cycles - startCycles,.lcdOn startCycles maxCycles previousLy)

namespace Run

def stepSlice (state : FrameSliceCursor × Run B) : FrameSliceCursor × Run B := (state.1,state.2.stepRuntimeInstruction)

/-- How a slice goes on after an instruction, a stop apart. -/
def judgeSlice (state : FrameSliceCursor × Run B) : (FrameSliceCursor × Run B) × Option FrameSliceOutcome :=
  let (cursor,run) := state
  if run.emulator.suspended then ((cursor,run),some .suspended)
  else
    let (complete,mode) := cursor.mode.frameComplete run.emulator
    if complete then (({cursor with mode := mode,complete := true},run.countFrame),some .frameComplete)
    else (({cursor with mode := mode},run),none)

def stepFrameSliceUntil (shouldStop : StopPredicate B) (fuel : Nat) (cursor : FrameSliceCursor) (self : Run B) :
    Except Stuck (FrameSliceProgress × FrameSliceCursor × Run B) :=
  if cursor.complete then .ok (⟨.frameComplete,false⟩,cursor,self)
  else if self.emulator.frameCount ≠ cursor.originFrame then .error .panicked
  else if self.emulator.suspended then .ok (⟨.suspended,false⟩,cursor,self)
  else
    match runSlice stepSlice judgeSlice (fun states => shouldStop (states.map fun state => state.2.emulator)) fuel []
      (cursor,self) with
    | none => .error .unfinished
    | some ((cursor,run),ended,stopRequested) => .ok (⟨ended.getD .boundary,stopRequested⟩,cursor,run)

/-- Slices until one is not stopped at a boundary, or there are no more predicates. -/
def stepFrameSlices (fuel : Nat) : List (StopPredicate B) → FrameSliceCursor → Run B → Except Stuck (FrameSliceOutcome × Run B)
  | [],_,self => .ok (.boundary,self)
  | shouldStop :: later,cursor,self =>
    match self.stepFrameSliceUntil shouldStop fuel cursor with
    | .error stuck => .error stuck
    | .ok (progress,cursor,run) =>
      if progress.outcome = .boundary then stepFrameSlices fuel later cursor run else .ok (progress.outcome,run)

end Run

namespace Emulator

def FrameIs (self : Emulator B) (whole : Run B) : Prop := ∃ fuel, self.stepFrame fuel = some whole

def SlicesTo (self : Emulator B) (predicates : List (StopPredicate B)) (outcome : FrameSliceOutcome) (run : Run B) : Prop :=
  ∃ fuel, Run.stepFrameSlices fuel predicates self.beginFrameSlice (.start self) = .ok (outcome,run)

/-- Wherever its slices stop, a frame in slices executes the steps of the whole frame: slices that come to an end have
come to the whole frame, others are on the way to it, and slices return where the whole frame does. -/
structure SlicesTransparent (emulator : Emulator B) : Prop where
  noPanic : ∀ fuel predicates,
    Run.stepFrameSlices fuel predicates emulator.beginFrameSlice (.start emulator) ≠ .error .panicked
  whole : ∀ predicates outcome run, emulator.SlicesTo predicates outcome run → outcome ≠ .boundary →
    emulator.FrameIs run ∧ run.emulator.frameCount = emulator.frameCount + (if outcome = .frameComplete then 1 else 0)
  onTheWay : ∀ predicates run, emulator.SlicesTo predicates .boundary run →
    predicates.length ≤ run.steps.length ∧ ∀ whole, emulator.FrameIs whole → run.steps <+: whole.steps
  returns : ∀ predicates whole, emulator.FrameIs whole → ∃ outcome run, emulator.SlicesTo predicates outcome run

end Emulator

/-- A loop of a whole frame does in a turn what a slice does. The view of its state is the mode and the run of the slice. -/
structure Follows {σ : Type} (test : σ → Bool) (body : σ → σ × Bool) (view : σ → FrameSliceMode × Run B) (good : σ → Prop) :
    Prop where
  step : ∀ state, good state → (view (body state).1).2 = (view state).2.stepRuntimeInstruction
  over' : ∀ state, good state → ((body state).2 || !test (body state).1) =
    ((view (body state).1).2.emulator.suspended || ((view state).1.frameComplete (view (body state).1).2.emulator).1)
  next : ∀ state, good state → ((body state).2 || !test (body state).1) = false →
    (view (body state).1).1 = ((view state).1.frameComplete (view (body state).1).2.emulator).2 ∧ good (body state).1

namespace Follows
variable {σ : Type} {test : σ → Bool} {body : σ → σ × Bool} {view : σ → FrameSliceMode × Run B} {good : σ → Prop}

def Together (view : σ → FrameSliceMode × Run B) (good : σ → Prop) (state : σ)
    (sliced : (FrameSliceCursor × Run B) × Option FrameSliceOutcome) : Prop :=
  good state ∧ sliced.1.1.mode = (view state).1 ∧ sliced.1.2 = (view state).2

theorem keepsStep (follows : Follows test body view good) :
    KeepsStep (untilTurn test body) (wholeTurn Run.stepSlice Run.judgeSlice) (Together view good)
      fun state sliced => sliced.2.isSome = true ∧ sliced.1.2 = (view state).2.finishFrame := by
  rintro state ⟨⟨cursor,run⟩,ended⟩ ⟨holds,mode,same⟩
  dsimp only at mode same
  have stepped : (view (body state).1).2 = run.stepRuntimeInstruction := (follows.step state holds).trans (same ▸ rfl)
  have ends := follows.over' state holds
  have goes := follows.next state holds
  rw [stepped,← mode] at ends goes
  unfold untilTurn wholeTurn Run.stepSlice Run.judgeSlice
  dsimp only
  cases asleep : run.stepRuntimeInstruction.emulator.suspended with
  | true =>
    rw [asleep,Bool.true_or] at ends
    refine .inl ⟨(body state).1,_,if_pos ends,rfl,rfl,?_⟩
    simp only [stepped,Run.finishFrame,asleep,if_true]
  | false =>
    rw [asleep,Bool.false_or] at ends
    cases complete : (cursor.mode.frameComplete run.stepRuntimeInstruction.emulator).1 with
    | true =>
      refine .inl ⟨(body state).1,_,if_pos (ends.trans complete),rfl,rfl,?_⟩
      simp only [stepped,Run.finishFrame,asleep,Bool.false_eq_true,if_false,if_true]
    | false =>
      obtain ⟨later,kept⟩ := goes (ends.trans complete)
      refine .inr ⟨0,(body state).1,_,⟨_,if_neg ?_,rfl⟩,rfl,kept,later.symm,stepped.symm⟩
      rw [ends.trans complete]
      exact Bool.false_ne_true

theorem returns_iff (follows : Follows test body view good) (start : σ) (holds : good start) (cursor : FrameSliceCursor)
    (mode : cursor.mode = (view start).1) (whole : Run B) :
    (∃ finish, Returns (untilTurn test body) start finish ∧ (view finish).2.finishFrame = whole) ↔
      ∃ later outcome, Ends Run.stepSlice Run.judgeSlice (cursor,(view start).2) (later,whole) outcome := by
  have together : Together view good start ((cursor,(view start).2),none) := ⟨holds,mode,rfl⟩
  obtain ⟨left,right⟩ := follows.keepsStep.returns together
  constructor
  · rintro ⟨finish,returns,rfl⟩
    obtain ⟨⟨⟨later,run⟩,ended⟩,ends,over',same⟩ := left finish returns
    obtain ⟨outcome,rfl⟩ := Option.isSome_iff_exists.1 over'
    exact ⟨later,outcome,same ▸ ends⟩
  · rintro ⟨later,outcome,ends⟩
    obtain ⟨finish,returns,_,same⟩ := right _ ends
    exact ⟨finish,returns,same.symm⟩

theorem frame_iff (follows : Follows test body view good) (start : σ) (holds : good start) (goes : test start = true)
    (cursor : FrameSliceCursor) (mode : cursor.mode = (view start).1) (whole : Run B) :
    (∃ fuel finish, loop (whileTurn test body) fuel start = some finish ∧ (view finish).2.finishFrame = whole) ↔
      ∃ later outcome, Ends Run.stepSlice Run.judgeSlice (cursor,(view start).2) (later,whole) outcome := by
  rw [← follows.returns_iff start holds cursor mode whole]
  simp only [← returns_while_iff goes]
  constructor
  · rintro ⟨fuel,finish,returns,same⟩
    exact ⟨finish,⟨fuel,returns⟩,same⟩
  · rintro ⟨finish,⟨fuel,returns⟩,same⟩
    exact ⟨fuel,finish,returns,same⟩

end Follows

namespace Run

theorem stepRuntimeInstruction_instrumented {self : Run B} (active : self.emulator.instrumented = true) :
    self.stepRuntimeInstruction = self.stepInstruction := if_pos active

theorem stepRuntimeInstruction_fast {self : Run B} (inactive : self.emulator.instrumented = false) :
    self.stepRuntimeInstruction = self.stepCpu := if_neg (by simp [inactive])

theorem stepRuntimeInstruction_frameCount (self : Run B) :
    self.stepRuntimeInstruction.emulator.frameCount = self.emulator.frameCount := by
  unfold stepRuntimeInstruction
  split
  · exact Emulator.stepInstruction_frameCount self.emulator
  · exact Emulator.stepCpu_frameCount self.emulator

theorem stepRuntimeInstruction_steps (self : Run B) :
    ∃ step, self.stepRuntimeInstruction.steps = self.steps ++ [step] := by
  unfold stepRuntimeInstruction
  split
  · exact ⟨_,rfl⟩
  · exact ⟨_,rfl⟩

end Run

/-- An awake emulator whose instructions do or do not go through the debugger. -/
def Steady (active : Bool) (run : Run B) : Prop := run.emulator.instrumented = active ∧ run.emulator.suspended = false

theorem Steady.instruction {run : Run B} (steady : Steady true run) (awake : run.stepInstruction.emulator.suspended = false) :
    Steady true run.stepInstruction := by
  refine ⟨?_,awake⟩
  rcases Emulator.stepInstruction_instrumented steady.1 with asleep | active
  · exact absurd (asleep.symm.trans awake) (by simp)
  · exact active

theorem Steady.cpu {run : Run B} (steady : Steady false run) : Steady false run.stepCpu :=
  ⟨(Emulator.stepCpu_instrumented run.emulator).trans steady.1,Emulator.stepCpu_awake steady.2⟩

theorem cycleBudget_follows_debug (target : UInt64) :
    Follows (fun run : Run B => run.emulator.cpu.cycles < target && !run.emulator.suspended) (fun run => (run.stepInstruction,false))
      (fun run => (.lcdOff target,run)) (Steady true) where
  step run steady := (Run.stepRuntimeInstruction_instrumented steady.1).symm
  over' run steady := by
    simp only [FrameSliceMode.frameComplete,Bool.false_or,Bool.not_and,Bool.not_not,← decide_not,UInt64.not_lt]
    exact Bool.or_comm _ _
  next run steady goes := by
    simp only [Bool.false_or,Bool.not_and,Bool.not_not,Bool.or_eq_false_iff] at goes
    exact ⟨rfl,steady.instruction goes.2⟩

theorem cycleBudget_follows_fast (target : UInt64) :
    Follows (fun run : Run B => run.emulator.cpu.cycles < target) (fun run => (run.stepCpu,false))
      (fun run => (.lcdOff target,run)) (Steady false) where
  step run steady := (Run.stepRuntimeInstruction_fast steady.1).symm
  over' run steady := by
    simp only [FrameSliceMode.frameComplete,Bool.false_or,steady.cpu.2,← decide_not,UInt64.not_lt]
  next run steady goes := ⟨rfl,steady.cpu⟩

theorem vblank_follows_debug (start max : UInt64) :
    Follows (fun state : UInt8 × Run B => !state.2.emulator.suspended)
      (fun state =>
        let run := state.2.stepInstruction
        let (reached,previousLy) := run.emulator.reachedVblankStart state.1
        ((previousLy,run),reached || max ≤ run.emulator.cpu.cycles - start))
      (fun state => (.lcdOn start max state.1,state.2)) fun state => Steady true state.2 where
  step state steady := (Run.stepRuntimeInstruction_instrumented steady.1).symm
  over' state steady := by
    simp only [FrameSliceMode.frameComplete,Bool.not_not]
    exact Bool.or_comm _ _
  next state steady goes := by
    simp only [Bool.not_not,Bool.or_eq_false_iff] at goes
    exact ⟨rfl,steady.instruction goes.2⟩

theorem vblank_follows_fast (start max : UInt64) :
    Follows (fun state : UInt8 × Run B => state.2.emulator.cpu.cycles - start < max)
      (fun state =>
        let run := state.2.stepCpu
        let (reached,previousLy) := run.emulator.reachedVblankStart state.1
        ((previousLy,run),reached))
      (fun state => (.lcdOn start max state.1,state.2)) fun state => Steady false state.2 where
  step state steady := (Run.stepRuntimeInstruction_fast steady.1).symm
  over' state steady := by
    simp only [FrameSliceMode.frameComplete,steady.cpu.2,Bool.false_or,← decide_not,UInt64.not_lt]
  next state steady goes := ⟨rfl,steady.cpu⟩

def Wraps (self : Emulator B) : Prop := self.lcdOn = false ∧ 2^64 ≤ self.cpu.cycles.toNat + (cyclesPerFrame self.hardwareMode).toNat

theorem cyclesPerFrame_toNat (mode : HardwareMode) : (cyclesPerFrame mode).toNat = 70224 ∨ (cyclesPerFrame mode).toNat = 140448 := by
  cases mode with
  | cgbDouble => exact .inr rfl
  | dmg | sgb1 | sgb2 | cgbNormal => exact .inl rfl

omit [EmulatorBus B] in
theorem maxCycles_pos (self : Emulator B) : 0 < self.maxCycles := by
  unfold Emulator.maxCycles
  cases self.hardwareMode <;> decide

omit [EmulatorBus B] in
theorem targetCycles_lt_iff (self : Emulator B) :
    self.cpu.cycles < self.targetCycles ↔ self.cpu.cycles.toNat + (cyclesPerFrame self.hardwareMode).toNat < 2^64 := by
  have small := cyclesPerFrame_toNat self.hardwareMode
  have bound := self.cpu.cycles.toNat_lt
  rw [UInt64.lt_iff_toNat_lt,Emulator.targetCycles,UInt64.toNat_add]
  omega

namespace Emulator

theorem frameIs_iff {self : Emulator B} (awake : self.suspended = false) (fits : ¬Wraps self) (whole : Run B) :
    self.FrameIs whole ↔
      ∃ later outcome, Ends Run.stepSlice Run.judgeSlice (self.beginFrameSlice,.start self) (later,whole) outcome := by
  unfold FrameIs stepFrame
  simp only [awake,Bool.false_eq_true,if_false]
  cases lcd : self.lcdOn with
  | true =>
    simp only [if_true,Option.map_eq_some_iff]
    have mode : self.beginFrameSlice.mode = .lcdOn self.cpu.cycles self.maxCycles (EmulatorBus.ppuLy self.bus) := by
      simp only [beginFrameSlice,lcd,if_true]
    cases active : self.instrumented with
    | true =>
      exact (vblank_follows_debug self.cpu.cycles self.maxCycles).frame_iff (EmulatorBus.ppuLy self.bus,.start self)
        ⟨active,awake⟩ (Bool.not_eq_true' _ ▸ awake) _ mode whole
    | false =>
      have early : self.cpu.cycles - self.cpu.cycles < self.maxCycles := by
        rw [UInt64.sub_self]
        exact maxCycles_pos self
      exact (vblank_follows_fast self.cpu.cycles self.maxCycles).frame_iff (EmulatorBus.ppuLy self.bus,.start self)
        ⟨active,awake⟩ (decide_eq_true early) _ mode whole
  | false =>
    simp only [Bool.false_eq_true,if_false,Option.map_eq_some_iff]
    have mode : self.beginFrameSlice.mode = .lcdOff self.targetCycles := by
      simp only [beginFrameSlice,lcd,Bool.false_eq_true,if_false]
    have early : self.cpu.cycles < self.targetCycles := by
      refine (targetCycles_lt_iff self).2 (Nat.lt_of_not_le fun late => fits ⟨lcd,late⟩)
    cases active : self.instrumented with
    | true =>
      refine (cycleBudget_follows_debug self.targetCycles).frame_iff (.start self) ⟨active,awake⟩ ?_ _ mode whole
      exact Bool.and_eq_true_iff.2 ⟨decide_eq_true early,Bool.not_eq_true' _ ▸ awake⟩
    | false =>
      exact (cycleBudget_follows_fast self.targetCycles).frame_iff (.start self) ⟨active,awake⟩ (decide_eq_true early) _ mode whole

end Emulator

/-- A state that a frame passes after a number of steps. -/
structure Midframe (origin : UInt64) (count : Nat) (state : FrameSliceCursor × Run B) : Prop where
  incomplete : state.1.complete = false
  cursor : state.1.originFrame = origin
  frame : state.2.emulator.frameCount = origin
  awake : state.2.emulator.suspended = false
  steps : state.2.steps.length = count

namespace Run

theorem judgeSlice_cases (cursor : FrameSliceCursor) (run : Run B) :
    (run.emulator.suspended = true ∧ judgeSlice (cursor,run) = ((cursor,run),some .suspended)) ∨
    (run.emulator.suspended = false ∧ ∃ mode, judgeSlice (cursor,run) =
      (({cursor with mode := mode,complete := true},run.countFrame),some .frameComplete)) ∨
    (run.emulator.suspended = false ∧ ∃ mode, judgeSlice (cursor,run) = (({cursor with mode := mode},run),none)) := by
  unfold judgeSlice
  cases asleep : run.emulator.suspended with
  | true => exact .inl ⟨rfl,by simp only [asleep,if_true]⟩
  | false =>
    cases complete : (cursor.mode.frameComplete run.emulator).1 with
    | true => exact .inr (.inl ⟨rfl,(cursor.mode.frameComplete run.emulator).2,by simp only [asleep,complete,Bool.false_eq_true,if_false,if_true]⟩)
    | false => exact .inr (.inr ⟨rfl,(cursor.mode.frameComplete run.emulator).2,by simp only [asleep,complete,Bool.false_eq_true,if_false]⟩)

variable {origin : UInt64} {outcome : FrameSliceOutcome} {cursor : FrameSliceCursor} {count fuel : Nat} {self : Run B}

theorem midframe_next {state next : FrameSliceCursor × Run B} (midframe : Midframe origin count state)
    (goes : judgeSlice (stepSlice state) = (next,none)) : Midframe origin (count + 1) next := by
  obtain ⟨step,steps⟩ := stepRuntimeInstruction_steps state.2
  rcases judgeSlice_cases state.1 state.2.stepRuntimeInstruction with ⟨_,judged⟩ | ⟨_,mode,judged⟩ | ⟨awake,mode,judged⟩
  · exact absurd (judged.symm.trans goes) (by simp)
  · exact absurd (judged.symm.trans goes) (by simp)
  · obtain ⟨rfl,_⟩ := Prod.mk.inj (judged.symm.trans goes)
    exact {
      incomplete := midframe.incomplete
      cursor := midframe.cursor
      frame := (stepRuntimeInstruction_frameCount state.2).trans midframe.frame
      awake := awake
      steps := by rw [steps,List.length_append,midframe.steps]; rfl}

theorem passes_midframe {before count : Nat} {state later : FrameSliceCursor × Run B}
    (midframe : Midframe origin before state) (passes : Passes stepSlice judgeSlice count state later) :
    Midframe origin (before + count) later :=
  passes.keeps (Midframe origin) before midframe fun _ _ _ => midframe_next

theorem judgeSlice_steps {state next : FrameSliceCursor × Run B} {ended : Option FrameSliceOutcome}
    (judged : judgeSlice (stepSlice state) = (next,ended)) : ∃ step, state.2.steps ++ [step] = next.2.steps := by
  obtain ⟨step,steps⟩ := stepRuntimeInstruction_steps state.2
  rcases judgeSlice_cases state.1 state.2.stepRuntimeInstruction with ⟨_,same⟩ | ⟨_,mode,same⟩ | ⟨_,mode,same⟩
  all_goals
    obtain ⟨rfl,_⟩ := Prod.mk.inj (same.symm.trans judged)
    exact ⟨step,steps.symm⟩

theorem ends_steps {state finish : FrameSliceCursor × Run B}
    (ends : Ends stepSlice judgeSlice state finish outcome) :
    state.2.steps <+: finish.2.steps ∧ finish.2.steps ≠ [] := by
  obtain ⟨count,later,passes,last⟩ := ends.passes
  have before : state.2.steps <+: later.2.steps := by
    refine passes.keeps (fun _ between => state.2.steps <+: between.2.steps) 0 (List.prefix_refl _) ?_
    intro _ _ _ first judged
    obtain ⟨step,grows⟩ := judgeSlice_steps judged
    exact first.trans ⟨[step],grows⟩
  obtain ⟨step,grows⟩ := judgeSlice_steps last
  exact ⟨before.trans ⟨[step],grows⟩,by simp [← grows]⟩

theorem ends_frame {state finish : FrameSliceCursor × Run B}
    (midframe : Midframe origin count state) (ends : Ends stepSlice judgeSlice state finish outcome) :
    outcome ≠ .boundary ∧ finish.2.emulator.frameCount = origin + (if outcome = .frameComplete then 1 else 0) := by
  obtain ⟨count,later,passes,last⟩ := ends.passes
  have frame := (stepRuntimeInstruction_frameCount later.2).trans (passes_midframe midframe passes).frame
  rcases judgeSlice_cases later.1 later.2.stepRuntimeInstruction with ⟨_,judged⟩ | ⟨_,mode,judged⟩ | ⟨_,mode,judged⟩
  · obtain ⟨rfl,same⟩ := Prod.mk.inj (judged.symm.trans last)
    obtain rfl := Option.some.inj same
    exact ⟨nofun,by simpa using frame⟩
  · obtain ⟨rfl,same⟩ := Prod.mk.inj (judged.symm.trans last)
    obtain rfl := Option.some.inj same
    exact ⟨nofun,by simp only [countFrame,frame,if_true]⟩
  · exact absurd (judged.symm.trans last) (by simp)

theorem stepFrameSliceUntil_midframe
    (midframe : Midframe origin count (cursor,self)) (shouldStop : StopPredicate B) (fuel : Nat) :
    self.stepFrameSliceUntil shouldStop fuel cursor =
      match runSlice stepSlice judgeSlice (fun states => shouldStop (states.map fun state => state.2.emulator)) fuel []
        (cursor,self) with
      | none => .error .unfinished
      | some ((cursor,run),ended,stopRequested) => .ok (⟨ended.getD .boundary,stopRequested⟩,cursor,run) := by
  have incomplete : cursor.complete = false := midframe.incomplete
  have awake : self.emulator.suspended = false := midframe.awake
  have origins : self.emulator.frameCount = cursor.originFrame := midframe.frame.trans midframe.cursor.symm
  rw [stepFrameSliceUntil,if_neg (by simp [incomplete]),if_neg (not_not_intro origins),if_neg (by simp [awake])]

theorem stepFrameSliceUntil_spec {cursor later : FrameSliceCursor} {self run : Run B}
    {shouldStop : StopPredicate B} {progress : FrameSliceProgress} (midframe : Midframe origin count (cursor,self))
    (sliced : self.stepFrameSliceUntil shouldStop fuel cursor = .ok (progress,later,run)) :
    (progress.outcome = .boundary ∧ ∃ more, Passes stepSlice judgeSlice (more + 1) (cursor,self) (later,run)) ∨
    Ends stepSlice judgeSlice (cursor,self) (later,run) progress.outcome := by
  rw [stepFrameSliceUntil_midframe midframe] at sliced
  split at sliced
  · cases sliced
  · rename_i finish run' ended stops found
    obtain ⟨rfl,same⟩ := Prod.mk.inj (Except.ok.inj sliced)
    obtain ⟨rfl,rfl⟩ := Prod.mk.inj same
    have spec := runSlice_spec found
    cases ended with
    | none => exact .inl ⟨rfl,spec⟩
    | some ended => exact .inr spec

theorem stepFrameSlices_spec {predicates : List (StopPredicate B)}
    {self run : Run B} (midframe : Midframe origin count (cursor,self))
    (sliced : stepFrameSlices fuel predicates cursor self = .ok (outcome,run)) :
    (outcome = .boundary ∧ ∃ more later, predicates.length ≤ more ∧ Passes stepSlice judgeSlice more (cursor,self) (later,run)) ∨
    ∃ later, Ends stepSlice judgeSlice (cursor,self) (later,run) outcome := by
  induction predicates generalizing cursor self count with
  | nil =>
    obtain ⟨rfl,rfl⟩ := Prod.mk.inj (Except.ok.inj sliced)
    exact .inl ⟨rfl,0,cursor,Nat.le_refl 0,rfl⟩
  | cons shouldStop predicates ih =>
    rw [stepFrameSlices] at sliced
    split at sliced
    · cases sliced
    · rename_i progress next between first
      rcases stepFrameSliceUntil_spec midframe first with ⟨boundary,more,passes⟩ | ends
      · rw [if_pos boundary] at sliced
        rcases ih (passes_midframe midframe passes) sliced with ⟨same,rest,later,enough,onwards⟩ | ⟨later,ends⟩
        · exact .inl ⟨same,rest + (more + 1),later,by rw [List.length_cons]; omega,Passes.trans passes onwards⟩
        · exact .inr ⟨later,(passes.ends_iff _ _).2 ends⟩
      · rw [if_neg (ends_frame midframe ends).1] at sliced
        obtain ⟨rfl,rfl⟩ := Prod.mk.inj (Except.ok.inj sliced)
        exact .inr ⟨next,ends⟩

theorem stepFrameSlices_ne_panicked {predicates : List (StopPredicate B)}
    (midframe : Midframe origin count (cursor,self)) :
    stepFrameSlices fuel predicates cursor self ≠ .error .panicked := by
  induction predicates generalizing cursor self count with
  | nil => simp [stepFrameSlices]
  | cons shouldStop predicates ih =>
    rw [stepFrameSlices]
    split
    · rename_i stuck first
      intro panics
      obtain rfl := Except.error.inj panics
      rw [stepFrameSliceUntil_midframe midframe] at first
      split at first <;> cases first
    · rename_i progress next between first
      split
      · rename_i boundary
        rcases stepFrameSliceUntil_spec midframe first with ⟨_,more,passes⟩ | ends
        · exact ih (passes_midframe midframe passes)
        · exact absurd boundary (ends_frame midframe ends).1
      · simp

theorem stepFrameSlices_returns
    {finish : (FrameSliceCursor × Run B) × Option FrameSliceOutcome} (midframe : Midframe origin count (cursor,self))
    (ends : loop (wholeTurn stepSlice judgeSlice) fuel ((cursor,self),none) = some finish) (predicates : List (StopPredicate B)) :
    ∃ outcome run, stepFrameSlices fuel predicates cursor self = .ok (outcome,run) := by
  induction predicates generalizing cursor self count with
  | nil => exact ⟨_,_,rfl⟩
  | cons shouldStop predicates ih =>
    have returned : ∃ progress later run, self.stepFrameSliceUntil shouldStop fuel cursor = .ok (progress,later,run) := by
      rw [stepFrameSliceUntil_midframe midframe]
      split
      · rename_i missing
        have found := runSlice_isSome ends (fun states => shouldStop (states.map fun state => state.2.emulator)) []
        rw [missing] at found
        cases found
      · exact ⟨_,_,_,rfl⟩
    obtain ⟨progress,later,run,first⟩ := returned
    rw [stepFrameSlices,first]
    dsimp only
    split
    · rename_i boundary
      rcases stepFrameSliceUntil_spec midframe first with ⟨_,more,passes⟩ | over'
      · obtain ⟨left,total,rest⟩ := loop_passes passes ends
        exact ih (passes_midframe midframe passes) (loop_mono rest (by omega))
      · exact absurd boundary (ends_frame midframe over').1
    · exact ⟨_,_,rfl⟩

end Run

namespace Emulator

variable {self : Emulator B}

theorem midframe_start (awake : self.suspended = false) :
    Midframe self.frameCount 0 (self.beginFrameSlice,.start self) := ⟨rfl,rfl,rfl,awake,rfl⟩

theorem slicesTransparent_of_suspended (asleep : self.suspended = true) : self.SlicesTransparent := by
  have frame (fuel : Nat) : self.stepFrame fuel = some (.start self) := if_pos asleep
  have sliced (fuel : Nat) (predicates : List (StopPredicate B)) :
      Run.stepFrameSlices fuel predicates self.beginFrameSlice (.start self) =
        .ok (if predicates = [] then .boundary else .suspended,.start self) := by
    cases predicates with
    | nil => rfl
    | cons shouldStop predicates =>
      have first : (Run.start self).stepFrameSliceUntil shouldStop fuel self.beginFrameSlice =
          .ok (⟨.suspended,false⟩,self.beginFrameSlice,.start self) := by
        have origin : (Run.start self).emulator.frameCount = self.beginFrameSlice.originFrame := rfl
        rw [Run.stepFrameSliceUntil,if_neg (by simp [beginFrameSlice]),if_neg (not_not_intro origin)]
        exact if_pos asleep
      rw [Run.stepFrameSlices,first]
      rfl
  constructor
  · intro fuel predicates
    simp [sliced]
  · rintro predicates outcome run ⟨fuel,same⟩ ends
    rw [sliced] at same
    obtain ⟨rfl,rfl⟩ := Prod.mk.inj (Except.ok.inj same)
    refine ⟨⟨0,frame 0⟩,?_⟩
    split <;> simp_all [Run.start]
  · rintro predicates run ⟨fuel,same⟩
    rw [sliced] at same
    obtain ⟨boundary,rfl⟩ := Prod.mk.inj (Except.ok.inj same)
    cases predicates with
    | nil => exact ⟨Nat.le_refl 0,fun whole _ => List.nil_prefix⟩
    | cons shouldStop predicates => simp at boundary
  · intro predicates whole _
    exact ⟨_,_,0,sliced 0 predicates⟩

theorem slicesTransparent_of_fits (awake : self.suspended = false) (fits : ¬Wraps self) :
    self.SlicesTransparent where
  noPanic fuel predicates := Run.stepFrameSlices_ne_panicked (midframe_start awake)
  whole predicates outcome run := by
    rintro ⟨fuel,sliced⟩ over'
    rcases Run.stepFrameSlices_spec (midframe_start awake) sliced with ⟨boundary,_⟩ | ⟨later,ends⟩
    · exact absurd boundary over'
    · exact ⟨(frameIs_iff awake fits run).2 ⟨later,outcome,ends⟩,(Run.ends_frame (midframe_start awake) ends).2⟩
  onTheWay predicates run := by
    rintro ⟨fuel,sliced⟩
    rcases Run.stepFrameSlices_spec (midframe_start awake) sliced with ⟨_,more,later,enough,passes⟩ | ⟨later,ends⟩
    · have steps : run.steps.length = 0 + more := (Run.passes_midframe (midframe_start awake) passes).steps
      refine ⟨by omega,fun whole frame => ?_⟩
      obtain ⟨last,outcome,ends⟩ := (frameIs_iff awake fits whole).1 frame
      exact (Run.ends_steps ((passes.ends_iff _ _).1 ends)).1
    · exact absurd rfl (Run.ends_frame (midframe_start awake) ends).1
  returns predicates whole frame := by
    obtain ⟨later,outcome,fuel,ends⟩ := (frameIs_iff awake fits whole).1 frame
    obtain ⟨outcome,run,sliced⟩ := Run.stepFrameSlices_returns (midframe_start awake) ends predicates
    exact ⟨outcome,run,fuel,sliced⟩

theorem stepFrame_of_wraps (awake : self.suspended = false) (wraps : Wraps self) (whole : Run B) :
    self.FrameIs whole ↔ whole = (Run.start self).countFrame := by
  have late : ¬self.cpu.cycles < self.targetCycles := fun early => not_le.2 ((targetCycles_lt_iff self).1 early) wraps.2
  have stops : cycleBudgetTurn self.targetCycles self.instrumented (.start self) = .stop (.start self) := by
    unfold cycleBudgetTurn whileTurn
    split <;> simp [Run.start,late]
  have frame (fuel : Nat) : self.stepFrame (fuel + 1) = some (Run.start self).countFrame := by
    rw [stepFrame,if_neg (by simp [awake]),if_neg (by simp [wraps.1]),loop_stop stops]
    exact congrArg some (if_neg (by simp [Run.start,awake]))
  constructor
  · rintro ⟨fuel,same⟩
    cases fuel with
    | zero => simp [stepFrame,awake,wraps.1,loop] at same
    | succ fuel => exact Option.some.inj (same.symm.trans (frame fuel))
  · rintro rfl
    exact ⟨1,frame 0⟩

theorem not_slicesTransparent_of_wraps (awake : self.suspended = false) (wraps : Wraps self) :
    ¬self.SlicesTransparent := by
  intro transparent
  have frame : self.FrameIs (Run.start self).countFrame := (stepFrame_of_wraps awake wraps _).2 rfl
  obtain ⟨outcome,run,fuel,sliced⟩ := transparent.returns [fun _ => true] _ frame
  rcases Run.stepFrameSlices_spec (midframe_start awake) sliced with ⟨rfl,_⟩ | ⟨later,ends⟩
  · obtain ⟨long,first⟩ := transparent.onTheWay _ run ⟨fuel,sliced⟩
    have short : run.steps.length ≤ 0 := (first _ frame).length_le
    exact absurd (long.trans short) (by simp)
  · have whole := (transparent.whole _ outcome run ⟨fuel,sliced⟩ (Run.ends_frame (midframe_start awake) ends).1).1
    have same := (stepFrame_of_wraps awake wraps run).1 whole
    exact (Run.ends_steps ends).2 (same ▸ rfl)

/-- Frame slicing is transparent unless the LCD is off and the cycle counter wraps within the frame. -/
theorem slices_transparent_iff (self : Emulator B) :
    self.SlicesTransparent ↔ self.suspended = true ∨ self.lcdOn = true ∨
      self.cpu.cycles.toNat + (cyclesPerFrame self.hardwareMode).toNat < 2^64 := by
  cases asleep : self.suspended with
  | true => exact iff_of_true (slicesTransparent_of_suspended asleep) (.inl rfl)
  | false =>
    by_cases wraps : Wraps self
    · refine iff_of_false (not_slicesTransparent_of_wraps asleep wraps) ?_
      rintro (awake | on | fits)
      · cases awake
      · exact absurd (wraps.1.symm.trans on) (by simp)
      · exact not_le.2 fits wraps.2
    · refine iff_of_true (slicesTransparent_of_fits asleep wraps) (.inr ?_)
      by_cases on : self.lcdOn = true
      · exact .inl on
      · exact .inr (Nat.lt_of_not_le fun late => wraps ⟨Bool.eq_false_of_not_eq_true on,late⟩)

end Emulator

end

/-- A bus whose memory is empty and whose LCD is off. -/
instance emptyBus : EmulatorBus Unit where
  cpuReadByteTimed _ _ _ := (⟨0,4,4⟩,())
  cpuWriteByteTimed _ _ _ _ := (⟨4,4⟩,())
  advanceCpuTCycles _ cycles := (⟨cycles,cycles⟩,())
  advanceStoppedTCycles _ cycles := (⟨cycles,cycles⟩,())
  enterStopMode _ := ()
  pendingInterruptsForCpu _ := 0
  pendingInterruptsForHalt _ := 0
  clearInterruptBit _ _ := ()
  beginAudioTraceInterrupt _ := ()
  audioTraceExecutionFault _ := ()
  maybeTriggerOamWriteCorruption _ _ := ()
  tryCgbSpeedSwitch _ := (none,())
  ppuLcdc _ := 0
  ppuLy _ := 0
  hardwareMode _ := .dmg
  readByte _ _ := 0
  romOffset _ _ := none
  beginAudioTraceInstruction _ _ _ := ()
  endAudioTraceInstruction _ _ := ()
  setTraceCpuAccesses _ _ := ()
  setTraceCpuWrites _ _ := ()
  beginCpuAccessTraceAt _ _ := ()
  drainCpuAccessTrace _ := ([],())

/-- An emulator after a number of cycles, as a save state may have it. -/
def Emulator.after (cycles : UInt64) : Emulator Unit where
  cpu := {
    pc := 0x100,sp := 0xFFFE,regs := ⟨0x01,0xB0,0x00,0x13,0x00,0xD8,0x01,0x4D⟩,ime := .disabled,running := .running
    cycles := cycles,lastStepCycles := 4,timedCyclesAccounted := 4,haltBugActive := false,lastStepMasterTicks := 4
    timedMasterTicksAccounted := 4}
  bus := ()
  hardwareMode := .dmg
  cycleCount := cycles
  frameCount := 0
  opcodeLog := ⟨List.replicate opcodeLogCapacity (0,0,false,none),0,0,false⟩
  instructionTrace := ⟨[],1000,0,0,false⟩
  callStack := []
  lastOpcode := 0
  lastOpcodePc := 0
  debug := ⟨fun _ => false,fun _ => false,[],fun _ => false,0,[],false,none,none,none,false,false⟩
  romBreakpoints := []
  hitRomBreakpoint := none

/-- Four cycles before the counter wraps, a whole frame executes nothing and a slice executes an instruction. -/
theorem Emulator.last_cycles_freeze : ¬(Emulator.after (2^64 - 4)).SlicesTransparent :=
  not_slicesTransparent_of_wraps rfl ⟨rfl,by decide +kernel⟩

end ZeffBoy.GameBoy
