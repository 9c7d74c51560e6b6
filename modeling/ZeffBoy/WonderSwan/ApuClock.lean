import ZeffBoy.WonderSwan.Apu

/-! The sound of a WonderSwan does not depend on how its cycles are cut.
Its counters stay positive words of 31 bits, so that fewer than 2^31 cycles are taken from them without an overflow. -/
namespace ZeffBoy.WonderSwan
open Library Function

/-- A counter that is positive, and fits a signed word. -/
def Positive (counter : Int) : Prop := 0 < counter ∧ counter < 2^31

instance (counter : Int) : Decidable (Positive counter) := inferInstanceAs (Decidable (_ ∧ _))

theorem countdown_positive {σ : Type} {period : Nat} {tick : σ → σ} {state : σ} {counter : Int} (positive : Positive counter)
    (reloadable : 0 < period) (short : period ≤ 2048) (cycles : Nat) :
    Positive (countdown period tick cycles (state,counter)).2 := by
  obtain ⟨more,bounded⟩ := @countdown_bounds σ period tick reloadable cycles (state,counter)
  have below := positive.2
  dsimp only at bounded
  exact ⟨more,by omega⟩

theorem Channel.advanceWave_positive {channel : Channel} (positive : Positive channel.periodCounter) (cycles : Nat) :
    Positive (channel.advanceWave cycles).periodCounter := by
  unfold advanceWave periodClocks
  split
  · exact positive
  · rename_i period clocks
    dsimp only at clocks
    split at clocks
    · cases clocks
      exact countdown_positive positive (by omega) (Nat.sub_le _ _) cycles
    · cases clocks

theorem Channel.advanceWave_additive : Additive Channel.advanceWave := by
  intro first second channel
  unfold advanceWave
  cases clocks : channel.periodClocks with
  | none => simp only [clocks]
  | some period =>
    have later (samplePos : UInt8) (periodCounter : Int) :
        Channel.periodClocks {channel with samplePos := samplePos, periodCounter := periodCounter} = some period := clocks
    simp only [later]
    rw [← countdown_additive first second]

namespace Sweep
variable {step value : UInt8} {sweep : Sweep}

theorem advanceChunk_iterate {cycles : Nat} (some' : 0 < cycles) (within : (cycles : Int) ≤ max sweep.divider 1) :
    (advanceChunk step value 1)^[cycles] sweep = advanceChunk step value cycles sweep := by
  induction cycles with
  | zero => omega
  | succ cycles ih =>
    rcases Nat.eq_zero_or_pos cycles with rfl | before
    · rfl
    · rw [iterate_succ_apply',ih before (by omega)]
      have early : ¬sweep.divider - cycles ≤ 0 := by
        push_cast at within
        omega
      have clock : sweep.divider - cycles - 1 = sweep.divider - (cycles + 1 : Nat) := by
        push_cast
        ring
      have wave := Channel.advanceWave_additive cycles 1 sweep.channel
      simp only [advanceChunk,if_neg early,Nat.cast_one,clock,wave]

theorem loop_iterate {fuel remaining : Nat} (enough : remaining ≤ fuel) (sweep : Sweep) :
    loop step value fuel remaining sweep = (advanceChunk step value 1)^[remaining] sweep := by
  induction fuel generalizing remaining sweep with
  | zero =>
    rw [Nat.le_zero.mp enough]
    rfl
  | succ fuel ih =>
    rw [loop]
    split
    · rename_i none'
      rw [none']
      rfl
    · rename_i more
      dsimp only
      have chunk : 0 < min remaining (max sweep.divider 1).toNat := by omega
      rw [ih (by omega),← advanceChunk_iterate chunk (by omega),← iterate_add_apply]
      congr 1
      omega

structure Sound (sweep : Sweep) : Prop where
  counter : Positive sweep.channel.periodCounter
  divider : Positive sweep.divider

theorem Sound.tick (sound : sweep.Sound) : (tick step value sweep).Sound := by
  unfold Sweep.tick
  dsimp only
  split <;> exact ⟨sound.counter,sound.divider⟩

theorem Sound.advanceChunk (sound : sweep.Sound) : (advanceChunk step value 1 sweep).Sound := by
  have counter := Channel.advanceWave_positive sound.counter 1
  have divider := sound.divider
  unfold Positive at divider
  unfold Sweep.advanceChunk
  dsimp only
  split
  · apply Sound.tick
    refine ⟨counter,?_,?_⟩
    all_goals
      dsimp only [sweepClockPeriod]
      omega
  · refine ⟨counter,?_,?_⟩
    all_goals
      dsimp only at *
      omega

theorem Sound.advance (sound : sweep.Sound) (fast : Bool) (cycles : Nat) :
    (advance fast step value cycles sweep).Sound := by
  unfold Sweep.advance
  split
  · refine Function.Iterate.rec Sound sound (fun sweep sound => ?_) cycles
    exact Sound.tick ⟨Channel.advanceWave_positive sound.counter 1,sound.divider⟩
  · rw [loop_iterate le_rfl]
    exact Function.Iterate.rec Sound sound (fun _ => Sound.advanceChunk) cycles

theorem advance_additive (fast : Bool) : Additive (advance fast step value) := by
  cases fast with
  | true => exact additive_of_iterate fun _ => rfl
  | false =>
    apply additive_of_iterate
    intro cycles
    funext sweep
    exact loop_iterate le_rfl sweep

end Sweep

namespace Generators

theorem advanceWaveChannel_additive (index : Fin 4) : Additive (advanceWaveChannel index) := by
  intro first second generators
  simp only [advanceWaveChannel,setChannel,update_self,update_idem,Channel.advanceWave_additive first second]

theorem advanceSweepChannel_additive : Additive advanceSweepChannel := by
  intro first second generators
  simp only [advanceSweepChannel,setChannel,update_self,update_idem,
    ← Sweep.advance_additive _ first second]

theorem advanceNoiseChannel_additive : Additive advanceNoiseChannel := by
  intro first second generators
  simp only [advanceNoiseChannel,setChannel,update_self,update_idem,← countdown_additive first second]

/-- What a channel plays. -/
inductive Voice
  | silent
  | wave
  | sweep
  | noise

-- Nothing that is played touches what selects between them.
def voice (index : Fin 4) (generators : Generators) : Voice :=
  if generators.control &&& enableBit index = 0 then .silent
  else if index = 2 ∧ generators.control &&& channel3Sweep ≠ 0 ∧ generators.sweepValue ≠ 0 then .sweep
  else if index = 3 ∧ generators.control &&& channel4Noise ≠ 0 ∧ generators.noiseControl &&& noiseEnable ≠ 0 then .noise
  else .wave

def play (index : Fin 4) (cycles : Nat) : Voice → Generators → Generators
  | .silent => id
  | .wave => advanceWaveChannel index cycles
  | .sweep => advanceSweepChannel cycles
  | .noise => advanceNoiseChannel cycles

theorem advanceChannel_eq (index : Fin 4) (cycles : Nat) (generators : Generators) :
    generators.advanceChannel index cycles = play index cycles (voice index generators) generators := by
  unfold advanceChannel voice
  split
  · rfl
  split
  · rfl
  split <;> rfl

theorem voice_play (one two : Fin 4) (cycles : Nat) (kind : Voice) (generators : Generators) :
    voice one (play two cycles kind generators) = voice one generators := by
  cases kind <;> rfl

variable {generators : Generators}

theorem index_of_voice {index : Fin 4} :
    (voice index generators = .sweep → index = 2) ∧ (voice index generators = .noise → index = 3) := by
  unfold voice
  constructor
  all_goals
    intro plays
    split at plays
    · cases plays
    split at plays
    · first | exact ‹_ ∧ _›.1 | cases plays
    split at plays
    · first | exact ‹_ ∧ _›.1 | cases plays
    · cases plays

theorem advanceChannel_additive (index : Fin 4) : Additive (advanceChannel index) := by
  intro first second generators
  rw [advanceChannel_eq,advanceChannel_eq,advanceChannel_eq,voice_play]
  cases voice index generators with
  | silent => rfl
  | wave => exact advanceWaveChannel_additive index first second generators
  | sweep => exact advanceSweepChannel_additive first second generators
  | noise => exact advanceNoiseChannel_additive first second generators

theorem advanceChannel_comm {one two : Fin 4} (apart : one ≠ two) (first second : Nat) (generators : Generators) :
    (generators.advanceChannel two second).advanceChannel one first =
      (generators.advanceChannel one first).advanceChannel two second := by
  obtain ⟨sweepOne,noiseOne⟩ := @index_of_voice generators one
  obtain ⟨sweepTwo,noiseTwo⟩ := @index_of_voice generators two
  rw [advanceChannel_eq two,advanceChannel_eq one,advanceChannel_eq one first generators,advanceChannel_eq two,voice_play,
    voice_play]
  generalize voice one generators = kindOne at *
  generalize voice two generators = kindTwo at *
  cases kindOne <;> cases kindTwo <;> simp only [forall_const,reduceCtorEq,IsEmpty.forall_iff] at *
  all_goals subst_vars
  all_goals first
    | rfl
    | exact absurd rfl apart
    | simp only [play,advanceWaveChannel,advanceSweepChannel,advanceNoiseChannel,setChannel,update_of_ne apart,
        update_of_ne apart.symm,update_comm apart]

theorem advanceSoundGenerators_additive : Additive advanceSoundGenerators := by
  refine additive_foldl (fun index _ => advanceChannel_additive index) ?_
  refine List.Pairwise.imp ?_ (show [(0 : Fin 4),1,2,3].Pairwise (· ≠ ·) by decide)
  intro one two apart first second generators
  exact advanceChannel_comm apart first second generators

theorem advanceSoundGenerators_control (cycles : Nat) (generators : Generators) :
    (generators.advanceSoundGenerators cycles).control = generators.control := by
  have each (index : Fin 4) (generators : Generators) : (generators.advanceChannel index cycles).control = generators.control := by
    rw [advanceChannel_eq]
    cases voice index generators <;> rfl
  simp only [advanceSoundGenerators,List.foldl_cons,List.foldl_nil,each]

theorem advance_additive : Additive advance := by
  intro first second generators
  unfold advance
  by_cases enabled : generators.control &&& channelEnableMask ≠ 0
  · rw [if_pos enabled,if_pos enabled,advanceSoundGenerators_control,if_pos enabled,advanceSoundGenerators_additive]
  · rw [if_neg enabled,if_neg enabled,if_neg enabled]

/-- What every write and every step leaves of the counters. -/
structure Sound (generators : Generators) : Prop where
  counters : ∀ index, Positive (generators.channels index).periodCounter
  divider : Positive generators.sweep8192Divider

theorem Sound.setChannel (sound : generators.Sound) (index : Fin 4) {channel : Channel}
    (positive : Positive channel.periodCounter) : (generators.setChannel index channel).Sound := by
  refine ⟨?_,sound.divider⟩
  intro other
  simp only [Generators.setChannel,update_apply]
  split
  · exact positive
  · exact sound.counters other

theorem Sound.play (sound : generators.Sound) (index : Fin 4) (cycles : Nat) (voice : Voice) :
    (play index cycles voice generators).Sound := by
  cases voice with
  | silent => exact sound
  | wave => exact sound.setChannel index (Channel.advanceWave_positive (sound.counters index) cycles)
  | sweep =>
    have before : Sweep.Sound ⟨generators.channels 2,generators.sweep8192Divider,generators.sweepCounter⟩ :=
      ⟨sound.counters 2,sound.divider⟩
    exact ⟨(sound.setChannel 2 (before.advance _ cycles).counter).counters,(before.advance _ cycles).divider⟩
  | noise =>
    have reloadable : 0 < max (2048 - (generators.channels 3).period.toNat) 1 := by omega
    have counter := @countdown_positive _ _ (clockNoiseLfsr generators.noiseControl) generators.nreg _ (sound.counters 3) reloadable
      (by omega) cycles
    exact ⟨(sound.setChannel 3 counter).counters,sound.divider⟩

theorem Sound.advance (sound : generators.Sound) (cycles : Nat) : (generators.advance cycles).Sound := by
  have channel (index : Fin 4) {generators : Generators} (sound : generators.Sound) : (generators.advanceChannel index cycles).Sound := by
    rw [advanceChannel_eq]
    exact sound.play index cycles _
  unfold Generators.advance
  split
  · exact channel 3 (channel 2 (channel 1 (channel 0 sound)))
  · exact sound

end Generators

namespace Apu
variable {Sample : Type} {mix : Generators → List UInt8 → Sample} {ram : List UInt8}

/-- Before the next sample, whatever is in the memory. -/
def quiet (cycles : Nat) (apu : Apu Sample) : Apu Sample :=
  {apu with
    generators := apu.generators.advance cycles
    sampleCycleAccumulator := (apu.sampleCycleAccumulator + cycles * apu.sampleRate) % cpuClockHz
    elapsed := apu.elapsed + cycles}

variable {apu : Apu Sample} {cycles : Nat}

theorem before_sample (some' : 0 < cycles) (short : cycles < apu.cyclesUntilNextSample) :
    apu.sampleCycleAccumulator + cycles * apu.sampleRate < cpuClockHz := by
  unfold cyclesUntilNextSample at short
  rcases Nat.eq_zero_or_pos apu.sampleRate with stopped | running
  · rw [stopped,Nat.div_zero] at short
    omega
  · have within := Nat.mul_le_of_le_div _ _ _ (Nat.succ_le_of_lt short)
    rw [Nat.succ_mul] at within
    omega

theorem advanceChunk_quiet (some' : 0 < cycles) (short : cycles < apu.cyclesUntilNextSample) :
    advanceChunk mix ram cycles apu = apu.quiet cycles := by
  have before := before_sample some' short
  simp only [advanceChunk,advanceSampleClock,quiet,Nat.div_eq_of_lt before,List.replicate_zero,List.append_nil]

theorem advanceChunk_iterate (some' : 0 < cycles)
    (within : cycles ≤ max apu.cyclesUntilNextSample 1) :
    (advanceChunk mix ram 1)^[cycles] apu = advanceChunk mix ram cycles apu := by
  induction cycles with
  | zero => omega
  | succ cycles ih =>
    rcases Nat.eq_zero_or_pos cycles with rfl | before
    · rfl
    · have short : cycles < apu.cyclesUntilNextSample := by omega
      have early := before_sample before short
      rw [iterate_succ_apply',ih before (by omega),advanceChunk_quiet before short]
      have total : apu.sampleCycleAccumulator + cycles * apu.sampleRate + apu.sampleRate =
          apu.sampleCycleAccumulator + (cycles + 1) * apu.sampleRate := by ring
      simp only [advanceChunk,advanceSampleClock,quiet,Nat.mod_eq_of_lt early,one_mul,total,
        Generators.advance_additive cycles 1,add_assoc]

theorem stepLoop_iterate {fuel remaining : Nat} (enough : remaining ≤ fuel) (apu : Apu Sample) :
    stepLoop mix ram fuel remaining apu = (advanceChunk mix ram 1)^[remaining] apu := by
  induction fuel generalizing remaining apu with
  | zero =>
    rw [Nat.le_zero.mp enough]
    rfl
  | succ fuel ih =>
    rw [stepLoop]
    split
    · rename_i none'
      rw [none']
      rfl
    · rename_i more
      dsimp only
      have chunk : 0 < min remaining (max apu.cyclesUntilNextSample 1) := by omega
      rw [ih (by omega),← advanceChunk_iterate chunk (by omega),← iterate_add_apply]
      congr 1
      omega

theorem sampleGenerationEnabled_advanceChunk (cycles : Nat) (apu : Apu Sample) :
    (advanceChunk mix ram cycles apu).sampleGenerationEnabled = apu.sampleGenerationEnabled := rfl

theorem sampleGenerationEnabled_iterate (cycles : Nat) (apu : Apu Sample) :
    ((advanceChunk mix ram 1)^[cycles] apu).sampleGenerationEnabled = apu.sampleGenerationEnabled := by
  induction cycles with
  | zero => rfl
  | succ cycles ih => rw [iterate_succ_apply',sampleGenerationEnabled_advanceChunk,ih]

theorem stepCycles_enabled (enabled : apu.sampleGenerationEnabled = true) (cycles : Nat) :
    apu.stepCycles mix cycles ram = (advanceChunk mix ram 1)^[cycles] apu := by
  rw [stepCycles,if_neg (by simp [enabled]),stepLoop_iterate le_rfl]

theorem stepCycles_disabled (disabled : apu.sampleGenerationEnabled = false) (cycles : Nat) :
    apu.stepCycles mix cycles ram = apu.quiet cycles := if_pos disabled

theorem stepCycles_additive (ram : List UInt8) : Additive fun cycles apu => stepCycles mix cycles ram apu := by
  intro first second apu
  dsimp only
  cases enabled : apu.sampleGenerationEnabled with
  | true =>
    rw [stepCycles_enabled enabled,stepCycles_enabled enabled,
      stepCycles_enabled (by rw [sampleGenerationEnabled_iterate,enabled]),← iterate_add_apply,add_comm]
  | false =>
    rw [stepCycles_disabled enabled,stepCycles_disabled enabled,stepCycles_disabled (show (apu.quiet first).sampleGenerationEnabled = false from enabled)]
    have total : (apu.sampleCycleAccumulator + first * apu.sampleRate) % cpuClockHz + second * apu.sampleRate ≡
        apu.sampleCycleAccumulator + (first + second) * apu.sampleRate [MOD cpuClockHz] := by
      rw [add_mul,← add_assoc]
      exact (Nat.mod_modEq _ _).add_right _
    simp only [quiet,Generators.advance_additive first second,add_assoc]
    rw [show _ % cpuClockHz = _ % cpuClockHz from total]

theorem stepCycles_quiet (some' : 0 < cycles)
    (short : apu.sampleGenerationEnabled = true → cycles < apu.cyclesUntilNextSample) :
    apu.stepCycles mix cycles ram = apu.quiet cycles := by
  cases enabled : apu.sampleGenerationEnabled with
  | true =>
    rw [stepCycles_enabled enabled,advanceChunk_iterate some' (by have := short enabled; omega),
      advanceChunk_quiet some' (short enabled)]
  | false => exact stepCycles_disabled enabled cycles

/-- The registers are words, and the accumulator is below a second. -/
structure Sound (apu : Apu Sample) : Prop where
  generators : apu.generators.Sound
  rate : 0 < apu.sampleRate ∧ apu.sampleRate < 2^32
  clock : apu.sampleCycleAccumulator < cpuClockHz

theorem Sound.advanceChunk (sound : apu.Sound) (cycles : Nat) : (apu.advanceChunk mix ram cycles).Sound :=
  ⟨sound.generators.advance cycles,sound.rate,Nat.mod_lt _ (by decide)⟩

theorem Sound.stepCycles (sound : apu.Sound) (cycles : Nat) : (apu.stepCycles mix cycles ram).Sound := by
  cases enabled : apu.sampleGenerationEnabled with
  | true =>
    rw [stepCycles_enabled enabled]
    exact Function.Iterate.rec Sound sound (fun _ sound => sound.advanceChunk 1) cycles
  | false =>
    rw [stepCycles_disabled enabled]
    exact ⟨sound.generators.advance cycles,sound.rate,Nat.mod_lt _ (by decide)⟩

/-- An advance by some cycles stays within the words of the source. -/
structure Fits (apu : Apu Sample) (cycles : Nat) : Prop where
  counters : ∀ index, -2^31 ≤ (apu.generators.channels index).periodCounter - cycles
  divider : -2^31 ≤ apu.generators.sweep8192Divider - cycles
  accumulator : apu.sampleCycleAccumulator + cycles * apu.sampleRate < 2^64

theorem Sound.fits (sound : apu.Sound) (few : cycles < 2^31) : apu.Fits cycles := by
  refine ⟨?_,?_,?_⟩
  · intro index
    have positive := (sound.generators.counters index).1
    omega
  · have positive := sound.generators.divider.1
    omega
  · have clock := sound.clock
    have product := Nat.mul_lt_mul'' few sound.rate.2
    unfold cpuClockHz at clock
    omega

/-- The sound hardware may be stepped in any parts: the voices come to the same place, and the same samples have been made.
No advance on the way overflows. -/
theorem stepCycles_parts (ram : List UInt8) {apu : Apu Sample} (sound : apu.Sound) {first : Nat} {parts : List Nat}
    (few : first + parts.sum < 2^31) :
    parts.foldl (fun apu cycles => apu.stepCycles mix cycles ram) (apu.stepCycles mix first ram) =
        apu.stepCycles mix (first + parts.sum) ram ∧
      ∀ before cycles, before + cycles ≤ first + parts.sum →
        (apu.stepCycles mix before ram).Sound ∧ (apu.stepCycles mix before ram).Fits cycles := by
  refine ⟨(stepCycles_additive ram).parts first parts apu,?_⟩
  intro before cycles within
  have reached : (apu.stepCycles mix before ram).Sound := sound.stepCycles before
  exact ⟨reached,reached.fits (by omega)⟩

/-- The left output is taken as the sample. -/
def leftOutput (generators : Generators) (_ : List UInt8) : Nat := generators.channelOutputSide .left

/-- A wave on the first channel. -/
def sounding : Apu Nat := (powered.write8 0x90 1).write8 0x88 0xF0

theorem stepCycles_parts_sounding : (sounding.stepCycles leftOutput 100 []).samples.length = 1 ∧
    (([28,64] : List Nat).foldl (fun apu cycles => apu.stepCycles leftOutput cycles []) (sounding.stepCycles leftOutput 100 [])) =
      sounding.stepCycles leftOutput 192 [] :=
  ⟨by decide +kernel,(stepCycles_parts []
    ⟨⟨by decide,by decide⟩,⟨by decide,by decide⟩,by decide⟩ (by decide)).1⟩

end Apu

end ZeffBoy.WonderSwan
