import ZeffBoy.WonderSwan.Peripherals

/-! The sound of a WonderSwan: the integer state of its generators, and the clock by which samples are taken from them.
How a sample is mixed is left open. A sample is kept with the cycle at which it was taken. -/
namespace ZeffBoy.WonderSwan
open Library

def sweepClockPeriod : Nat := 8192
def channelEnableMask : UInt8 := 0x0F
def channel2Voice : UInt8 := 0x20
def channel3Sweep : UInt8 := 0x40
def channel4Noise : UInt8 := 0x80
def noiseEnable : UInt8 := 0x10
def soundTestFastSweep : UInt8 := 0x02
def soundTestReadMask : UInt8 := 0xE3
def hyperVoiceTargetMask : UInt8 := 0x60
def hyperVoiceResetNextLeft : UInt8 := 0x10

def noiseTaps : Fin 8 → UInt16 := ![14,10,13,4,8,6,9,11]

structure Channel where
  period : UInt16
  volume : UInt8
  periodCounter : Int
  samplePos : UInt8

namespace Channel

def powered : Channel := ⟨0,0,1,0⟩

def periodClocks (channel : Channel) : Option Nat :=
  let clocks := 2048 - channel.period.toNat
  if 4 < clocks then some clocks else none

def advanceWave (cycles : Nat) (channel : Channel) : Channel :=
  match channel.periodClocks with
  | none => channel
  | some period =>
    let (samplePos,periodCounter) :=
      countdown period (fun samplePos => (samplePos + 1) &&& 0x1F) cycles (channel.samplePos,channel.periodCounter)
    {channel with samplePos := samplePos, periodCounter := periodCounter}

end Channel

/-- The third channel, and what sweeps its period. -/
structure Sweep where
  channel : Channel
  divider : Int
  counter : UInt8

namespace Sweep

def delta (value : UInt8) : UInt16 := if value < 0x80 then value.toUInt16 else value.toUInt16 ||| 0xFF00

/-- `tick_sweep`. -/
def tick (step value : UInt8) (sweep : Sweep) : Sweep :=
  let counter := sweep.counter - 1
  if counter = 0 then
    {sweep with
      counter := step + 1
      channel := {sweep.channel with period := (sweep.channel.period + delta value) &&& 0x07FF}}
  else {sweep with counter := counter}

-- The divider does not run out before the last of the cycles.
def advanceChunk (step value : UInt8) (cycles : Nat) (sweep : Sweep) : Sweep :=
  let sweep := {sweep with channel := sweep.channel.advanceWave cycles, divider := sweep.divider - cycles}
  if sweep.divider ≤ 0 then tick step value {sweep with divider := sweep.divider + sweepClockPeriod} else sweep

def loop (step value : UInt8) : Nat → Nat → Sweep → Sweep
  | 0,_,sweep => sweep
  | fuel + 1,remaining,sweep =>
    if remaining = 0 then sweep
    else
      let chunk := min remaining (max sweep.divider 1).toNat
      loop step value fuel (remaining - chunk) (advanceChunk step value chunk sweep)

def advance (fast : Bool) (step value : UInt8) (cycles : Nat) (sweep : Sweep) : Sweep :=
  if fast then (fun sweep => tick step value {sweep with channel := sweep.channel.advanceWave 1})^[cycles] sweep
  else loop step value cycles cycles sweep

end Sweep

/-- The registers and counters of the generators. -/
structure Generators where
  channels : Fin 4 → Channel
  voiceVolume : UInt8
  sweepStep : UInt8
  sweepValue : UInt8
  noiseControl : UInt8
  control : UInt8
  outputControl : UInt8
  sampleRamPos : UInt8
  sweep8192Divider : Int
  sweepCounter : UInt8
  nreg : UInt16
  hyperVoiceSample : UInt8
  hyperVoiceLeftOutput : Int16
  hyperVoiceRightOutput : Int16
  hyperVoiceNextLeft : Bool
  soundTest : UInt8
  hyperVoiceControl : UInt8
  hyperVoiceChannelControl : UInt8
  channelMutes : Fin 4 → Bool

inductive OutputSide
  | left
  | right
  | leftRight

namespace Generators

def powered : Generators where
  channels _ := .powered
  voiceVolume := 0
  sweepStep := 0
  sweepValue := 0
  noiseControl := 0
  control := 0
  outputControl := 0
  sampleRamPos := 0
  sweep8192Divider := sweepClockPeriod
  sweepCounter := 0
  nreg := 0
  hyperVoiceSample := 0
  hyperVoiceLeftOutput := 0
  hyperVoiceRightOutput := 0
  hyperVoiceNextLeft := true
  soundTest := 0
  hyperVoiceControl := 0
  hyperVoiceChannelControl := 0
  channelMutes _ := false

def setChannel (generators : Generators) (index : Fin 4) (channel : Channel) : Generators :=
  {generators with channels := Function.update generators.channels index channel}

def advanceWaveChannel (index : Fin 4) (cycles : Nat) (generators : Generators) : Generators :=
  generators.setChannel index ((generators.channels index).advanceWave cycles)

def advanceSweepChannel (cycles : Nat) (generators : Generators) : Generators :=
  let sweep := Sweep.advance (generators.soundTest &&& soundTestFastSweep != 0) generators.sweepStep generators.sweepValue cycles
    ⟨generators.channels 2,generators.sweep8192Divider,generators.sweepCounter⟩
  {generators.setChannel 2 sweep.channel with sweep8192Divider := sweep.divider, sweepCounter := sweep.counter}

def clockNoiseLfsr (noiseControl : UInt8) (nreg : UInt16) : UInt16 :=
  let tap := noiseTaps (Fin.ofNat 8 (noiseControl &&& 7).toNat)
  let feedback : UInt16 := (1 : UInt16) ^^^ (nreg >>> 7 &&& 1) ^^^ (nreg >>> tap &&& 1)
  (nreg <<< 1 ||| feedback) &&& 0x7FFF

def advanceNoiseChannel (cycles : Nat) (generators : Generators) : Generators :=
  let channel := generators.channels 3
  let period := max (2048 - channel.period.toNat) 1
  let (nreg,periodCounter) :=
    countdown period (clockNoiseLfsr generators.noiseControl) cycles (generators.nreg,channel.periodCounter)
  {generators.setChannel 3 {channel with periodCounter := periodCounter} with nreg := nreg}

def enableBit : Fin 4 → UInt8 := ![1,2,4,8]

def advanceChannel (index : Fin 4) (cycles : Nat) (generators : Generators) : Generators :=
  if generators.control &&& enableBit index = 0 then generators
  else if index = 2 ∧ generators.control &&& channel3Sweep ≠ 0 ∧ generators.sweepValue ≠ 0 then
    generators.advanceSweepChannel cycles
  else if index = 3 ∧ generators.control &&& channel4Noise ≠ 0 ∧ generators.noiseControl &&& noiseEnable ≠ 0 then
    generators.advanceNoiseChannel cycles
  else generators.advanceWaveChannel index cycles

def advanceSoundGenerators (cycles : Nat) (generators : Generators) : Generators :=
  [0,1,2,3].foldl (fun generators index => generators.advanceChannel index cycles) generators

-- Nothing is advanced while no channel is enabled.
def advance (cycles : Nat) (generators : Generators) : Generators :=
  if generators.control &&& channelEnableMask ≠ 0 then generators.advanceSoundGenerators cycles else generators

def readPeriod (generators : Generators) (index : Fin 4) : UInt16 :=
  let period := (generators.channels index).period
  if index = 2 ∧ generators.soundTest &&& soundTestFastSweep ≠ 0 ∧ generators.control &&& channel3Sweep ≠ 0 then
    (period - 1) &&& 0x07FF
  else period

def channelOutput (generators : Generators) (index : Fin 4) (side : OutputSide) : UInt8 :=
  let volume := (generators.channels index).volume
  let sideVolume := match side with
    | .left | .leftRight => volume >>> 4
    | .right => volume &&& 0x0F
  if sideVolume = 0 then 0
  else if index = 1 ∧ generators.control &&& channel2Voice ≠ 0 then volume
  else if generators.control &&& enableBit index = 0 then 0
  else if index = 3 ∧ generators.control &&& channel4Noise ≠ 0 then
    if generators.noiseControl &&& noiseEnable = 0 then 0 else if generators.nreg &&& 1 ≠ 0 then sideVolume else 0
  else (generators.channels index).samplePos &&& 0x0F

def channelOutputSide (generators : Generators) (side : OutputSide) : Nat :=
  min (([0,1,2,3].map fun index => (generators.channelOutput index side).toNat).sum) 255

def channelOutputWord (generators : Generators) (side : OutputSide) : UInt16 :=
  UInt16.ofNat (match side with
    | .left => generators.channelOutputSide .left
    | .right => generators.channelOutputSide .right
    | .leftRight => generators.channelOutputSide .left + generators.channelOutputSide .right)

def highPart (value : UInt8) : UInt16 := value.toUInt16 <<< 8

def byteOf (port : Nat) (word : UInt16) : UInt8 := if port % 2 = 0 then word.toUInt8 else (word >>> 8).toUInt8

def read8 (generators : Generators) (port : UInt16) : UInt8 :=
  let port := port.toNat
  if 0x80 ≤ port ∧ port ≤ 0x87 then byteOf port (generators.readPeriod (Fin.ofNat 4 ((port - 0x80) / 2)))
  else if 0x88 ≤ port ∧ port ≤ 0x8B then (generators.channels (Fin.ofNat 4 (port - 0x88))).volume
  else match port with
    | 0x8C => generators.sweepValue
    | 0x8D => generators.sweepStep
    | 0x8E => generators.noiseControl
    | 0x8F => generators.sampleRamPos
    | 0x90 => generators.control
    | 0x91 => generators.outputControl ||| 0x80
    | 0x92 | 0x93 => byteOf port generators.nreg
    | 0x94 => generators.voiceVolume
    | 0x95 => generators.soundTest
    | 0x96 | 0x97 => byteOf port (generators.channelOutputWord .right)
    | 0x98 | 0x99 => byteOf port (generators.channelOutputWord .left)
    | 0x9A | 0x9B => byteOf port (generators.channelOutputWord .leftRight)
    | 0x64 | 0x65 => byteOf port generators.hyperVoiceLeftOutput.toUInt16
    | 0x66 | 0x67 => byteOf port generators.hyperVoiceRightOutput.toUInt16
    | 0x69 => generators.hyperVoiceSample
    | 0x6A => generators.hyperVoiceControl
    | 0x6B => generators.hyperVoiceChannelControl
    | _ => 0

def hyperVoiceOutputSample (generators : Generators) (value : UInt8) : Int16 :=
  let mode := generators.hyperVoiceControl &&& 0x0C
  let sample : Int16 :=
    if mode = 0x04 then ((value.toUInt16 ||| 0xFF00) <<< 8).toInt16 else (value.toUInt16 <<< 8).toInt16
  if mode = 0x0C then sample else sample >>> (generators.hyperVoiceControl &&& 3).toUInt16.toInt16

def writeNextHyperVoiceStereoSample (generators : Generators) (sample : Int16) : Generators :=
  let generators := if generators.hyperVoiceNextLeft then {generators with hyperVoiceLeftOutput := sample}
    else {generators with hyperVoiceRightOutput := sample}
  {generators with hyperVoiceNextLeft := !generators.hyperVoiceNextLeft}

def writeHyperVoiceManualSample (generators : Generators) (value : UInt8) : Generators :=
  let generators := {generators with hyperVoiceSample := value}
  generators.writeNextHyperVoiceStereoSample (generators.hyperVoiceOutputSample value)

def writeHyperVoiceDmaSample (generators : Generators) (value : UInt8) : Generators :=
  let generators := {generators with hyperVoiceSample := value}
  let sample := generators.hyperVoiceOutputSample value
  let target := generators.hyperVoiceChannelControl &&& hyperVoiceTargetMask
  if target = 0x00 then generators.writeNextHyperVoiceStereoSample sample
  else if target = 0x20 then {generators with hyperVoiceLeftOutput := sample}
  else if target = 0x40 then {generators with hyperVoiceRightOutput := sample}
  else {generators with hyperVoiceLeftOutput := sample, hyperVoiceRightOutput := sample}

def writePeriod (generators : Generators) (port : Nat) (value : UInt8) : Generators :=
  let index := Fin.ofNat 4 ((port - 0x80) / 2)
  let channel := generators.channels index
  let period := if port % 2 = 0 then (channel.period &&& 0x0700) ||| value.toUInt16
    else (channel.period &&& (0x00FF : UInt16)) ||| highPart (value &&& 0x07)
  generators.setChannel index {channel with period := period}

def write8 (generators : Generators) (port : UInt16) (value : UInt8) : Generators :=
  let port := port.toNat
  if 0x80 ≤ port ∧ port ≤ 0x87 then generators.writePeriod port value
  else if 0x88 ≤ port ∧ port ≤ 0x8B then
    let index := Fin.ofNat 4 (port - 0x88)
    generators.setChannel index {generators.channels index with volume := value}
  else match port with
    | 0x8C => {generators with sweepValue := value}
    | 0x8D => {generators with sweepStep := value, sweepCounter := value + 1, sweep8192Divider := sweepClockPeriod}
    | 0x8E => {generators with
        nreg := if value &&& 0x08 ≠ 0 then 0 else generators.nreg
        noiseControl := value &&& 0x17}
    | 0x8F => {generators with sampleRamPos := value}
    | 0x90 => {generators with control := value}
    | 0x91 => {generators with outputControl := value &&& 0x0F}
    | 0x92 => {generators with nreg := (generators.nreg &&& 0x7F00) ||| value.toUInt16}
    | 0x93 => {generators with nreg := (generators.nreg &&& (0x00FF : UInt16)) ||| highPart (value &&& 0x7F)}
    | 0x94 => {generators with voiceVolume := value &&& 0x0F}
    | 0x95 => {generators with soundTest := value &&& soundTestReadMask}
    | 0x64 => {generators with
        hyperVoiceLeftOutput := ((generators.hyperVoiceLeftOutput.toUInt16 &&& 0xFF00) ||| value.toUInt16).toInt16}
    | 0x65 => {generators with
        hyperVoiceLeftOutput := ((generators.hyperVoiceLeftOutput.toUInt16 &&& (0x00FF : UInt16)) ||| highPart value).toInt16}
    | 0x66 => {generators with
        hyperVoiceRightOutput := ((generators.hyperVoiceRightOutput.toUInt16 &&& 0xFF00) ||| value.toUInt16).toInt16}
    | 0x67 => {generators with
        hyperVoiceRightOutput := ((generators.hyperVoiceRightOutput.toUInt16 &&& (0x00FF : UInt16)) ||| highPart value).toInt16}
    | 0x69 => generators.writeHyperVoiceManualSample value
    | 0x6A => {generators with hyperVoiceControl := value}
    | 0x6B => {generators with
        hyperVoiceChannelControl := value &&& (hyperVoiceTargetMask ||| hyperVoiceResetNextLeft)
        hyperVoiceNextLeft := generators.hyperVoiceNextLeft || value &&& hyperVoiceResetNextLeft ≠ 0}
    | _ => generators

end Generators

structure Apu (Sample : Type) where
  generators : Generators
  sampleRate : Nat
  sampleGenerationEnabled : Bool
  sampleCycleAccumulator : Nat
  samples : List (Nat × Sample)
  elapsed : Nat

namespace Apu
variable {Sample : Type} (mix : Generators → List UInt8 → Sample)

def handlesPort (port : UInt16) : Bool := 0x64 ≤ port && port ≤ 0x6B || 0x80 ≤ port && port ≤ 0x9B
def handlesColorOnlyPort (port : UInt16) : Bool := 0x64 ≤ port && port ≤ 0x6B

def defaultHostSampleRate : Nat := 48000

def setSampleRate (apu : Apu Sample) (rate : Nat) : Apu Sample :=
  {apu with
    sampleRate := if rate = 0 then defaultHostSampleRate else rate
    sampleCycleAccumulator := apu.sampleCycleAccumulator % cpuClockHz}

def setSampleGenerationEnabled (apu : Apu Sample) (enabled : Bool) : Apu Sample :=
  {apu with sampleGenerationEnabled := enabled, samples := if enabled then apu.samples else []}

def drainAudioSamples (apu : Apu Sample) : Apu Sample := {apu with samples := []}

def setChannelMutes (apu : Apu Sample) (mutes : Fin 4 → Bool) : Apu Sample :=
  {apu with generators := {apu.generators with channelMutes := mutes}}

def powered : Apu Sample := ⟨.powered,defaultHostSampleRate,true,0,[],0⟩

/-- The registers are reset; the rate and the host's choices are kept. -/
def reset (apu : Apu Sample) : Apu Sample :=
  {apu with
    generators := {Generators.powered with channelMutes := apu.generators.channelMutes}
    sampleCycleAccumulator := 0
    samples := []}

def cyclesUntilNextSample (apu : Apu Sample) : Nat :=
  (cpuClockHz - apu.sampleCycleAccumulator + apu.sampleRate - 1) / apu.sampleRate

-- One sample for every second of the accumulator that is complete.
def advanceSampleClock (cycles : Nat) (ram : List UInt8) (apu : Apu Sample) : Apu Sample :=
  let accumulator := apu.sampleCycleAccumulator + cycles * apu.sampleRate
  {apu with
    elapsed := apu.elapsed + cycles
    sampleCycleAccumulator := accumulator % cpuClockHz
    samples := apu.samples ++
      List.replicate (accumulator / cpuClockHz) (apu.elapsed + cycles,mix apu.generators ram)}

def advanceChunk (ram : List UInt8) (cycles : Nat) (apu : Apu Sample) : Apu Sample :=
  advanceSampleClock mix cycles ram {apu with generators := apu.generators.advance cycles}

def stepLoop (ram : List UInt8) : Nat → Nat → Apu Sample → Apu Sample
  | 0,_,apu => apu
  | fuel + 1,remaining,apu =>
    if remaining = 0 then apu
    else
      let chunk := min remaining (max apu.cyclesUntilNextSample 1)
      stepLoop ram fuel (remaining - chunk) (advanceChunk mix ram chunk apu)

def stepCycles (cycles : Nat) (ram : List UInt8) (apu : Apu Sample) : Apu Sample :=
  if apu.sampleGenerationEnabled = false then
    {apu with
      generators := apu.generators.advance cycles
      sampleCycleAccumulator := (apu.sampleCycleAccumulator + cycles * apu.sampleRate) % cpuClockHz
      elapsed := apu.elapsed + cycles}
  else stepLoop mix ram cycles cycles apu

def write8 (apu : Apu Sample) (port : UInt16) (value : UInt8) : Apu Sample :=
  {apu with generators := apu.generators.write8 port value}

end Apu

end ZeffBoy.WonderSwan
