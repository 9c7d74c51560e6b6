import ZeffBoy.WonderSwan.ApuClock
import ZeffBoy.WonderSwan.Io

/-! When the service of the bus may be put off.
Before the next event the hardware only counts. The counters are additive, nothing that is written to memory reaches them, and
nothing that they count is read outside the ports. -/
namespace ZeffBoy.WonderSwan
open Library
open Link.WonderSwan (Uart serialControlEnable)

namespace Serial

def sends (uart : Uart) (control : UInt8) : Prop := control &&& serialControlEnable ≠ 0 ∧ uart.txPending = true

instance (uart : Uart) (control : UInt8) : Decidable (sends uart control) := inferInstanceAs (Decidable (_ ∧ _))

def wait (cycles : Nat) (control : UInt8) (uart : Uart) : Uart :=
  if sends uart control then {uart with txCyclesRemaining := uart.txCyclesRemaining - cycles} else uart

theorem stepCycles_wait {uart : Uart} {control : UInt8} {cycles : Nat}
    (short : sends uart control → cycles < uart.txCyclesRemaining) (clock : Nat) :
    uart.stepCycles cycles control clock = wait cycles control uart := by
  unfold Uart.stepCycles wait
  by_cases busy : sends uart control
  · have enabled : ¬(control &&& serialControlEnable = 0 ∨ (!uart.txPending) = true) := by simpa [sends] using busy
    rw [if_neg enabled,if_pos busy,if_pos (short busy)]
  · have idle : control &&& serialControlEnable = 0 ∨ (!uart.txPending) = true := by
      simp only [sends,not_and_or,not_not] at busy
      simpa using busy
    rw [if_pos idle,if_neg busy]

theorem stepCycles_split {uart : Uart} {control : UInt8} {first : Nat} (short : sends uart control → first < uart.txCyclesRemaining)
    (second clock : Nat) :
    (wait first control uart).stepCycles second control clock = uart.stepCycles (first + second) control clock := by
  by_cases busy : sends uart control
  · have before := short busy
    have enabled : ¬(control &&& serialControlEnable = 0 ∨ (!uart.txPending) = true) := by simpa [sends] using busy
    rw [wait,if_pos busy]
    unfold Uart.stepCycles
    dsimp only
    rw [if_neg enabled,if_neg enabled]
    by_cases whole : first + second < uart.txCyclesRemaining
    · rw [if_pos whole,if_pos (by omega),Nat.sub_sub]
    · have late : second - (uart.txCyclesRemaining - first) = first + second - uart.txCyclesRemaining := by omega
      rw [if_neg whole,if_neg (by omega),late]
  · rw [wait,if_neg busy,stepCycles_wait (fun busy' => absurd busy' busy),stepCycles_wait (fun busy' => absurd busy' busy),wait,wait,
      if_neg busy,if_neg busy]

end Serial

namespace Hardware
variable {Frame Sample : Type} {board : Board Frame Sample}

def Refreshed (hardware : Hardware Frame Sample) : Prop :=
  hardware.io irqStatusPort ||| hardware.levelInterrupts = hardware.io irqStatusPort

/-- The hardware before its next event: it only counts. -/
def idle (board : Board Frame Sample) (cycles : Nat) (hardware : Hardware Frame Sample) : Hardware Frame Sample :=
  {hardware with
    rtc := if hardware.cartridge.footer.rtcPresent then hardware.rtc.stepCycles cycles else hardware.rtc
    uart := Serial.wait cycles (hardware.io serialControlPort) hardware.uart
    apu := hardware.apu.stepCycles board.mix cycles hardware.ram
    soundDma := if hardware.io soundDmaControlPort &&& soundDmaEnable = 0 then hardware.soundDma
      else {hardware.soundDma with cycleAccumulator := hardware.soundDma.cycleAccumulator + cycles}
    ppu := hardware.ppu.along cycles}

/-- What has to happen later than a number of cycles for the hardware to only count. -/
structure Quiet (cycles : Nat) (hardware : Hardware Frame Sample) : Prop where
  line : hardware.ppu.lineCycles + cycles < cyclesPerScanline
  byte : Serial.sends hardware.uart (hardware.io serialControlPort) → cycles < hardware.uart.txCyclesRemaining
  transfer : hardware.io soundDmaControlPort &&& soundDmaEnable ≠ 0 →
    hardware.soundDma.cycleAccumulator + cycles < soundDmaCyclePeriod (hardware.io soundDmaControlPort)

variable {hardware : Hardware Frame Sample}

theorem quiet_of_lt {cycles : Nat} (some' : 0 < cycles)
    (short : cycles < hardware.haltedCpuNextEventCycles) : Quiet cycles hardware := by
  unfold haltedCpuNextEventCycles cyclesUntilTxComplete cyclesUntilNextSoundDmaTransfer at short
  dsimp only at short
  constructor
  · split at short <;> split at short <;> omega
  · intro busy
    rw [if_pos (show _ ∧ _ from busy)] at short
    dsimp only at short
    split at short <;> omega
  · intro enabled
    rw [if_neg enabled] at short
    dsimp only at short
    omega

theorem refresh_of_refreshed (refreshed : Refreshed hardware) :
    hardware.refreshLevelInterrupts = hardware := by
  rw [refreshLevelInterrupts,refreshed,poke,Function.update_eq_self]

theorem levelInterrupts_congr {one two : Hardware Frame Sample} (pending : one.uart.txPending = two.uart.txPending)
    (ready : one.uart.rxReady = two.uart.rxReady) (overrun : one.uart.overrun = two.uart.overrun)
    (control : one.io serialControlPort = two.io serialControlPort) (enable : one.io irqEnablePort = two.io irqEnablePort) :
    one.levelInterrupts = two.levelInterrupts := by
  have status : one.serialControlRead = two.serialControlRead := by
    simp only [serialControlRead,Uart.status,pending,ready,overrun,control]
  simp only [levelInterrupts,status,enable]

theorem refreshed_congr {one two : Hardware Frame Sample} (pending : one.uart.txPending = two.uart.txPending)
    (ready : one.uart.rxReady = two.uart.rxReady) (overrun : one.uart.overrun = two.uart.overrun)
    (control : one.io serialControlPort = two.io serialControlPort) (enable : one.io irqEnablePort = two.io irqEnablePort)
    (status : one.io irqStatusPort = two.io irqStatusPort) (refreshed : Refreshed one) : Refreshed two := by
  rw [Refreshed,← status,← levelInterrupts_congr pending ready overrun control enable]
  exact refreshed

theorem wait_flags (cycles : Nat) (control : UInt8) (uart : Uart) : (Serial.wait cycles control uart).txPending = uart.txPending ∧
    (Serial.wait cycles control uart).rxReady = uart.rxReady ∧ (Serial.wait cycles control uart).overrun = uart.overrun := by
  unfold Serial.wait
  split <;> exact ⟨rfl,rfl,rfl⟩

theorem soundDmaLoop_quiet {control : UInt8} {fuel available : Nat} (short : available < soundDmaCyclePeriod control)
    (hardware : Hardware Frame Sample) : soundDmaLoop control fuel available hardware = (available,hardware) := by
  cases fuel with
  | zero => rfl
  | succ fuel => rw [soundDmaLoop,if_pos short]

def clocked (cycles : Nat) (hardware : Hardware Frame Sample) : Hardware Frame Sample :=
  {hardware with
    rtc := if hardware.cartridge.footer.rtcPresent then hardware.rtc.stepCycles cycles else hardware.rtc
    uart := hardware.uart.stepCycles cycles (hardware.io serialControlPort) hardware.cycles.toNat}

def sounded (board : Board Frame Sample) (cycles : Nat) (hardware : Hardware Frame Sample) : Hardware Frame Sample :=
  {hardware with apu := hardware.apu.stepCycles board.mix cycles hardware.ram}

def beam (board : Board Frame Sample) (cycles : Nat) (hardware : Hardware Frame Sample) : Hardware Frame Sample :=
  passed (hardware.ppu.stepCycles board.screen cycles hardware.ram hardware.io).2
    {hardware with ppu := (hardware.ppu.stepCycles board.screen cycles hardware.ram hardware.io).1}

theorem serviceCycles_eq (cycles : Nat) (hardware : Hardware Frame Sample) : hardware.serviceCycles board cycles =
    ((((hardware.clocked cycles).refreshLevelInterrupts).sounded board cycles).stepSoundDma cycles).beam board cycles := by
  unfold serviceCycles clocked
  cases hardware.cartridge.footer.rtcPresent <;> rfl

theorem passed_none (hardware : Hardware Frame Sample) : passed .none hardware = hardware := rfl

theorem serviceCycles_idle {cycles : Nat} (refreshed : Refreshed hardware)
    (quiet : Quiet cycles hardware) : hardware.serviceCycles board cycles = hardware.idle board cycles := by
  have waits := Serial.stepCycles_wait quiet.byte hardware.cycles.toNat
  obtain ⟨pending,ready,overrun⟩ := wait_flags cycles (hardware.io serialControlPort) hardware.uart
  have raised : Refreshed (hardware.clocked cycles) := by
    rw [clocked,waits]
    exact refreshed_congr pending.symm ready.symm overrun.symm rfl rfl rfl refreshed
  rw [serviceCycles_eq,refresh_of_refreshed raised,clocked,waits,sounded,stepSoundDma]
  dsimp only
  by_cases enabled : hardware.io soundDmaControlPort &&& soundDmaEnable = 0
  · rw [if_pos enabled,beam]
    dsimp only
    rw [Ppu.stepCycles_along quiet.line,passed_none,idle,if_pos enabled]
  · rw [if_neg enabled,soundDmaLoop_quiet (quiet.transfer enabled),beam]
    dsimp only
    rw [Ppu.stepCycles_along quiet.line,passed_none,idle,if_neg enabled]

section Split

/-- The same hardware at another cycle of its line, and with other cycles waiting for the sound DMA. -/
def retime (accumulator : Nat) (ppu : Ppu Frame) (hardware : Hardware Frame Sample) : Hardware Frame Sample :=
  {hardware with soundDma := {hardware.soundDma with cycleAccumulator := accumulator}, ppu := ppu}

section
variable (accumulator : Nat) (ppu : Ppu Frame) (hardware : Hardware Frame Sample)

theorem poke_retime (port : UInt16) (value : UInt8) :
    (hardware.retime accumulator ppu).poke port value = (hardware.poke port value).retime accumulator ppu := rfl

theorem setSoundDmaSource_retime (value : UInt32) :
    (hardware.retime accumulator ppu).setSoundDmaSource value = (hardware.setSoundDmaSource value).retime accumulator ppu := rfl

theorem setSoundDmaLength_retime (value : UInt32) :
    (hardware.retime accumulator ppu).setSoundDmaLength value = (hardware.setSoundDmaLength value).retime accumulator ppu := rfl

theorem writeSoundDmaTarget_retime (control value : UInt8) : (hardware.retime accumulator ppu).writeSoundDmaTarget control value =
    (hardware.writeSoundDmaTarget control value).retime accumulator ppu := rfl

theorem soundDmaSource_retime : (hardware.retime accumulator ppu).soundDmaSource = hardware.soundDmaSource := rfl

theorem soundDmaLength_retime : (hardware.retime accumulator ppu).soundDmaLength = hardware.soundDmaLength := rfl

theorem peek8_retime (addr : UInt32) : (hardware.retime accumulator ppu).peek8 addr = hardware.peek8 addr := rfl

theorem transferSoundDmaByte_retime (control : UInt8) : (hardware.retime accumulator ppu).transferSoundDmaByte control =
    Prod.map id (retime accumulator ppu) (hardware.transferSoundDmaByte control) := by
  have source : (hardware.retime accumulator ppu).soundDma.reloadSource = hardware.soundDma.reloadSource := rfl
  have length : (hardware.retime accumulator ppu).soundDma.reloadLength = hardware.soundDma.reloadLength := rfl
  unfold transferSoundDmaByte
  rw [soundDmaLength_retime,source,length]
  split
  · rfl
  · by_cases empty : hardware.soundDmaLength = 0
    all_goals
      simp only [empty,↓reduceIte,Prod.map,id,setSoundDmaSource_retime,setSoundDmaLength_retime,writeSoundDmaTarget_retime,
        soundDmaSource_retime,peek8_retime,poke_retime]
      split <;> rfl

end

theorem soundDmaLoop_retime (accumulator : Nat) (ppu : Ppu Frame) (control : UInt8) (fuel available : Nat)
    (hardware : Hardware Frame Sample) : soundDmaLoop control fuel available (hardware.retime accumulator ppu) =
      Prod.map id (retime accumulator ppu) (soundDmaLoop control fuel available hardware) := by
  induction fuel generalizing available hardware with
  | zero => rfl
  | succ fuel ih =>
    rw [soundDmaLoop,soundDmaLoop]
    split
    · rfl
    · dsimp only
      split
      · rw [writeSoundDmaTarget_retime,ih]
      · rw [transferSoundDmaByte_retime]
        rcases hardware.transferSoundDmaByte control with ⟨_ | _,after⟩
        · rfl
        · simp only [Prod.map,id]
          split
          · rename_i stopped
            rw [if_pos (show after.io soundDmaControlPort &&& soundDmaEnable = 0 from stopped)]
          · rename_i running
            rw [if_neg (show ¬after.io soundDmaControlPort &&& soundDmaEnable = 0 from running),ih]
            rfl

theorem stepSoundDma_retime (ppu : Ppu Frame) (first second : Nat) (hardware : Hardware Frame Sample)
    (enabled : ¬hardware.io soundDmaControlPort &&& soundDmaEnable = 0) :
    (hardware.retime (hardware.soundDma.cycleAccumulator + first) ppu).stepSoundDma second =
      {hardware.stepSoundDma (first + second) with ppu := ppu} := by
  rw [stepSoundDma,stepSoundDma,if_neg enabled,
    if_neg (show ¬(hardware.retime _ ppu).io soundDmaControlPort &&& soundDmaEnable = 0 from enabled)]
  have total : (hardware.retime (hardware.soundDma.cycleAccumulator + first) ppu).soundDma.cycleAccumulator + second =
      hardware.soundDma.cycleAccumulator + (first + second) := add_assoc _ _ _
  dsimp only
  rw [total,show (hardware.retime _ ppu).io soundDmaControlPort = hardware.io soundDmaControlPort from rfl,soundDmaLoop_retime]
  rfl

theorem stepSoundDma_disabled (disabled : hardware.io soundDmaControlPort &&& soundDmaEnable = 0)
    (cycles : Nat) : hardware.stepSoundDma cycles = hardware := if_pos disabled

theorem beam_along {ppu : Ppu Frame} {first : Nat}
    (short : ppu.lineCycles + first < cyclesPerScanline) (second : Nat) :
    {hardware with ppu := ppu.along first}.beam board second = {hardware with ppu := ppu}.beam board (first + second) := by
  unfold beam
  dsimp only
  rw [Ppu.stepCycles_split short]

theorem ppu_stepSoundDma (cycles : Nat) (hardware : Hardware Frame Sample) :
    {hardware.stepSoundDma cycles with ppu := hardware.ppu} = hardware.stepSoundDma cycles := by
  by_cases enabled : hardware.io soundDmaControlPort &&& soundDmaEnable = 0
  · rw [stepSoundDma_disabled enabled]
  · have still := stepSoundDma_retime hardware.ppu 0 cycles hardware enabled
    rw [zero_add] at still
    exact still.symm

def waiting (cycles : Nat) (hardware : Hardware Frame Sample) : Nat :=
  if hardware.io soundDmaControlPort &&& soundDmaEnable = 0 then hardware.soundDma.cycleAccumulator
  else hardware.soundDma.cycleAccumulator + cycles

theorem retime_split {first : Nat}
    (short : hardware.ppu.lineCycles + first < cyclesPerScanline) (second : Nat) :
    ((hardware.retime (hardware.waiting first) (hardware.ppu.along first)).stepSoundDma second).beam board second =
      (hardware.stepSoundDma (first + second)).beam board (first + second) := by
  by_cases enabled : hardware.io soundDmaControlPort &&& soundDmaEnable = 0
  · have disabled : (hardware.retime (hardware.waiting first) (hardware.ppu.along first)).io soundDmaControlPort &&&
        soundDmaEnable = 0 := enabled
    rw [stepSoundDma_disabled disabled,stepSoundDma_disabled enabled,waiting,if_pos enabled]
    exact beam_along short second
  · rw [waiting,if_neg enabled,stepSoundDma_retime _ _ _ _ enabled,beam_along short,ppu_stepSoundDma]

theorem serviceCycles_split {first : Nat} (quiet : Quiet first hardware) (second : Nat) :
    (hardware.idle board first).serviceCycles board second = hardware.serviceCycles board (first + second) := by
  have byte := Serial.stepCycles_split quiet.byte second hardware.cycles.toNat
  have sound := @Apu.stepCycles_additive _ board.mix hardware.ram first second hardware.apu
  have counted : (hardware.idle board first).clocked second =
      {(hardware.clocked (first + second)).retime (hardware.waiting first) (hardware.ppu.along first) with
        apu := hardware.apu.stepCycles board.mix first hardware.ram} := by
    unfold clocked idle retime waiting
    dsimp only
    rw [byte]
    split
    · rw [Rtc.stepCycles_additive]
      split <;> rfl
    · split <;> rfl
  -- Everything but the sound DMA and the beam has caught up.
  have caught : (((hardware.idle board first).clocked second).refreshLevelInterrupts).sounded board second =
      ((((hardware.clocked (first + second)).refreshLevelInterrupts).sounded board (first + second)).retime
        (hardware.waiting first) (hardware.ppu.along first)) := by
    dsimp only at sound
    rw [counted]
    show {((hardware.clocked (first + second)).retime _ _).refreshLevelInterrupts with
      apu := (hardware.apu.stepCycles board.mix first hardware.ram).stepCycles board.mix second hardware.ram} = _
    rw [sound]
    rfl
  rw [serviceCycles_eq,serviceCycles_eq,caught]
  exact @retime_split _ _ _ (((hardware.clocked (first + second)).refreshLevelInterrupts).sounded board (first + second)) _
    quiet.line second

end Split

section Refreshed

theorem io_poke_self (port : UInt16) (value : UInt8) (hardware : Hardware Frame Sample) : (hardware.poke port value).io port = value := by
  rw [poke]
  exact Function.update_self port value hardware.io

theorem io_poke_of_ne {port other : UInt16} (apart : other ≠ port) (value : UInt8) (hardware : Hardware Frame Sample) :
    (hardware.poke port value).io other = hardware.io other := by
  rw [poke]
  exact Function.update_of_ne apart value hardware.io

theorem levelInterrupts_pokeStatus (value : UInt8) (hardware : Hardware Frame Sample) :
    (hardware.poke irqStatusPort value).levelInterrupts = hardware.levelInterrupts :=
  levelInterrupts_congr rfl rfl rfl (io_poke_of_ne (by decide) value hardware) (io_poke_of_ne (by decide) value hardware)

theorem refreshed_refresh (hardware : Hardware Frame Sample) : Refreshed hardware.refreshLevelInterrupts := by
  rw [Refreshed,refreshLevelInterrupts,levelInterrupts_pokeStatus,io_poke_self,UInt8.or_assoc,UInt8.or_self]

/-- A port that the serial line does not look at. -/
def Aside (port : UInt16) : Prop := serialControlPort ≠ port ∧ irqEnablePort ≠ port ∧ irqStatusPort ≠ port

instance (port : UInt16) : Decidable (Aside port) := inferInstanceAs (Decidable (_ ∧ _))

theorem Refreshed.poke {port : UInt16} (aside : Aside port) (value : UInt8) (refreshed : Refreshed hardware) :
    Refreshed (hardware.poke port value) :=
  @refreshed_congr _ _ hardware (hardware.poke port value) rfl rfl rfl (io_poke_of_ne aside.1 value hardware).symm
    (io_poke_of_ne aside.2.1 value hardware).symm (io_poke_of_ne aside.2.2 value hardware).symm refreshed

theorem Refreshed.setWord {low high : UInt16} (aside : Aside low ∧ Aside high) (value : UInt16) (refreshed : Refreshed hardware) :
    Refreshed (hardware.setWord low high value) := (refreshed.poke aside.1 _).poke aside.2 _

theorem Refreshed.setSegmented {low high segment segmentHigh : UInt16}
    (aside : (Aside low ∧ Aside high) ∧ Aside segment ∧ Aside segmentHigh) (value : UInt32) (refreshed : Refreshed hardware) :
    Refreshed (hardware.setSegmented low high segment segmentHigh value) :=
  ((refreshed.setWord aside.1 _).poke aside.2.1 _).poke aside.2.2 _

theorem Refreshed.choose {condition : Prop} [Decidable condition] {one two : Hardware Frame Sample} (first : Refreshed one)
    (second : Refreshed two) : Refreshed (if condition then one else two) := by
  split
  · exact first
  · exact second

theorem Refreshed.raiseInterrupt (mask : UInt8) (refreshed : Refreshed hardware) : Refreshed (hardware.raiseInterrupt mask) := by
  refine choose ?_ refreshed
  rw [Refreshed,levelInterrupts_pokeStatus,io_poke_self,UInt8.or_assoc,UInt8.or_comm mask,← UInt8.or_assoc,refreshed]

theorem Refreshed.stepHblankTimer (refreshed : Refreshed hardware) : Refreshed hardware.stepHblankTimer := by
  have raised {condition : Prop} [Decidable condition] {after : Hardware Frame Sample} (counted : Refreshed after) :
      Refreshed (if condition then after.raiseInterrupt irqHblankTimer else after) := choose (counted.raiseInterrupt _) counted
  have counted (value : UInt16) := refreshed.setWord (show Aside hblankTimerCountLoPort ∧ Aside hblankTimerCountHiPort by decide) value
  refine raised (choose (choose (choose ?_ ?_) (counted _)) refreshed)
  · exact (counted _).setWord (by decide) _
  · exact (counted _).setWord (by decide) _

theorem Refreshed.stepVblankTimer (refreshed : Refreshed hardware) : Refreshed hardware.stepVblankTimer := by
  have raised {condition : Prop} [Decidable condition] {after : Hardware Frame Sample} (counted : Refreshed after) :
      Refreshed (if condition then after.raiseInterrupt irqVblankTimer else after) := choose (counted.raiseInterrupt _) counted
  have counted (value : UInt16) := refreshed.setWord (show Aside vblankTimerCountLoPort ∧ Aside vblankTimerCountHiPort by decide) value
  refine raised (choose (choose (choose ?_ ?_) (counted _)) refreshed)
  · exact (counted _).setWord (by decide) _
  · exact (counted _).setWord (by decide) _

theorem Refreshed.passed (events : PpuStepEvents) (refreshed : Refreshed hardware) : Refreshed (passed events hardware) := by
  have lines (count : Nat) : Refreshed (Hardware.stepHblankTimer^[count] hardware) := by
    induction count with
    | zero => exact refreshed
    | succ count ih =>
      rw [Function.iterate_succ_apply']
      exact ih.stepHblankTimer
  refine choose (raiseInterrupt _ ?_) ?_ <;> exact choose ((lines _).raiseInterrupt _).stepVblankTimer (lines _)

theorem Refreshed.transferSoundDmaByte (control : UInt8) (refreshed : Refreshed hardware) :
    Refreshed (hardware.transferSoundDmaByte control).2 := by
  have source {after : Hardware Frame Sample} (fine : Refreshed after) (value : UInt32) : Refreshed (after.setSoundDmaSource value) :=
    fine.setSegmented (by decide) _
  have length {after : Hardware Frame Sample} (fine : Refreshed after) (value : UInt32) : Refreshed (after.setSoundDmaLength value) :=
    fine.setSegmented (by decide) _
  unfold Hardware.transferSoundDmaByte
  split
  · exact refreshed.poke (by decide) _
  · have loaded : Refreshed (if hardware.soundDmaLength = 0 then
        (hardware.soundDma.reloadLength,
          (hardware.setSoundDmaSource hardware.soundDma.reloadSource).setSoundDmaLength hardware.soundDma.reloadLength)
      else (hardware.soundDmaLength,hardware)).2 := by
      split
      · exact length (source refreshed _) _
      · exact refreshed
    have moved (next rest : UInt32) (after : Hardware Frame Sample) (fine : Refreshed after) (byte : UInt8) :
        Refreshed (((after.writeSoundDmaTarget control byte).setSoundDmaSource next).setSoundDmaLength rest) :=
      length (source fine next) rest
    refine choose (poke (by decide) _ ?_) ?_ <;> exact moved _ _ _ loaded _

theorem Refreshed.soundDmaLoop (control : UInt8) (fuel available : Nat) (refreshed : Refreshed hardware) :
    Refreshed (soundDmaLoop control fuel available hardware).2 := by
  induction fuel generalizing available hardware with
  | zero => exact refreshed
  | succ fuel ih =>
    rw [Hardware.soundDmaLoop]
    split
    · exact refreshed
    · dsimp only
      split
      · exact ih _ refreshed
      · have moved := refreshed.transferSoundDmaByte control
        generalize hardware.transferSoundDmaByte control = result at moved
        rcases result with ⟨_ | _,after⟩
        · exact moved
        · dsimp only
          split
          · exact moved
          · exact ih _ moved

theorem Refreshed.stepSoundDma (cycles : Nat) (refreshed : Refreshed hardware) : Refreshed (hardware.stepSoundDma cycles) := by
  unfold Hardware.stepSoundDma
  dsimp only
  split
  · exact refreshed
  · exact refreshed.soundDmaLoop _ _ _

theorem refreshed_serviceCycles (cycles : Nat) (hardware : Hardware Frame Sample) :
    Refreshed (hardware.serviceCycles board cycles) := by
  rw [serviceCycles_eq]
  have sound : Refreshed ((hardware.clocked cycles).refreshLevelInterrupts.sounded board cycles) :=
    refreshed_refresh (hardware.clocked cycles)
  refine Refreshed.passed _ ?_
  exact sound.stepSoundDma cycles

end Refreshed

end Hardware

end ZeffBoy.WonderSwan
