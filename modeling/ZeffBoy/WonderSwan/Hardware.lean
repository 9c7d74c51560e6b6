import ZeffBoy.Link.Uart
import ZeffBoy.WonderSwan.Cartridge
import ZeffBoy.WonderSwan.Apu
import ZeffBoy.WonderSwan.Ppu

/-! Everything on the bus of a WonderSwan, and what it does in a number of cycles. -/
namespace ZeffBoy.WonderSwan
open Link.WonderSwan (Uart serialStatusRxReady serialStatusTxEmpty serialControlEnable)

def irqVectorBasePort : UInt16 := 0xB0
def serialDataPort : UInt16 := 0xB1
def irqEnablePort : UInt16 := 0xB2
def serialControlPort : UInt16 := 0xB3
def irqStatusPort : UInt16 := 0xB4
def irqAckPort : UInt16 := 0xB6
def currentLinePort : UInt16 := 0x02
def lineComparePort : UInt16 := 0x03
def lcdControlPort : UInt16 := 0x14
def lcdVtotalPort : UInt16 := 0x16
def timerControlPort : UInt16 := 0xA2
def hblankTimerReloadLoPort : UInt16 := 0xA4
def hblankTimerReloadHiPort : UInt16 := 0xA5
def vblankTimerReloadLoPort : UInt16 := 0xA6
def vblankTimerReloadHiPort : UInt16 := 0xA7
def hblankTimerCountLoPort : UInt16 := 0xA8
def hblankTimerCountHiPort : UInt16 := 0xA9
def vblankTimerCountLoPort : UInt16 := 0xAA
def vblankTimerCountHiPort : UInt16 := 0xAB
def systemControlPort : UInt16 := 0xA0
def dmaSourceLoPort : UInt16 := 0x40
def dmaSourceHiPort : UInt16 := 0x41
def dmaSourceSegmentPort : UInt16 := 0x42
def dmaSourceSegmentHighPort : UInt16 := 0x43
def dmaDestinationLoPort : UInt16 := 0x44
def dmaDestinationHiPort : UInt16 := 0x45
def dmaLengthLoPort : UInt16 := 0x46
def dmaLengthHiPort : UInt16 := 0x47
def dmaControlPort : UInt16 := 0x48
def soundDmaSourceLoPort : UInt16 := 0x4A
def soundDmaSourceHiPort : UInt16 := 0x4B
def soundDmaSourceSegmentPort : UInt16 := 0x4C
def soundDmaSourceSegmentHighPort : UInt16 := 0x4D
def soundDmaLengthLoPort : UInt16 := 0x4E
def soundDmaLengthHiPort : UInt16 := 0x4F
def soundDmaLengthSegmentPort : UInt16 := 0x50
def soundDmaLengthSegmentHighPort : UInt16 := 0x51
def soundDmaControlPort : UInt16 := 0x52
def internalEepromDataLoPort : UInt16 := 0xBA
def internalEepromDataHiPort : UInt16 := 0xBB
def internalEepromAddrLoPort : UInt16 := 0xBC
def internalEepromAddrHiPort : UInt16 := 0xBD
def internalEepromCommandPort : UInt16 := 0xBE
def soundVolumeChannel2Port : UInt16 := 0x89

def soundDmaEnable : UInt8 := 0x80
def soundDmaDecrement : UInt8 := 0x40
def soundDmaTargetHypervoice : UInt8 := 0x10
def soundDmaRepeat : UInt8 := 0x08
def soundDmaHold : UInt8 := 0x04
def soundDmaControlMask : UInt8 := 0xDF
def systemCtrl1RomWait : UInt8 := 0x08
def irqSerialTx : UInt8 := 0x01
def irqKeypad : UInt8 := 0x02
def irqSerialRx : UInt8 := 0x08
def irqLineCompare : UInt8 := 0x10
def irqVblankTimer : UInt8 := 0x20
def irqVblank : UInt8 := 0x40
def irqHblankTimer : UInt8 := 0x80

structure SoundDma where
  reloadSource : UInt32
  reloadLength : UInt32
  cycleAccumulator : Nat

structure DeferredLinearBank where
  value : UInt8
  remainingInstructionRetires : UInt8

/-- What is outside the machine: the picture and the sound. -/
structure Board (Frame Sample : Type) where
  screen : Screen Frame
  mix : Generators → Ram → Sample

/-- The bus, apart from what is put off. -/
structure Hardware (Frame Sample : Type) where
  cartridge : Cartridge
  ppu : Ppu Frame
  apu : Apu Sample
  keypad : Keypad
  ram : Ram
  io : Ports
  internalEeprom : List UInt8
  rtc : Rtc
  uart : Uart
  soundDma : SoundDma
  internalEepromWriteEnabled : Bool
  internalEepromProtected : Bool
  internalEepromDoneDelayReads : UInt8
  cartridgeEepromWriteEnabled : Bool
  pendingLinearBank : Option DeferredLinearBank
  cycles : UInt64

namespace Hardware
variable {Frame Sample : Type}

def isColorModel (hardware : Hardware Frame Sample) : Bool := hardware.cartridge.footer.minimumSystem ≠ .wonderSwan

def poke (port : UInt16) (value : UInt8) (hardware : Hardware Frame Sample) : Hardware Frame Sample :=
  {hardware with io := Function.update hardware.io port value}

def word (low high : UInt16) (hardware : Hardware Frame Sample) : UInt16 := wordOf (hardware.io low) (hardware.io high)

def setWord (low high : UInt16) (value : UInt16) (hardware : Hardware Frame Sample) : Hardware Frame Sample :=
  (hardware.poke low (lowByte value)).poke high (highByte value)

def peek8 (addr : UInt32) (hardware : Hardware Frame Sample) : UInt8 :=
  let masked := (addr &&& addressMask).toNat
  if masked < 0x10000 then hardware.ram.getD masked 0x90 else hardware.cartridge.romRead8 addr

def write8 (addr : UInt32) (value : UInt8) (hardware : Hardware Frame Sample) : Hardware Frame Sample :=
  let masked := (addr &&& addressMask).toNat
  if masked < 0x10000 then {hardware with ram := hardware.ram.set masked value}
  else {hardware with cartridge := hardware.cartridge.romWrite8 addr value}

section Interrupts

def highestInterruptId (pending : UInt8) : UInt8 := UInt8.ofNat (Nat.log2 pending.toNat)

def pendingInterruptVector (hardware : Hardware Frame Sample) : Option UInt8 :=
  if hardware.io irqStatusPort = 0 then none
  else some ((hardware.io irqVectorBasePort &&& 0xF8) ||| highestInterruptId (hardware.io irqStatusPort))

def hasPendingInterruptSignal (hardware : Hardware Frame Sample) : Bool := hardware.io irqStatusPort ≠ 0

def interruptBaseRead (hardware : Hardware Frame Sample) : UInt8 :=
  (hardware.io irqVectorBasePort &&& 0xF8) |||
    (if hardware.io irqStatusPort = 0 then 0 else highestInterruptId (hardware.io irqStatusPort))

def raiseInterrupt (mask : UInt8) (hardware : Hardware Frame Sample) : Hardware Frame Sample :=
  if hardware.io irqEnablePort &&& mask ≠ 0 then hardware.poke irqStatusPort (hardware.io irqStatusPort ||| mask) else hardware

def serialControlRead (hardware : Hardware Frame Sample) : UInt8 := hardware.uart.status (hardware.io serialControlPort)

/-- The interrupts whose serial line is up. -/
def levelInterrupts (hardware : Hardware Frame Sample) : UInt8 :=
  let status := hardware.serialControlRead
  let enabled := status &&& serialControlEnable ≠ 0
  (if enabled ∧ status &&& serialStatusTxEmpty ≠ 0 ∧ hardware.io irqEnablePort &&& irqSerialTx ≠ 0 then irqSerialTx else 0) |||
    (if enabled ∧ status &&& serialStatusRxReady ≠ 0 ∧ hardware.io irqEnablePort &&& irqSerialRx ≠ 0 then irqSerialRx else 0)

def refreshLevelInterrupts (hardware : Hardware Frame Sample) : Hardware Frame Sample :=
  hardware.poke irqStatusPort (hardware.io irqStatusPort ||| hardware.levelInterrupts)

end Interrupts

section Timers

-- One line of the display passes. The interrupt does not depend on the timer being enabled.
def stepHblankTimer (hardware : Hardware Frame Sample) : Hardware Frame Sample :=
  let control := hardware.io timerControlPort
  let count := hardware.word hblankTimerCountLoPort hblankTimerCountHiPort
  let next := count - 1
  let hardware := if control &&& 0x01 ≠ 0 ∧ count ≠ 0 then
      let hardware := hardware.setWord hblankTimerCountLoPort hblankTimerCountHiPort next
      if next = 0 then
        if control &&& 0x02 ≠ 0 then
          hardware.setWord hblankTimerCountLoPort hblankTimerCountHiPort
            (hardware.word hblankTimerReloadLoPort hblankTimerReloadHiPort)
        else hardware.setWord hblankTimerReloadLoPort hblankTimerReloadHiPort 0
      else hardware
    else hardware
  if next = 0 then hardware.raiseInterrupt irqHblankTimer else hardware

def stepVblankTimer (hardware : Hardware Frame Sample) : Hardware Frame Sample :=
  let control := hardware.io timerControlPort
  let count := hardware.word vblankTimerCountLoPort vblankTimerCountHiPort
  let next := count - 1
  let hardware := if control &&& 0x04 ≠ 0 ∧ count ≠ 0 then
      let hardware := hardware.setWord vblankTimerCountLoPort vblankTimerCountHiPort next
      if next = 0 then
        if control &&& 0x08 ≠ 0 then
          hardware.setWord vblankTimerCountLoPort vblankTimerCountHiPort
            (hardware.word vblankTimerReloadLoPort vblankTimerReloadHiPort)
        else hardware.setWord vblankTimerReloadLoPort vblankTimerReloadHiPort 0
      else hardware
    else hardware
  if next = 0 then hardware.raiseInterrupt irqVblankTimer else hardware

end Timers

section SoundDma

def segmented (low high segment : UInt16) (hardware : Hardware Frame Sample) : UInt32 :=
  (hardware.word low high).toUInt32 ||| (hardware.io segment &&& 0x0F).toUInt32 <<< 16

def setSegmented (low high segment segmentHigh : UInt16) (value : UInt32) (hardware : Hardware Frame Sample) :
    Hardware Frame Sample :=
  (((hardware.setWord low high value.toUInt16).poke segment ((value >>> 16).toUInt8 &&& 0x0F)).poke segmentHigh 0)

def soundDmaSource (hardware : Hardware Frame Sample) : UInt32 :=
  hardware.segmented soundDmaSourceLoPort soundDmaSourceHiPort soundDmaSourceSegmentPort

def setSoundDmaSource (value : UInt32) (hardware : Hardware Frame Sample) : Hardware Frame Sample :=
  hardware.setSegmented soundDmaSourceLoPort soundDmaSourceHiPort soundDmaSourceSegmentPort soundDmaSourceSegmentHighPort
    (value &&& addressMask)

def soundDmaLength (hardware : Hardware Frame Sample) : UInt32 :=
  hardware.segmented soundDmaLengthLoPort soundDmaLengthHiPort soundDmaLengthSegmentPort

def setSoundDmaLength (value : UInt32) (hardware : Hardware Frame Sample) : Hardware Frame Sample :=
  hardware.setSegmented soundDmaLengthLoPort soundDmaLengthHiPort soundDmaLengthSegmentPort soundDmaLengthSegmentHighPort
    (value &&& addressMask)

def soundDmaCyclePeriod (control : UInt8) : Nat :=
  match (control &&& 0x03).toNat with
  | 0 => 768
  | 1 => 512
  | 2 => 256
  | _ => 128

def writeSoundDmaTarget (control value : UInt8) (hardware : Hardware Frame Sample) : Hardware Frame Sample :=
  let generators := if control &&& soundDmaTargetHypervoice ≠ 0 then hardware.apu.generators.writeHyperVoiceDmaSample value
    else hardware.apu.generators.write8 soundVolumeChannel2Port value
  {hardware with apu := {hardware.apu with generators := generators}}

def transferSoundDmaByte (control : UInt8) (hardware : Hardware Frame Sample) : Bool × Hardware Frame Sample :=
  if hardware.soundDmaLength = 0 ∧ (control &&& soundDmaRepeat = 0 ∨ hardware.soundDma.reloadLength = 0) then
    (false,hardware.poke soundDmaControlPort (control &&& ~~~soundDmaEnable))
  else
    let (length,hardware) := if hardware.soundDmaLength = 0 then
        (hardware.soundDma.reloadLength,
          (hardware.setSoundDmaSource hardware.soundDma.reloadSource).setSoundDmaLength hardware.soundDma.reloadLength)
      else (hardware.soundDmaLength,hardware)
    let source := hardware.soundDmaSource
    let hardware := hardware.writeSoundDmaTarget control (hardware.peek8 source)
    let next := if control &&& soundDmaDecrement ≠ 0 then source - 1 else source + 1
    let hardware := (hardware.setSoundDmaSource next).setSoundDmaLength (length - 1)
    (true,if length - 1 = 0 ∧ control &&& soundDmaRepeat = 0 then
      hardware.poke soundDmaControlPort (control &&& ~~~soundDmaEnable)
    else hardware)

def soundDmaLoop (control : UInt8) : Nat → Nat → Hardware Frame Sample → Nat × Hardware Frame Sample
  | 0,available,hardware => (available,hardware)
  | fuel + 1,available,hardware =>
    if available < soundDmaCyclePeriod control then (available,hardware)
    else
      let available := available - soundDmaCyclePeriod control
      if control &&& soundDmaHold ≠ 0 then soundDmaLoop control fuel available (hardware.writeSoundDmaTarget control 0)
      else
        match hardware.transferSoundDmaByte control with
        | (false,hardware) => (0,hardware)
        | (true,hardware) =>
          if hardware.io soundDmaControlPort &&& soundDmaEnable = 0 then (0,hardware)
          else soundDmaLoop control fuel available hardware

def stepSoundDma (cycles : Nat) (hardware : Hardware Frame Sample) : Hardware Frame Sample :=
  let control := hardware.io soundDmaControlPort
  if control &&& soundDmaEnable = 0 then hardware
  else
    let available := hardware.soundDma.cycleAccumulator + cycles
    let (available,hardware) := soundDmaLoop control available available hardware
    {hardware with soundDma := {hardware.soundDma with cycleAccumulator := available}}

def cyclesUntilNextSoundDmaTransfer (hardware : Hardware Frame Sample) : Option Nat :=
  let control := hardware.io soundDmaControlPort
  if control &&& soundDmaEnable = 0 then none
  else some (max (soundDmaCyclePeriod control - hardware.soundDma.cycleAccumulator) 1)

def writeSoundDmaControl (value : UInt8) (hardware : Hardware Frame Sample) : Hardware Frame Sample :=
  let wasEnabled := hardware.io soundDmaControlPort &&& soundDmaEnable ≠ 0
  let control := value &&& soundDmaControlMask
  let control := if ¬wasEnabled ∧ control &&& soundDmaEnable ≠ 0 ∧ hardware.soundDmaLength = 0 then
      control &&& ~~~soundDmaEnable
    else control
  let hardware := hardware.poke soundDmaControlPort control
  let isEnabled := control &&& soundDmaEnable ≠ 0
  if isEnabled ∧ ¬wasEnabled then {hardware with soundDma := ⟨hardware.soundDmaSource,hardware.soundDmaLength,0⟩}
  else if ¬isEnabled then {hardware with soundDma := {hardware.soundDma with cycleAccumulator := 0}}
  else hardware

end SoundDma

section GeneralDma

def gdmaSourceAccessible (source : UInt32) (hardware : Hardware Frame Sample) : Bool :=
  let masked := (source &&& addressMask).toNat
  if masked < 0x10000 then true
  else if masked < 0x20000 then false
  else if masked < 0x80000 then true
  else hardware.io systemControlPort &&& systemCtrl1RomWait = 0

def dmaLoop (step : UInt32) : Nat → Nat → UInt32 → UInt32 → Hardware Frame Sample →
    UInt32 × UInt32 × Hardware Frame Sample
  | 0,_,source,destination,hardware => (source,destination,hardware)
  | fuel + 1,remaining,source,destination,hardware =>
    if remaining = 0 then (source,destination,hardware)
    else
      let low := hardware.peek8 source
      let high := hardware.peek8 (source + 1)
      dmaLoop step fuel (remaining - 2) (source + step) (destination + step)
        ((hardware.write8 destination low).write8 (destination + 1) high)

/-- The bytes are moved, and the cycles that takes are returned. -/
def runDmaTransfer (control : UInt8) (hardware : Hardware Frame Sample) : Hardware Frame Sample × Option Nat :=
  let source := hardware.segmented dmaSourceLoPort dmaSourceHiPort dmaSourceSegmentPort
  let destination := (hardware.word dmaDestinationLoPort dmaDestinationHiPort).toUInt32
  let length := (hardware.word dmaLengthLoPort dmaLengthHiPort).toNat
  if hardware.gdmaSourceAccessible source = false then (hardware,none)
  else
    let step : UInt32 := if control &&& 0x40 ≠ 0 then -2 else 2
    let (source,destination,hardware) := dmaLoop step length length source destination hardware
    let hardware := hardware.setSegmented dmaSourceLoPort dmaSourceHiPort dmaSourceSegmentPort dmaSourceSegmentHighPort source
    let hardware := hardware.setWord dmaDestinationLoPort dmaDestinationHiPort destination.toUInt16
    let hardware := hardware.setWord dmaLengthLoPort dmaLengthHiPort 0
    (hardware.poke dmaControlPort (control &&& 0x7F),some (if length = 0 then 0 else 5 + length))

end GeneralDma

section Service
variable (board : Board Frame Sample)

def passed (events : PpuStepEvents) (hardware : Hardware Frame Sample) : Hardware Frame Sample :=
  let hardware := stepHblankTimer^[events.completedScanlines] hardware
  let hardware := if events.vblankStarted then (hardware.raiseInterrupt irqVblank).stepVblankTimer else hardware
  if events.lineCompare then hardware.raiseInterrupt irqLineCompare else hardware

def serviceCycles (cycles : Nat) (hardware : Hardware Frame Sample) : Hardware Frame Sample :=
  let hardware := if hardware.cartridge.footer.rtcPresent then {hardware with rtc := hardware.rtc.stepCycles cycles} else hardware
  let hardware := {hardware with
    uart := hardware.uart.stepCycles cycles (hardware.io serialControlPort) hardware.cycles.toNat}
  let hardware := hardware.refreshLevelInterrupts
  let hardware := {hardware with apu := hardware.apu.stepCycles board.mix cycles hardware.ram}
  let hardware := hardware.stepSoundDma cycles
  let (ppu,events) := hardware.ppu.stepCycles board.screen cycles hardware.ram hardware.io
  passed events {hardware with ppu := ppu}

def cyclesUntilTxComplete (hardware : Hardware Frame Sample) : Option Nat :=
  if hardware.io serialControlPort &&& serialControlEnable ≠ 0 ∧ hardware.uart.txPending then
    some (max hardware.uart.txCyclesRemaining 1)
  else none

def haltedCpuNextEventCycles (hardware : Hardware Frame Sample) : Nat :=
  let cycles := cyclesPerScanline - hardware.ppu.lineCycles
  let cycles := match hardware.cyclesUntilTxComplete with
    | some uart => min cycles uart
    | none => cycles
  match hardware.cyclesUntilNextSoundDmaTransfer with
  | some soundDma => min cycles soundDma
  | none => cycles

def freshFrameServiceHorizon (hardware : Hardware Frame Sample) : Nat :=
  let horizon := cyclesPerScanline - hardware.ppu.lineCycles
  let horizon := if hardware.apu.sampleGenerationEnabled then min horizon hardware.apu.cyclesUntilNextSample else horizon
  let horizon := match hardware.cyclesUntilTxComplete with
    | some cycles => min horizon cycles
    | none => horizon
  let horizon := match hardware.cyclesUntilNextSoundDmaTransfer with
    | some cycles => min horizon cycles
    | none => horizon
  max horizon 1

-- The master clock of the bus.
def charge (cycles : Nat) (hardware : Hardware Frame Sample) : Hardware Frame Sample :=
  {hardware with cycles := hardware.cycles + UInt64.ofNat cycles}

def renderFrame (hardware : Hardware Frame Sample) : Hardware Frame Sample :=
  {hardware with ppu := {hardware.ppu.renderFrame board.screen hardware.ram hardware.io with frameReady := true}}

def flushDeferredLinearBank (hardware : Hardware Frame Sample) : Hardware Frame Sample :=
  match hardware.pendingLinearBank with
  | none => hardware
  | some pending => {hardware with cartridge := hardware.cartridge.setLinearBank pending.value, pendingLinearBank := none}

def retireInstruction (hardware : Hardware Frame Sample) : Hardware Frame Sample :=
  match hardware.pendingLinearBank with
  | none => hardware
  | some pending =>
    if 1 < pending.remainingInstructionRetires then
      {hardware with
        pendingLinearBank := some {pending with remainingInstructionRetires := pending.remainingInstructionRetires - 1}}
    else {hardware with cartridge := hardware.cartridge.setLinearBank pending.value, pendingLinearBank := none}

end Service

end Hardware

end ZeffBoy.WonderSwan
