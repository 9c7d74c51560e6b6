import ZeffBoy.Library.Deferral
import ZeffBoy.WonderSwan.Hardware

/-! The ports of a WonderSwan, and its bus.
A port is read and written after everything that is due has been serviced. A write may move memory, and the cycles of that are
stepped after it. -/
namespace ZeffBoy.WonderSwan
open Link.WonderSwan (Uart)
open Library (Deferred)

def keypadPort : UInt16 := 0xB5
def internalEepromCommandHighPort : UInt16 := 0xBF
def romLinearBankPort : UInt16 := 0xC0
def romRamBankPort : UInt16 := 0xC1
def romBank0Port : UInt16 := 0xC2
def romBank1Port : UInt16 := 0xC3
def cartEepromDataLoPort : UInt16 := 0xC4
def cartEepromDataHiPort : UInt16 := 0xC5
def cartEepromCommandLoPort : UInt16 := 0xC6
def cartEepromCommandHiPort : UInt16 := 0xC7
def cartEepromControlStatusLoPort : UInt16 := 0xC8
def cartEepromControlStatusHiPort : UInt16 := 0xC9
def rtcCommandStatusPort : UInt16 := 0xCA
def rtcPayloadPort : UInt16 := 0xCB
def monoPalettePortStart : UInt16 := 0x20
def monoPalettePortEnd : UInt16 := 0x3F
def eepromStatusReadDone : UInt8 := 0x01
def eepromStatusReady : UInt8 := 0x02
def eepromStatusProtected : UInt8 := 0x80

def colorOnlyPort (port : UInt16) : Bool :=
  Apu.handlesColorOnlyPort port || port ∈ [dmaSourceLoPort,dmaSourceHiPort,dmaSourceSegmentPort,dmaSourceSegmentHighPort,
    dmaDestinationLoPort,dmaDestinationHiPort,dmaLengthLoPort,dmaLengthHiPort,dmaControlPort,soundDmaSourceLoPort,
    soundDmaSourceHiPort,soundDmaSourceSegmentPort,soundDmaSourceSegmentHighPort,soundDmaLengthLoPort,soundDmaLengthHiPort,
    soundDmaLengthSegmentPort,soundDmaLengthSegmentHighPort,soundDmaControlPort]

namespace Hardware
variable {Frame Sample : Type}

def ioOpenBus (hardware : Hardware Frame Sample) : UInt8 := if hardware.isColorModel then 0x00 else 0x90

def colorBit (hardware : Hardware Frame Sample) : UInt8 := if hardware.isColorModel then 0x02 else 0x00

def systemControlRead (hardware : Hardware Frame Sample) : UInt8 :=
  (hardware.io systemControlPort &&& 0x7D) ||| hardware.colorBit ||| 0x80

def linearBankRead (hardware : Hardware Frame Sample) : UInt8 :=
  match hardware.pendingLinearBank with
  | some pending => pending.value
  | none => hardware.cartridge.linearBank

section Eeprom

def internalEepromAddress (hardware : Hardware Frame Sample) : Nat :=
  let raw := hardware.word internalEepromAddrLoPort internalEepromAddrHiPort
  (raw &&& if hardware.isColorModel then 0x01FF else 0x003F).toNat * 2

def internalEepromWordAt (address : Nat) (hardware : Hardware Frame Sample) : UInt16 :=
  wordOf (hardware.internalEeprom.getD address 0xFF) (hardware.internalEeprom.getD (address + 1) 0xFF)

def internalEepromAddressProtected (address : Nat) (hardware : Hardware Frame Sample) : Bool :=
  hardware.internalEepromProtected && 0x60 ≤ address

def internalEepromStatusPeek (hardware : Hardware Frame Sample) : UInt8 :=
  eepromStatusReady |||
    (if hardware.io internalEepromCommandPort &&& eepromStatusReadDone ≠ 0 ∧ hardware.internalEepromDoneDelayReads = 0 then
      eepromStatusReadDone else 0) |||
    (if hardware.internalEepromProtected then eepromStatusProtected else 0)

def internalEepromStatusRead (hardware : Hardware Frame Sample) : UInt8 × Hardware Frame Sample :=
  let status := hardware.internalEepromStatusPeek
  if 0 < hardware.internalEepromDoneDelayReads then
    let hardware := {hardware with internalEepromDoneDelayReads := hardware.internalEepromDoneDelayReads - 1}
    (status,if hardware.internalEepromDoneDelayReads = 0 then
      hardware.poke internalEepromCommandPort (hardware.io internalEepromCommandPort ||| eepromStatusReadDone)
    else hardware)
  else (status,hardware)

def readInternalEepromWord (hardware : Hardware Frame Sample) : Hardware Frame Sample :=
  let value := hardware.internalEepromWordAt hardware.internalEepromAddress
  {(hardware.setWord internalEepromDataLoPort internalEepromDataHiPort value).poke internalEepromCommandPort eepromStatusReady with
    internalEepromDoneDelayReads := 1}

def writeInternalEepromWord (hardware : Hardware Frame Sample) : Hardware Frame Sample :=
  let address := hardware.internalEepromAddress
  let previous := hardware.internalEepromWordAt address
  let data := hardware.word internalEepromDataLoPort internalEepromDataHiPort
  let hardware := if hardware.internalEepromWriteEnabled ∧ hardware.internalEepromAddressProtected address = false ∧
      address + 1 < hardware.internalEeprom.length then
      {hardware with internalEeprom := (hardware.internalEeprom.set address (lowByte data)).set (address + 1) (highByte data)}
    else hardware
  (hardware.setWord internalEepromDataLoPort internalEepromDataHiPort previous).poke internalEepromCommandPort eepromStatusReady

def writeInternalEepromShortCommand (hardware : Hardware Frame Sample) : Hardware Frame Sample :=
  let hardware := match EepromCommand.decode .eeprom128 (hardware.word internalEepromAddrLoPort internalEepromAddrHiPort) with
    | .writeDisable => {hardware with internalEepromWriteEnabled := false}
    | .writeEnable => {hardware with internalEepromWriteEnabled := true}
    | .erase address =>
      if hardware.internalEepromWriteEnabled ∧ hardware.internalEepromAddressProtected (address * 2) = false ∧
          address * 2 + 1 < hardware.internalEeprom.length then
        {hardware with internalEeprom := (hardware.internalEeprom.set (address * 2) 0xFF).set (address * 2 + 1) 0xFF}
      else hardware
    | _ => hardware
  hardware.poke internalEepromCommandPort eepromStatusReady

def writeInternalEepromCommand (value : UInt8) (hardware : Hardware Frame Sample) : Hardware Frame Sample :=
  let hardware := {hardware with internalEepromDoneDelayReads := 0}
  if value &&& eepromStatusProtected ≠ 0 then
    {hardware with internalEepromProtected := true}.poke internalEepromCommandPort eepromStatusReady
  else if value &&& 0x70 = 0x10 then hardware.readInternalEepromWord
  else if value &&& 0x70 = 0x20 then hardware.writeInternalEepromWord
  else if value &&& 0x70 = 0x40 then hardware.writeInternalEepromShortCommand
  else hardware.poke internalEepromCommandPort eepromStatusReady

def cartridgeEepromStatusRead (hardware : Hardware Frame Sample) : UInt8 :=
  let status := hardware.io cartEepromControlStatusLoPort
  if hardware.cartridge.footer.saveKind.isEeprom = false then status else (status &&& eepromStatusReadDone) ||| eepromStatusReady

def setCartridgeEepromReadDone (done : Bool) (hardware : Hardware Frame Sample) : Hardware Frame Sample :=
  let status := hardware.io cartEepromControlStatusLoPort
  let status := if done then status ||| eepromStatusReadDone else status &&& ~~~eepromStatusReadDone
  hardware.poke cartEepromControlStatusLoPort (status ||| eepromStatusReady)

def writeCartridge (change : Cartridge → Cartridge) (hardware : Hardware Frame Sample) : Hardware Frame Sample :=
  if hardware.cartridgeEepromWriteEnabled then {hardware with cartridge := change hardware.cartridge} else hardware

def writeCartridgeEepromControl (value : UInt8) (hardware : Hardware Frame Sample) : Hardware Frame Sample :=
  if hardware.cartridge.footer.saveKind.isEeprom = false then hardware.poke cartEepromControlStatusLoPort value
  else
    let command := EepromCommand.decode hardware.cartridge.footer.saveKind
      (hardware.word cartEepromCommandLoPort cartEepromCommandHiPort)
    let data := hardware.word cartEepromDataLoPort cartEepromDataHiPort
    let mode := value &&& 0xF0
    if mode = 0x10 then
      match command with
      | .read address =>
        (hardware.setWord cartEepromDataLoPort cartEepromDataHiPort
          (hardware.cartridge.eepromReadWord address)).setCartridgeEepromReadDone true
      | _ => hardware.setCartridgeEepromReadDone true
    else if mode = 0x80 then hardware.setCartridgeEepromReadDone true
    else
      match mode.toNat,command with
      | 0x20,.write address =>
        (hardware.writeCartridge (·.eepromWriteWord address data)).setCartridgeEepromReadDone false
      | 0x20,.writeAll => (hardware.writeCartridge (·.eepromFillWords data)).setCartridgeEepromReadDone false
      | 0x40,.erase address => (hardware.writeCartridge (·.eepromWriteWord address 0xFFFF)).setCartridgeEepromReadDone false
      | 0x40,.eraseAll => (hardware.writeCartridge (·.eepromFillWords 0xFFFF)).setCartridgeEepromReadDone false
      | 0x40,.writeDisable => {hardware with cartridgeEepromWriteEnabled := false}.setCartridgeEepromReadDone false
      | 0x40,.writeEnable => {hardware with cartridgeEepromWriteEnabled := true}.setCartridgeEepromReadDone false
      | _,_ => hardware.poke cartEepromControlStatusLoPort eepromStatusReady

end Eeprom

def ioRead8 (port : UInt16) (hardware : Hardware Frame Sample) : UInt8 × Hardware Frame Sample :=
  if port = currentLinePort then (hardware.ppu.vcount.toUInt8,hardware)
  else if hardware.isColorModel = false ∧ colorOnlyPort port then (hardware.ioOpenBus,hardware)
  else if Apu.handlesPort port then (hardware.apu.generators.read8 port,hardware)
  else if port ∈ [dmaSourceSegmentHighPort,soundDmaSourceSegmentHighPort,soundDmaLengthSegmentHighPort] then (0,hardware)
  else if port = systemControlPort then (hardware.systemControlRead,hardware)
  else if port = internalEepromCommandPort then hardware.internalEepromStatusRead
  else if port = internalEepromCommandHighPort then (0,hardware)
  else if port = irqVectorBasePort then (hardware.interruptBaseRead,hardware)
  else if port = serialDataPort then
    let (value,uart) := hardware.uart.readData
    (value,{hardware with uart := uart}.poke serialDataPort value)
  else if port = serialControlPort then (hardware.serialControlRead,hardware)
  else if port = keypadPort then (hardware.keypad.read,hardware)
  else if port = irqAckPort then (hardware.ioOpenBus,hardware)
  else if port = romLinearBankPort then (hardware.linearBankRead ||| 0x20,hardware)
  else if port = romRamBankPort then (hardware.cartridge.ramBank,hardware)
  else if port = romBank0Port then (hardware.cartridge.bank0.toUInt8,hardware)
  else if port = romBank1Port then (hardware.cartridge.bank1.toUInt8,hardware)
  else if port = cartEepromControlStatusLoPort then (hardware.cartridgeEepromStatusRead,hardware)
  else if port = cartEepromControlStatusHiPort then (0,hardware)
  else if port = rtcCommandStatusPort then
    let (value,rtc) := hardware.rtc.readStatus
    (value,{hardware with rtc := rtc})
  else if port = rtcPayloadPort then
    let (value,rtc) := hardware.rtc.readPayload
    (value,{hardware with rtc := rtc})
  else (hardware.io port,hardware)

def writeMonoPalettePort (port : UInt16) (value : UInt8) (hardware : Hardware Frame Sample) : Hardware Frame Sample :=
  let masked := value &&& 0x77
  hardware.poke port (if (port - monoPalettePortStart) / 2 &&& 0x04 ≠ 0 ∧ port &&& 1 = 0 then masked &&& 0x70 else masked)

-- The ports of the timers, of the two transfers of memory, and of the memory on the board.
def ioWritePlain (port : UInt16) (value : UInt8) (hardware : Hardware Frame Sample) : Hardware Frame Sample :=
  if port = timerControlPort then hardware.poke timerControlPort (value &&& 0x0F)
  else if port = hblankTimerReloadLoPort ∨ port = hblankTimerReloadHiPort then
    let hardware := hardware.poke port value
    hardware.setWord hblankTimerCountLoPort hblankTimerCountHiPort (hardware.word hblankTimerReloadLoPort hblankTimerReloadHiPort)
  else if port = vblankTimerReloadLoPort ∨ port = vblankTimerReloadHiPort then
    let hardware := hardware.poke port value
    hardware.setWord vblankTimerCountLoPort vblankTimerCountHiPort (hardware.word vblankTimerReloadLoPort vblankTimerReloadHiPort)
  else if hardware.isColorModel = false ∧ monoPalettePortStart ≤ port ∧ port ≤ monoPalettePortEnd then
    hardware.writeMonoPalettePort port value
  else if port = dmaSourceLoPort ∨ port = dmaDestinationLoPort ∨ port = dmaLengthLoPort then hardware.poke port (value &&& ~~~1)
  else if port = dmaSourceSegmentPort then
    (hardware.poke dmaSourceSegmentPort (value &&& 0x0F)).poke dmaSourceSegmentHighPort 0
  else if port = dmaSourceSegmentHighPort then hardware.poke dmaSourceSegmentHighPort 0
  else if port = soundDmaSourceSegmentPort then
    (hardware.poke soundDmaSourceSegmentPort (value &&& 0x0F)).poke soundDmaSourceSegmentHighPort 0
  else if port = soundDmaSourceSegmentHighPort then hardware.poke soundDmaSourceSegmentHighPort 0
  else if port = soundDmaLengthSegmentPort then
    (hardware.poke soundDmaLengthSegmentPort (value &&& 0x0F)).poke soundDmaLengthSegmentHighPort 0
  else if port = soundDmaLengthSegmentHighPort then hardware.poke soundDmaLengthSegmentHighPort 0
  else if port = soundDmaControlPort then hardware.writeSoundDmaControl value
  else if port = systemControlPort then hardware.poke systemControlPort ((value &&& 0xFD) ||| hardware.colorBit)
  else if port = internalEepromCommandPort then hardware.writeInternalEepromCommand value
  else if port = internalEepromCommandHighPort then hardware
  else if port = irqVectorBasePort then hardware.poke irqVectorBasePort (value &&& 0xF8)
  else if port = keypadPort then {hardware with keypad := hardware.keypad.write value}
  else if port = romLinearBankPort then {hardware with pendingLinearBank := some ⟨value &&& 0x0F,2⟩}
  else if port = romRamBankPort then {hardware with cartridge := hardware.cartridge.setRamBank value}
  else if port = romBank0Port then {hardware with cartridge := hardware.cartridge.setBank0 value}
  else if port = romBank1Port then {hardware with cartridge := hardware.cartridge.setBank1 value}
  else if port = cartEepromControlStatusLoPort then hardware.writeCartridgeEepromControl value
  else if port = cartEepromControlStatusHiPort then hardware
  else if port = rtcCommandStatusPort then
    {hardware with rtc := hardware.rtc.writeCommand value (hardware.io rtcPayloadPort)}.poke rtcCommandStatusPort value
  else if port = rtcPayloadPort then {hardware with rtc := hardware.rtc.writePayload value}.poke rtcPayloadPort value
  else hardware.poke port value

/-- What a write to a port does, and the cycles that it takes before the next access. -/
def ioWrite8 (port : UInt16) (value : UInt8) (hardware : Hardware Frame Sample) : Hardware Frame Sample × Option Nat :=
  if port = currentLinePort then (hardware,none)
  else if hardware.isColorModel = false ∧ colorOnlyPort port then (hardware,none)
  else if Apu.handlesPort port then ({hardware with apu := hardware.apu.write8 port value},none)
  else if port = dmaControlPort then
    let hardware := hardware.poke dmaControlPort value
    if value &&& 0x80 ≠ 0 then hardware.runDmaTransfer value else (hardware,none)
  else if port = irqEnablePort then ((hardware.poke irqEnablePort value).refreshLevelInterrupts,none)
  else if port = serialDataPort then
    let hardware := hardware.poke serialDataPort value
    ({hardware with uart := (hardware.uart.writeData value (hardware.io serialControlPort)).2}.refreshLevelInterrupts,none)
  else if port = serialControlPort then
    let (control,uart) := hardware.uart.writeControl value
    (({hardware with uart := uart}.poke serialControlPort control).refreshLevelInterrupts,none)
  else if port = irqAckPort then
    ((hardware.poke irqStatusPort (hardware.io irqStatusPort &&& ~~~value)).refreshLevelInterrupts,none)
  else (hardware.ioWritePlain port value,none)

end Hardware

/-- The bus of a WonderSwan, whose service may be put off. -/
structure Bus (Frame Sample : Type) where
  service : Deferred (Hardware Frame Sample)
  frameServiceDeferred : Bool

namespace Bus
variable {Frame Sample : Type} (board : Board Frame Sample)

def hardware (bus : Bus Frame Sample) : Hardware Frame Sample := bus.service.state

def map (action : Hardware Frame Sample → Hardware Frame Sample) (bus : Bus Frame Sample) : Bus Frame Sample :=
  {bus with service := bus.service.map action}

def materializeFrameService (bus : Bus Frame Sample) : Bus Frame Sample :=
  {bus with service := bus.service.materialize (Hardware.serviceCycles board)}

def beginFrameService (bus : Bus Frame Sample) : Bus Frame Sample :=
  ⟨{bus.service with horizon := 0},true⟩

def endFrameService (bus : Bus Frame Sample) : Bus Frame Sample :=
  {bus.materializeFrameService board with frameServiceDeferred := false}

def stepCycles (cycles : Nat) (bus : Bus Frame Sample) : Bus Frame Sample :=
  if bus.frameServiceDeferred ∧ cycles ≠ 0 then
    {bus with
      service := bus.service.step (Hardware.serviceCycles board) Hardware.freshFrameServiceHorizon (Hardware.charge cycles) cycles}
  else
    let bus := if bus.service.pending ≠ 0 then bus.materializeFrameService board else bus
    bus.map fun hardware => (hardware.charge cycles).serviceCycles board cycles

def ioRead8 (port : UInt16) (bus : Bus Frame Sample) : UInt8 × Bus Frame Sample :=
  let bus := bus.materializeFrameService board
  ((bus.hardware.ioRead8 port).1,bus.map fun hardware => (hardware.ioRead8 port).2)

def ioWrite8 (port : UInt16) (value : UInt8) (bus : Bus Frame Sample) : Bus Frame Sample :=
  let bus := bus.materializeFrameService board
  let cycles := (bus.hardware.ioWrite8 port value).2
  let bus := bus.map fun hardware => (hardware.ioWrite8 port value).1
  match cycles with
  | none => bus
  | some cycles => bus.stepCycles board cycles

end Bus

end ZeffBoy.WonderSwan
