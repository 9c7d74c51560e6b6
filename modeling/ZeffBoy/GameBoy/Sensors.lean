import ZeffBoy.GameBoy.Mappers

/-! The mappers with a sensor: the accelerometer and serial EEPROM of the MBC7, and the camera. -/
namespace ZeffBoy.GameBoy
open Library List

def eepromSize : Nat := 256

def cmdBits : UInt8 := 2

def addrBits : UInt8 := 8

def dataBits : UInt8 := 16

def cmdExtended : UInt8 := 0b00

def cmdWrite : UInt8 := 0b01

def cmdRead : UInt8 := 0b10

def cmdErase : UInt8 := 0b11

def extEwds : UInt8 := 0b00

def extWral : UInt8 := 0b01

def extEral : UInt8 := 0b10

def extEwen : UInt8 := 0b11

def spiCs : UInt8 := 0x80

def spiClk : UInt8 := 0x40

def spiDi : UInt8 := 0x02

inductive SpiState where
  | idle | command | address | data | shiftOut | writePending
  deriving DecidableEq

def sensorUnlock : UInt8 := 0x40

def registerGroup (addr : UInt16) : UInt8 := (addr >>> 4 &&& 0x0F).toUInt8

def regEeprom : UInt8 := 0x8

def accelCenter : Int := 0x81D0

def accelMaxDelta : Float32 := 0x01A0

def accelLatchValue : UInt8 := 0x55

def accelResetValue : UInt8 := 0xAA

def regLatch : UInt8 := 0x0

def regReset : UInt8 := 0x1

def regAccelXLo : UInt8 := 0x2

def regAccelXHi : UInt8 := 0x3

def regAccelYLo : UInt8 := 0x4

def regAccelYHi : UInt8 := 0x5

def mapTiltComponent (value : Float32) : UInt16 :=
  let clamped := if value < -1.0 then -1.0 else if 1.0 < value then 1.0 else value
  let offset := (clamped * accelMaxDelta).round.toInt32.toInt
  UInt16.ofNat (max 0 (min (accelCenter + offset) 0xFFFF)).toNat

@[ext] structure Mbc7 where
  rom : Bytes
  eeprom : List.Vector UInt8 eepromSize
  ramEnable : Bool
  romBank : Nat
  ramBankSelect : UInt8
  hostX : Float32
  hostY : Float32
  xLatch : UInt16
  yLatch : UInt16
  latchReady : Bool
  cs : Bool
  clk : Bool
  idle : Bool
  state : SpiState
  buffer : UInt16
  count : UInt8
  command : UInt8
  address : UInt8
  writeEnable : Bool
  doValue : UInt8
  rumbleActive : Bool

namespace Mbc7

def new (rom : Bytes) : Mbc7 where
  rom := rom
  eeprom := List.Vector.replicate eepromSize 0xFF
  ramEnable := false
  romBank := 1
  ramBankSelect := 0
  hostX := 0.0
  hostY := 0.0
  xLatch := 0x8000
  yLatch := 0x8000
  latchReady := false
  cs := false
  clk := false
  idle := false
  state := .idle
  buffer := 0
  count := 0
  command := 0
  address := 0
  writeEnable := false
  doValue := 1
  rumbleActive := false

def readRom (self : Mbc7) (addr : UInt16) : UInt8 :=
  if addr ≤ 0x3FFF then readFixedRom self.rom addr
  else if addr ≤ 0x7FFF then readBankedRom self.rom self.romBank addr
  else 0xFF

def writeRom (self : Mbc7) (addr : UInt16) (value : UInt8) : Mbc7 :=
  if addr ≤ 0x1FFF then {self with ramEnable := isRamEnable value}
  else if addr ≤ 0x3FFF then {self with romBank := nonzeroBank (value &&& 0x7F).toNat}
  else if addr ≤ 0x5FFF then {self with ramBankSelect := value}
  else self

def readAccelRegister (self : Mbc7) (reg : UInt8) : Option UInt8 :=
  if reg = regLatch ∨ reg = regReset ∨ reg = 0x6 ∨ reg = 0x7 then some 0x00
  else if reg = regAccelXLo then some self.xLatch.toUInt8
  else if reg = regAccelXHi then some (self.xLatch >>> 8).toUInt8
  else if reg = regAccelYLo then some self.yLatch.toUInt8
  else if reg = regAccelYHi then some (self.yLatch >>> 8).toUInt8
  else none

def readRam (self : Mbc7) (addr : UInt16) : UInt8 :=
  if !self.ramEnable || self.ramBankSelect != sensorUnlock then 0xFF
  else
    let reg := registerGroup addr
    match self.readAccelRegister reg with
    | some value => value
    | none => if reg = regEeprom then self.doValue else 0xFF

/-- The accelerometer takes a write to its registers; the rest is for the EEPROM. -/
def writeAccelRegister (self : Mbc7) (reg value : UInt8) : Mbc7 × Bool :=
  if reg = regLatch then
    (if value = accelLatchValue then {self with latchReady := true, xLatch := 0x8000, yLatch := 0x8000} else self,true)
  else if reg = regReset then
    let latched :=
      {self with
        latchReady := false
        xLatch := mapTiltComponent (-self.hostX)
        yLatch := mapTiltComponent self.hostY}
    (if value = accelResetValue then latched else self,true)
  else if reg = regAccelXLo ∨ reg = regAccelXHi ∨ reg = regAccelYLo ∨ reg = regAccelYHi ∨ reg = 0x6 ∨ reg = 0x7 then
    (self,true)
  else (self,false)

def eepromReadWord (self : Mbc7) (wordAddr : UInt8) : UInt16 :=
  let a := wordAddr.toNat
  if a * 2 + 1 < eepromSize then
    (self.eeprom.toList.getD (a * 2) 0).toUInt16 <<< 8 ||| (self.eeprom.toList.getD (a * 2 + 1) 0).toUInt16
  else 0xFFFF

def eepromWriteWord (self : Mbc7) (wordAddr : UInt8) (data : UInt16) : Mbc7 :=
  let a := wordAddr.toNat
  if inside : a * 2 + 1 < eepromSize then
    let high := self.eeprom.set ⟨a * 2,by omega⟩ (data >>> 8).toUInt8
    {self with eeprom := high.set ⟨a * 2 + 1,inside⟩ (data &&& 0xFF).toUInt8}
  else self

def eepromFillAll (self : Mbc7) (data : UInt16) : Mbc7 :=
  {self with eeprom := List.Vector.ofFn fun i => if i.val % 2 = 0 then (data >>> 8).toUInt8 else (data &&& 0xFF).toUInt8}

def pushBit (self : Mbc7) (di : Bool) : Mbc7 :=
  {self with buffer := self.buffer <<< 1 ||| di.toUInt16, count := self.count + 1}

def receiveCommandBits (self : Mbc7) (di : Bool) : Mbc7 :=
  let self := self.pushBit di
  if self.count = cmdBits then
    {self with state := .address, count := 0, command := (self.buffer &&& 3).toUInt8}
  else self

def receiveAddressBits (self : Mbc7) (di : Bool) : Mbc7 :=
  let self := self.pushBit di
  if self.count = addrBits then
    let self : Mbc7 := {self with state := .data, count := 0, address := (self.buffer &&& 0xFF).toUInt8}
    if self.command = cmdExtended then
      if self.address >>> 6 = extEwds then {self with writeEnable := false, state := .idle}
      else if self.address >>> 6 = extEwen then {self with writeEnable := true, state := .idle}
      else self
    else self
  else self

def extendedCommand (self : Mbc7) : Mbc7 :=
  if self.address >>> 6 = extEwds then {self with writeEnable := false, state := .idle}
  else if self.address >>> 6 = extWral then
    {(if self.writeEnable then self.eepromFillAll self.buffer else self) with state := .writePending}
  else if self.address >>> 6 = extEral then
    let erased := {self with eeprom := List.Vector.replicate eepromSize 0xFF}
    {(if self.writeEnable then erased else self) with state := .writePending}
  else if self.address >>> 6 = extEwen then {self with writeEnable := true, state := .idle}
  else self

def receiveDataBits (self : Mbc7) (di : Bool) : Mbc7 :=
  let self := self.pushBit di
  if self.command = cmdExtended ∧ self.count = dataBits then {self.extendedCommand with count := 0}
  else if self.command = cmdWrite ∧ self.count = dataBits then
    {self with count := 0, state := .writePending, doValue := 0}
  else if self.command = cmdRead ∧ self.count = 1 then
    {self with state := .shiftOut, count := 0, buffer := self.eepromReadWord self.address}
  else if self.command = cmdErase ∧ self.count = dataBits then
    {self with count := 0, state := .writePending, doValue := 0, buffer := 0xFFFF}
  else self

def clockRisingEdge (self : Mbc7) (di : Bool) : Mbc7 :=
  if self.idle then
    if di then {self with idle := false, count := 0, state := .command} else self
  else
    match self.state with
    | .command => self.receiveCommandBits di
    | .address => self.receiveAddressBits di
    | .data => self.receiveDataBits di
    | _ => self

def selectChip (self : Mbc7) : Mbc7 :=
  if self.state = .writePending then
    let written := if self.writeEnable then self.eepromWriteWord self.address self.buffer else self
    {written with state := .idle, doValue := 1, idle := true}
  else {self with idle := true, state := .idle}

def shiftOutBit (self : Mbc7) : Mbc7 :=
  let self :=
    {self with
      doValue := if self.buffer &&& 0x8000 != 0 then 1 else 0
      buffer := self.buffer <<< 1
      count := self.count + 1}
  if self.count = dataBits then {self with count := 0, state := .idle} else self

def writeEeprom (self : Mbc7) (value : UInt8) : Mbc7 :=
  let oldCs := self.cs
  let oldClk := self.clk
  let self := {self with cs := value &&& spiCs != 0, clk := value &&& spiClk != 0}
  let di := value &&& spiDi != 0
  let self := if !oldCs && self.cs then self.selectChip else self
  let self := if !oldClk && self.clk then self.clockRisingEdge di else self
  if oldClk && !self.clk && self.state == .shiftOut then self.shiftOutBit else self

def writeRam (self : Mbc7) (addr : UInt16) (value : UInt8) : Mbc7 :=
  if !self.ramEnable || self.ramBankSelect != sensorUnlock then self
  else
    let reg := registerGroup addr
    match self.writeAccelRegister reg value with
    | (self,true) => self
    | (self,false) => if reg = regEeprom then self.writeEeprom value else self

def setHostTilt (self : Mbc7) (x y : Float32) : Mbc7 := {self with hostX := x, hostY := y}

def debugInfo (self : Mbc7) : CartridgeDebugInfo := ⟨"MBC7",self.romBank,0,self.ramEnable,none⟩

def restoreRomBytes (self : Mbc7) (rom : Bytes) : Mbc7 := {self with rom}

def bessMbcWrites (self : Mbc7) : List (UInt16 × UInt8) :=
  [(0x0000,if self.ramEnable then 0x0A else 0x00),
   (0x2000,UInt8.ofNat (self.romBank &&& 0x7F)),
   (0x4000,self.ramBankSelect)]

structure Sound (rom : Bytes) (mapper : Mbc7) : Prop where
  sameRom : mapper.rom = rom
  romBank : mapper.romBank < 2^7
  positive : 0 < mapper.romBank
  still : mapper.rumbleActive = false

theorem sound_new (rom : Bytes) : (new rom).Sound rom :=
  ⟨rfl,Nat.one_lt_two_pow (by decide),Nat.one_pos,rfl⟩

variable {rom : Bytes} {self : Mbc7}

theorem Sound.writeRom (sound : self.Sound rom) (addr : UInt16) (value : UInt8) : (self.writeRom addr value).Sound rom := by
  unfold Mbc7.writeRom
  split
  · exact {sound with}
  split
  · have below := masked_lt value 0x7F (2^7) (by decide)
    exact {sound with romBank := nonzeroBank_lt below (by decide), positive := nonzeroBank_pos _}
  split
  · exact {sound with}
  · exact sound

def banks (self : Mbc7) : Bytes × Nat × Bool := (self.rom,self.romBank,self.rumbleActive)

theorem Sound.of_banks (sound : self.Sound rom) (other : Mbc7) (same : other.banks = self.banks) : other.Sound rom := by
  simp only [banks,Prod.mk.injEq] at same
  obtain ⟨sameRom,sameRomBank,sameMotor⟩ := same
  exact ⟨by rw [sameRom,sound.sameRom],by rw [sameRomBank]; exact sound.romBank,
    by rw [sameRomBank]; exact sound.positive,by rw [sameMotor,sound.still]⟩

theorem banks_eepromWriteWord (self : Mbc7) (wordAddr : UInt8) (data : UInt16) :
    (self.eepromWriteWord wordAddr data).banks = self.banks := by
  unfold eepromWriteWord
  dsimp only
  split <;> rfl

theorem banks_erased (self : Mbc7) (eeprom : List.Vector UInt8 eepromSize) :
    ({self with eeprom} : Mbc7).banks = self.banks := rfl

theorem banks_extendedCommand (self : Mbc7) : self.extendedCommand.banks = self.banks := by
  unfold extendedCommand
  dsimp only
  split
  · rfl
  split
  · show (if _ then _ else _ : Mbc7).banks = self.banks
    split
    · exact banks_erased self _
    · rfl
  split
  · show (if _ then _ else _ : Mbc7).banks = self.banks
    split
    · exact banks_erased self _
    · rfl
  split <;> rfl

theorem banks_clockRisingEdge (self : Mbc7) (di : Bool) : (self.clockRisingEdge di).banks = self.banks := by
  have data : (self.receiveDataBits di).banks = self.banks := by
    unfold receiveDataBits
    dsimp only
    split
    · exact banks_extendedCommand _
    · repeat' split
      all_goals rfl
  have address : (self.receiveAddressBits di).banks = self.banks := by
    unfold receiveAddressBits
    dsimp only
    repeat' split
    all_goals rfl
  have command : (self.receiveCommandBits di).banks = self.banks := by
    unfold receiveCommandBits
    dsimp only
    split <;> rfl
  unfold clockRisingEdge
  split
  · split <;> rfl
  · split
    · exact command
    · exact address
    · exact data
    · rfl

theorem banks_selectChip (self : Mbc7) : self.selectChip.banks = self.banks := by
  unfold selectChip
  split
  · cases self.writeEnable
    · rfl
    · exact banks_eepromWriteWord self self.address self.buffer
  · rfl

theorem banks_shiftOutBit (self : Mbc7) : self.shiftOutBit.banks = self.banks := by
  unfold shiftOutBit
  dsimp only
  split <;> rfl

theorem banks_writeEeprom (self : Mbc7) (value : UInt8) : (self.writeEeprom value).banks = self.banks := by
  unfold writeEeprom
  extract_lets oldCs oldClk latched di selected clocked
  have first : selected.banks = self.banks := by
    show (if _ then _ else _ : Mbc7).banks = self.banks
    split
    · exact banks_selectChip latched
    · rfl
  have second : clocked.banks = self.banks := by
    show (if _ then _ else _ : Mbc7).banks = self.banks
    split
    · rw [banks_clockRisingEdge,first]
    · exact first
  split
  · rw [banks_shiftOutBit,second]
  · exact second

theorem banks_writeAccelRegister (self : Mbc7) (reg value : UInt8) :
    (self.writeAccelRegister reg value).1.banks = self.banks := by
  unfold writeAccelRegister
  dsimp only
  repeat' split
  all_goals rfl

theorem Sound.writeRam (sound : self.Sound rom) (addr : UInt16) (value : UInt8) : (self.writeRam addr value).Sound rom := by
  apply sound.of_banks
  have accel := banks_writeAccelRegister self (registerGroup addr) value
  unfold Mbc7.writeRam
  split
  · rfl
  dsimp only
  split
  · rename_i taken
    rw [taken] at accel
    exact accel
  · rename_i taken
    rw [taken] at accel
    split
    · rw [banks_writeEeprom]
      exact accel
    · exact accel

end Mbc7

def cameraWidth : Nat := 128

def cameraHeight : Nat := 112

def cameraPixels : Nat := cameraWidth * cameraHeight

def sensorRegCount : Nat := 0x36

def cyclesPerExposureUnit : Nat := 128

def captureOverheadCycles : Nat := 512

def maxExposureUnits : Nat := 0x0800

def imageRamOffset : Nat := 0x100

def sensorBank : Nat := 0x10

def cameraRamSize : Nat := 16 * 0x2000

def thresholdTriplet (ditherMatrix : Bytes) (idx : Nat) : UInt8 × UInt8 × UInt8 :=
  let base : UInt8 × UInt8 × UInt8 := (64,128,192)
  if ditherMatrix.length < 48 ∨ 16 ≤ idx then base
  else
    let a := ditherMatrix.getD idx 0
    let b := ditherMatrix.getD (16 + idx) 0
    let c := ditherMatrix.getD (32 + idx) 0
    let low := min (min a b) c
    let high := max (max a b) c
    let middle := max (min a b) (min (max a b) c)
    if low = middle ∧ middle = high then base else (low,middle,high)

/-- One row of a tile: the low bits of its eight pixels, then the high bits. -/
def tileRow (pixels : Bytes) (width height px py : Nat) : Bytes :=
  let val (col : Nat) : UInt8 :=
    if py < height ∧ px + col < width then pixels.getD (py * width + (px + col)) 0 &&& 0x03 else 0
  let lo := (List.range 8).foldl (fun lo col => lo ||| (val col &&& 0x01) <<< UInt8.ofNat (7 - col)) 0
  let hi := (List.range 8).foldl (fun hi col => hi ||| (val col >>> 1 &&& 0x01) <<< UInt8.ofNat (7 - col)) 0
  [lo,hi]

def encode2bppTiles (pixels : Bytes) (width height : Nat) : Bytes :=
  (List.range (height / 8)).flatMap fun ty =>
    (List.range (width / 8)).flatMap fun tx =>
      (List.range 8).flatMap fun row => tileRow pixels width height (tx * 8) (ty * 8 + row)

/-- The edge enhancement of the inner columns, in the sensor's signed arithmetic. -/
def enhancePixel (buf : Bytes) (strength : Int) (idx : Nat) : UInt8 :=
  let x := idx % cameraWidth
  if 1 ≤ x ∧ x < cameraWidth - 1 then
    let left : Int := (buf.getD (idx - 1) 0).toNat
    let center : Int := (buf.getD idx 0).toNat
    let right : Int := (buf.getD (idx + 1) 0).toNat
    let edge := max (-128) (min (2 * center - left - right) 127)
    UInt8.ofNat (max 0 (min (center + (edge * strength).tdiv 4) 255)).toNat
  else buf.getD idx 0

def ditherPixel (ditherMatrix : Bytes) (idx : Nat) (pixel : UInt8) : UInt8 :=
  let x := idx % cameraWidth
  let y := idx / cameraWidth
  let (t0,t1,t2) := thresholdTriplet ditherMatrix ((y &&& 3) * 4 + (x &&& 3))
  if pixel < t0 then 3 else if pixel < t1 then 2 else if pixel < t2 then 1 else 0

@[ext] structure PocketCamera where
  rom : Bytes
  ram : Bytes
  ramEnable : Bool
  romBank : Nat
  ramBank : Nat
  sensorRegs : List.Vector UInt8 sensorRegCount
  captureActive : Bool
  captureCyclesRemaining : Nat
  hostFrame : Bytes

namespace PocketCamera

def new (rom : Bytes) (ramSize : Nat) : PocketCamera where
  rom := rom
  ram := List.replicate (if ramSize = 0 then cameraRamSize else ramSize) 0
  ramEnable := false
  romBank := 1
  ramBank := 0
  sensorRegs := List.Vector.replicate sensorRegCount 0
  captureActive := false
  captureCyclesRemaining := 0
  hostFrame := List.replicate cameraPixels 0xFF

def readRom (self : PocketCamera) (addr : UInt16) : UInt8 :=
  if addr ≤ 0x3FFF then readFixedRom self.rom addr
  else if addr ≤ 0x7FFF then readBankedRom self.rom self.romBank addr
  else 0xFF

def writeRom (self : PocketCamera) (addr : UInt16) (value : UInt8) : PocketCamera :=
  if addr ≤ 0x1FFF then {self with ramEnable := isRamEnable value}
  else if addr ≤ 0x2FFF then {self with romBank := (self.romBank &&& 0x100) ||| value.toNat}
  else if addr ≤ 0x3FFF then {self with romBank := (self.romBank &&& 0x0FF) ||| ((value &&& 0x01).toNat <<< 8)}
  else if addr ≤ 0x5FFF then {self with ramBank := (value &&& 0x1F).toNat}
  else self

def sensorReg (self : PocketCamera) (offset : Nat) : UInt8 := self.sensorRegs.toList.getD offset 0

def exposureTime (self : PocketCamera) : UInt16 := (self.sensorReg 2).toUInt16 <<< 8 ||| (self.sensorReg 3).toUInt16

def startCapture (self : PocketCamera) : PocketCamera :=
  let exposure := min self.exposureTime.toNat maxExposureUnits
  {self with
    captureCyclesRemaining := captureOverheadCycles + exposure * cyclesPerExposureUnit
    captureActive := true}

def applySensorProcessing (self : PocketCamera) (edgeMode : UInt8) (ditherMatrix : Bytes) : Bytes :=
  let src := self.hostFrame.take cameraPixels
  let buf := src ++ List.replicate (cameraPixels - src.length) 0
  let buf :=
    if edgeMode = 0 then buf else (List.range cameraPixels).map (enhancePixel buf edgeMode.toNat)
  (List.range cameraPixels).map fun idx => ditherPixel ditherMatrix idx (buf.getD idx 0)

def processCapturedImage (self : PocketCamera) : PocketCamera :=
  let edgeMode := self.sensorReg 0 >>> 1 &&& 0x03
  let ditherMatrix := self.sensorRegs.toList.drop 6
  let processed := self.applySensorProcessing edgeMode ditherMatrix
  let tiles := encode2bppTiles processed cameraWidth cameraHeight
  let ramEnd := imageRamOffset + tiles.length
  if ramEnd ≤ self.ram.length then
    {self with ram := self.ram.take imageRamOffset ++ tiles ++ self.ram.drop ramEnd}
  else self

def setSensorReg (self : PocketCamera) (offset : Fin sensorRegCount) (value : UInt8) : PocketCamera :=
  {self with sensorRegs := self.sensorRegs.set offset value}

def tickCapture (self : PocketCamera) (tCycles : UInt64) : PocketCamera :=
  if !self.captureActive then self
  else if self.captureCyclesRemaining ≤ tCycles.toNat then
    let self := {self with captureCyclesRemaining := 0, captureActive := false}
    (self.setSensorReg ⟨0,by decide⟩ (self.sensorReg 0 &&& ~~~0x01)).processCapturedImage
  else {self with captureCyclesRemaining := self.captureCyclesRemaining - tCycles.toNat}

def readSensorReg (self : PocketCamera) (offset : Nat) : UInt8 :=
  if sensorRegCount ≤ offset then 0x00
  else if offset = 0 then (self.sensorReg 0 &&& ~~~0x01) ||| self.captureActive.toUInt8
  else self.sensorReg offset

def writeSensorReg (self : PocketCamera) (offset : Nat) (value : UInt8) : PocketCamera :=
  if inside : offset < sensorRegCount then
    let written := self.setSensorReg ⟨offset,inside⟩ value
    if offset = 0 ∧ value &&& 0x01 ≠ 0 then written.startCapture else written
  else self

def readRam (self : PocketCamera) (addr : UInt16) : UInt8 :=
  if self.ramBank = sensorBank then self.readSensorReg (addr - 0xA000).toNat
  else if self.ramBank < 0x10 then readBankedRam self.ram self.ramBank addr
  else 0xFF

def writeRam (self : PocketCamera) (addr : UInt16) (value : UInt8) : PocketCamera :=
  if self.ramBank = sensorBank then self.writeSensorReg (addr - 0xA000).toNat value
  else if self.ramBank < 0x10 then {self with ram := writeBankedRam self.ram self.ramBank addr value}
  else self

def step (self : PocketCamera) (tCycles : UInt64) : PocketCamera := self.tickCapture tCycles

def setHostFrame (self : PocketCamera) (frame : Bytes) : PocketCamera :=
  let copyLen := min self.hostFrame.length frame.length
  {self with hostFrame := frame.take copyLen ++ self.hostFrame.drop copyLen}

def debugInfo (self : PocketCamera) : CartridgeDebugInfo :=
  ⟨"PocketCamera",self.romBank,self.ramBank,self.ramEnable,none⟩

def restoreRomBytes (self : PocketCamera) (rom : Bytes) : PocketCamera := {self with rom}

def bessMbcWrites (self : PocketCamera) : List (UInt16 × UInt8) :=
  [(0x0000,if self.ramEnable then 0x0A else 0x00),
   (0x2000,UInt8.ofNat (self.romBank &&& 0xFF)),
   (0x3000,UInt8.ofNat ((self.romBank >>> 8) &&& 0x01)),
   (0x4000,UInt8.ofNat self.ramBank)]

structure Sound (rom : Bytes) (ramSize : Nat) (mapper : PocketCamera) : Prop where
  sameRom : mapper.rom = rom
  ramLength : mapper.ram.length = if ramSize = 0 then cameraRamSize else ramSize
  romBank : mapper.romBank < 2^9
  ramBank : mapper.ramBank < 2^5
  captureCyclesRemaining : mapper.captureCyclesRemaining ≤ captureOverheadCycles + maxExposureUnits * cyclesPerExposureUnit
  hostFrame : mapper.hostFrame.length = cameraPixels

theorem sound_new (rom : Bytes) (ramSize : Nat) : (new rom ramSize).Sound rom ramSize where
  sameRom := rfl
  ramLength := length_replicate
  romBank := Nat.one_lt_two_pow (by decide)
  ramBank := Nat.two_pow_pos _
  captureCyclesRemaining := Nat.zero_le _
  hostFrame := length_replicate

variable {rom : Bytes} {ramSize : Nat} {self : PocketCamera}

theorem Sound.writeRom (sound : self.Sound rom ramSize) (addr : UInt16) (value : UInt8) :
    (self.writeRom addr value).Sound rom ramSize := by
  unfold PocketCamera.writeRom
  split
  · exact {sound with}
  split
  · exact {sound with romBank := bankLow_lt _ value}
  split
  · exact {sound with romBank := bankHigh_lt _ value}
  split
  · exact {sound with ramBank := masked_lt value 0x1F _ (by decide)}
  · exact sound

theorem Sound.startCapture (sound : self.Sound rom ramSize) : self.startCapture.Sound rom ramSize := by
  have bounded := Nat.mul_le_mul_right cyclesPerExposureUnit (min_le_right self.exposureTime.toNat maxExposureUnits)
  exact {sound with captureCyclesRemaining := Nat.add_le_add_left bounded _}

theorem Sound.writeSensorReg (sound : self.Sound rom ramSize) (offset : Nat) (value : UInt8) :
    (self.writeSensorReg offset value).Sound rom ramSize := by
  unfold PocketCamera.writeSensorReg
  split
  · have written : (self.setSensorReg ⟨offset,‹_›⟩ value).Sound rom ramSize := {sound with}
    dsimp only
    split
    · exact written.startCapture
    · exact written
  · exact sound

theorem Sound.writeRam (sound : self.Sound rom ramSize) (addr : UInt16) (value : UInt8) :
    (self.writeRam addr value).Sound rom ramSize := by
  unfold PocketCamera.writeRam
  split
  · exact sound.writeSensorReg _ _
  split
  · exact {sound with ramLength := (length_writeBankedRam ..).trans sound.ramLength}
  · exact sound

theorem Sound.processCapturedImage (sound : self.Sound rom ramSize) : self.processCapturedImage.Sound rom ramSize := by
  unfold PocketCamera.processCapturedImage
  dsimp only
  split
  · rename_i fits
    refine {sound with ramLength := Eq.trans ?_ sound.ramLength}
    simp only [length_append,length_take,length_drop]
    omega
  · exact sound

theorem Sound.step (sound : self.Sound rom ramSize) (tCycles : UInt64) : (self.step tCycles).Sound rom ramSize := by
  unfold PocketCamera.step PocketCamera.tickCapture
  split
  · exact sound
  split
  · apply Sound.processCapturedImage
    exact {sound with captureCyclesRemaining := Nat.zero_le _}
  · exact {sound with captureCyclesRemaining := (Nat.sub_le _ _).trans sound.captureCyclesRemaining}

theorem Sound.setHostFrame (sound : self.Sound rom ramSize) (frame : Bytes) :
    (self.setHostFrame frame).Sound rom ramSize := by
  refine {sound with hostFrame := Eq.trans ?_ sound.hostFrame}
  simp only [PocketCamera.setHostFrame,length_append,length_take,length_drop]
  omega

end PocketCamera

end ZeffBoy.GameBoy
