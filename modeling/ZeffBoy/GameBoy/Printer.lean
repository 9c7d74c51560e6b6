import ZeffBoy.GameBoy.Clocks

/-! The Game Boy Printer at the end of the serial cable.
Bytes come in one at a time: a magic pair, a header, a payload, its checksum and two bytes that are answered with the
device and its status. A packet is executed when its checksum is complete. -/
namespace ZeffBoy.GameBoy
open Library

local instance neZero_header : NeZero 4 := ⟨by decide⟩

def deviceId : UInt8 := 0x81

def bufferCapacity : Nat := 8 * 1024

def maxPacketPayload : Nat := 2^16 - 1

def maxSavedJobs : Nat := 1024

def printBandsPerSecondNumerator : Nat := 11

def printBandsPerSecondDenominator : Nat := 10

def statusChecksumError : UInt8 := 0x01

def statusBusy : UInt8 := 0x02

def statusBufferFull : UInt8 := 0x04

def statusUnprocessedData : UInt8 := 0x08

def statusPacketError : UInt8 := 0x10

def transientErrorMask : UInt8 := statusChecksumError ||| statusPacketError

def printerTilesPerRow : Nat := 20

def bytesPerTile : Nat := 16

def bytesPerTileRow : Nat := printerTilesPerRow * bytesPerTile

def gameBoyPrinterWidth : Nat := printerTilesPerRow * 8

def gameBoyPrinterMaxHeight : Nat := bufferCapacity / bytesPerTileRow * 8

def divCeil (value divisor : Nat) : Nat := (value + divisor - 1) / divisor

structure GameBoyPrinterJob where
  pixels : Bytes
  height : Nat
  copies : UInt8
  feedBefore : UInt8
  feedAfter : UInt8
  palette : UInt8
  density : UInt8
deriving DecidableEq

namespace GameBoyPrinterJob

def validate (self : GameBoyPrinterJob) : Except String Unit :=
  if gameBoyPrinterMaxHeight < self.height ∨ self.height % 8 ≠ 0 then
    .error s!"invalid Game Boy Printer job height: {self.height}"
  else if self.pixels.length ≠ gameBoyPrinterWidth * self.height ∨ self.pixels.any (fun pixel => 3 < pixel) then
    .error "invalid Game Boy Printer logical pixel data"
  else if 0x0F < self.feedBefore ∨ 0x0F < self.feedAfter ∨ 0x7F < self.density then
    .error "invalid Game Boy Printer job parameters"
  else .ok ()

def hasImage (self : GameBoyPrinterJob) : Bool := self.copies != 0 && self.height != 0

end GameBoyPrinterJob

inductive ParserState
  | magic1
  | magic2
  | header
  | payload
  | checksumLow
  | checksumHigh
  | deviceId
  | status
deriving DecidableEq

@[ext] structure GameboyPrinter where
  state : ParserState
  header : List.Vector UInt8 4
  headerPos : Nat
  payload : Bytes
  payloadExpected : Nat
  payloadReceived : Nat
  checksum : UInt16
  receivedChecksum : UInt16
  status : UInt8
  responseStatus : UInt8
  finishPrintAfterStatus : Bool
  busyCyclesRemaining : Nat
  dataBuffer : Bytes
  dataEndSeen : Bool
  jobs : List GameBoyPrinterJob
deriving DecidableEq

/-- The rest of the payload after the runs decoded so far. -/
def decodeRleFrom (encoded decoded : Bytes) : Option Bytes :=
  match encoded with
  | [] => some decoded
  | control::rest =>
    if control &&& 0x80 = 0 then
      let len := control.toNat + 1
      if rest.length < len then none
      else if bufferCapacity < decoded.length + len then none
      else decodeRleFrom (rest.drop len) (decoded ++ rest.take len)
    else
      match rest with
      | [] => none
      | value::rest =>
        let len := (control &&& 0x7F).toNat + 2
        if bufferCapacity < decoded.length + len then none
        else decodeRleFrom rest (decoded ++ List.replicate len value)
termination_by encoded.length

def decodeRle (encoded : Bytes) : Option Bytes := decodeRleFrom encoded []

namespace GameboyPrinter

def new : GameboyPrinter where
  state := .magic1
  header := List.Vector.replicate 4 0
  headerPos := 0
  payload := []
  payloadExpected := 0
  payloadReceived := 0
  checksum := 0
  receivedChecksum := 0
  status := 0
  responseStatus := 0
  finishPrintAfterStatus := false
  busyCyclesRemaining := 0
  dataBuffer := []
  dataEndSeen := false
  jobs := []

def resetParser (self : GameboyPrinter) : GameboyPrinter := {self with
  state := .magic1
  header := List.Vector.replicate 4 0
  headerPos := 0
  payload := []
  payloadExpected := 0
  payloadReceived := 0
  checksum := 0
  receivedChecksum := 0}

def startPacket (self : GameboyPrinter) : GameboyPrinter := {self.resetParser with state := .header}

def initializePrinter (self : GameboyPrinter) : GameboyPrinter := {self with
  status := 0
  responseStatus := 0
  finishPrintAfterStatus := false
  busyCyclesRemaining := 0
  dataBuffer := []
  dataEndSeen := false}

def raise (self : GameboyPrinter) (flags : UInt8) : GameboyPrinter := {self with status := self.status ||| flags}

def decodePayload (self : GameboyPrinter) (compression : UInt8) : Option Bytes :=
  if compression = 0 then some self.payload else if compression = 1 then decodeRle self.payload else none

-- Neither length comes near the word, so their sum is never refused for its own size.
def appendData (self : GameboyPrinter) (decoded : Bytes) : GameboyPrinter :=
  if bufferCapacity < self.dataBuffer.length + decoded.length then self.raise statusBufferFull
  else
    let status := self.status ||| statusUnprocessedData
    {self with
      dataBuffer := self.dataBuffer ++ decoded
      dataEndSeen := false
      status := if self.dataBuffer.length + decoded.length = bufferCapacity then status ||| statusBufferFull else status}

def receiveData (self : GameboyPrinter) (compression : UInt8) : GameboyPrinter :=
  if self.payload.isEmpty then
    if compression = 0 then {self with dataEndSeen := true} else self.raise statusPacketError
  else
    match self.decodePayload compression with
    | none => self.raise statusPacketError
    | some decoded => self.appendData decoded

def pixel (dataBuffer : Bytes) (y x : Nat) : UInt8 :=
  let tileOffset := (y / 8 * printerTilesPerRow + x / 8) * bytesPerTile
  let lo := byteAt dataBuffer (tileOffset + y % 8 * 2)
  let hi := byteAt dataBuffer (tileOffset + y % 8 * 2 + 1)
  let bit := UInt8.ofNat (7 - x % 8)
  ((hi >>> bit) &&& 1) <<< 1 ||| ((lo >>> bit) &&& 1)

/-- The loops over tiles, rows and columns set every pixel once. -/
def buildJob (self : GameboyPrinter) : GameBoyPrinterJob :=
  let tileRows := min (divCeil self.dataBuffer.length bytesPerTileRow) (gameBoyPrinterMaxHeight / 8)
  let height := tileRows * 8
  { pixels := (List.range height).flatMap fun y => (List.range gameBoyPrinterWidth).map fun x => pixel self.dataBuffer y x
    height
    copies := byteAt self.payload 0
    feedBefore := byteAt self.payload 1 >>> 4
    feedAfter := byteAt self.payload 1 &&& 0x0F
    palette := byteAt self.payload 2
    density := byteAt self.payload 3 &&& 0x7F}

def printDurationCycles (self : GameboyPrinter) : Nat :=
  let copies := (byteAt self.payload 0).toNat
  let imageBands := if copies = 0 then 0 else divCeil self.dataBuffer.length (bytesPerTileRow * 2)
  let feedBefore := if imageBands = 0 then 0 else (byteAt self.payload 1 >>> 4).toNat
  let feedAfter := (byteAt self.payload 1 &&& 0x0F).toNat
  let totalBands := min (min (min (imageBands + feedBefore) (2^64 - 1) + feedAfter) (2^64 - 1) * max copies 1) (2^64 - 1)
  divCeil (min (totalBands * (gbTCyclesPerSecond * printBandsPerSecondDenominator)) (2^64 - 1)) printBandsPerSecondNumerator

def saveJob (self : GameboyPrinter) (job : GameBoyPrinterJob) : GameboyPrinter :=
  {self with jobs := (if self.jobs.length = maxSavedJobs then self.jobs.tail else self.jobs) ++ [job]}

def jobToPrint (self : GameboyPrinter) : GameBoyPrinterJob :=
  let job := self.buildJob
  if !job.hasImage then {job with pixels := [], height := 0, feedBefore := 0} else job

def startPrint (self : GameboyPrinter) : GameboyPrinter :=
  let self := self.raise statusBufferFull
  let self := {self with busyCyclesRemaining := self.printDurationCycles}
  let self := if self.busyCyclesRemaining ≠ 0 then self.raise statusBusy else self
  {self with finishPrintAfterStatus := true}

def print (self : GameboyPrinter) : GameboyPrinter :=
  if !self.dataEndSeen then self
  else
    let job := self.jobToPrint
    let self := if job.hasImage || job.feedAfter != 0 then self.saveJob job else self
    self.startPrint

def breakPrint (self : GameboyPrinter) : GameboyPrinter := {self with
  status := self.status &&& ~~~statusBusy
  busyCyclesRemaining := 0
  finishPrintAfterStatus := false}

def executeCommand (self : GameboyPrinter) : GameboyPrinter :=
  let command := self.header.get 0
  let compression := self.header.get 1
  if command = 0x01 ∧ compression = 0 ∧ self.payload.isEmpty then self.initializePrinter
  else if command = 0x02 ∧ compression = 0 ∧ self.payload.length = 4 then self.print
  else if command = 0x04 then self.receiveData compression
  else if command = 0x08 ∧ compression = 0 ∧ self.payload.isEmpty then self.breakPrint
  else if command = 0x0F ∧ compression = 0 ∧ self.payload.isEmpty then self
  else self.raise statusPacketError

def finishPacket (self : GameboyPrinter) : GameboyPrinter :=
  let self := {self with status := self.status &&& ~~~transientErrorMask}
  let statusBeforeCommand := self.status
  if self.receivedChecksum ≠ self.checksum then
    let self := self.raise statusChecksumError
    {self with responseStatus := self.status}
  else
    let self := self.executeCommand
    {self with
      responseStatus :=
        if self.header.get 0 = 0x01 ∨ self.status &&& transientErrorMask ≠ 0 then self.status else statusBeforeCommand}

/-- What the status byte does to a printer whose print has been answered. -/
def finishPrint (self : GameboyPrinter) : GameboyPrinter :=
  if self.finishPrintAfterStatus then {self with
    finishPrintAfterStatus := false
    status := self.status &&& ~~~statusUnprocessedData
    dataBuffer := []
    dataEndSeen := false}
  else self

-- The position is below four whenever a header byte is due.
def headerByte (self : GameboyPrinter) (byte : UInt8) : GameboyPrinter :=
  let header := if inside : self.headerPos < 4 then self.header.set ⟨self.headerPos,inside⟩ byte else self.header
  let self := {self with header, headerPos := self.headerPos + 1, checksum := self.checksum + byte.toUInt16}
  if self.headerPos = 4 then
    let payloadExpected := (self.header.get 2).toNat + 256 * (self.header.get 3).toNat
    {self with payloadExpected, state := if payloadExpected = 0 then .checksumLow else .payload}
  else self

def payloadByte (self : GameboyPrinter) (byte : UInt8) : GameboyPrinter :=
  let self := {self with
    checksum := self.checksum + byte.toUInt16
    payload := self.payload ++ [byte]
    payloadReceived := self.payloadReceived + 1}
  if self.payloadReceived = self.payloadExpected then {self with state := .checksumLow} else self

def feedSerialByte (self : GameboyPrinter) (byte : UInt8) : GameboyPrinter × UInt8 :=
  match self.state with
  | .magic1 => (if byte = 0x88 then {self with state := .magic2} else self,0)
  | .magic2 =>
    (if byte = 0x33 then self.startPacket else if byte ≠ 0x88 then {self with state := .magic1} else self,0)
  | .header => (self.headerByte byte,0)
  | .payload => (self.payloadByte byte,0)
  | .checksumLow => ({self with receivedChecksum := byte.toUInt16, state := .checksumHigh},0)
  | .checksumHigh =>
    let self := {self with receivedChecksum := self.receivedChecksum ||| byte.toUInt16 <<< 8}
    ({self.finishPacket with state := .deviceId},0)
  | .deviceId => ({self with state := .status},GameBoy.deviceId)
  | .status => (self.finishPrint.resetParser,self.responseStatus)

def step (self : GameboyPrinter) (tCycles : UInt64) : GameboyPrinter :=
  if self.busyCyclesRemaining = 0 then self
  else
    let self := {self with busyCyclesRemaining := self.busyCyclesRemaining - tCycles.toNat}
    if self.busyCyclesRemaining = 0 then {self with status := self.status &&& ~~~statusBusy} else self

def takeJobs (self : GameboyPrinter) : List GameBoyPrinterJob × GameboyPrinter := (self.jobs,{self with jobs := []})

def reconnect (self : GameboyPrinter) : GameboyPrinter := self.resetParser.initializePrinter

end GameboyPrinter
end ZeffBoy.GameBoy
