import ZeffBoy.GameBoy.Printer

/-! The save states of the printer.
The loader checks the parser, the buffers and the jobs, and that the busy bit says whether busy cycles remain. -/
namespace ZeffBoy.GameBoy
open Library StateReader

def saveStateFormatVersion : Nat := 14

def legacyPrinterImageW : Nat := 176

def legacyPrinterImageH : Nat := 160

def legacyPrinterRgbaSize : Nat := legacyPrinterImageW * legacyPrinterImageH * 4

def legacyStateFormatMarker : UInt8 := 0x80

def logicalStateFormatMarker : UInt8 := 0xC0

namespace ParserState

def encode : ParserState → UInt8
  | .magic1 => 0
  | .magic2 => 1
  | .header => 2
  | .payload => 3
  | .checksumLow => 4
  | .checksumHigh => 5
  | .deviceId => 6
  | .status => 7

def decode (tag : UInt8) : Except String ParserState :=
  if tag = 0 then .ok .magic1
  else if tag = 1 then .ok .magic2
  else if tag = 2 then .ok .header
  else if tag = 3 then .ok .payload
  else if tag = 4 then .ok .checksumLow
  else if tag = 5 then .ok .checksumHigh
  else if tag = 6 then .ok .deviceId
  else if tag = 7 then .ok .status
  else .error s!"invalid Game Boy Printer parser state: {tag}"

/-- How far the packet is in each state of the parser. -/
def valid (state : ParserState) (headerPos payloadExpected payloadReceived : Nat) : Bool :=
  match state with
  | .magic1 | .magic2 => headerPos = 0
  | .header => headerPos < 4
  | .payload => headerPos = 4 ∧ 0 < payloadExpected ∧ payloadReceived < payloadExpected
  | .checksumLow | .checksumHigh | .deviceId | .status => headerPos = 4 ∧ payloadReceived = payloadExpected

end ParserState

def validateParserState (state : ParserState) (headerPos payloadExpected payloadReceived : Nat) : Except String Unit :=
  ensure (state.valid headerPos payloadExpected payloadReceived = true) "inconsistent Game Boy Printer parser state"

def writeVec (bytes : Bytes) : Bytes := writeU64 bytes.length ++ bytes

def readLen (max : Nat) (name : String) : Reader Nat := do
  let value ← readU64
  if max < value then Reader.fail s!"Game Boy Printer {name} {value} exceeds maximum {max}"
  else return value

def readCounted (max : Nat) (name : String) : Reader Bytes := do
  let len ← readLen max name
  take len

namespace GameBoyPrinterJob

def writeState (self : GameBoyPrinterJob) : Bytes :=
  writeU64 self.height ++ (writeVec self.pixels ++ [self.copies,self.feedBefore,self.feedAfter,self.palette,self.density])

def readState : Reader GameBoyPrinterJob := do
  let height ← readLen gameBoyPrinterMaxHeight "job height"
  let pixels ← readCounted (gameBoyPrinterWidth * gameBoyPrinterMaxHeight) "logical pixels"
  let copies ← readU8
  let feedBefore ← readU8
  let feedAfter ← readU8
  let palette ← readU8
  let density ← readU8
  Reader.lift (checkedBy validate {pixels,height,copies,feedBefore,feedAfter,palette,density})

end GameBoyPrinterJob

def readJobs : Reader (List GameBoyPrinterJob) := do
  let count ← readLen maxSavedJobs "job count"
  Reader.many GameBoyPrinterJob.readState count

def legacyShade (gray : UInt8) : UInt8 :=
  if 213 ≤ gray then 0 else if 128 ≤ gray then 1 else if 32 ≤ gray then 2 else 3

def convertLegacyImage (rgba : Bytes) : GameBoyPrinterJob where
  pixels := (List.range 144).flatMap fun y => (List.range gameBoyPrinterWidth).map fun x =>
    legacyShade (byteAt rgba (((y + 8) * legacyPrinterImageW + (x + 8)) * 4))
  height := 144
  copies := 1
  feedBefore := 0
  feedAfter := 0
  palette := 0xE4
  density := 0x40

def readLegacyImages (name : String) : Reader (List GameBoyPrinterJob) := do
  let count ← readLen maxSavedJobs "legacy image count"
  let images ← Reader.many (readCounted legacyPrinterRgbaSize name) count
  return (images.filter fun image => image.length = legacyPrinterRgbaSize).map convertLegacyImage

namespace GameboyPrinter

def writeState (self : GameboyPrinter) : Bytes :=
  (logicalStateFormatMarker ||| self.state.encode)::(self.header.toList ++ (writeU64 self.headerPos ++
    (writeU64 self.payloadExpected ++ (writeU64 self.payloadReceived ++ (writeVec self.payload ++
      (writeU16 self.checksum.toNat ++ (writeU16 self.receivedChecksum.toNat ++ (self.status::self.responseStatus::
        self.finishPrintAfterStatus.toUInt8::(writeU64 self.busyCyclesRemaining ++ (writeVec self.dataBuffer ++
          (self.dataEndSeen.toUInt8::(writeU64 self.jobs.length ++ self.jobs.flatMap GameBoyPrinterJob.writeState))))))))))))

def Agrees (status : UInt8) (busyCyclesRemaining : Nat) : Prop := status &&& statusBusy ≠ 0 ↔ busyCyclesRemaining ≠ 0

instance (status : UInt8) (busyCyclesRemaining : Nat) : Decidable (Agrees status busyCyclesRemaining) :=
  inferInstanceAs (Decidable (_ ↔ _))

def readState (formatVersion : Nat) : Reader GameboyPrinter := do
  let stateTag ← readU8
  let expectedMarker := if 9 ≤ formatVersion then logicalStateFormatMarker else legacyStateFormatMarker
  Reader.lift (ensure (stateTag &&& 0xC0 = expectedMarker) "Game Boy Printer state has an invalid format marker")
  let state ← Reader.lift (ParserState.decode (stateTag &&& 0x3F))
  let header ← readExact 4
  let headerPos ← readLen 4 "header position"
  let payloadExpected ← readLen maxPacketPayload "payload length"
  let payloadReceived ← readLen payloadExpected "payload position"
  let payload ← readCounted maxPacketPayload "packet payload"
  Reader.lift (ensure (payload.length = payloadReceived) "Game Boy Printer payload position does not match stored payload")
  Reader.lift (validateParserState state headerPos payloadExpected payloadReceived)
  let checksum ← readU16
  let receivedChecksum ← readU16
  let status ← readU8
  let responseStatus ← readU8
  let finishPrintAfterStatus ← readBool
  let busyCyclesRemaining ← readU64
  Reader.lift (ensure (Agrees status busyCyclesRemaining)
    "Game Boy Printer busy status disagrees with its remaining duration")
  let dataBuffer ← readCounted bufferCapacity "printer image buffer"
  let dataEndSeen ← readBool
  let jobs ← if 9 ≤ formatVersion then readJobs else readLegacyImages "RGBA image"
  return {
    state,header,headerPos,payload,payloadExpected,payloadReceived
    checksum := UInt16.ofNat checksum
    receivedChecksum := UInt16.ofNat receivedChecksum
    status,responseStatus,finishPrintAfterStatus,busyCyclesRemaining,dataBuffer,dataEndSeen,jobs}

end GameboyPrinter
end ZeffBoy.GameBoy
