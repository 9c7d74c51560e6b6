import ZeffBoy.GameBoy.StateFormat

/-! The packet decoder of the Super Game Boy.
The guest clocks packets of sixteen bytes bit by bit through the joypad register; a command is one to seven packets. -/
namespace ZeffBoy.GameBoy
open Library

abbrev Packet := List.Vector UInt8 16

abbrev Palette := List.Vector UInt16 4

def multiPacketCapacity : Nat := 16 * 7

inductive SgbEvent
  | pal01 (first second : Palette)
  | pal23 (first second : Palette)
  | palSet (palettes : Palette) (attrFile : UInt8) (cancelMask : Bool)
  | palTrn
  | maskEn (mode : UInt8)
  | mltReq (mode : UInt8)
  | chrTrn (bank : UInt8)
  | pctTrn
  | attrTrn
  | attrSet (attrFile : UInt8) (cancelMask : Bool)
  | attrBlk (data : Bytes)
  | attrLin (data : Bytes)
  | attrDiv (packet : Packet)
  | attrChr (data : Bytes)
deriving DecidableEq

structure SgbState where
  collecting : Bool
  bitCount : Nat
  currentByte : UInt8
  packet : Packet
  packetPos : Nat
  packetsRemaining : Nat
  multiPacketData : Bytes
  multiPacketCommand : UInt8
deriving DecidableEq

-- The commands whose packets are gathered before the event.
def needsMultiPacket (command : UInt8) : Bool := command == 0x04 || command == 0x05 || command == 0x07

def readPacketU16 (packet : Packet) (index : Nat) : UInt16 :=
  (packet.toList.getD index 0).toUInt16 ||| (packet.toList.getD (index + 1) 0).toUInt16 <<< 8

def resetPulse (value : UInt8) : Bool := value &&& 0x10 == 0 && value &&& 0x20 == 0

-- A write with one line low is a bit: line P14 a zero, line P15 a one.
def lineBit (value : UInt8) : Option UInt8 :=
  match value &&& 0x10 == 0,value &&& 0x20 == 0 with
  | true,false => some 0
  | false,true => some 1
  | _,_ => none

namespace SgbState

def new : SgbState := ⟨false,0,0,List.Vector.replicate 16 0,0,0,[],0⟩

def parseMultiPacket (self : SgbState) : Option SgbEvent :=
  match self.multiPacketCommand.toNat with
  | 0x04 => some (.attrBlk self.multiPacketData)
  | 0x05 => some (.attrLin self.multiPacketData)
  | 0x07 => some (.attrChr self.multiPacketData)
  | _ => none

-- The two palettes of a packet share their first colour.
def palettePair (packet : Packet) : Palette × Palette :=
  let common := readPacketU16 packet 1
  let first := common::ᵥreadPacketU16 packet 3::ᵥreadPacketU16 packet 5::ᵥreadPacketU16 packet 7::ᵥ.nil
  let second := common::ᵥreadPacketU16 packet 9::ᵥreadPacketU16 packet 11::ᵥreadPacketU16 packet 13::ᵥ.nil
  (first,second)

def parsePacket (packet : Packet) : Option SgbEvent :=
  let byte := fun index => packet.toList.getD index 0
  match (byte 0 >>> 3).toNat with
  | 0x00 => some (.pal01 (palettePair packet).1 (palettePair packet).2)
  | 0x01 => some (.pal23 (palettePair packet).1 (palettePair packet).2)
  | 0x04 => some (.attrBlk packet.toList)
  | 0x05 => some (.attrLin packet.toList)
  | 0x06 => some (.attrDiv packet)
  | 0x07 => some (.attrChr packet.toList)
  | 0x0A =>
    let palette := fun index => readPacketU16 packet index &&& 0x01FF
    some (.palSet (palette 1::ᵥpalette 3::ᵥpalette 5::ᵥpalette 7::ᵥ.nil) (byte 9 &&& 0x3F) (byte 9 &&& 0x40 != 0))
  | 0x0B => some .palTrn
  | 0x11 => some (.mltReq (byte 1 &&& 0x03))
  | 0x13 => some (.chrTrn (byte 1 &&& 0x01))
  | 0x14 => some .pctTrn
  | 0x15 => some .attrTrn
  | 0x16 => some (.attrSet (byte 1 &&& 0x3F) (byte 1 &&& 0x40 != 0))
  | 0x17 => some (.maskEn (byte 1 &&& 0x03))
  | _ => none

def startPacket (self : SgbState) : SgbState :=
  {self with collecting := true, bitCount := 0, currentByte := 0, packetPos := 0, packet := List.Vector.replicate 16 0}

def pushBit (self : SgbState) (bit : UInt8) : SgbState :=
  let received := self.currentByte ||| bit <<< UInt8.ofNat self.bitCount
  if self.bitCount + 1 = 8 then
    if inside : self.packetPos < 16 then
      {self with
        packet := self.packet.set ⟨self.packetPos,inside⟩ received
        packetPos := self.packetPos + 1
        bitCount := 0
        currentByte := 0}
    else {self with bitCount := 0, currentByte := 0}
  else {self with bitCount := self.bitCount + 1, currentByte := received}

/-- What a packet that is complete means: part of a command under way, or the first packet of one. -/
def dispatchPacket (self : SgbState) : Option SgbEvent × SgbState :=
  if 0 < self.packetsRemaining ∧ self.multiPacketData ≠ [] then
    let gathered := {self with
      multiPacketData := self.multiPacketData ++ self.packet.toList
      packetsRemaining := self.packetsRemaining - 1}
    if gathered.packetsRemaining = 0 then
      (gathered.parseMultiPacket,{gathered with multiPacketData := [], multiPacketCommand := 0})
    else (none,gathered)
  else if 0 < self.packetsRemaining then (none,{self with packetsRemaining := self.packetsRemaining - 1})
  else
    let header := self.packet.toList.getD 0 0
    let command := header >>> 3
    let packetCount := if header &&& 0x07 = 0 then 1 else (header &&& 0x07).toNat
    if 1 < packetCount ∧ needsMultiPacket command then
      (none,{self with
        multiPacketCommand := command
        multiPacketData := self.packet.toList
        packetsRemaining := packetCount - 1})
    else if 1 < packetCount then (parsePacket self.packet,{self with packetsRemaining := packetCount - 1})
    else (parsePacket self.packet,self)

def onJoypWrite (self : SgbState) (value : UInt8) : Option SgbEvent × SgbState :=
  if resetPulse value then (none,self.startPacket)
  else if !self.collecting then (none,self)
  else match lineBit value with
    | none => (none,self)
    | some bit =>
      let pushed := self.pushBit bit
      if pushed.packetPos = 16 then {pushed with collecting := false}.dispatchPacket else (none,pushed)

/-- The events of a run of joypad writes, in order, and the state after it. -/
def receive (self : SgbState) : List UInt8 → List SgbEvent × SgbState
  | [] => ([],self)
  | value::writes =>
    let written := self.onJoypWrite value
    let later := written.2.receive writes
    (written.1.toList ++ later.1,later.2)

def writeState (self : SgbState) : Bytes :=
  self.collecting.toUInt8::UInt8.ofNat self.bitCount::self.currentByte::(self.packet.toList ++
    (writeU64 self.packetPos ++ [UInt8.ofNat self.packetsRemaining]))

def writeNativeContinuation (self : SgbState) : Bytes :=
  self.multiPacketCommand::UInt8.ofNat self.multiPacketData.length::(self.multiPacketData ++
    (List.replicate multiPacketCapacity 0).drop self.multiPacketData.length)

-- Formats before the native continuation could end before the last field.
def readPacketsRemaining (formatVersion : Nat) : Reader UInt8 := fun input =>
  match StateReader.readU8 input with
  | .ok step => .ok step
  | .error message => if 14 ≤ formatVersion then .error message else .ok (0,input)

def readState (formatVersion : Nat) : Reader SgbState := do
  let collecting ← StateReader.readBool
  let bitCount ← StateReader.readU8
  let currentByte ← StateReader.readU8
  let packet ← StateReader.readExact 16
  let packetPosRaw ← StateReader.readU64
  let packetPos := if 14 ≤ formatVersion then packetPosRaw else min packetPosRaw 16
  let packetsRemaining ← readPacketsRemaining formatVersion
  return {
    collecting
    bitCount := bitCount.toNat
    currentByte
    packet
    packetPos
    packetsRemaining := packetsRemaining.toNat
    multiPacketData := []
    multiPacketCommand := 0}

def validateMultiPacket (self : SgbState) : Except String Unit :=
  match self.multiPacketData with
  | [] => ensure (self.multiPacketCommand = 0) "SGB multi-packet command has no accumulated data"
  | header::_ => do
    ensure (needsMultiPacket self.multiPacketCommand) "invalid SGB multi-packet command"
    ensure (self.multiPacketData.length % 16 = 0) "invalid SGB multi-packet data length"
    ensure (0 < self.packetsRemaining) "completed SGB multi-packet data was not dispatched"
    let packetCount := self.multiPacketData.length / 16 + self.packetsRemaining
    ensure (packetCount ≤ 7) "invalid SGB multi-packet total"
    ensure (header >>> 3 = self.multiPacketCommand ∧ max (header &&& 0x07).toNat 1 = packetCount)
      "SGB multi-packet header does not match continuation state"

def validateNativeContinuation (self : SgbState) : Except String Unit := do
  ensure (self.bitCount ≤ 7) "invalid SGB packet bit count"
  ensure (self.packetPos ≤ 16) "invalid SGB packet byte position"
  ensure (!self.collecting ∨ self.packetPos < 16) "invalid completed SGB packet collection"
  ensure (self.collecting ∨ self.bitCount = 0 ∧ self.currentByte = 0)
    "inactive SGB packet collection has partial byte state"
  ensure (self.currentByte >>> UInt8.ofNat self.bitCount = 0) "invalid SGB partial packet byte"
  ensure (self.packetsRemaining ≤ 6) "invalid SGB remaining packet count"
  self.validateMultiPacket

def readNativeContinuation (self : SgbState) : Reader SgbState := do
  let multiPacketCommand ← StateReader.readU8
  let dataLen ← StateReader.readU8
  let data ← StateReader.readExact multiPacketCapacity
  Reader.lift (ensure (dataLen.toNat ≤ multiPacketCapacity) "invalid SGB multi-packet data length")
  Reader.lift (ensure (∀ byte ∈ data.toList.drop dataLen.toNat, byte = 0) "non-zero SGB multi-packet padding")
  let read := {self with multiPacketCommand, multiPacketData := data.toList.take dataLen.toNat}
  Reader.lift read.validateNativeContinuation
  return read

end SgbState
end ZeffBoy.GameBoy
