import ZeffBoy.GameBoy.StateFormat

/-! The memory in a cartridge of a Game Boy Advance that outlasts its power: plain bytes, a flash chip behind unlock sequences, or a
serial chip that takes its commands as bursts of bits. -/
namespace ZeffBoy.Gba.Backup
open List

open Library (Bytes Reader)
open GameBoy (writeU32)
open GameBoy.StateReader (readU8 readBool readU32 readExact)

def sramSize : Nat := 0x10000
def flash1mSize : Nat := 0x20000
def eepromSize : Nat := 0x2000
def eepromWriteBusyCycles : Nat := 108368
def maxEepromCommandBits : Nat := 81
def maxEepromReadBits : Nat := 68

inductive BackupKind
  | none
  | sram
  | flash512
  | flash1m
  | eeprom
deriving DecidableEq

namespace BackupKind

def size : BackupKind → Nat
  | none => 0
  | sram | flash512 => sramSize
  | flash1m => flash1mSize
  | eeprom => eepromSize

def isFlash (kind : BackupKind) : Bool := kind = flash512 || kind = flash1m

def tag : BackupKind → UInt8
  | none => 0
  | sram => 1
  | flash512 => 2
  | flash1m => 3
  | eeprom => 4

def fromTag (tag : UInt8) : Except String BackupKind :=
  match tag.toNat with
  | 0 => .ok none
  | 1 => .ok sram
  | 2 => .ok flash512
  | 3 => .ok flash1m
  | 4 => .ok eeprom
  | _ => .error "invalid GBA backup kind"

end BackupKind

inductive FlashCommandState
  | ready
  | unlock1
  | unlock2
  | program
  | eraseSetup
  | eraseUnlock1
  | eraseUnlock2
  | bankSwitch
deriving DecidableEq

namespace FlashCommandState

def tag : FlashCommandState → UInt8
  | ready => 0
  | unlock1 => 1
  | unlock2 => 2
  | program => 3
  | eraseSetup => 4
  | eraseUnlock1 => 5
  | eraseUnlock2 => 6
  | bankSwitch => 7

def fromTag (tag : UInt8) : Except String FlashCommandState :=
  match tag.toNat with
  | 0 => .ok ready
  | 1 => .ok unlock1
  | 2 => .ok unlock2
  | 3 => .ok program
  | 4 => .ok eraseSetup
  | 5 => .ok eraseUnlock1
  | 6 => .ok eraseUnlock2
  | 7 => .ok bankSwitch
  | _ => .error "invalid GBA Flash command state"

end FlashCommandState

structure FlashState where
  command : FlashCommandState
  idMode : Bool
  bank : Nat
deriving DecidableEq

def FlashState.initial : FlashState := ⟨.ready,false,0⟩

/-- What the reader accepts for a kind of chip. -/
def FlashState.Fits (kind : BackupKind) (flash : FlashState) : Prop :=
  match kind with
  | .flash512 => flash.bank = 0 ∧ flash.command ≠ .bankSwitch
  | .flash1m => flash.bank ≤ 1
  | _ => flash = .initial

instance (kind : BackupKind) (flash : FlashState) : Decidable (flash.Fits kind) := by
  unfold FlashState.Fits
  cases kind <;> infer_instance

structure EepromState where
  commandBits : Bytes
  readBits : Bytes
  readIndex : Nat
  busyCyclesRemaining : Nat
deriving DecidableEq

namespace EepromState

def initial : EepromState := ⟨[],[],0,0⟩

section Bits

def eepromReadCommandLen (addressBits : Nat) : Nat := 2 + addressBits + 1

def eepromWriteCommandLen (addressBits : Nat) : Nat := 2 + addressBits + 64 + 1

def eepromPageFromBits (bits : Bytes) : Nat := bits.foldl (fun value bit => value <<< 1 ||| (bit &&& 1).toNat) 0

def eepromPageOffset (backup : Bytes) (page : Nat) : Nat := (page &&& (max (backup.length / 8) 1 - 1)) * 8

def eepromByte (bits : Bytes) (byteIndex : Nat) : UInt8 :=
  (List.range 8).foldl (fun value bitIndex => value <<< 1 ||| bits.getD (byteIndex * 8 + bitIndex) 0 &&& 1) 0

def eepromWritePage (backup : Bytes) (page : Nat) (bits : Bytes) : Bytes :=
  let offset := eepromPageOffset backup page
  backup.mapIdx fun index byte => if offset ≤ index ∧ index < offset + 8 then eepromByte bits (index - offset) else byte

end Bits

def prepareReadBits (backup : Bytes) (page : Nat) (eeprom : EepromState) : EepromState :=
  let offset := eepromPageOffset backup page
  {eeprom with
    readBits := ([0,0,0,0] : Bytes) ++ ((backup.drop offset).take 8).flatMap fun byte =>
      (List.range 8).reverse.map fun bit => byte >>> UInt8.ofNat bit &&& 1
    readIndex := 0}

def tryProcessReadCommand (backup : Bytes) (eeprom : EepromState) : Bool × EepromState :=
  match [6,14].find? fun addressBits => eeprom.commandBits.length = eepromReadCommandLen addressBits with
  | some addressBits => (true,eeprom.prepareReadBits backup (eepromPageFromBits ((eeprom.commandBits.drop 2).take addressBits)))
  | none => (false,eeprom)

def tryProcessWriteCommand (backup : Bytes) (eeprom : EepromState) : Bool × EepromState × Bytes :=
  match [6,14].find? fun addressBits => eeprom.commandBits.length = eepromWriteCommandLen addressBits with
  | some addressBits =>
    if eeprom.commandBits.getD (eepromWriteCommandLen addressBits - 1) 0 ≠ 0 then (true,eeprom,backup)
    else
      let page := eepromPageFromBits ((eeprom.commandBits.drop 2).take addressBits)
      (true,{eeprom with readBits := [], readIndex := 0, busyCyclesRemaining := eepromWriteBusyCycles},
        eepromWritePage backup page ((eeprom.commandBits.drop (2 + addressBits)).take 64))
  | none => (false,eeprom,backup)

def tryProcessCommand (backup : Bytes) (eeprom : EepromState) : Bool × EepromState × Bytes :=
  match eeprom.commandBits with
  | 1::1::_ =>
    let (done,eeprom) := eeprom.tryProcessReadCommand backup
    (done,eeprom,backup)
  | 1::0::_ => eeprom.tryProcessWriteCommand backup
  | bits => (2 ≤ bits.length,eeprom,backup)

def writeBits (bits backup : Bytes) (eeprom : EepromState) : EepromState × Bytes :=
  if backup = [] then (eeprom,backup)
  else
    let (_,eeprom,backup) := tryProcessCommand backup {eeprom with commandBits := bits.map fun bit => bit &&& 1}
    ({eeprom with commandBits := []},backup)

theorem length_writePage (backup : Bytes) (page : Nat) (bits : Bytes) : (eepromWritePage backup page bits).length = backup.length :=
  length_mapIdx

theorem length_writeBits (bits backup : Bytes) (eeprom : EepromState) : (eeprom.writeBits bits backup).2.length = backup.length := by
  have written (eeprom : EepromState) : (eeprom.tryProcessWriteCommand backup).2.2.length = backup.length := by
    unfold tryProcessWriteCommand
    split
    · split
      · rfl
      · exact length_writePage _ _ _
    · rfl
  unfold writeBits
  split
  · rfl
  · unfold tryProcessCommand
    dsimp only
    split
    · rfl
    · exact written _
    · rfl

def read16 (backup : Bytes) (eeprom : EepromState) : UInt16 × EepromState :=
  if backup = [] then (0xFFFF,eeprom)
  else if eeprom.busyCyclesRemaining ≠ 0 then (0,eeprom)
  else if eeprom.readIndex < eeprom.readBits.length then
    ((eeprom.readBits.getD eeprom.readIndex 0 &&& 1).toUInt16,{eeprom with readIndex := eeprom.readIndex + 1})
  else (1,eeprom)

def stepCycles (cycles : Nat) (eeprom : EepromState) : EepromState :=
  {eeprom with busyCyclesRemaining := eeprom.busyCyclesRemaining - cycles}

end EepromState

/-- What a cartridge has beside its memory at the same addresses. -/
structure TiltSensor where
  hostXBits : UInt32
  hostYBits : UInt32
  xLatch : UInt16
  yLatch : UInt16
  latchReady : Bool

namespace TiltSensor

def read8 (addr : UInt32) (tilt : TiltSensor) : Option UInt8 :=
  match (addr &&& 0xFFFF).toNat with
  | 0x8200 => some tilt.xLatch.toUInt8
  | 0x8300 => some ((tilt.xLatch >>> 8).toUInt8 &&& 0x0F ||| 0x80)
  | 0x8400 => some tilt.yLatch.toUInt8
  | 0x8500 => some ((tilt.yLatch >>> 8).toUInt8 &&& 0x0F)
  | _ => none

def write8 (mapComponent : UInt32 → UInt16) (addr : UInt32) (value : UInt8) (tilt : TiltSensor) : Bool × TiltSensor :=
  match (addr &&& 0xFFFF).toNat with
  | 0x8000 => (true,if value = 0x55 then {tilt with latchReady := true} else tilt)
  | 0x8100 => (true,if value = 0xAA ∧ tilt.latchReady then {tilt with
      latchReady := false
      xLatch := mapComponent tilt.hostXBits
      yLatch := mapComponent tilt.hostYBits} else tilt)
  | 0x8200 | 0x8300 | 0x8400 | 0x8500 => (true,tilt)
  | _ => (false,tilt)

end TiltSensor

/-- The bytes are as many as the kind of the chip says. -/
structure Cartridge where
  rom : Bytes
  backupKind : BackupKind
  backup : Bytes
  flash : FlashState
  eeprom : EepromState
  tilt : Option TiltSensor
  size : backup.length = backupKind.size

namespace Cartridge

def initial (rom : Bytes) (kind : BackupKind) (tilt : Option TiltSensor) : Cartridge where
  rom := rom
  backupKind := kind
  backup := List.replicate kind.size 0xFF
  flash := .initial
  eeprom := .initial
  tilt := tilt
  size := length_replicate

section Flash

def flashAddrOffset (addr : UInt32) : Nat := addr.toNat &&& (sramSize - 1)

def flashIndex (offset : Nat) (cartridge : Cartridge) : Nat :=
  let bankBase := if cartridge.backupKind = .flash1m then cartridge.flash.bank * sramSize else 0
  (bankBase + offset) &&& (cartridge.backup.length - 1)

def fill (start stop : Nat) (value : UInt8) (bytes : Bytes) : Bytes :=
  bytes.mapIdx fun index byte => if start ≤ index ∧ index < stop then value else byte

def change (update : Bytes → Bytes) (keeps : ∀ bytes, (update bytes).length = bytes.length) (cartridge : Cartridge) : Cartridge :=
  {cartridge with backup := update cartridge.backup, size := (keeps _).trans cartridge.size}

def eraseFlashSector (offset : Nat) (cartridge : Cartridge) : Cartridge :=
  let start := cartridge.flashIndex (offset >>> 12 <<< 12)
  cartridge.change (fill start (min (start + 0x1000) cartridge.backup.length) 0xFF) fun _ => length_mapIdx

def enter (command : FlashCommandState) (cartridge : Cartridge) : Cartridge :=
  {cartridge with flash := {cartridge.flash with command := command}}

def flashWrite8 (addr : UInt32) (value : UInt8) (cartridge : Cartridge) : Cartridge :=
  let offset := flashAddrOffset addr
  let identify (idMode : Bool) (cartridge : Cartridge) : Cartridge := {cartridge with flash := {cartridge.flash with idMode := idMode}}
  match cartridge.flash.command with
  | .ready =>
    if offset = 0x5555 ∧ value = 0xAA then cartridge.enter .unlock1
    else if value = 0xF0 then identify false cartridge
    else cartridge
  | .unlock1 => cartridge.enter (if offset = 0x2AAA ∧ value = 0x55 then .unlock2 else .ready)
  | .unlock2 =>
    if value = 0x90 ∧ offset = 0x5555 then identify true (cartridge.enter .ready)
    else if value = 0xF0 then identify false (cartridge.enter .ready)
    else if value = 0xA0 ∧ offset = 0x5555 then cartridge.enter .program
    else if value = 0x80 ∧ offset = 0x5555 then cartridge.enter .eraseSetup
    else if value = 0xB0 ∧ offset = 0x5555 ∧ cartridge.backupKind = .flash1m then cartridge.enter .bankSwitch
    else cartridge.enter .ready
  | .program =>
    (cartridge.change (fun backup => backup.modify (cartridge.flashIndex offset) (· &&& value)) fun _ => length_modify ..).enter .ready
  | .eraseSetup => cartridge.enter (if offset = 0x5555 ∧ value = 0xAA then .eraseUnlock1 else .ready)
  | .eraseUnlock1 => cartridge.enter (if offset = 0x2AAA ∧ value = 0x55 then .eraseUnlock2 else .ready)
  | .eraseUnlock2 =>
    (if offset = 0x5555 ∧ value = 0x10 then cartridge.change (fun backup => List.replicate backup.length 0xFF) fun _ => length_replicate
      else if value = 0x30 then cartridge.eraseFlashSector offset
      else cartridge).enter .ready
  | .bankSwitch =>
    (if offset = 0 then {cartridge with flash := {cartridge.flash with bank := (value &&& 1).toNat}} else cartridge).enter .ready

end Flash

/-- The memory is written, unless the address is one of the other sensor's. -/
def storeBackup8 (addr : UInt32) (value : UInt8) (cartridge : Cartridge) : Cartridge :=
  if cartridge.backup = [] then cartridge
  else if cartridge.backupKind = .eeprom then cartridge
  else if cartridge.backupKind.isFlash then cartridge.flashWrite8 addr value
  else cartridge.change (fun backup => backup.set (addr.toNat &&& (backup.length - 1)) value) fun _ => length_set

def backupWrite8 (mapComponent : UInt32 → UInt16) (addr : UInt32) (value : UInt8) (cartridge : Cartridge) : Cartridge :=
  match cartridge.tilt with
  | none => cartridge.storeBackup8 addr value
  | some tilt =>
    let (handled,tilt) := tilt.write8 mapComponent addr value
    let cartridge := {cartridge with tilt := some tilt}
    if handled then cartridge else cartridge.storeBackup8 addr value

def isEepromAccessAddr (addr : UInt32) (cartridge : Cartridge) : Bool :=
  if cartridge.backupKind ≠ .eeprom then false
  else if ¬(0x0D000000 ≤ addr ∧ addr ≤ 0x0DFFFFFF) then false
  else cartridge.rom.length ≤ 0x01000000 || 0x0DFFFF00 ≤ addr

def eepromRead16 (addr : UInt32) (cartridge : Cartridge) : UInt16 × Cartridge :=
  if cartridge.isEepromAccessAddr addr = false then (0xFFFF,cartridge)
  else
    let (value,eeprom) := cartridge.eeprom.read16 cartridge.backup
    (value,{cartridge with eeprom := eeprom})

def eepromWriteBits (addr : UInt32) (bits : Bytes) (cartridge : Cartridge) : Cartridge :=
  if cartridge.isEepromAccessAddr addr = false then cartridge
  else
    let written := cartridge.eeprom.writeBits bits cartridge.backup
    {cartridge with
      eeprom := written.1
      backup := written.2
      size := (EepromState.length_writeBits _ _ _).trans cartridge.size}

def stepCycles (cycles : Nat) (cartridge : Cartridge) : Cartridge :=
  if cartridge.backupKind ≠ .eeprom then cartridge else {cartridge with eeprom := cartridge.eeprom.stepCycles cycles}

section State

def readFixedBits (count : Nat) : Reader Bytes := do
  let len ← readU8
  if count < len.toNat then Reader.fail "invalid GBA EEPROM bit count"
  else
    let stored ← readExact count
    if (stored.toList.take len.toNat).all (· ≤ 1) && (stored.toList.drop len.toNat).all (· = 0) then return stored.toList.take len.toNat
    else Reader.fail "invalid GBA EEPROM bit state"

def readFlash : Reader FlashState := do
  let tag ← readU8
  let command ← Reader.lift (FlashCommandState.fromTag tag)
  let idMode ← readBool
  let bank ← readU8
  return ⟨command,idMode,bank.toNat⟩

def readEeprom : Reader EepromState := do
  let commandBits ← readFixedBits maxEepromCommandBits
  let readBits ← readFixedBits maxEepromReadBits
  let readIndex ← readU8
  let busyCyclesRemaining ← readU32
  return ⟨commandBits,readBits,readIndex.toNat,busyCyclesRemaining⟩

def readBackupExecutionState (cartridge : Cartridge) : Reader Cartridge := do
  let tag ← readU8
  let kind ← Reader.lift (BackupKind.fromTag tag)
  if kind ≠ cartridge.backupKind then Reader.fail "GBA backup execution state does not match the cartridge"
  else
    let flash ← readFlash
    let eeprom ← readEeprom
    if ¬(eeprom.readIndex ≤ eeprom.readBits.length ∧ eeprom.busyCyclesRemaining ≤ eepromWriteBusyCycles) then
      Reader.fail "invalid GBA EEPROM execution state"
    else if ¬(flash.Fits cartridge.backupKind ∧ (cartridge.backupKind = .eeprom ∨ eeprom = .initial)) then
      Reader.fail "GBA backup execution state is incompatible with the cartridge"
    else return {cartridge with flash := flash, eeprom := eeprom}

def resetBackupExecutionState (cartridge : Cartridge) : Cartridge := {cartridge with flash := .initial, eeprom := .initial}

def loadBatteryData (bytes : Bytes) (cartridge : Cartridge) : Cartridge :=
  if long : bytes.length = cartridge.backup.length then {cartridge with backup := bytes, size := long.trans cartridge.size} else cartridge

end State

inductive BackupCall
  | backupWrite8 (addr : UInt32) (value : UInt8)
  | eepromWriteBits (addr : UInt32) (bits : Bytes)
  | eepromRead16 (addr : UInt32)
  | stepCycles (cycles : Nat)
  | loadBatteryData (bytes : Bytes)
  | readBackupExecutionState (input : Bytes)
  | resetBackupExecutionState

variable (mapComponent : UInt32 → UInt16)

def perform (cartridge : Cartridge) : BackupCall → Cartridge
  | .backupWrite8 addr value => cartridge.backupWrite8 mapComponent addr value
  | .eepromWriteBits addr bits => cartridge.eepromWriteBits addr bits
  | .eepromRead16 addr => (cartridge.eepromRead16 addr).2
  | .stepCycles cycles => cartridge.stepCycles cycles
  | .loadBatteryData bytes => cartridge.loadBatteryData bytes
  | .readBackupExecutionState input =>
    match cartridge.readBackupExecutionState input with
    | .ok (restored,_) => restored
    | .error _ => cartridge
  | .resetBackupExecutionState => cartridge.resetBackupExecutionState

def run (cartridge : Cartridge) (calls : List BackupCall) : Cartridge := calls.foldl (perform mapComponent) cartridge

end Cartridge

end ZeffBoy.Gba.Backup
