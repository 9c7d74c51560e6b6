import Mathlib

/-! The cartridge of a WonderSwan: its ROM behind three windows, and its save memory behind a bank or a serial interface.
The offsets of the linear window are computed where they are read; the table that caches them is rebuilt with every bank. -/
namespace ZeffBoy.WonderSwan

def romBankSize : Nat := 0x10000
def footerSize : Nat := 10
def defaultOpenBus : UInt8 := 0xFF
def addressMask : UInt32 := 0xFFFFF

def wordOf (low high : UInt8) : UInt16 := low.toUInt16 ||| high.toUInt16 <<< 8
def lowByte (word : UInt16) : UInt8 := word.toUInt8
def highByte (word : UInt16) : UInt8 := (word >>> 8).toUInt8

inductive MinimumSystem
  | wonderSwan
  | wonderSwanColor
  | unknown (byte : UInt8)
deriving DecidableEq

def MinimumSystem.fromByte (value : UInt8) : MinimumSystem :=
  if value = 0x00 then wonderSwan else if value = 0x01 then wonderSwanColor else unknown value

inductive SaveKind
  | none
  | sram32KId1
  | sram32K
  | sram128K
  | sram256K
  | sram512K
  | eeprom128
  | eeprom1K
  | eeprom2K
  | unknown (byte : UInt8)
deriving DecidableEq

namespace SaveKind

def fromByte (value : UInt8) : SaveKind :=
  match value.toNat with
  | 0x00 => none
  | 0x01 => sram32KId1
  | 0x02 => sram32K
  | 0x03 => sram128K
  | 0x04 => sram256K
  | 0x05 => sram512K
  | 0x10 => eeprom128
  | 0x20 => eeprom1K
  | 0x50 => eeprom2K
  | _ => unknown value

def size : SaveKind → Nat
  | none | unknown _ => 0
  | sram32KId1 | sram32K => 32 * 1024
  | sram128K => 128 * 1024
  | sram256K => 256 * 1024
  | sram512K => 512 * 1024
  | eeprom128 => 128
  | eeprom1K => 1024
  | eeprom2K => 2 * 1024

def isSram : SaveKind → Bool
  | sram32KId1 | sram32K | sram128K | sram256K | sram512K => true
  | _ => false

def isEeprom : SaveKind → Bool
  | eeprom128 | eeprom1K | eeprom2K => true
  | _ => false

end SaveKind

/-- The bytes of a ROM. -/
structure Rom where
  size : Nat
  byte : Nat → UInt8

def Rom.get? (rom : Rom) (offset : Nat) : Option UInt8 := if offset < rom.size then some (rom.byte offset) else none

structure Footer where
  minimumSystem : MinimumSystem
  saveKind : SaveKind
  rtcPresent : Bool

def Footer.parse (rom : Rom) : Except String Footer :=
  if rom.size < footerSize then .error "WonderSwan ROM is too small to contain a footer"
  else
    let base := rom.size - footerSize
    .ok ⟨.fromByte (rom.byte (base + 1)),.fromByte (rom.byte (base + 5)),rom.byte (base + 7) ≠ 0⟩

structure Cartridge where
  rom : Rom
  footer : Footer
  saveData : List UInt8
  bank0 : UInt16
  bank1 : UInt16
  ramBank : UInt8
  linearBank : UInt8

namespace Cartridge

def romBankCount (cartridge : Cartridge) : Nat := (cartridge.rom.size + romBankSize - 1) / romBankSize

def lastLinearBank (cartridge : Cartridge) : UInt8 :=
  if cartridge.romBankCount ≤ 16 then 0 else UInt8.ofNat (min ((cartridge.romBankCount - 1) >>> 4) 0x0F)

def resetBanks (cartridge : Cartridge) : Cartridge :=
  {cartridge with bank0 := 0xFF, bank1 := 0xFF, ramBank := 0, linearBank := cartridge.lastLinearBank}

def load (rom : Rom) : Except String Cartridge := do
  let footer ← Footer.parse rom
  .ok (resetBanks ⟨rom,footer,List.replicate footer.saveKind.size 0xFF,0,0,0,0⟩)

def setBank0 (cartridge : Cartridge) (value : UInt8) : Cartridge := {cartridge with bank0 := value.toUInt16}
def setBank1 (cartridge : Cartridge) (value : UInt8) : Cartridge := {cartridge with bank1 := value.toUInt16}
def setLinearBank (cartridge : Cartridge) (value : UInt8) : Cartridge := {cartridge with linearBank := value &&& 0x0F}
def setRamBank (cartridge : Cartridge) (value : UInt8) : Cartridge := {cartridge with ramBank := value}

def romBankOffset (cartridge : Cartridge) (bank : UInt16) (offset : Nat) : Nat :=
  bank.toNat % max cartridge.romBankCount 1 * romBankSize + offset

def linearRomOffset (cartridge : Cartridge) (offset : Nat) : Nat :=
  let bank := ((cartridge.linearBank &&& 0x0F).toNat <<< 4 ||| (4 + offset / romBankSize)) % max cartridge.romBankCount 1
  bank * romBankSize + offset % romBankSize

def saveRead8 (cartridge : Cartridge) (offset : Nat) : UInt8 :=
  if cartridge.footer.saveKind.isSram = false ∨ cartridge.saveData = [] then defaultOpenBus
  else cartridge.saveData.getD ((cartridge.ramBank.toNat * romBankSize + offset) % cartridge.saveData.length) 0

def saveWrite8 (cartridge : Cartridge) (offset : Nat) (value : UInt8) : Cartridge :=
  if cartridge.footer.saveKind.isSram = false ∨ cartridge.saveData = [] then cartridge
  else {cartridge with
    saveData := cartridge.saveData.set ((cartridge.ramBank.toNat * romBankSize + offset) % cartridge.saveData.length) value}

def romRead8 (cartridge : Cartridge) (addr : UInt32) : UInt8 :=
  let addr := (addr &&& addressMask).toNat
  if addr < 0x10000 then defaultOpenBus
  else if addr < 0x20000 then cartridge.saveRead8 (addr - 0x10000)
  else if addr < 0x30000 then (cartridge.rom.get? (cartridge.romBankOffset cartridge.bank0 (addr - 0x20000))).getD defaultOpenBus
  else if addr < 0x40000 then (cartridge.rom.get? (cartridge.romBankOffset cartridge.bank1 (addr - 0x30000))).getD defaultOpenBus
  else (cartridge.rom.get? (cartridge.linearRomOffset (addr - 0x40000))).getD defaultOpenBus

def romWrite8 (cartridge : Cartridge) (addr : UInt32) (value : UInt8) : Cartridge :=
  let addr := (addr &&& addressMask).toNat
  if 0x10000 ≤ addr ∧ addr < 0x20000 then cartridge.saveWrite8 (addr - 0x10000) value else cartridge

def eepromReadWord (cartridge : Cartridge) (wordAddr : Nat) : UInt16 :=
  if cartridge.footer.saveKind.isEeprom = false ∨ cartridge.saveData = [] then 0xFFFF
  else
    let byteAddr := wordAddr * 2 % cartridge.saveData.length
    wordOf (cartridge.saveData.getD byteAddr 0) (cartridge.saveData.getD ((byteAddr + 1) % cartridge.saveData.length) 0)

def eepromWriteWord (cartridge : Cartridge) (wordAddr : Nat) (value : UInt16) : Cartridge :=
  if cartridge.footer.saveKind.isEeprom = false ∨ cartridge.saveData = [] then cartridge
  else
    let byteAddr := wordAddr * 2 % cartridge.saveData.length
    {cartridge with
      saveData := (cartridge.saveData.set byteAddr (lowByte value)).set ((byteAddr + 1) % cartridge.saveData.length)
        (highByte value)}

-- A last odd byte is left alone.
def fillWords (value : UInt16) : List UInt8 → List UInt8
  | _::_::rest => lowByte value::highByte value::fillWords value rest
  | rest => rest

def eepromFillWords (cartridge : Cartridge) (value : UInt16) : Cartridge :=
  if cartridge.footer.saveKind.isEeprom = false then cartridge
  else {cartridge with saveData := fillWords value cartridge.saveData}

end Cartridge

inductive EepromCommand
  | read (address : Nat)
  | write (address : Nat)
  | erase (address : Nat)
  | writeDisable
  | writeAll
  | eraseAll
  | writeEnable
  | invalid

namespace EepromCommand

def addressBits : SaveKind → Option Nat
  | .eeprom128 => some 6
  | .eeprom1K => some 9
  | .eeprom2K => some 10
  | _ => none

def decodeAddressed (op address : Nat) : EepromCommand :=
  match op with
  | 1 => write address
  | 2 => read address
  | 3 => erase address
  | _ => invalid

def decodeShort (subOp : Nat) : EepromCommand :=
  match subOp with
  | 0 => writeDisable
  | 1 => writeAll
  | 2 => eraseAll
  | 3 => writeEnable
  | _ => invalid

/-- `decode_eeprom_command`. -/
def decode (saveKind : SaveKind) (command : UInt16) : EepromCommand :=
  match addressBits saveKind with
  | none => invalid
  | some bits =>
    if bits ≤ 6 then
      if command &&& 0xFF00 ≠ 0x0100 then invalid
      else
        let op := (command >>> 6 &&& 3).toNat
        if op ≠ 0 then decodeAddressed op (command &&& 0x3F).toNat else decodeShort (command >>> 4 &&& 3).toNat
    else if command &&& 0xF000 ≠ 0x1000 then invalid
    else
      let op := (command >>> 10 &&& 3).toNat
      if op ≠ 0 then decodeAddressed op (command.toNat % 2^bits) else decodeShort (command >>> 8 &&& 3).toNat

end EepromCommand

end ZeffBoy.WonderSwan
