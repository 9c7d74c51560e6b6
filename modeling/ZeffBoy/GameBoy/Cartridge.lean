import ZeffBoy.GameBoy.Clocks
import ZeffBoy.GameBoy.Sensors

/-! The cartridge: one of the mappers, chosen by the header, behind the address bus and the host. -/
namespace ZeffBoy.GameBoy
open Library

inductive CartridgeType where
  | romOnly | mbc1 | mbc1Ram | mbc1RamBattery | mbc2 | mbc2Battery | romRam | romRamBattery
  | mmm01 | mmm01Ram | mmm01RamBattery
  | mbc3TimerBattery | mbc3TimerRamBattery | mbc3 | mbc3Ram | mbc3RamBattery
  | mbc5 | mbc5Ram | mbc5RamBattery | mbc5Rumble | mbc5RumbleRam | mbc5RumbleRamBattery
  | mbc6 | mbc7SensorRumbleRamBattery | pocketCamera | bandaiTama5 | huC3 | huC1RamBattery
  | unknown (byte : UInt8)

inductive Mapper where
  | romOnly | mbc1 | mbc2 | mbc3 | mbc5 | mbc7 | huC1 | huC3 | pocketCamera

namespace CartridgeType

/-- Cartridges the program does not support are tried as MBC1. -/
def mapper : CartridgeType → Mapper
  | .romOnly | .romRam | .romRamBattery => .romOnly
  | .mbc1 | .mbc1Ram | .mbc1RamBattery => .mbc1
  | .mbc2 | .mbc2Battery => .mbc2
  | .mbc3 | .mbc3Ram | .mbc3RamBattery | .mbc3TimerBattery | .mbc3TimerRamBattery => .mbc3
  | .mbc5 | .mbc5Ram | .mbc5RamBattery | .mbc5Rumble | .mbc5RumbleRam | .mbc5RumbleRamBattery => .mbc5
  | .mbc7SensorRumbleRamBattery => .mbc7
  | .pocketCamera => .pocketCamera
  | .huC1RamBattery => .huC1
  | .huC3 => .huC3
  | _ => .mbc1

def isMbc3WithRtc : CartridgeType → Bool
  | .mbc3TimerBattery | .mbc3TimerRamBattery => true
  | _ => false

def isMbc5WithRumble : CartridgeType → Bool
  | .mbc5Rumble | .mbc5RumbleRam | .mbc5RumbleRamBattery => true
  | _ => false

end CartridgeType

inductive RamSize where
  | none | unused | kb8 | kb32 | kb128 | kb64
  | unknown (byte : UInt8)

def RamSize.sizeBytes : RamSize → Nat
  | .none | .unused => 0
  | .kb8 => 8 * 1024
  | .kb32 => 32 * 1024
  | .kb128 => 128 * 1024
  | .kb64 => 64 * 1024
  | .unknown _ => 0

theorem RamSize.sizeBytes_le (size : RamSize) : size.sizeBytes ≤ maxSaveRam := by
  cases size with
  | unknown byte => exact Nat.zero_le _
  | none | unused | kb8 | kb32 | kb128 | kb64 => decide

structure RomHeader where
  cartridgeType : CartridgeType
  ramSize : RamSize

inductive Cartridge where
  | romOnly (c : RomOnly)
  | mbc1 (c : Mbc1)
  | mbc2 (c : Mbc2)
  | mbc3 (c : Mbc3)
  | mbc5 (c : Mbc5)
  | mbc7 (c : Mbc7)
  | huC1 (c : HuC1)
  | huC3 (c : HuC3)
  | pocketCamera (c : PocketCamera)

/-- What the address bus does with a cartridge; a clock on the cartridge may ask for the time. -/
inductive Access where
  | readRom (addr : UInt16)
  | writeRom (addr : UInt16) (value : UInt8)
  | readRam (addr : UInt16)
  | writeRam (addr : UInt16) (value : UInt8) (now : UInt64)

namespace Cartridge

def new (rom : Bytes) (header : RomHeader) (now : UInt64) : Cartridge :=
  let ramSize := header.ramSize.sizeBytes
  match header.cartridgeType.mapper with
  | .romOnly => .romOnly (RomOnly.new rom ramSize)
  | .mbc1 => .mbc1 (Mbc1.new rom ramSize)
  | .mbc2 => .mbc2 (Mbc2.new rom)
  | .mbc3 => .mbc3 (Mbc3.new rom ramSize header.cartridgeType.isMbc3WithRtc)
  | .mbc5 => .mbc5 (Mbc5.new rom ramSize header.cartridgeType.isMbc5WithRumble)
  | .mbc7 => .mbc7 (Mbc7.new rom)
  | .huC1 => .huC1 (HuC1.new rom ramSize)
  | .huC3 => .huC3 (HuC3.new rom ramSize now)
  | .pocketCamera => .pocketCamera (PocketCamera.new rom ramSize)

def readRom : Cartridge → UInt16 → UInt8
  | .romOnly c, addr => c.readRom addr
  | .mbc1 c, addr => c.readRom addr
  | .mbc2 c, addr => c.readRom addr
  | .mbc3 c, addr => c.readRom addr
  | .mbc5 c, addr => c.readRom addr
  | .mbc7 c, addr => c.readRom addr
  | .huC1 c, addr => c.readRom addr
  | .huC3 c, addr => c.readRom addr
  | .pocketCamera c, addr => c.readRom addr

def writeRom : Cartridge → UInt16 → UInt8 → Cartridge
  | .romOnly c, addr, value => .romOnly (c.writeRom addr value)
  | .mbc1 c, addr, value => .mbc1 (c.writeRom addr value)
  | .mbc2 c, addr, value => .mbc2 (c.writeRom addr value)
  | .mbc3 c, addr, value => .mbc3 (c.writeRom addr value)
  | .mbc5 c, addr, value => .mbc5 (c.writeRom addr value)
  | .mbc7 c, addr, value => .mbc7 (c.writeRom addr value)
  | .huC1 c, addr, value => .huC1 (c.writeRom addr value)
  | .huC3 c, addr, value => .huC3 (c.writeRom addr value)
  | .pocketCamera c, addr, value => .pocketCamera (c.writeRom addr value)

def readRam : Cartridge → UInt16 → UInt8
  | .romOnly c, addr => c.readRam addr
  | .mbc1 c, addr => c.readRam addr
  | .mbc2 c, addr => c.readRam addr
  | .mbc3 c, addr => c.readRam addr
  | .mbc5 c, addr => c.readRam addr
  | .mbc7 c, addr => c.readRam addr
  | .huC1 c, addr => c.readRam addr
  | .huC3 c, addr => c.readRam addr
  | .pocketCamera c, addr => c.readRam addr

def writeRam : Cartridge → UInt16 → UInt8 → UInt64 → Cartridge
  | .romOnly c, addr, value, _ => .romOnly (c.writeRam addr value)
  | .mbc1 c, addr, value, _ => .mbc1 (c.writeRam addr value)
  | .mbc2 c, addr, value, _ => .mbc2 (c.writeRam addr value)
  | .mbc3 c, addr, value, _ => .mbc3 (c.writeRam addr value)
  | .mbc5 c, addr, value, _ => .mbc5 (c.writeRam addr value)
  | .mbc7 c, addr, value, _ => .mbc7 (c.writeRam addr value)
  | .huC1 c, addr, value, _ => .huC1 (c.writeRam addr value)
  | .huC3 c, addr, value, now => .huC3 (c.writeRam addr value now)
  | .pocketCamera c, addr, value, _ => .pocketCamera (c.writeRam addr value)

def debugInfo : Cartridge → CartridgeDebugInfo
  | .romOnly c => c.debugInfo
  | .mbc1 c => c.debugInfo
  | .mbc2 c => c.debugInfo
  | .mbc3 c => c.debugInfo
  | .mbc5 c => c.debugInfo
  | .mbc7 c => c.debugInfo
  | .huC1 c => c.debugInfo
  | .huC3 c => c.debugInfo
  | .pocketCamera c => c.debugInfo

def access (self : Cartridge) : Access → Cartridge × Option UInt8
  | .readRom addr => (self,some (self.readRom addr))
  | .writeRom addr value => (self.writeRom addr value,none)
  | .readRam addr => (self,some (self.readRam addr))
  | .writeRam addr value now => (self.writeRam addr value now,none)

def run (self : Cartridge) (accesses : List Access) : Cartridge :=
  accesses.foldl (fun cartridge access => (cartridge.access access).1) self

def mapper : Cartridge → Mapper
  | .romOnly _ => .romOnly
  | .mbc1 _ => .mbc1
  | .mbc2 _ => .mbc2
  | .mbc3 _ => .mbc3
  | .mbc5 _ => .mbc5
  | .mbc7 _ => .mbc7
  | .huC1 _ => .huC1
  | .huC3 _ => .huC3
  | .pocketCamera _ => .pocketCamera

def SoundRegisters (rom : Bytes) (header : RomHeader) : Cartridge → Prop
  | .romOnly c => c.Sound rom header.ramSize.sizeBytes
  | .mbc1 c => c.Sound rom header.ramSize.sizeBytes
  | .mbc2 c => c.Sound rom
  | .mbc3 c => c.Sound rom header.ramSize.sizeBytes header.cartridgeType.isMbc3WithRtc
  | .mbc5 c => c.Sound rom header.ramSize.sizeBytes header.cartridgeType.isMbc5WithRumble
  | .mbc7 c => c.Sound rom
  | .huC1 c => c.Sound rom header.ramSize.sizeBytes
  | .huC3 c => c.Sound rom header.ramSize.sizeBytes
  | .pocketCamera c => c.Sound rom header.ramSize.sizeBytes

/-- The registers hold what a cartridge built from this ROM and this header can reach. -/
structure Sound (rom : Bytes) (header : RomHeader) (cartridge : Cartridge) : Prop where
  mapper : cartridge.mapper = header.cartridgeType.mapper
  registers : cartridge.SoundRegisters rom header

theorem sound_new (rom : Bytes) (header : RomHeader) (now : UInt64) : (new rom header now).Sound rom header := by
  constructor
  · unfold new
    cases header.cartridgeType.mapper <;> rfl
  · unfold new
    cases header.cartridgeType.mapper with
    | romOnly => exact RomOnly.sound_new rom _
    | mbc1 => exact Mbc1.sound_new rom _
    | mbc2 => exact Mbc2.sound_new rom
    | mbc3 => exact Mbc3.sound_new rom _ _
    | mbc5 => exact Mbc5.sound_new rom _ _
    | mbc7 => exact Mbc7.sound_new rom
    | huC1 => exact HuC1.sound_new rom _
    | huC3 => exact HuC3.sound_new rom _ now
    | pocketCamera => exact PocketCamera.sound_new rom _

variable {rom : Bytes} {header : RomHeader} {self : Cartridge}

theorem Sound.writeRom (sound : self.Sound rom header) (addr : UInt16) (value : UInt8) :
    (self.writeRom addr value).Sound rom header := by
  cases self with
  | romOnly c => exact ⟨sound.mapper,sound.registers⟩
  | mbc1 c => exact ⟨sound.mapper,Mbc1.Sound.writeRom sound.registers addr value⟩
  | mbc2 c => exact ⟨sound.mapper,Mbc2.Sound.writeRom sound.registers addr value⟩
  | mbc3 c => exact ⟨sound.mapper,Mbc3.Sound.writeRom sound.registers addr value⟩
  | mbc5 c => exact ⟨sound.mapper,Mbc5.Sound.writeRom sound.registers addr value⟩
  | mbc7 c => exact ⟨sound.mapper,Mbc7.Sound.writeRom sound.registers addr value⟩
  | huC1 c => exact ⟨sound.mapper,HuC1.Sound.writeRom sound.registers addr value⟩
  | huC3 c => exact ⟨sound.mapper,HuC3.Sound.writeRom sound.registers addr value⟩
  | pocketCamera c => exact ⟨sound.mapper,PocketCamera.Sound.writeRom sound.registers addr value⟩

theorem Sound.writeRam (sound : self.Sound rom header) (addr : UInt16) (value : UInt8) (now : UInt64) :
    (self.writeRam addr value now).Sound rom header := by
  cases self with
  | romOnly c => exact ⟨sound.mapper,RomOnly.Sound.writeRam sound.registers addr value⟩
  | mbc1 c => exact ⟨sound.mapper,Mbc1.Sound.writeRam sound.registers addr value⟩
  | mbc2 c => exact ⟨sound.mapper,Mbc2.Sound.writeRam sound.registers addr value⟩
  | mbc3 c => exact ⟨sound.mapper,Mbc3.Sound.writeRam sound.registers addr value⟩
  | mbc5 c => exact ⟨sound.mapper,Mbc5.Sound.writeRam sound.registers addr value⟩
  | mbc7 c => exact ⟨sound.mapper,Mbc7.Sound.writeRam sound.registers addr value⟩
  | huC1 c => exact ⟨sound.mapper,HuC1.Sound.writeRam sound.registers addr value⟩
  | huC3 c => exact ⟨sound.mapper,HuC3.Sound.writeRam sound.registers addr value now⟩
  | pocketCamera c => exact ⟨sound.mapper,PocketCamera.Sound.writeRam sound.registers addr value⟩

theorem Sound.access (sound : self.Sound rom header) (access : Access) : (self.access access).1.Sound rom header := by
  cases access with
  | readRom addr => exact sound
  | writeRom addr value => exact sound.writeRom addr value
  | readRam addr => exact sound
  | writeRam addr value now => exact sound.writeRam addr value now

theorem Sound.run (sound : self.Sound rom header) (accesses : List Access) : (self.run accesses).Sound rom header := by
  induction accesses generalizing self with
  | nil => exact sound
  | cons access accesses ih => exact ih (sound.access access)

end Cartridge

end ZeffBoy.GameBoy
